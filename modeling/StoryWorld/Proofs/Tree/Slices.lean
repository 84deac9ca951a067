import StoryWorld.Proofs.Token.Slices
import StoryWorld.Proofs.Tree.Spans

/-!
# Containers and their sources

Each container in a tree is made of the tokens from its name to its closing brace, which stand next
to each other in the text (`SourceTree.holdsObject_of_mem`). So what its span takes up of the text
is a text of its own, with that container for a tree (`SourceTree.ofText_slice_of_mem`).
-/

namespace StoryWorld

open TreeGrammar

mutual
/-- The containers in a member at any depth, itself among them if it is one. -/
def Member.containers : Member → List Container
  | container name members span nameSpan =>
    ⟨name, members, span, nameSpan⟩ :: allContainers members
  | assignment .. => []
  | item .. => []

def Member.allContainers : List Member → List Container
  | [] => []
  | m :: ms => m.containers ++ allContainers ms
end

/-- A container and those in it at any depth. -/
def Container.containers (c : Container) : List Container := (Member.ofContainer c).containers

/-- The containers in a tree at any depth. -/
def SourceTree.containers (t : SourceTree) : List Container := t.objects.flatMap (·.containers)

theorem Member.allContainers_eq_flatMap (ms : List Member) :
    allContainers ms = ms.flatMap (·.containers) := by
  induction ms with
  | nil => rfl
  | cons m ms ih => rw [allContainers, ih, List.flatMap_cons]

theorem Container.containers_eq (c : Container) :
    c.containers = c :: c.members.flatMap (·.containers) := by
  rw [containers, Member.ofContainer, Member.containers, Member.allContainers_eq_flatMap]

namespace TreeGrammar

theorem ReadsObject.covers (h : ReadsObject ls c) : c.span.Covers ls := by
  cases h with
  | braces => exact .firstToLast _ _ (_ :: _)

/-- Whether some of the given lexemes, next to each other, make a container. -/
def HoldsObject (ls : List Lexeme) (c : Container) : Prop := ∃ ms, ms <:+: ls ∧ ReadsObject ms c

theorem ReadsObject.holdsObject (h : ReadsObject ls c) : HoldsObject ls c :=
  ⟨ls, List.infix_rfl, h⟩

theorem HoldsObject.mono (h : HoldsObject ls c) (hls : ls <:+: ls') : HoldsObject ls' c := by
  obtain ⟨ms, hms, hc⟩ := h
  exact ⟨ms, hms.trans hls, hc⟩

mutual
theorem ReadsObject.holds_containers : ReadsObject ls c → ∀ d ∈ c.containers, HoldsObject ls d
  | .braces hname hopening hbody hclosing => by
    rw [Container.containers_eq]
    refine List.forall_mem_cons.2 ⟨?_, fun d hd => ?_⟩
    · exact (ReadsObject.braces hname hopening hbody hclosing).holdsObject
    · exact (hbody.holds_containers d hd).mono ⟨[_, _], [_], rfl⟩

theorem ReadsMember.holds_containers : ReadsMember ls m → ∀ d ∈ m.containers, HoldsObject ls d
  | .container hobject _ => by
    intro d hd
    exact (hobject.holds_containers d hd).mono (List.prefix_append ..).isInfix
  | .assignment .. => by simp [Member.containers]
  | .item .. => by simp [Member.containers]

theorem ReadsMembers.holds_containers :
    ReadsMembers ls members → ∀ d ∈ members.flatMap (·.containers), HoldsObject ls d
  | .nil => by simp
  | .snoc hinit hlast => by
    rw [List.flatMap_append, List.flatMap_singleton, List.forall_mem_append]
    constructor
    · intro d hd
      exact (hinit.holds_containers d hd).mono (List.prefix_append ..).isInfix
    · intro d hd
      exact (hlast.holds_containers d hd).mono (List.suffix_append ..).isInfix
end

theorem ReadsObjects.holds_containers (h : ReadsObjects ls objects) :
    ∀ d ∈ objects.flatMap (·.containers), HoldsObject ls d := by
  induction h with
  | nil => simp
  | snoc _ hlast ih =>
    rw [List.flatMap_append, List.flatMap_singleton, List.forall_mem_append]
    constructor
    · intro d hd
      exact (ih d hd).mono (List.prefix_append ..).isInfix
    · intro d hd
      exact (hlast.holds_containers d hd).mono (List.suffix_append ..).isInfix

end TreeGrammar

namespace SourceTree

variable {text : String} {t : SourceTree} {c : Container}

theorem holdsObject_of_mem (h : ofText text = .ok t) (hc : c ∈ t.containers) :
    HoldsObject (Lexing.ofText text).lexemes c :=
  (ofLexemes_eq_ok_iff_reads.1 (ofText_eq_ok_iff.1 h).2).holds_containers c hc

/-- The span of a container is a range of the text, and what it takes up is a text whose tree is
that container alone, with all spans in it moved left by where it starts. No span in it starts
before, so that moving them right again gives the container back. -/
theorem ofText_slice_of_mem (h : ofText text = .ok t) (hc : c ∈ t.containers) :
    c.span.InText text ∧
      ofText (c.span.slice text) = .ok ⟨[c.mapSpans (· - c.span.start)]⟩ ∧
      (c.mapSpans (· - c.span.start)).mapSpans (· + c.span.start) = c := by
  obtain ⟨ms, hms, hreads⟩ := holdsObject_of_mem h hc
  obtain ⟨ls, hslice, rfl, -⟩ := Lexing.ofText_slice hms hreads.covers
  have hright : ofLexemes (ls.map (·.mapSpan (· + c.span.start))) = .ok ⟨[c]⟩ :=
    ofLexemes_eq_ok_iff_reads.2 (.snoc .nil hreads)
  have hleft := ofLexemes_mapSpans_of_ok hright (· - c.span.start)
  have hback : (ls.map (·.mapSpan (· + c.span.start))).map (·.mapSpan (· - c.span.start)) = ls := by
    simp [Lexeme.mapSpan, Span.map, Function.comp_def]
  rw [hback] at hleft
  refine ⟨((hreads.stretch _ c.span_mem_spans).mono hms.sublist).inText, ?_, ?_⟩
  · rw [ofText_eq_ok_iff, hslice]
    exact ⟨rfl, hleft⟩
  · have hagain := ofLexemes_mapSpans_of_ok hleft (· + c.span.start)
    rw [hright] at hagain
    simpa [mapSpans] using hagain.symm

/-- The exits of an inn, as they stand in its source. -/
def wayInnExits : Container :=
  ⟨"EXITS", [.assignment "out" "é" ⟨24, 33⟩, .assignment "in" "Inn" ⟨33, 40⟩], ⟨18, 41⟩, ⟨18, 23⟩⟩

/-- An inn with a quoted text of two lines and comments that hold braces, and its yard. -/
def wayInn : String :=
  "#\x7b\nInn\x7b\"a\n#b\",#c\x7d\nEXITS\x7bout=\"é\",in=Inn,\x7d,\x7d\nYard\x7b\x7d"

/-- The tree of the inn. -/
def wayInnTree : SourceTree :=
  ⟨[⟨"Inn", [.item "a\n#b" ⟨7, 14⟩, .ofContainer wayInnExits], ⟨3, 43⟩, ⟨3, 6⟩⟩,
    ⟨"Yard", [], ⟨44, 50⟩, ⟨44, 48⟩⟩]⟩

theorem ofText_wayInn : ofText wayInn = .ok wayInnTree := by rfl

theorem wayInnExits_mem_containers : wayInnExits ∈ wayInnTree.containers := by
  simp [wayInnTree, containers, Container.containers_eq, Member.containers, Member.ofContainer,
    wayInnExits]

theorem ofText_slice_of_mem_exits : ofText wayInn = .ok wayInnTree ∧
    wayInnExits ∈ wayInnTree.containers ∧
    wayInnExits.span.slice wayInn = "EXITS\x7bout=\"é\",in=Inn,\x7d" ∧
    ofText (wayInnExits.span.slice wayInn) = .ok ⟨[wayInnExits.mapSpans (· - 18)]⟩ := by
  have hslice := ofText_slice_of_mem ofText_wayInn wayInnExits_mem_containers
  exact ⟨ofText_wayInn, wayInnExits_mem_containers, by decide +kernel, hslice.2.1⟩

end SourceTree

end StoryWorld
