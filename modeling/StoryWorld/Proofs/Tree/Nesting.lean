import StoryWorld.Proofs.Tree.Slices

/-!
# How the spans of a tree nest

Members are made of tokens one after the other (`ReadsMembers.successive`), and their tokens stand
between the opening brace of their container and its closing brace. So the spans of the members of
a container follow each other without overlap, inside the container's own span and behind its name
(`SourceTree.ofText_spans_nest`).
-/

namespace StoryWorld

open TreeGrammar

/-! ## Spans one after the other -/

/-- Whether spans are not empty and follow each other without overlap. -/
structure Span.Successive (ss : List Span) : Prop where
  nonempty : ∀ s ∈ ss, s.start < s.stop
  ordered : ss.Pairwise fun s s' => s.stop ≤ s'.start

namespace Span.Successive

variable {ss ss' : List Span}

theorem sublist (h : Successive ss') (hss : ss.Sublist ss') : Successive ss :=
  ⟨fun s hs => h.nonempty s (hss.subset hs), h.ordered.sublist hss⟩

theorem append_iff : Successive (ss ++ ss') ↔
    Successive ss ∧ Successive ss' ∧ ∀ s ∈ ss, ∀ s' ∈ ss', s.stop ≤ s'.start := by
  constructor
  · intro h
    refine ⟨h.sublist (List.sublist_append_left ..), h.sublist (List.sublist_append_right ..), ?_⟩
    exact (List.pairwise_append.1 h.ordered).2.2
  · rintro ⟨h, h', hcross⟩
    exact ⟨List.forall_mem_append.2 ⟨h.nonempty, h'.nonempty⟩,
      List.pairwise_append.2 ⟨h.ordered, h'.ordered, hcross⟩⟩

end Span.Successive

/-- Whether tokens follow each other without overlap. -/
def Lexeme.Successive (ls : List Lexeme) : Prop := Span.Successive (ls.map (·.span))

open Lexeme (Successive)

namespace Lexeme.Successive

variable {ls ms : List Lexeme}

theorem of_isInfix (h : Successive ls) (hms : ms <:+: ls) : Successive ms :=
  h.sublist (hms.sublist.map _)

theorem append_iff : Successive (ls ++ ms) ↔
    Successive ls ∧ Successive ms ∧ ∀ l ∈ ls, ∀ m ∈ ms, l.span.stop ≤ m.span.start := by
  simp [Successive, Span.Successive.append_iff]

end Lexeme.Successive

theorem Lexing.successive_lexemes (text : String) : Successive (ofText text).lexemes := by
  obtain ⟨stop, h⟩ := exists_partition text
  exact ⟨List.forall_mem_map.2 h.nonempty, List.pairwise_map.2 h.ordered⟩

namespace Stretch

variable {ls ms : List Lexeme} {s s' : Span}

theorem exists_start (h : Stretch ls s) : ∃ l ∈ ls, s.start = l.span.start := by
  cases h with
  | one hl => exact ⟨_, hl, rfl⟩
  | more hls => exact ⟨_, hls.subset List.mem_cons_self, rfl⟩

theorem exists_stop (h : Stretch ls s) : ∃ l ∈ ls, s.stop = l.span.stop := by
  cases h with
  | one hl => exact ⟨_, hl, rfl⟩
  | more hls => exact ⟨_, hls.subset (List.mem_cons_of_mem _ List.mem_cons_self), rfl⟩

theorem start_lt_stop (h : Stretch ls s) (hls : Successive ls) : s.start < s.stop := by
  cases h with
  | one hl => exact hls.nonempty _ (List.mem_map_of_mem hl)
  | @more l l' hpair =>
    have hboth := hls.sublist (hpair.map (·.span))
    have hl := hboth.nonempty l.span List.mem_cons_self
    have hl' := hboth.nonempty l'.span (List.mem_cons_of_mem _ List.mem_cons_self)
    have hordered : l.span.stop ≤ l'.span.start := by simpa using hboth.ordered
    simp only [Span.through]
    omega

theorem stop_le_start (h : Stretch ls s) (h' : Stretch ms s') (hls : Successive (ls ++ ms)) :
    s.stop ≤ s'.start := by
  obtain ⟨l, hl, hstop⟩ := h.exists_stop
  obtain ⟨l', hl', hstart⟩ := h'.exists_start
  rw [hstop, hstart]
  exact (Lexeme.Successive.append_iff.1 hls).2.2 l hl l' hl'

/-- Stretches of tokens follow each other as the tokens do. -/
theorem successive_concat {ss : List Span} (hss : Span.Successive ss) (hls : ∀ s ∈ ss, Stretch ls s)
    (h' : Stretch ms s') (h : Successive (ls ++ ms)) : Span.Successive (ss ++ [s']) := by
  have hms : Successive ms := h.of_isInfix (List.suffix_append ..).isInfix
  rw [Span.Successive.append_iff]
  refine ⟨hss, ⟨?_, List.pairwise_singleton ..⟩, fun s hs => ?_⟩
  · exact List.forall_mem_singleton.2 (h'.start_lt_stop hms)
  · exact List.forall_mem_singleton.2 ((hls s hs).stop_le_start h' h)

end Stretch

/-! ## Members and containers -/

/-- Whether the part of a text in a span is cut into given tokens and one more, which it ends
with. -/
def Span.EndsWith (s : Span) (text : String) (ts : List Token) (last : Token) : Prop :=
  ∃ ls l, lex (s.slice text) = .ok (ls ++ [l]) ∧ ls.map (·.token) = ts ∧ l.token = last ∧
    l.span.stop = (s.slice text).utf8ByteSize

/-- What the part of a text that a member stands in consists of: a container ends with its closing
brace, and any other member with the comma behind its fragments. -/
def Member.Ends (text : String) : Member → Prop
  | container _ _ span _ => ∃ ts, IsObject (ts ++ [.closeBrace]) ∧ span.EndsWith text ts .closeBrace
  | assignment _ _ span | item _ span =>
    ∃ ts, (∀ t ∈ ts, t.IsFragment) ∧ span.EndsWith text ts .comma

/-- How the spans of a container and of its members lie in each other and in a text. -/
structure Container.Nests (c : Container) (text : String) : Prop where
  name_start : c.nameSpan.start = c.span.start
  name_stop : c.nameSpan.stop ≤ c.span.stop
  members : Span.Successive (c.members.map (·.span))
  inside : ∀ m ∈ c.members, c.nameSpan.stop ≤ m.span.start ∧ m.span.stop ≤ c.span.stop
  ends : (Member.ofContainer c).Ends text
  members_end : ∀ m ∈ c.members, m.Ends text

theorem Lexing.endsWith_of_covers {text : String} {s : Span} (ls : List Lexeme) (l : Lexeme)
    (hls : ls ++ [l] <:+: (ofText text).lexemes) (hs : s.Covers (ls ++ [l])) :
    s.EndsWith text (ls.map (·.token)) l.token := by
  obtain ⟨ms, hslice, hmoved, hstop⟩ := ofText_slice hls hs
  obtain ⟨init, last, rfl, rfl, hlast⟩ := List.map_eq_append_iff.1 hmoved.symm
  obtain ⟨l', rfl, rfl⟩ := List.map_eq_singleton_iff.1 hlast
  refine ⟨init, l', lex_eq_ok_iff.2 (by simp [hslice]), ?_, rfl, ?_⟩
  · simp [Lexeme.mapSpan, Function.comp_def]
  · have hlast : s.stop = l'.span.stop + s.start := hs.stop_eq
    omega

namespace TreeGrammar

theorem ReadsMembers.stretch_of_mem (h : ReadsMembers ls members) (hm : m ∈ members) :
    Stretch ls m.span :=
  h.stretch _ (List.mem_flatMap.2 ⟨m, hm, m.span_mem_spans⟩)

theorem ReadsMembers.successive :
    ReadsMembers ls members → Successive ls → Span.Successive (members.map (·.span))
  | .nil, _ => ⟨by simp, .nil⟩
  | .snoc hinit hlast, h => by
    rw [List.map_append, List.map_singleton]
    refine Stretch.successive_concat ?_ ?_ (hlast.stretch _ (Member.span_mem_spans _)) h
    · exact hinit.successive (h.of_isInfix (List.prefix_append ..).isInfix)
    · exact List.forall_mem_map.2 fun m hm => hinit.stretch_of_mem hm

theorem ReadsObjects.successive (hreads : ReadsObjects ls objects) (h : Successive ls) :
    Span.Successive (objects.map (·.span)) := by
  induction hreads with
  | nil => exact ⟨by simp, .nil⟩
  | snoc hinit hlast ih =>
    rw [List.map_append, List.map_singleton]
    refine Stretch.successive_concat ?_ ?_ (hlast.stretch _ (Container.span_mem_spans _)) h
    · exact ih (h.of_isInfix (List.prefix_append ..).isInfix)
    · refine List.forall_mem_map.2 fun c hc => ?_
      exact hinit.stretch _ (List.mem_flatMap.2 ⟨c, hc, c.span_mem_spans⟩)

theorem ReadsObject.ends (h : ReadsObject ls c) (hls : ls <:+: (Lexing.ofText text).lexemes) :
    (Member.ofContainer c).Ends text := by
  have hobject := h.isObject
  have hcovers := h.covers
  cases h with
  | @braces body members name opening closing hname hopening hbody hclosing =>
    have hends := Lexing.endsWith_of_covers (name :: opening :: body) closing hls hcovers
    rw [hclosing] at hends
    refine ⟨_, ?_, hends⟩
    simpa [hclosing] using hobject

theorem ReadsMember.ends (h : ReadsMember ls m) (hls : ls <:+: (Lexing.ofText text).lexemes) :
    m.Ends text := by
  cases h with
  | container hobject hcomma => exact hobject.ends ((List.prefix_append ..).isInfix.trans hls)
  | @assignment value key equals comma hkey hequals hvalue hcomma =>
    have hends := Lexing.endsWith_of_covers (key :: equals :: value) comma hls (.firstToLast ..)
    rw [hcomma] at hends
    have hfragment : equals.token.IsFragment := hequals ▸ Token.isFragment_equals
    refine ⟨_, List.forall_mem_map.2 ?_, hends⟩
    exact List.forall_mem_cons.2 ⟨hkey, List.forall_mem_cons.2 ⟨hfragment, hvalue⟩⟩
  | @item rest head comma hhead _ hrest hcomma =>
    have hends := Lexing.endsWith_of_covers (head :: rest) comma hls (.firstToLast ..)
    rw [hcomma] at hends
    exact ⟨_, List.forall_mem_map.2 (List.forall_mem_cons.2 ⟨hhead, hrest⟩), hends⟩

theorem ReadsMembers.ends : ReadsMembers ls members → ls <:+: (Lexing.ofText text).lexemes →
    ∀ m ∈ members, m.Ends text
  | .nil, _ => by simp
  | .snoc hinit hlast, hls => by
    rw [List.forall_mem_append, List.forall_mem_singleton]
    exact ⟨hinit.ends ((List.prefix_append ..).isInfix.trans hls),
      hlast.ends ((List.suffix_append ..).isInfix.trans hls)⟩

theorem ReadsObject.nests (h : ReadsObject ls c) (hls : ls <:+: (Lexing.ofText text).lexemes) :
    c.Nests text := by
  have hsuccessive := (Lexing.successive_lexemes text).of_isInfix hls
  have hends := h.ends hls
  cases h with
  | @braces body members name opening closing hname hopening hbody hclosing =>
    have hbody' : body <:+: name :: opening :: (body ++ [closing]) := ⟨[_, _], [_], rfl⟩
    have hopened : name :: opening :: body <:+: name :: opening :: (body ++ [closing]) :=
      ⟨[], [_], rfl⟩
    have hclose : closing.span.start < closing.span.stop := hsuccessive.nonempty _ (by simp)
    have hbefore {s : Span} (hs : Stretch (name :: opening :: body) s) :
        s.stop ≤ closing.span.stop :=
      (hs.stop_le_start (.one List.mem_cons_self) hsuccessive).trans hclose.le
    refine
      { name_start := rfl
        name_stop := hbefore (.one List.mem_cons_self)
        members := hbody.successive (hsuccessive.of_isInfix hbody')
        inside := fun m hm => ⟨?_, ?_⟩
        ends := hends
        members_end := hbody.ends (hbody'.trans hls) }
    · have hname : Stretch [name, opening] name.span := .one List.mem_cons_self
      exact hname.stop_le_start (hbody.stretch_of_mem hm) (hsuccessive.of_isInfix hopened)
    · exact hbefore ((hbody.stretch_of_mem hm).mono (List.sublist_append_right [_, _] body))

end TreeGrammar

namespace SourceTree

/-- The spans of the objects of a tree follow each other without overlap. In every container, at any
depth, so do those of the members, behind the name that the container's span starts with and before
that span ends; it ends with the closing brace, and the spans of members that are no containers with
their commas. -/
theorem ofText_spans_nest {text : String} {t : SourceTree} (h : ofText text = .ok t) :
    Span.Successive (t.objects.map (·.span)) ∧ ∀ c ∈ t.containers, c.Nests text := by
  constructor
  · have hreads := ofLexemes_eq_ok_iff_reads.1 (ofText_eq_ok_iff.1 h).2
    exact hreads.successive (Lexing.successive_lexemes text)
  · intro c hc
    obtain ⟨ms, hms, hreads⟩ := holdsObject_of_mem h hc
    exact hreads.nests hms

theorem ofText_spans_nest_exits : ofText wayInn = .ok wayInnTree ∧
    Span.Successive [⟨3, 43⟩, ⟨44, 50⟩] ∧ wayInnExits ∈ wayInnTree.containers ∧
    wayInnExits.Nests wayInn := by
  obtain ⟨hobjects, hnest⟩ := ofText_spans_nest ofText_wayInn
  have hexits := hnest wayInnExits wayInnExits_mem_containers
  exact ⟨ofText_wayInn, hobjects, wayInnExits_mem_containers, hexits⟩

end SourceTree

end StoryWorld
