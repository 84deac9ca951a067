import StoryWorld.Proofs.Token.Ranges
import StoryWorld.Proofs.Tree.Reading

/-!
# The spans of a tree

Every span in a tree that is read is that of a token or a stretch from a token to a later one
(`SourceTree.stretch_of_mem_spans`), and a reader that fails points at a token, or at the end of the
last one. So all of them are ranges of the text that is read.
-/

namespace StoryWorld

open TreeGrammar

mutual
/-- The spans in a member: its own and those of names and members in it. -/
def Member.spans : Member → List Span
  | container _ members span nameSpan => span :: nameSpan :: allSpans members
  | assignment _ _ span => [span]
  | item _ span => [span]

def Member.allSpans : List Member → List Span
  | [] => []
  | m :: ms => m.spans ++ allSpans ms
end

/-- The spans in a container. -/
def Container.spans (c : Container) : List Span := (Member.ofContainer c).spans

/-- The spans in a tree. -/
def SourceTree.spans (t : SourceTree) : List Span := t.objects.flatMap (·.spans)

theorem Member.allSpans_eq_flatMap (ms : List Member) : allSpans ms = ms.flatMap (·.spans) := by
  induction ms with
  | nil => rfl
  | cons m ms ih => rw [allSpans, ih, List.flatMap_cons]

theorem Container.spans_eq (c : Container) :
    c.spans = c.span :: c.nameSpan :: c.members.flatMap (·.spans) := by
  rw [spans, Member.ofContainer, Member.spans, Member.allSpans_eq_flatMap]

theorem Container.nameSpan_mem_spans (c : Container) : c.nameSpan ∈ c.spans := by
  rw [spans_eq]
  exact List.mem_cons_of_mem _ List.mem_cons_self

theorem Container.span_mem_spans (c : Container) : c.span ∈ c.spans := by
  rw [spans_eq]
  exact List.mem_cons_self

theorem Member.span_mem_spans (m : Member) : m.span ∈ m.spans := by
  cases m with
  | container | assignment | item => exact List.mem_cons_self

/-! ## What is read -/

namespace TreeGrammar

mutual
theorem ReadsObject.stretch : ReadsObject ls c → ∀ s ∈ c.spans, Stretch ls s
  | .braces _ _ hbody _ => by
    rw [Container.spans_eq]
    refine List.forall_mem_cons.2 ⟨?_, List.forall_mem_cons.2 ⟨?_, fun s hs => ?_⟩⟩
    · exact .firstToLast _ _ (_ :: _)
    · exact .one List.mem_cons_self
    · exact (hbody.stretch s hs).mono (((List.sublist_append_left ..).cons _).cons _)

theorem ReadsMember.stretch : ReadsMember ls m → ∀ s ∈ m.spans, Stretch ls s
  | .container hobject _ => by
    intro s hs
    exact (hobject.stretch s hs).mono (List.sublist_append_left ..)
  | .assignment .. => by
    rw [Member.spans, List.forall_mem_singleton]
    exact .firstToLast _ _ (_ :: _)
  | .item .. => by
    rw [Member.spans, List.forall_mem_singleton]
    exact .firstToLast ..

theorem ReadsMembers.stretch :
    ReadsMembers ls members → ∀ s ∈ members.flatMap (·.spans), Stretch ls s
  | .nil => by simp
  | .snoc hinit hlast => by
    rw [List.flatMap_append, List.flatMap_singleton, List.forall_mem_append]
    constructor
    · intro s hs
      exact (hinit.stretch s hs).mono (List.sublist_append_left ..)
    · intro s hs
      exact (hlast.stretch s hs).mono (List.sublist_append_right ..)
end

theorem ReadsObjects.stretch (h : ReadsObjects ls objects) :
    ∀ s ∈ objects.flatMap (·.spans), Stretch ls s := by
  induction h with
  | nil => simp
  | snoc _ hlast ih =>
    rw [List.flatMap_append, List.flatMap_singleton, List.forall_mem_append]
    constructor
    · intro s hs
      exact (ih s hs).mono (List.sublist_append_left ..)
    · intro s hs
      exact (hlast.stretch s hs).mono (List.sublist_append_right ..)

end TreeGrammar

/-! ## What is refused -/

theorem TreeState.exists_mem_of_run_eq_error {s : TreeState} {ls : List Lexeme} {e : Unexpected}
    (h : s.run ls = .error e) : ∃ l ∈ ls, e.span = l.span := by
  induction ls generalizing s with
  | nil => cases h
  | cons l ls ih =>
    simp only [run] at h
    split at h
    · obtain ⟨l', hl', hspan⟩ := ih h
      exact ⟨l', List.mem_cons_of_mem _ hl', hspan⟩
    · cases h
      exact ⟨l, List.mem_cons_self, rfl⟩

namespace SourceTree

theorem stretch_of_mem_spans {ls : List Lexeme} {t : SourceTree} (h : ofLexemes ls = .ok t)
    {s : Span} (hs : s ∈ t.spans) : Stretch ls s :=
  (ofLexemes_eq_ok_iff_reads.1 h).stretch s hs

theorem ofText_eq_error_iff {text : String} {e : SyntaxError} :
    ofText text = .error e ↔
      (∃ fault, e = .lex fault ∧ (Lexing.ofText text).error = some fault) ∨
        ∃ fault, e = .parse fault ∧ (Lexing.ofText text).error = none ∧
          ofLexemes (Lexing.ofText text).lexemes = .error fault := by
  unfold ofText ofLexing Lexing.result
  cases (Lexing.ofText text).error with
  | some fault => simp [eq_comm]
  | none =>
    dsimp only
    cases ofLexemes (Lexing.ofText text).lexemes <;> simp [eq_comm]

/-- The reader fails at a token, or behind the last one, if there is one. -/
theorem span_of_ofLexemes_eq_error {ls : List Lexeme} {e : Unexpected}
    (h : ofLexemes ls = .error e) :
    (∃ l ∈ ls, e.span = l.span) ∨ (∃ l ∈ ls, e.span = .point l.span.stop) ∨ e.span = .point 0 := by
  unfold ofLexemes at h
  split at h
  · next hrun =>
    cases h
    exact .inl (TreeState.exists_mem_of_run_eq_error hrun)
  · next s hrun =>
    have hspan : e.span = .point ((ls.getLast?.map (·.span.stop)).getD 0) := by
      cases s with
      | top => cases h
      | named | inside =>
        cases h
        rfl
    cases hlast : ls.getLast? with
    | none =>
      rw [hlast] at hspan
      exact .inr (.inr hspan)
    | some l =>
      rw [hlast] at hspan
      exact .inr (.inl ⟨l, List.mem_of_getLast? hlast, hspan⟩)

variable {text : String}

theorem inText_of_mem_spans {t : SourceTree} (h : ofText text = .ok t) {s : Span}
    (hs : s ∈ t.spans) : s.InText text :=
  (stretch_of_mem_spans (ofText_eq_ok_iff.1 h).2 hs).inText

theorem inText_of_ofLexemes_eq_error {e : Unexpected}
    (h : ofLexemes (Lexing.ofText text).lexemes = .error e) : e.span.InText text := by
  rcases span_of_ofLexemes_eq_error h with ⟨l, hl, hspan⟩ | ⟨l, hl, hspan⟩ | hspan
  · rw [hspan]
    exact Lexing.inText_of_mem hl
  · rw [hspan]
    exact (Lexing.inText_of_mem hl).point_stop
  · rw [hspan]
    exact .point_zero text

end SourceTree

end StoryWorld
