import StoryWorld.Proofs.Tree.Steps

/-! Trees do not depend on where their tokens stand. Moving the bytes of all spans by one function
commutes with every step of the reader (`TreeState.step?_mapSpans`), hence with reading as a whole
(`SourceTree.ofLexemes_mapSpans`). Moving every byte to 0 forgets the spans, and two trees have the
same shape exactly when they become equal by it. -/

namespace StoryWorld

/-! ## Moving spans -/

def Span.map (f : Nat → Nat) (s : Span) : Span := ⟨f s.start, f s.stop⟩

def Lexeme.mapSpan (f : Nat → Nat) (l : Lexeme) : Lexeme := ⟨l.token, l.span.map f⟩

def Unexpected.mapSpan (f : Nat → Nat) (e : Unexpected) : Unexpected :=
  { e with span := e.span.map f }

mutual
/-- The member with all spans in it moved. -/
def Member.mapSpans (f : Nat → Nat) : Member → Member
  | container name members span nameSpan =>
    container name (allMapSpans f members) (span.map f) (nameSpan.map f)
  | assignment key value span => assignment key value (span.map f)
  | item text span => item text (span.map f)

def Member.allMapSpans (f : Nat → Nat) : List Member → List Member
  | [] => []
  | m :: ms => m.mapSpans f :: allMapSpans f ms
end

def Container.mapSpans (f : Nat → Nat) (c : Container) : Container :=
  ⟨c.name, Member.allMapSpans f c.members, c.span.map f, c.nameSpan.map f⟩

def SourceTree.mapSpans (f : Nat → Nat) (t : SourceTree) : SourceTree :=
  ⟨t.objects.map (·.mapSpans f)⟩

def OpenContainer.mapSpans (f : Nat → Nat) (c : OpenContainer) : OpenContainer :=
  ⟨c.name, c.nameSpan.map f, Member.allMapSpans f c.members⟩

def MemberState.mapSpans (f : Nat → Nat) : MemberState → MemberState
  | start => start
  | headed text first => headed text (first.map f)
  | item text first => item text (first.map f)
  | value key text first => value key text (first.map f)
  | closed => closed

def TreeState.mapSpans (f : Nat → Nat) : TreeState → TreeState
  | top objects => top (objects.map (·.mapSpans f))
  | named objects name nameSpan =>
    named (objects.map (·.mapSpans f)) name (nameSpan.map f)
  | inside objects inner outer member =>
    inside (objects.map (·.mapSpans f)) (inner.mapSpans f) (outer.map (·.mapSpans f))
      (member.mapSpans f)

theorem Member.allMapSpans_eq_map (f : Nat → Nat) (ms : List Member) :
    allMapSpans f ms = ms.map (·.mapSpans f) := by
  induction ms with
  | nil => rfl
  | cons m ms ih => rw [allMapSpans, ih, List.map_cons]

theorem Member.allMapSpans_append (f : Nat → Nat) (ms ms' : List Member) :
    allMapSpans f (ms ++ ms') = allMapSpans f ms ++ allMapSpans f ms' := by
  simp [allMapSpans_eq_map]

theorem Member.mapSpans_ofContainer (f : Nat → Nat) (c : Container) :
    (ofContainer c).mapSpans f = ofContainer (c.mapSpans f) := by
  rw [ofContainer, mapSpans]; rfl

/-! ## Reading -/

namespace TreeState

theorem mapSpans_add (f : Nat → Nat) (c : OpenContainer) (m : Member) :
    (c.add m).mapSpans f = (c.mapSpans f).add (m.mapSpans f) := by
  simp [OpenContainer.add, OpenContainer.mapSpans, Member.allMapSpans_append, Member.allMapSpans]

theorem expected_mapSpans (f : Nat → Nat) (s : TreeState) :
    (s.mapSpans f).expected = s.expected := by
  cases s with
  | top | named => rfl
  | inside _ _ _ member => cases member <;> rfl

theorem close_mapSpans (f : Nat → Nat) (objects : List Container) (inner : OpenContainer)
    (outer : List OpenContainer) (last : Span) :
    close (objects.map (·.mapSpans f)) (inner.mapSpans f) (outer.map (·.mapSpans f)) (last.map f) =
      (close objects inner outer last).mapSpans f := by
  cases outer with
  | nil => simp [close, mapSpans, OpenContainer.close, OpenContainer.mapSpans, Container.mapSpans,
      Span.through, Span.map]
  | cons next outer =>
    simp only [close, List.map_cons, mapSpans, mapSpans_add, Member.mapSpans_ofContainer]
    rfl

private theorem add_item (f : Nat → Nat) (inner : OpenContainer) (text : String)
    (first last : Span) :
    (inner.mapSpans f).add (.item text ((first.map f).through (last.map f))) =
      (inner.add (.item text (first.through last))).mapSpans f :=
  (mapSpans_add f inner (.item text (first.through last))).symm

private theorem add_assignment (f : Nat → Nat) (inner : OpenContainer) (key text : String)
    (first last : Span) :
    (inner.mapSpans f).add (.assignment key text ((first.map f).through (last.map f))) =
      (inner.add (.assignment key text (first.through last))).mapSpans f :=
  (mapSpans_add f inner (.assignment key text (first.through last))).symm

/-- A step is made wherever the token stands, and moves what it copies. -/
theorem step?_mapSpans (f : Nat → Nat) (l : Lexeme) (s : TreeState) :
    (s.mapSpans f).step? (l.mapSpan f) = (s.step? l).map (·.mapSpans f) := by
  obtain ⟨token, span⟩ := l
  cases s with
  | top objects =>
    simp only [mapSpans, step?, Lexeme.mapSpan]
    cases token.fragment? <;> rfl
  | named objects name nameSpan =>
    simp only [mapSpans, step?, Lexeme.mapSpan]
    split <;> rfl
  | inside objects inner outer member =>
    cases member with
    | start =>
      simp only [mapSpans, MemberState.mapSpans, step?, Lexeme.mapSpan]
      split
      · exact congrArg some (close_mapSpans ..)
      · cases token.fragment? <;> rfl
    | headed text first =>
      simp only [mapSpans, MemberState.mapSpans, step?, Lexeme.mapSpan, add_item]
      split
      · rfl
      · rfl
      · rfl
      · cases token.fragment? <;> rfl
    | item text first =>
      simp only [mapSpans, MemberState.mapSpans, step?, Lexeme.mapSpan, add_item]
      split
      · rfl
      · cases token.fragment? <;> rfl
    | value key text first =>
      simp only [mapSpans, MemberState.mapSpans, step?, Lexeme.mapSpan, add_assignment]
      split
      · rfl
      · cases token.fragment? <;> rfl
    | closed =>
      simp only [mapSpans, MemberState.mapSpans, step?, Lexeme.mapSpan]
      split <;> rfl

/-- The outcome with all spans in it moved. -/
def mapResult {α : Type} (f : Nat → Nat) (g : α → α) : Except Unexpected α → Except Unexpected α
  | .ok a => .ok (g a)
  | .error e => .error (e.mapSpan f)

theorem run_mapSpans (f : Nat → Nat) (ls : List Lexeme) (s : TreeState) :
    (s.mapSpans f).run (ls.map (·.mapSpan f)) = mapResult f (·.mapSpans f) (s.run ls) := by
  induction ls generalizing s with
  | nil => rfl
  | cons l ls ih =>
    simp only [List.map_cons, run, step?_mapSpans]
    cases s.step? l with
    | none => simp only [Option.map_none, expected_mapSpans]; rfl
    | some s' => exact ih s'

theorem finish_mapSpans (f : Nat → Nat) (n : Nat) (s : TreeState) :
    (s.mapSpans f).finish (f n) = mapResult f (·.mapSpans f) (s.finish n) := by
  cases s with
  | top | named => rfl
  | inside _ _ _ member => cases member <;> rfl

end TreeState

/-- Tokens that are moved give the same tree, or the same error, at moved spans. -/
theorem SourceTree.ofLexemes_mapSpans {f : Nat → Nat} (hf : f 0 = 0) (ls : List Lexeme) :
    ofLexemes (ls.map (·.mapSpan f)) =
      TreeState.mapResult f (·.mapSpans f) (ofLexemes ls) := by
  have hstart : (TreeState.top []).mapSpans f = .top [] := rfl
  have hend : ((ls.map (·.mapSpan f)).getLast?.map (·.span.stop)).getD 0 =
      f ((ls.getLast?.map (·.span.stop)).getD 0) := by
    rw [List.getLast?_map]
    cases ls.getLast? with
    | none => exact hf.symm
    | some l => rfl
  have hrun := TreeState.run_mapSpans f ls (.top [])
  rw [hstart] at hrun
  simp only [ofLexemes, hrun, hend]
  cases (TreeState.top []).run ls with
  | error e => rfl
  | ok s => exact TreeState.finish_mapSpans f _ s

theorem SourceTree.ofLexemes_mapSpans_of_ok {ls : List Lexeme} {t : SourceTree}
    (h : ofLexemes ls = .ok t) (f : Nat → Nat) :
    ofLexemes (ls.map (·.mapSpan f)) = .ok (t.mapSpans f) := by
  have hrun := TreeState.run_mapSpans f ls (.top [])
  rw [ofLexemes_eq_ok_iff.1 h] at hrun
  exact ofLexemes_eq_ok_iff.2 hrun

/-! ## Shapes -/

/-- The byte that every byte is moved to when spans are forgotten. -/
def Span.forget : Nat → Nat := fun _ => 0

mutual
theorem Member.sameShape_iff : (m m' : Member) →
    (m.sameShape m' = true ↔ m.mapSpans Span.forget = m'.mapSpans Span.forget)
  | .container .., .container .. => by
    simp [sameShape, mapSpans, allSameShape_iff, Span.map, Span.forget]
  | .assignment .., .assignment .. => by simp [sameShape, mapSpans, Span.map, Span.forget]
  | .item .., .item .. => by simp [sameShape, mapSpans, Span.map, Span.forget]
  | .container .., .assignment .. | .container .., .item ..
  | .assignment .., .container .. | .assignment .., .item ..
  | .item .., .container .. | .item .., .assignment .. => by simp [sameShape, mapSpans]

theorem Member.allSameShape_iff : (ms ms' : List Member) →
    (allSameShape ms ms' = true ↔ allMapSpans Span.forget ms = allMapSpans Span.forget ms')
  | [], [] => by simp [allSameShape]
  | m :: ms, m' :: ms' => by
    simp [allSameShape, allMapSpans, sameShape_iff m m', allSameShape_iff ms ms']
  | [], _ :: _ | _ :: _, [] => by simp [allSameShape, allMapSpans]
end

theorem SourceTree.sameShape_iff (t u : SourceTree) :
    t.sameShape u = true ↔ t.mapSpans Span.forget = u.mapSpans Span.forget := by
  have hmap : ∀ cs : List Container,
      Member.allMapSpans Span.forget (cs.map .ofContainer) =
        (cs.map (·.mapSpans Span.forget)).map .ofContainer := fun cs => by
    simp [Member.allMapSpans_eq_map, Member.mapSpans_ofContainer]
  have hinj : ∀ c d : Container, Member.ofContainer c = Member.ofContainer d → c = d := by
    rintro ⟨⟩ ⟨⟩ h
    cases h
    rfl
  rw [sameShape, Member.allSameShape_iff, hmap, hmap, List.map_inj_right hinj]
  simp [mapSpans]

end StoryWorld
