import StoryWorld.Proofs.Condition.Grammar

/-! The steps of the condition reader that are no errors, one rule for each thing that a token can
do. Later proofs go by cases on `ConditionState.Step` and do not open `ConditionState.step`. -/

namespace StoryWorld

namespace ConditionState

open ConditionGrammar

/-- An operand may start in a state, with what is waiting for it and whether it comes right after
a bare `<` or `>`. -/
inductive Awaits : ConditionState → Pending → List Pending → Bool → Prop
  | operand {waiting outer} : Awaits ⟨waiting, outer, .operand⟩ waiting outer false
  | angle {waiting outer left strict loose} :
    Awaits ⟨waiting, outer, .angle left strict loose⟩ ((left, strict) :: waiting) outer true

/-- What a token does in a state. -/
inductive Step : ConditionState → Lexeme → ConditionState → Prop
  | word {s waiting outer angle l w e} (hs : Awaits s waiting outer angle)
      (hl : l.token = .word w) (hw : IsOperand w e) : Step s l ⟨waiting, outer, .complete e⟩
  | minus {s waiting outer angle l} (hs : Awaits s waiting outer angle)
      (hl : l.token = .punct '-') : Step s l ⟨waiting, outer, .minus l.span angle⟩
  | enter {s waiting outer angle l} (hs : Awaits s waiting outer angle)
      (hl : l.token = .punct '(') : Step s l ⟨[], waiting :: outer, .operand⟩
  | negative {waiting outer span angle l w n} (hl : l.token = .word w)
      (hn : Integer.read? ("-" ++ w) = some n) :
    Step ⟨waiting, outer, .minus span angle⟩ l ⟨waiting, outer, .complete (.literal (.int n))⟩
  | leave {waiting next outer left l} (hl : l.token = .punct ')') :
    Step ⟨waiting, next :: outer, .complete left⟩ l ⟨next, outer, .complete (waiting.close left)⟩
  | single {waiting outer left l op} (hop : IsSingle l.token op) :
    Step ⟨waiting, outer, .complete left⟩ l ⟨(left, op) :: waiting, outer, .operand⟩
  | less {waiting outer left l} (hl : l.token = .punct '<') :
    Step ⟨waiting, outer, .complete left⟩ l ⟨waiting, outer, .angle left .lt .le⟩
  | greater {waiting outer left l} (hl : l.token = .punct '>') :
    Step ⟨waiting, outer, .complete left⟩ l ⟨waiting, outer, .angle left .gt .ge⟩
  | equal {waiting outer left l} (hl : l.token = .equals) :
    Step ⟨waiting, outer, .complete left⟩ l ⟨waiting, outer, .half left .eq⟩
  | unequal {waiting outer left l} (hl : l.token = .punct '!') :
    Step ⟨waiting, outer, .complete left⟩ l ⟨waiting, outer, .half left .ne⟩
  | loosen {waiting outer left strict loose l} (hl : l.token = .equals) :
    Step ⟨waiting, outer, .angle left strict loose⟩ l ⟨(left, loose) :: waiting, outer, .operand⟩
  | half {waiting outer left op l} (hl : l.token = .equals) :
    Step ⟨waiting, outer, .half left op⟩ l ⟨(left, op) :: waiting, outer, .operand⟩

variable {s s' : ConditionState} {l : Lexeme} {waiting : Pending} {outer : List Pending}
  {angle : Bool}

private theorem step_of_readOperand (hs : Awaits s waiting outer angle)
    (h : readOperand waiting outer angle l = .ok s') : Step s l s' := by
  unfold readOperand at h
  split at h
  · next w hl =>
    split at h
    · cases h
    · next hop =>
      split at h
      · next e he =>
        cases h
        have hnone : Operator.ofWord? w = none := by simpa using hop
        exact .word hs hl (isOperand_of_ofWord? hnone he)
      · cases h
  · next hl => cases h; exact .minus hs hl
  · next hl => cases h; exact .enter hs hl
  · cases h

private theorem step_of_readOperator {left : Expr}
    (h : readOperator waiting outer left l = .ok s') :
    Step ⟨waiting, outer, .complete left⟩ l s' := by
  unfold readOperator at h
  split at h
  · next hl => cases h; exact .less hl
  · next hl => cases h; exact .greater hl
  · next hl => cases h; exact .equal hl
  · next hl => cases h; exact .unequal hl
  · next hl => cases h; exact .single (hl ▸ .add)
  · next hl => cases h; exact .single (hl ▸ .sub)
  · next hl => cases h; exact .single (hl ▸ .mul)
  · next hl => cases h; exact .single (hl ▸ .div)
  · next hl =>
    split at h
    · cases h
    · cases h
      exact .leave hl
  · next w hl =>
    split at h
    · next op hop =>
      cases h
      obtain ⟨hmem, hw⟩ := ofWord?_eq_some_iff.1 hop
      exact .single (hl ▸ .word hmem hw)
    · cases h
  · cases h

private theorem step_of_ok (h : s.step l = .ok s') : Step s l s' := by
  obtain ⟨waiting, outer, place⟩ := s
  cases place with
  | operand => exact step_of_readOperand .operand h
  | minus span angle =>
    simp only [step] at h
    split at h
    · next w hl =>
      split at h
      · next n hn =>
        cases h
        exact .negative hl hn
      · cases h
    · cases h
  | complete left => exact step_of_readOperator h
  | angle left strict loose =>
    simp only [step] at h
    split at h
    · next hl =>
      cases h
      exact .loosen hl
    · exact step_of_readOperand .angle h
  | half left op =>
    simp only [step] at h
    split at h
    · next hl =>
      cases h
      exact .half hl
    · cases h

theorem Awaits.step_eq (hs : Awaits s waiting outer angle) (hl : l.token ≠ .equals) :
    s.step l = readOperand waiting outer angle l := by
  cases hs with
  | operand => rfl
  | angle => simp only [step, if_neg hl]

private theorem ok_of_step (h : Step s l s') : s.step l = .ok s' := by
  cases h with
  | word hs hl hw =>
    obtain ⟨hop, he⟩ := ofWord?_of_isOperand hw
    rw [hs.step_eq (by simp [hl, Token.equals]), readOperand, hl]
    simp [hop, he]
  | minus hs hl | enter hs hl =>
    rw [hs.step_eq (by simp [hl, Token.equals]), readOperand, hl]
    rfl
  | negative hl hn => simp only [step, hl, hn]
  | leave hl => simp only [step, readOperator, hl]
  | single hop =>
    simp only [step]
    unfold readOperator
    cases htoken : l.token with
    | quoted _ => rw [htoken] at hop; cases hop
    | word w =>
      rw [htoken] at hop
      cases hop with
      | word hmem hw => simp only [ofWord?_eq_some_iff.2 ⟨hmem, hw⟩]
    | punct c =>
      rw [htoken] at hop
      cases hop <;> rfl
  | less hl | greater hl | equal hl | unequal hl =>
    simp only [step, readOperator, hl, Token.equals]
  | loosen hl | half hl => simp only [step, if_pos hl]

/-- The reader's steps are these and no others, errors apart. -/
theorem step_eq_ok_iff : s.step l = .ok s' ↔ Step s l s' :=
  ⟨step_of_ok, ok_of_step⟩

theorem run_cons_of_step (h : Step s l s') (ls : List Lexeme) : s.run (l :: ls) = s'.run ls := by
  simp only [run, step_eq_ok_iff.2 h]

end ConditionState

end StoryWorld
