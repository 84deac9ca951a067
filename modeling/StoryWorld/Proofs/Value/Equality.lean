import StoryWorld.Proofs.Value.Numeric
import StoryWorld.Proofs.Value.Typing

/-!
# Equality of written values

Equality compares numbers, and where a side is text, what is shown. Text that shows a number or a
boolean never stands for itself once it is written in a source, so on the values of written text
equality compares numbers with numbers and texts with texts, and is an equivalence.
-/

namespace StoryWorld.Value

variable {a b v : Value} {raw t : String}

/-- The values that written text stands for. -/
def Written (v : Value) : Prop := ∃ raw, ofText raw = v

/-! ## Written text -/

theorem eq_of_ofText_eq_text (h : ofText raw = text t) : raw = t := (ofText_eq_text_iff.1 h).1.symm

theorem ofText_shown (hv : ¬ v.IsText) : ofText v.shown = v := by
  cases v with
  | int n => exact ofText_text n
  | bool p => cases p <;> decide
  | text t => exact absurd ⟨t, rfl⟩ hv

/-- Text that shows a number or a boolean is not written as text. -/
theorem Written.ne_shown (ht : (text t).Written) (hv : ¬ v.IsText) : t ≠ v.shown := by
  rintro rfl
  obtain ⟨raw, hraw⟩ := ht
  rw [eq_of_ofText_eq_text hraw, ofText_shown hv] at hraw
  exact hv ⟨_, hraw⟩

/-! ## Equality -/

theorem looselyEqual_comm (a b : Value) : a.looselyEqual b = b.looselyEqual a := by
  cases a <;> cases b <;> simp [looselyEqual, shown, Bool.beq_comm]

theorem Written.looselyEqual_text (ht : (text t).Written) (hv : ¬ v.IsText) :
    (text t).looselyEqual v = false := by
  rw [looselyEqual, beq_eq_false_iff_ne]
  exact ht.ne_shown hv

theorem numeric_text_ne (hv : ¬ v.IsText) (t : String) : (text t).numeric ≠ v.numeric :=
  fun h => hv (isText_numeric.1 ⟨t, h.symm⟩)

/-- Written values are equal if they are the same text or the same number. -/
theorem Written.looselyEqual_iff (ha : a.Written) (hb : b.Written) :
    a.looselyEqual b = true ↔ a.numeric = b.numeric := by
  by_cases htext : a.IsText
  · obtain ⟨t, rfl⟩ := htext
    by_cases htext' : b.IsText
    · obtain ⟨t', rfl⟩ := htext'
      simp [looselyEqual, shown, numeric]
    · rw [ha.looselyEqual_text htext']
      exact iff_of_false Bool.false_ne_true (numeric_text_ne htext' t)
  · by_cases htext' : b.IsText
    · obtain ⟨t, rfl⟩ := htext'
      rw [looselyEqual_comm, hb.looselyEqual_text htext]
      exact iff_of_false Bool.false_ne_true (numeric_text_ne htext t).symm
    · exact Value.looselyEqual_iff htext htext'

theorem Written.eq_iff (ha : a.Written) (hb : b.Written) :
    Operator.eq.apply a b = .ok (.bool true) ↔ a.numeric = b.numeric := by
  rw [← ha.looselyEqual_iff hb]
  simp [Operator.apply]

/-- Equality and its negation never fail. On written values equality is an equivalence, which never
holds between text and a number or a boolean. -/
theorem equivalence_eq :
    (∀ a b : Value, ∃ equal : Bool, Operator.eq.apply a b = .ok (.bool equal) ∧
      Operator.ne.apply a b = .ok (.bool !equal)) ∧
    Equivalence (fun a b : {v : Value // v.Written} =>
      Operator.eq.apply a b = .ok (.bool true)) ∧
    ∀ (t : String) (v : Value), (text t).Written → ¬ v.IsText →
      Operator.eq.apply (text t) v = .ok (.bool false) ∧
      Operator.eq.apply v (text t) = .ok (.bool false) := by
  refine ⟨fun a b => ⟨a.looselyEqual b, rfl, rfl⟩, ?_, fun t v ht hv => ?_⟩
  · constructor
    · intro a
      exact (a.2.eq_iff a.2).2 rfl
    · intro a b hab
      exact (b.2.eq_iff a.2).2 ((a.2.eq_iff b.2).1 hab).symm
    · intro a b c hab hbc
      exact (a.2.eq_iff c.2).2 (((a.2.eq_iff b.2).1 hab).trans ((b.2.eq_iff c.2).1 hbc))
  · -- a written text never shows a number or a boolean
    have hleft := ht.looselyEqual_text hv
    have hright := (looselyEqual_comm v (text t)).trans hleft
    exact ⟨by rw [Operator.apply, hleft], by rw [Operator.apply, hright]⟩

theorem equivalence_eq_seven :
    (text "seven").Written ∧
    Operator.eq.apply (text "seven") (int 7) = .ok (.bool false) ∧
    Operator.eq.apply (ofText "+1") (ofText "True") = .ok (.bool true) ∧
    Operator.eq.apply (ofText "True") (ofText " 01 ") = .ok (.bool true) ∧
    Operator.eq.apply (ofText "+1") (ofText " 01 ") = .ok (.bool true) := by
  obtain ⟨-, hequivalence, htext⟩ := equivalence_eq
  have hseven : (text "seven").Written := ⟨"seven", by decide⟩
  have hplus : Operator.eq.apply (ofText "+1") (ofText "True") = .ok (.bool true) := rfl
  have hzero : Operator.eq.apply (ofText "True") (ofText " 01 ") = .ok (.bool true) := rfl
  exact ⟨hseven, (htext "seven" (int 7) hseven (by rintro ⟨t, ⟨⟩⟩)).1, hplus, hzero,
    hequivalence.trans (x := ⟨_, "+1", rfl⟩) (y := ⟨_, "True", rfl⟩) (z := ⟨_, " 01 ", rfl⟩)
      hplus hzero⟩

/-- Text that was not written as such can break the chain. -/
example : (text "1").looselyEqual (int 1) = true ∧ (int 1).looselyEqual (bool true) = true ∧
    (text "1").looselyEqual (bool true) = false := by decide

end StoryWorld.Value
