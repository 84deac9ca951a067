import StoryWorld.Proofs.Expr.TextOperands

/-!
# Booleans as numbers

Where there is no text, a boolean can be replaced by 1 or 0: each operator gives the same for the
one as for the other, equality included.
-/

namespace StoryWorld

namespace Value

variable {a b v : Value} {n : Integer}

/-- The value, with 1 or 0 in place of a boolean. -/
def numeric : Value → Value
  | int n => int n
  | bool b => int (if b then 1 else 0)
  | text t => text t

/-- The numeric view of `v`, whatever operator it is an operand of, is `n`. -/
def HasNumber (v : Value) (n : Integer) : Prop := ∀ op, v.asInt op = .ok n

theorem exists_hasNumber (hv : ¬ v.IsText) : ∃ n, v.HasNumber n := by
  cases v with
  | int n => exact ⟨n, fun _ => rfl⟩
  | bool p => exact ⟨_, fun _ => rfl⟩
  | text t => exact absurd ⟨t, rfl⟩ hv

theorem HasNumber.not_isText (hv : v.HasNumber n) : ¬ v.IsText := by
  rintro ⟨t, rfl⟩
  cases hv .add

theorem HasNumber.numeric_eq (hv : v.HasNumber n) : v.numeric = int n := by
  cases v with
  | int m => rw [numeric, Except.ok.inj (hv .add)]
  | bool p => rw [numeric, Except.ok.inj (hv .add)]
  | text t => exact absurd ⟨t, rfl⟩ hv.not_isText

/-! ## The views of a number -/

theorem asInt_numeric (v : Value) (op : Operator) : v.numeric.asInt op = v.asInt op := by
  cases v <;> rfl

theorem asBool_numeric (v : Value) (op : Operator) : v.numeric.asBool op = v.asBool op := by
  cases v with
  | int n => rfl
  | bool p => cases p <;> rfl
  | text t => rfl

theorem HasNumber.asBool_eq (hv : v.HasNumber n) (op : Operator) : v.asBool op = .ok (n != 0) := by
  rw [← asBool_numeric, hv.numeric_eq, asBool]

theorem numeric_numeric (v : Value) : v.numeric.numeric = v.numeric := by
  cases v <;> rfl

theorem isText_numeric : v.numeric.IsText ↔ v.IsText := by
  cases v <;> simp [numeric, IsText]

/-- Without text, equality is equality of numbers. -/
theorem looselyEqual_iff (ha : ¬ a.IsText) (hb : ¬ b.IsText) :
    a.looselyEqual b = true ↔ a.numeric = b.numeric := by
  cases a with
  | text t => exact absurd ⟨t, rfl⟩ ha
  | int m =>
    cases b with
    | text t => exact absurd ⟨t, rfl⟩ hb
    | int n => simp [looselyEqual, numeric]
    | bool q => simp [looselyEqual, numeric]
  | bool p =>
    cases b with
    | text t => exact absurd ⟨t, rfl⟩ hb
    | int n => simp [looselyEqual, numeric]
    | bool q => cases p <;> cases q <;> decide

theorem looselyEqual_numeric (ha : ¬ a.IsText) (hb : ¬ b.IsText) :
    a.numeric.looselyEqual b.numeric = a.looselyEqual b := by
  rw [Bool.eq_iff_iff, looselyEqual_iff ha hb,
    looselyEqual_iff (mt isText_numeric.1 ha) (mt isText_numeric.1 hb), numeric_numeric,
    numeric_numeric]

end Value

/-! ## Operators on numbers -/

namespace Operator

variable {a b a' b' : Value} {m n : Integer}

theorem apply_numeric (ha : ¬ a.IsText) (hb : ¬ b.IsText) (op : Operator) :
    op.apply a.numeric b.numeric = op.apply a b := by
  cases op with
  | add | sub | mul => simp only [apply, arithmetic, Value.asInt_numeric]
  | div => simp only [apply, divide, Value.asInt_numeric]
  | lt | gt | le | ge => simp only [apply, comparison, Value.asInt_numeric]
  | eq | ne => simp only [apply, Value.looselyEqual_numeric ha hb]
  | and | or | xor | xnor => simp only [apply, connective, Value.asBool_numeric]

/-- Operands of the same numbers give the same result. -/
theorem apply_eq_of_hasNumber (ha : a.HasNumber m) (ha' : a'.HasNumber m) (hb : b.HasNumber n)
    (hb' : b'.HasNumber n) (op : Operator) : op.apply a b = op.apply a' b' := by
  rw [← apply_numeric ha.not_isText hb.not_isText, ← apply_numeric ha'.not_isText hb'.not_isText,
    ha.numeric_eq, ha'.numeric_eq, hb.numeric_eq, hb'.numeric_eq]

end Operator

end StoryWorld
