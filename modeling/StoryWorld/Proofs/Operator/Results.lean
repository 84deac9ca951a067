import StoryWorld.Proofs.Expr.TextOperands

/-!
# What an operator can give

An operator gives an integer or a boolean, or it fails in one of three ways. Text is refused only
where an operand is text, and no operator asks for a name.
-/

namespace StoryWorld.Operator

variable {op : Operator} {a b v : Value}

/-- The results that an operator can give for two operands. -/
inductive Yields (op : Operator) (a b : Value) : Except EvalError Value → Prop
  | int (n : Integer) : Yields op a b (.ok (.int n))
  | bool (p : Bool) : Yields op a b (.ok (.bool p))
  | divisionByZero : Yields op a b (.error .divisionByZero)
  | overflow : Yields op a b (.error (.overflow op))
  | typeMismatch {found : Value} (hfound : found = a ∨ found = b) (htext : found.IsText) :
    Yields op a b (.error (.typeMismatch op found))

/-! ## One view of an operand and what follows -/

theorem yields_asInt_bind {f : Integer → Except EvalError Value} (hv : v = a ∨ v = b)
    (hf : ∀ n, op.Yields a b (f n)) : op.Yields a b (v.asInt op >>= f) := by
  by_cases htext : v.IsText
  · obtain ⟨t, rfl⟩ := htext
    exact .typeMismatch hv ⟨t, rfl⟩
  · obtain ⟨n, hn⟩ := Value.exists_asInt htext op
    rw [hn]
    exact hf n

theorem yields_asBool_bind {f : Bool → Except EvalError Value} (hv : v = a ∨ v = b)
    (hf : ∀ p, op.Yields a b (f p)) : op.Yields a b (v.asBool op >>= f) := by
  by_cases htext : v.IsText
  · obtain ⟨t, rfl⟩ := htext
    exact .typeMismatch hv ⟨t, rfl⟩
  · obtain ⟨p, hp⟩ := Value.exists_asBool htext op
    rw [hp]
    exact hf p

/-! ## The families of operators -/

theorem yields_checked (n : Int) : op.Yields a b (op.checked n) := by
  unfold checked
  split
  · next m _ => exact .int m
  · exact .overflow

theorem yields_arithmetic (f : Int → Int → Int) : op.Yields a b (op.arithmetic f a b) :=
  yields_asInt_bind (.inl rfl) fun _ => yields_asInt_bind (.inr rfl) fun _ => yields_checked _

theorem yields_divide : div.Yields a b (divide a b) := by
  refine yields_asInt_bind (.inr rfl) fun r => ?_
  split
  · exact .divisionByZero
  · exact yields_asInt_bind (.inl rfl) fun _ => yields_checked _

theorem yields_comparison (f : Int → Int → Bool) : op.Yields a b (op.comparison f a b) :=
  yields_asInt_bind (.inl rfl) fun _ => yields_asInt_bind (.inr rfl) fun _ => .bool _

theorem yields_connective (decided : Bool → Option Bool) (f : Bool → Bool → Bool) :
    op.Yields a b (op.connective decided f a b) := by
  refine yields_asBool_bind (.inl rfl) fun l => ?_
  split
  · exact .bool _
  · exact yields_asBool_bind (.inr rfl) fun _ => .bool _

theorem yields_apply (op : Operator) (a b : Value) : op.Yields a b (op.apply a b) := by
  cases op with
  | add | sub | mul => exact yields_arithmetic _
  | div => exact yields_divide
  | lt | gt | le | ge =>
    rw [apply]
    exact yields_comparison _
  | eq | ne => exact .bool _
  | and | or | xor | xnor =>
    rw [apply]
    exact yields_connective _ _

end StoryWorld.Operator
