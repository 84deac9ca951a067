import StoryWorld.Expr

/-!
# Text among operands

Only equality takes text. Any other operator refuses a text that it looks at, and there are two
that it does not look at: the right operand of a connective that the left one decides, and the left
operand of a division by zero.
-/

namespace StoryWorld

/-- The values that are text. -/
def Value.IsText (v : Value) : Prop := ∃ t, v = .text t

theorem Value.exists_asInt {v : Value} (hv : ¬ v.IsText) (op : Operator) :
    ∃ n, v.asInt op = .ok n := by
  cases v with
  | int n => exact ⟨n, rfl⟩
  | bool b => exact ⟨_, rfl⟩
  | text t => exact absurd ⟨t, rfl⟩ hv

theorem Value.exists_asBool {v : Value} (hv : ¬ v.IsText) (op : Operator) :
    ∃ b, v.asBool op = .ok b := by
  cases v with
  | int n => exact ⟨_, rfl⟩
  | bool b => exact ⟨b, rfl⟩
  | text t => exact absurd ⟨t, rfl⟩ hv

namespace Operator

/-- The operators of arithmetic, order and truth. -/
def RefusesText (op : Operator) : Prop := op ≠ .eq ∧ op ≠ .ne

instance (op : Operator) : Decidable op.RefusesText := inferInstanceAs (Decidable (_ ∧ _))

/-- The connectives that a left operand decides, with the answer. -/
inductive Decided : Operator → Value → Bool → Prop
  | and {a : Value} (h : a.asBool .and = .ok false) : Decided .and a false
  | or {a : Value} (h : a.asBool .or = .ok true) : Decided .or a true

/-- A division whose right operand is 0 or false. -/
inductive ByZero : Operator → Value → Prop
  | div {b : Value} (h : b.asInt .div = .ok 0) : ByZero .div b

/-- An operand of `op` is text, and `op` fails with it. -/
def FindsText (op : Operator) (a b : Value) : Prop :=
  ∃ found, (found = a ∨ found = b) ∧ found.IsText ∧
    op.apply a b = .error (.typeMismatch op found)

variable {op : Operator} {a b v : Value}

/-! ## Operands that are not looked at -/

theorem apply_of_decided (h : op.Decided a answer) (b : Value) :
    op.apply a b = .ok (.bool answer) := by
  cases h with
  | and h =>
    simp only [apply, connective, h]
    rfl
  | or h =>
    simp only [apply, connective, h]
    rfl

theorem apply_of_byZero (h : op.ByZero b) (a : Value) : op.apply a b = .error .divisionByZero := by
  cases h with
  | div h =>
    simp only [apply, divide, h]
    rfl

/-! ## Operands that are looked at -/

theorem findsText_of_left (hop : op.RefusesText) (ha : a.IsText) (hb : ¬ op.ByZero b) :
    op.FindsText a b := by
  obtain ⟨t, rfl⟩ := ha
  cases op with
  | eq => exact absurd rfl hop.1
  | ne => exact absurd rfl hop.2
  | div =>
    -- the divisor is looked at first, and is itself found if it is text
    rcases hview : b.asInt .div with e | n
    · cases b with
      | int n => cases hview
      | bool p => cases hview
      | text t' => exact ⟨.text t', .inr rfl, ⟨t', rfl⟩, rfl⟩
    · have hn : n ≠ 0 := by
        rintro rfl
        exact hb (.div hview)
      refine ⟨.text t, .inl rfl, ⟨t, rfl⟩, ?_⟩
      simp only [apply, divide, hview]
      exact if_neg hn
  | add | sub | mul | lt | gt | le | ge | and | or | xor | xnor =>
    exact ⟨.text t, .inl rfl, ⟨t, rfl⟩, rfl⟩

theorem findsText_of_right (hop : op.RefusesText) (ha : ¬ a.IsText) (hb : b.IsText)
    (hdecided : ∀ answer, ¬ op.Decided a answer) : op.FindsText a b := by
  obtain ⟨t, rfl⟩ := hb
  obtain ⟨n, hn⟩ := Value.exists_asInt ha op
  obtain ⟨p, hp⟩ := Value.exists_asBool ha op
  refine ⟨.text t, .inr rfl, ⟨t, rfl⟩, ?_⟩
  cases op with
  | eq => exact absurd rfl hop.1
  | ne => exact absurd rfl hop.2
  | div => rfl
  | add | sub | mul =>
    simp only [apply, arithmetic, hn]
    rfl
  | lt | gt | le | ge =>
    simp only [apply, comparison, hn]
    rfl
  | and =>
    cases p with
    | false => exact absurd (Decided.and hp) (hdecided false)
    | true =>
      simp only [apply, connective, hp]
      rfl
  | or =>
    cases p with
    | false =>
      simp only [apply, connective, hp]
      rfl
    | true => exact absurd (Decided.or hp) (hdecided true)
  | xor | xnor =>
    simp only [apply, connective, hp]
    rfl

/-- An operator that refuses text and has a text for an operand finds it, unless it does not look
at it. -/
theorem findsText (hop : op.RefusesText) (h : a.IsText ∨ b.IsText)
    (hdecided : ∀ answer, ¬ op.Decided a answer) (hzero : ¬ op.ByZero b) : op.FindsText a b := by
  by_cases ha : a.IsText
  · exact findsText_of_left hop ha hzero
  · exact findsText_of_right hop ha (h.resolve_left ha) hdecided

theorem not_isText_of_apply (hop : op.RefusesText) (h : op.apply a b = .ok v) :
    ¬ a.IsText ∧ (b.IsText → ∃ answer, op.Decided a answer) := by
  have hzero : ¬ op.ByZero b := by
    intro hzero
    rw [apply_of_byZero hzero] at h
    cases h
  have hfinds : ¬ op.FindsText a b := by
    rintro ⟨found, -, -, herror⟩
    rw [herror] at h
    cases h
  constructor
  · intro ha
    exact hfinds (findsText_of_left hop ha hzero)
  · intro hb
    exact Classical.byContradiction fun hdecided =>
      hfinds (findsText hop (.inr hb) (not_exists.1 hdecided) hzero)

end Operator

namespace Expr

variable {s : Scope} {e left right : Expr} {op : Operator} {v : Value}

/-- The expressions that an expression is made of, itself among them. -/
def parts : Expr → List Expr
  | literal v => [literal v]
  | name ident => [name ident]
  | binary op left right => binary op left right :: (left.parts ++ right.parts)

theorem evaluate_binary_eq_ok (h : (binary op left right).evaluate s = .ok v) :
    ∃ a b, left.evaluate s = .ok a ∧ right.evaluate s = .ok b ∧ op.apply a b = .ok v := by
  rw [evaluate] at h
  rcases hleft : left.evaluate s with error | a
  · rw [hleft] at h
    cases h
  · rcases hright : right.evaluate s with error | b
    · rw [hleft, hright] at h
      cases h
    · rw [hleft, hright] at h
      exact ⟨a, b, rfl, rfl, h⟩

theorem evaluate_binary_of_ok (hleft : left.evaluate s = .ok a)
    (hright : right.evaluate s = .ok b) :
    (binary op left right).evaluate s = op.apply a b := by
  rw [evaluate, hleft, hright]
  rfl

/-- Every part of an expression that has a value has one. -/
theorem exists_value_of_mem_parts (h : e.evaluate s = .ok v) (hpart : part ∈ e.parts) :
    ∃ u, part.evaluate s = .ok u := by
  induction e generalizing v with
  | literal _ =>
    rw [parts, List.mem_singleton] at hpart
    exact ⟨v, hpart ▸ h⟩
  | name _ =>
    rw [parts, List.mem_singleton] at hpart
    exact ⟨v, hpart ▸ h⟩
  | binary op left right ihl ihr =>
    obtain ⟨a, b, hleft, hright, -⟩ := evaluate_binary_eq_ok h
    rw [parts, List.mem_cons, List.mem_append] at hpart
    rcases hpart with rfl | hpart | hpart
    · exact ⟨v, h⟩
    · exact ihl hleft hpart
    · exact ihr hright hpart

/-- An expression that has a value has no text among the operands that its operators look at, and
an operator that refuses text fails with the text that it finds. -/
theorem evaluate_of_text_operands (s : Scope) :
    (∀ (e : Expr) (v : Value), e.evaluate s = .ok v →
      ∀ op left right, binary op left right ∈ e.parts → op.RefusesText →
        ∃ a b, left.evaluate s = .ok a ∧ right.evaluate s = .ok b ∧
          ¬ a.IsText ∧ (b.IsText → ∃ answer, op.Decided a answer)) ∧
    ∀ (op : Operator) (left right : Expr) (a b : Value), op.RefusesText →
      left.evaluate s = .ok a → right.evaluate s = .ok b → a.IsText ∨ b.IsText →
        (∀ answer, op.Decided a answer →
          (binary op left right).evaluate s = .ok (.bool answer)) ∧
        (op.ByZero b → (binary op left right).evaluate s = .error .divisionByZero) ∧
        ((∀ answer, ¬ op.Decided a answer) → ¬ op.ByZero b →
          ∃ found, (found = a ∨ found = b) ∧ found.IsText ∧
            (binary op left right).evaluate s = .error (.typeMismatch op found)) := by
  constructor
  · intro e v h op left right hpart hop
    obtain ⟨u, hu⟩ := exists_value_of_mem_parts h hpart
    obtain ⟨a, b, hleft, hright, happly⟩ := evaluate_binary_eq_ok hu
    exact ⟨a, b, hleft, hright, Operator.not_isText_of_apply hop happly⟩
  · intro op left right a b hop hleft hright htext
    rw [evaluate_binary_of_ok hleft hright]
    exact ⟨fun answer hdecided => Operator.apply_of_decided hdecided b,
      fun hzero => Operator.apply_of_byZero hzero a, Operator.findsText hop htext⟩

/-- A cave for a place, at the third hour. -/
def inCave : Scope := ⟨[("place", .text "cave"), ("hour", .int 3)], .none⟩

theorem evaluate_text_operands_inCave :
    (∃ a b, (name "hour").evaluate inCave = .ok a ∧ (literal (.int 2)).evaluate inCave = .ok b ∧
      ¬ a.IsText ∧ (b.IsText → ∃ answer, Operator.gt.Decided a answer)) ∧
    ∃ found, (found = .int 3 ∨ found = .text "cave") ∧ found.IsText ∧
      (binary .add (name "hour") (name "place")).evaluate inCave =
        .error (.typeMismatch .add found) := by
  have hspec := evaluate_of_text_operands inCave
  constructor
  · -- equality takes the text, and the comparison next to it sees none
    refine hspec.1 (binary .and (binary .eq (name "place") (literal (.text "cave")))
      (binary .gt (name "hour") (literal (.int 2)))) (.bool true) rfl _ _ _ ?_ (by decide)
    simp [parts]
  · refine (hspec.2 .add (name "hour") (name "place") (.int 3) (.text "cave") (by decide) rfl rfl
      (.inr ⟨_, rfl⟩)).2.2 ?_ ?_
    · rintro answer ⟨⟩
    · rintro ⟨⟩

/-- A text that is not looked at is not refused. -/
theorem evaluate_unseen_text :
    (binary .and (literal (.bool false)) (name "place")).evaluate inCave = .ok (.bool false) ∧
    (binary .or (literal (.bool true)) (name "place")).evaluate inCave = .ok (.bool true) ∧
    (binary .div (name "place") (literal (.int 0))).evaluate inCave = .error .divisionByZero :=
  ⟨rfl, rfl, rfl⟩

end Expr

end StoryWorld
