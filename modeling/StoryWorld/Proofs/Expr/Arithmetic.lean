import StoryWorld.Expr

/-!
# Exact arithmetic

An expression of integers and the four operations of arithmetic has the value that it has over the
unbounded integers, or it is refused: at the first node, operands before operations and left before
right, whose divisor is zero or whose exact value is out of range.
-/

namespace StoryWorld

/-! ## Unbounded integers -/

/-- The exact value of an integer. -/
def Value.exactValue? : Value → Option Int
  | int n => some n.toInt
  | _ => none

namespace Operator

/-- The operations of arithmetic. -/
def arithmetical : List Operator := [add, sub, mul, div]

/-- The exact result of an operation of arithmetic. Division is toward zero and never by zero. -/
def exactResult? : Operator → Int → Int → Option Int
  | add, a, b => some (a + b)
  | sub, a, b => some (a - b)
  | mul, a, b => some (a * b)
  | div, a, b => if b = 0 then none else some (a.tdiv b)
  | _, _, _ => none

/-- The overflow of `op` that an exact result out of range is. -/
def overflow? (op : Operator) (n : Int) : Option EvalError :=
  if Integer.least ≤ n ∧ n ≤ Integer.greatest then none else some (.overflow op)

end Operator

namespace Expr

/-- The exact value of an expression, unless something in it is divided by zero. -/
def exactValue? (s : Scope) : Expr → Option Int
  | literal v => v.exactValue?
  | name x => (s.lookup? x).bind Value.exactValue?
  | binary op left right =>
    (left.exactValue? s).bind fun a => (right.exactValue? s).bind fun b => op.exactResult? a b

/-- The nodes of an expression, operands before operations and left before right. -/
def nodes : Expr → List Expr
  | literal v => [literal v]
  | name x => [name x]
  | binary op left right => left.nodes ++ right.nodes ++ [binary op left right]

/-- What is wrong with a node by itself: a divisor that is zero, or a value out of range. -/
def fault? (s : Scope) : Expr → Option EvalError
  | binary op left right =>
    if op = .div ∧ right.exactValue? s = some 0 then some .divisionByZero
    else ((binary op left right).exactValue? s).bind op.overflow?
  | _ => none

/-- No divisor is zero, and every value on the way is in range. -/
structure Fits (s : Scope) (e : Expr) : Prop where
  divisor : ∀ left right, binary .div left right ∈ e.nodes → right.exactValue? s ≠ some 0
  range : ∀ node ∈ e.nodes, ∀ n, node.exactValue? s = some n →
    Integer.least ≤ n ∧ n ≤ Integer.greatest

/-- The expressions of integers, names of integers and the operations of arithmetic. -/
inductive IsArithmetic (s : Scope) : Expr → Prop
  | literal (n : Integer) : IsArithmetic s (literal (.int n))
  | name {x : String} {n : Integer} (h : s.lookup? x = some (.int n)) : IsArithmetic s (name x)
  | binary {op : Operator} {left right : Expr} (hop : op ∈ Operator.arithmetical)
    (hleft : IsArithmetic s left) (hright : IsArithmetic s right) :
    IsArithmetic s (binary op left right)

end Expr

theorem Value.range_of_exactValue? {v : Value} {n : Int} (h : v.exactValue? = some n) :
    Integer.least ≤ n ∧ n ≤ Integer.greatest := by
  cases v with
  | int i =>
    obtain rfl := Option.some.inj h
    exact ⟨i.least_le_toInt, i.toInt_le_greatest⟩
  | bool p => cases h
  | text t => cases h

/-! ## One operation -/

namespace Operator

theorem overflow?_eq_none_iff (op : Operator) {n : Int} :
    op.overflow? n = none ↔ Integer.least ≤ n ∧ n ≤ Integer.greatest := by
  simp [overflow?]

/-- An operation of arithmetic fails by zero, or it has an exact result, which is checked. -/
theorem apply_int {op : Operator} (hop : op ∈ arithmetical) (a b : Integer) :
    (op = div ∧ b.toInt = 0 ∧ op.apply (.int a) (.int b) = .error .divisionByZero) ∨
      ∃ n, ¬ (op = div ∧ b.toInt = 0) ∧ op.exactResult? a.toInt b.toInt = some n ∧
        op.apply (.int a) (.int b) = op.checked n := by
  cases op with
  | add | sub | mul => exact .inr ⟨_, nofun, rfl, rfl⟩
  | div =>
    by_cases hb : b = 0
    · subst hb
      exact .inl ⟨rfl, rfl, rfl⟩
    · have hb' : b.toInt ≠ 0 := fun h => hb (Int64.toInt_inj.1 h)
      exact .inr ⟨a.toInt.tdiv b.toInt, fun h => hb' h.2, if_neg hb', if_neg hb⟩
  | lt | gt | le | ge | eq | ne | and | or | xor | xnor => exact absurd hop (by decide)

/-- A checked result is the integer of its value, or it overflows. -/
theorem checked_cases (op : Operator) (n : Int) :
    (∃ i : Integer, i.toInt = n ∧ op.overflow? n = none ∧ op.checked n = .ok (.int i)) ∨
      op.overflow? n = some (.overflow op) ∧ op.checked n = .error (.overflow op) := by
  rw [checked]
  cases hn : Integer.ofInt? n with
  | some i =>
    obtain rfl := Integer.ofInt?_eq_some_iff.1 hn
    exact .inl ⟨i, rfl, (overflow?_eq_none_iff op).2 ⟨i.least_le_toInt, i.toInt_le_greatest⟩, rfl⟩
  | none =>
    have hrange := Integer.ofInt?_eq_none_iff.1 hn
    exact .inr ⟨if_neg (by omega), rfl⟩

end Operator

namespace Expr

variable {s : Scope} {e left right : Expr} {op : Operator} {a b : Integer}

theorem fault?_binary (hleft : left.exactValue? s = some a.toInt)
    (hright : right.exactValue? s = some b.toInt) :
    fault? s (binary op left right) =
      if op = .div ∧ b.toInt = 0 then some .divisionByZero
      else (op.exactResult? a.toInt b.toInt).bind op.overflow? := by
  simp only [fault?, exactValue?, hleft, hright, Option.some.injEq, Option.bind_some]

/-- One operation on integers of exact values fails with its fault, or is exact. -/
theorem apply_of_exactValue? (hop : op ∈ Operator.arithmetical)
    (hleft : left.exactValue? s = some a.toInt) (hright : right.exactValue? s = some b.toInt) :
    (∃ error, fault? s (binary op left right) = some error ∧
        op.apply (.int a) (.int b) = .error error) ∨
      fault? s (binary op left right) = none ∧ ∃ n : Integer,
        (binary op left right).exactValue? s = some n.toInt ∧
          op.apply (.int a) (.int b) = .ok (.int n) := by
  have hexact : (binary op left right).exactValue? s = op.exactResult? a.toInt b.toInt := by
    simp only [exactValue?, hleft, hright, Option.bind_some]
  rw [fault?_binary hleft hright, hexact]
  rcases Operator.apply_int hop a b with ⟨rfl, hb, happly⟩ | ⟨n, hzero, hn, happly⟩
  · exact .inl ⟨_, if_pos ⟨rfl, hb⟩, happly⟩
  · rw [if_neg hzero, hn, happly]
    rcases op.checked_cases n with ⟨i, rfl, hoverflow, hchecked⟩ | ⟨hoverflow, hchecked⟩
    · exact .inr ⟨hoverflow, i, rfl, hchecked⟩
    · exact .inl ⟨_, hoverflow, hchecked⟩

/-! ## Whole expressions -/

theorem evaluate_arithmetic_cases (h : e.IsArithmetic s) :
    (∃ error, e.nodes.findSome? (fault? s) = some error ∧ e.evaluate s = .error error) ∨
      e.nodes.findSome? (fault? s) = none ∧ ∃ n : Integer, e.exactValue? s = some n.toInt ∧
        e.evaluate s = .ok (.int n) := by
  induction h with
  | literal n => exact .inr ⟨rfl, n, rfl, rfl⟩
  | @name x n h =>
    refine .inr ⟨rfl, n, ?_, ?_⟩
    · rw [exactValue?, h, Option.bind_some, Value.exactValue?]
    · rw [evaluate, Scope.lookup, h]
  | @binary op left right hop _ _ ihl ihr =>
    rw [nodes, List.findSome?_append, List.findSome?_append, evaluate]
    rcases ihl with ⟨error, hfault, hleft⟩ | ⟨hfault, a, ha, hleft⟩
    · exact .inl ⟨error, by rw [hfault]; rfl, by rw [hleft]; rfl⟩
    rcases ihr with ⟨error, hfault', hright⟩ | ⟨hfault', b, hb, hright⟩
    · exact .inl ⟨error, by rw [hfault, hfault']; rfl, by rw [hleft, hright]; rfl⟩
    -- both operands are exact, so it is for the operation itself to fail or not
    have hnode : [binary op left right].findSome? (fault? s) = fault? s (binary op left right) := by
      simp
    rw [hfault, hfault', Option.none_or, Option.none_or, hnode, hleft, hright]
    exact apply_of_exactValue? hop ha hb

theorem fault?_eq_none_iff : fault? s (binary op left right) = none ↔
    ¬ (op = .div ∧ right.exactValue? s = some 0) ∧
      ∀ n, (binary op left right).exactValue? s = some n →
        Integer.least ≤ n ∧ n ≤ Integer.greatest := by
  simp only [← Operator.overflow?_eq_none_iff op]
  rw [fault?]
  split
  · next hzero => exact iff_of_false nofun fun h => h.1 hzero
  · next hzero => simp [hzero, Option.bind_eq_none_iff]

/-- What fits is what has no fault in it. -/
theorem fits_iff : e.Fits s ↔ e.nodes.findSome? (fault? s) = none := by
  rw [List.findSome?_eq_none_iff]
  constructor
  · intro h node hnode
    cases node with
    | literal v => rfl
    | name x => rfl
    | binary op left right =>
      refine fault?_eq_none_iff.2 ⟨?_, h.range _ hnode⟩
      rintro ⟨rfl, hzero⟩
      exact h.divisor left right hnode hzero
  · intro h
    constructor
    · intro left right hnode hzero
      exact (fault?_eq_none_iff.1 (h _ hnode)).1 ⟨rfl, hzero⟩
    · intro node hnode n hn
      cases node with
      | literal v => exact Value.range_of_exactValue? hn
      | name x =>
        obtain ⟨v, -, hv⟩ := Option.bind_eq_some_iff.1 hn
        exact Value.range_of_exactValue? hv
      | binary op left right => exact (fault?_eq_none_iff.1 (h _ hnode)).2 n hn

/-- An expression of arithmetic has its exact value where no divisor is zero and everything on the
way is in range, and else it fails with the fault of its first node that has one. -/
theorem evaluate_arithmetic (h : e.IsArithmetic s) :
    (∀ n : Integer, e.evaluate s = .ok (.int n) ↔ e.Fits s ∧ e.exactValue? s = some n.toInt) ∧
    (e.Fits s → ∃ n : Integer, e.evaluate s = .ok (.int n)) ∧
    (¬ e.Fits s → ∃ error, e.nodes.findSome? (fault? s) = some error ∧
      e.evaluate s = .error error) := by
  rw [fits_iff]
  rcases evaluate_arithmetic_cases h with ⟨error, hfault, hvalue⟩ | ⟨hfault, n, hn, hvalue⟩
  · have hrefused : e.nodes.findSome? (fault? s) ≠ none := by rw [hfault]; nofun
    refine ⟨fun n => ?_, fun hfits => absurd hfits hrefused, fun _ => ⟨error, hfault, hvalue⟩⟩
    rw [hvalue]
    exact iff_of_false nofun fun hfits => hrefused hfits.1
  · refine ⟨fun m => ?_, fun _ => ⟨n, hvalue⟩, fun hfault' => absurd hfault hfault'⟩
    rw [hvalue, hn]
    constructor
    · rintro ⟨⟩
      exact ⟨hfault, rfl⟩
    · rintro ⟨-, hm⟩
      rw [Int64.toInt_inj.1 (Option.some.inj hm)]

/-- Three coins, and the deepest debt there is. -/
def indebted : Scope := ⟨[("coins", .int 3), ("debt", .int (-9223372036854775808))], .none⟩

/-- What is owed after all coins are paid. -/
def balance : Expr := binary .add (name "debt") (name "coins")

/-- What is owed to a creditor who shares the debt and forgives all of it. -/
def forgiven : Expr :=
  binary .mul (binary .div (name "debt") (binary .sub (name "coins") (literal (.int 4))))
    (literal (.int 0))

theorem evaluate_arithmetic_indebted :
    (balance.IsArithmetic indebted ∧
      balance.evaluate indebted = .ok (.int (-9223372036854775805))) ∧
    forgiven.IsArithmetic indebted ∧ forgiven.evaluate indebted = .error (.overflow .div) := by
  have hcoins : IsArithmetic indebted (name "coins") := .name (n := 3) (by decide)
  have hdebt : IsArithmetic indebted (name "debt") := .name (n := -9223372036854775808) (by decide)
  have hbalance : balance.IsArithmetic indebted := .binary (by decide) hdebt hcoins
  have hforgiven : forgiven.IsArithmetic indebted :=
    .binary (by decide) (.binary (by decide) hdebt (.binary (by decide) hcoins (.literal 4)))
      (.literal 0)
  refine ⟨⟨hbalance, ((evaluate_arithmetic hbalance).1 _).2 ⟨fits_iff.2 (by decide), by decide⟩⟩,
    hforgiven, ?_⟩
  -- the product would be in range again, but the quotient before it is not
  have hfault : forgiven.nodes.findSome? (fault? indebted) = some (.overflow .div) := by decide
  obtain ⟨error, hfirst, hvalue⟩ := (evaluate_arithmetic hforgiven).2.2 fun hfits =>
    nomatch (fits_iff.1 hfits).symm.trans hfault
  rwa [Option.some.inj (hfault.symm.trans hfirst)]

end Expr

end StoryWorld
