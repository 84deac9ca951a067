import StoryWorld.Condition
import StoryWorld.Proofs.Entries
import StoryWorld.Proofs.Operator.Results
import StoryWorld.Proofs.Value.Numeric

/-!
# Conditions without text

Where neither the literals of an expression nor the names of its scope stand for text, every boolean
can be replaced by 1 or 0: the expression fails in the same way or has a value of the same number,
and a condition holds or fails to hold as before.
-/

namespace StoryWorld

/-! ## Numbers in place of booleans -/

/-- The scope, with 1 or 0 for every boolean that a name stands for. -/
def Scope.numeric (s : Scope) : Scope where
  locals := s.locals.map fun (key, v) => (key, v.numeric)
  world x := (s.world x).map .numeric

theorem Scope.lookup?_numeric (s : Scope) (x : String) :
    s.numeric.lookup? x = (s.lookup? x).map .numeric := by
  simp only [lookup?, numeric, Entries.get?_mapValues, Option.map_or]

/-- The expression, with 1 or 0 for every boolean literal. -/
def Expr.numeric : Expr → Expr
  | literal v => literal v.numeric
  | name ident => name ident
  | binary op left right => binary op left.numeric right.numeric

/-! ## Results of the same number -/

/-- Both fail in the same way, and not for a text, or both give a value of the same number. -/
inductive SameNumber : Except EvalError Value → Except EvalError Value → Prop
  | failed {error : EvalError} (h : ∀ op found, error ≠ .typeMismatch op found) :
    SameNumber (.error error) (.error error)
  | values {v w : Value} {n : Integer} (hv : v.HasNumber n) (hw : w.HasNumber n) :
    SameNumber (.ok v) (.ok w)

theorem SameNumber.unknownName (x : String) :
    SameNumber (.error (.unknownName x)) (.error (.unknownName x)) := .failed nofun

theorem Value.sameNumber_numeric {v : Value} (hv : ¬ v.IsText) :
    SameNumber (.ok v) (.ok v.numeric) := by
  obtain ⟨n, hn⟩ := exists_hasNumber hv
  exact .values hn fun op => (asInt_numeric v op).trans (hn op)

theorem Operator.sameNumber_apply {a a' b b' : Value} {m n : Integer} (ha : a.HasNumber m)
    (ha' : a'.HasNumber m) (hb : b.HasNumber n) (hb' : b'.HasNumber n) (op : Operator) :
    SameNumber (op.apply a b) (op.apply a' b') := by
  rw [← apply_eq_of_hasNumber ha ha' hb hb' op]
  have hyields := yields_apply op a b
  generalize op.apply a b = r at hyields ⊢
  cases hyields with
  | int n => exact .values (fun _ => rfl) fun _ => rfl
  | bool p => exact .values (fun _ => rfl) fun _ => rfl
  | divisionByZero => exact .failed nofun
  | overflow => exact .failed nofun
  | typeMismatch hfound htext =>
    rcases hfound with rfl | rfl
    · exact absurd htext ha.not_isText
    · exact absurd htext hb.not_isText

variable {s : Scope} {e : Expr} {r r' : Except EvalError Value}

/-- The truth view depends on the number alone. -/
theorem SameNumber.asBool_eq (h : SameNumber r r') (op : Operator) :
    (r' >>= Value.asBool op) = (r >>= Value.asBool op) := by
  cases h with
  | failed h => rfl
  | values hv hw => exact (hw.asBool_eq op).trans (hv.asBool_eq op).symm

theorem SameNumber.asBool_ne_typeMismatch (h : SameNumber r r') (op op' : Operator)
    (found : Value) : (r >>= Value.asBool op) ≠ .error (.typeMismatch op' found) := by
  cases h with
  | failed h => exact fun heq => h op' found (Except.error.inj heq)
  | values hv hw => exact fun heq => nomatch (hv.asBool_eq op).symm.trans heq

/-! ## Expressions -/

theorem Expr.sameNumber_evaluate (hliterals : ∀ v, literal v ∈ e.parts → ¬ v.IsText)
    (hscope : ∀ x v, s.lookup? x = some v → ¬ v.IsText) :
    SameNumber (e.evaluate s) (e.numeric.evaluate s.numeric) := by
  induction e with
  | literal v => exact Value.sameNumber_numeric (hliterals v (List.mem_singleton.2 rfl))
  | name x =>
    rw [numeric, evaluate, evaluate, Scope.lookup, Scope.lookup, Scope.lookup?_numeric]
    cases hx : s.lookup? x with
    | none => exact .unknownName x
    | some v => exact Value.sameNumber_numeric (hscope x v hx)
  | binary op left right ihl ihr =>
    have hleft := ihl fun v hv =>
      hliterals v (List.mem_cons_of_mem _ (List.mem_append_left _ hv))
    have hright := ihr fun v hv =>
      hliterals v (List.mem_cons_of_mem _ (List.mem_append_right _ hv))
    rw [numeric, evaluate, evaluate]
    generalize left.evaluate s = l, left.numeric.evaluate s.numeric = l' at hleft
    generalize right.evaluate s = r, right.numeric.evaluate s.numeric = r' at hright
    cases hleft with
    | failed h => exact .failed h
    | values ha ha' =>
      cases hright with
      | failed h => exact .failed h
      | values hb hb' => exact Operator.sameNumber_apply ha ha' hb hb' op

/-- Without text in its literals or its scope, an expression with numbers in place of booleans
fails as before or has a value of the same number, no operand is refused for its type, and a
condition has the same answer. -/
theorem Expr.evaluate_numeric (hliterals : ∀ v, literal v ∈ e.parts → ¬ v.IsText)
    (hscope : ∀ x v, s.lookup? x = some v → ¬ v.IsText) :
    SameNumber (e.evaluate s) (e.numeric.evaluate s.numeric) ∧
    ∀ source, Condition.holds ⟨source, e.numeric⟩ s.numeric = Condition.holds ⟨source, e⟩ s ∧
      ∀ op found, Condition.holds ⟨source, e⟩ s ≠ .error (.typeMismatch op found) := by
  have hsame := sameNumber_evaluate hliterals hscope
  exact ⟨hsame, fun _ => ⟨hsame.asBool_eq .and, hsame.asBool_ne_typeMismatch .and⟩⟩

/-- Tired and without a coin, before it is dark. -/
def Scope.atDusk : Scope := ⟨[("tired", .bool true), ("coins", .int 0)],
  fun x => if x = "dark" then some (.bool false) else none⟩

/-- Rest comes with the dark, or when being tired and one more make two. -/
def Expr.timeToRest : Expr :=
  binary .or (name "dark")
    (binary .eq (binary .add (name "tired") (literal (.bool true))) (literal (.int 2)))

theorem Expr.evaluate_numeric_atDusk :
    (∀ v, literal v ∈ timeToRest.parts → ¬ v.IsText) ∧
    (∀ x v, Scope.atDusk.lookup? x = some v → ¬ v.IsText) ∧
    SameNumber (timeToRest.evaluate .atDusk) (timeToRest.numeric.evaluate Scope.atDusk.numeric) ∧
    Condition.holds ⟨"time to rest", timeToRest.numeric⟩ Scope.atDusk.numeric = .ok true := by
  have hliterals : ∀ v, literal v ∈ timeToRest.parts → ¬ v.IsText := by
    simp [timeToRest, parts, Value.IsText]
  have hscope : ∀ x v, Scope.atDusk.lookup? x = some v → ¬ v.IsText := by
    rintro x v hx ⟨t, rfl⟩
    simp only [Scope.lookup?, Scope.atDusk, Entries.get?] at hx
    grind
  obtain ⟨hsame, hholds⟩ := evaluate_numeric hliterals hscope
  exact ⟨hliterals, hscope, hsame, (hholds "time to rest").1.trans rfl⟩

end StoryWorld
