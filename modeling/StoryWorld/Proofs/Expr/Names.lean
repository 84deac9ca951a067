import StoryWorld.Proofs.Operator.Results

/-!
# The names that an expression needs

Every operand is evaluated, also one that the other operand decides the answer without. So an
expression has a value only where all its names resolve, and the first name that does not is the
only one that a failure can blame.
-/

namespace StoryWorld

/-! ## Names that resolve -/

namespace Scope

variable {s : Scope} {x : String} {v : Value} {error : EvalError}

/-- A name resolves if it is bound locally, or else by the world. -/
def Resolves (s : Scope) (x : String) : Prop :=
  (∃ v, s.locals.get? x = some v) ∨ ∃ v, s.world x = some v

theorem resolves_iff : s.Resolves x ↔ (s.lookup? x).isSome = true := by
  rw [Resolves, lookup?, Option.isSome_or, Bool.or_eq_true, Option.isSome_iff_exists,
    Option.isSome_iff_exists]

instance (s : Scope) (x : String) : Decidable (s.Resolves x) := decidable_of_iff _ resolves_iff.symm

theorem resolves_of_lookup_eq_ok (h : s.lookup x = .ok v) : s.Resolves x := by
  rw [resolves_iff]
  rw [lookup] at h
  split at h
  · next hx => rw [hx, Option.isSome_some]
  · cases h

theorem of_lookup_eq_error (h : s.lookup x = .error error) :
    error = .unknownName x ∧ ¬ s.Resolves x := by
  rw [resolves_iff]
  rw [lookup] at h
  split at h
  · cases h
  · next hx =>
    cases h
    exact ⟨rfl, by rw [hx]; nofun⟩

end Scope

theorem Operator.apply_ne_unknownName (op : Operator) (a b : Value) (x : String) :
    op.apply a b ≠ .error (.unknownName x) := by
  intro h
  have hyields := yields_apply op a b
  rw [h] at hyields
  cases hyields

namespace Expr

variable {s : Scope} {e left right : Expr} {op : Operator} {v : Value} {error : EvalError}

theorem evaluate_binary_eq_error (h : (binary op left right).evaluate s = .error error) :
    left.evaluate s = .error error ∨
      ∃ a, left.evaluate s = .ok a ∧ (right.evaluate s = .error error ∨
        ∃ b, right.evaluate s = .ok b ∧ op.apply a b = .error error) := by
  rw [evaluate] at h
  rcases hleft : left.evaluate s with e | a
  · rw [hleft] at h
    exact .inl h
  · rcases hright : right.evaluate s with e | b
    · rw [hleft, hright] at h
      exact .inr ⟨a, rfl, .inl h⟩
    · rw [hleft, hright] at h
      exact .inr ⟨a, rfl, .inr ⟨b, rfl, h⟩⟩

theorem resolves_of_evaluate_eq_ok (h : e.evaluate s = .ok v) : ∀ x ∈ e.names, s.Resolves x := by
  induction e generalizing v with
  | literal _ => exact nofun
  | name ident =>
    intro x hx
    rw [List.mem_singleton.1 hx]
    exact Scope.resolves_of_lookup_eq_ok h
  | binary op left right ihl ihr =>
    obtain ⟨a, b, hleft, hright, -⟩ := evaluate_binary_eq_ok h
    exact List.forall_mem_append.2 ⟨ihl hleft, ihr hright⟩

theorem find?_names_of_evaluate (h : e.evaluate s = .error (.unknownName x)) :
    e.names.find? (fun y => ¬ s.Resolves y) = some x := by
  induction e with
  | literal _ => cases h
  | name ident =>
    obtain ⟨⟨⟩, hunresolved⟩ := Scope.of_lookup_eq_error h
    exact List.find?_cons_of_pos (decide_eq_true hunresolved)
  | binary op left right ihl ihr =>
    rw [names, List.find?_append]
    rcases evaluate_binary_eq_error h with hleft | ⟨a, hleft, hright | ⟨b, -, happly⟩⟩
    · rw [ihl hleft, Option.some_or]
    · -- the left operand has a value, so the search goes past its names
      have hresolve := resolves_of_evaluate_eq_ok hleft
      rw [List.find?_eq_none.2 (by simpa using hresolve), Option.none_or, ihr hright]
    · exact absurd happly (op.apply_ne_unknownName a b x)

/-- All names of an expression that has a value resolve, a name that does not resolve makes it fail,
and a failure that blames a name blames the first that does not resolve. -/
theorem evaluate_needs_names (s : Scope) (e : Expr) :
    (∀ v, e.evaluate s = .ok v → ∀ x ∈ e.names, s.Resolves x) ∧
    (∀ x ∈ e.names, ¬ s.Resolves x → ∃ error, e.evaluate s = .error error) ∧
    ∀ x, e.evaluate s = .error (.unknownName x) →
      ¬ s.Resolves x ∧ ∃ before after, e.names = before ++ x :: after ∧ x ∉ before ∧
        ∀ y ∈ before, s.Resolves y := by
  refine ⟨fun v => resolves_of_evaluate_eq_ok, fun x hx hunresolved => ?_, fun x h => ?_⟩
  · cases hvalue : e.evaluate s with
    | error error => exact ⟨error, rfl⟩
    | ok v => exact absurd (resolves_of_evaluate_eq_ok hvalue x hx) hunresolved
  · obtain ⟨hx, before, after, hnames, hbefore⟩ :=
      List.find?_eq_some_iff_append.1 (find?_names_of_evaluate h)
    have hunresolved : ¬ s.Resolves x := of_decide_eq_true hx
    have hresolve : ∀ y ∈ before, s.Resolves y := by simpa using hbefore
    have hfirst : x ∉ before := fun hmem => hunresolved (hresolve x hmem)
    exact ⟨hunresolved, before, after, hnames, hfirst, hresolve⟩

/-- Whether it is bright, or there are more torches than have burnt. -/
def enoughLight : Expr :=
  binary .or (name "bright") (binary .gt (name "torches") (name "burnt"))

/-- A bright day, with torches or without. -/
def atNoon (torches : Entries String Value) : Scope := ⟨("bright", .bool true) :: torches, .none⟩

theorem evaluate_needs_names_enoughLight :
    (enoughLight.evaluate (atNoon [("torches", .int 2), ("burnt", .int 1)]) = .ok (.bool true) ∧
      (atNoon [("torches", .int 2), ("burnt", .int 1)]).Resolves "burnt") ∧
    enoughLight.evaluate (atNoon []) = .error (.unknownName "torches") ∧
    ∃ before after, enoughLight.names = before ++ "torches" :: after ∧
      ∀ y ∈ before, (atNoon []).Resolves y := by
  have hvalue : enoughLight.evaluate (atNoon [("torches", .int 2), ("burnt", .int 1)]) =
      .ok (.bool true) := rfl
  have hblamed : enoughLight.evaluate (atNoon []) = .error (.unknownName "torches") := rfl
  obtain ⟨-, before, after, hnames, -, hresolve⟩ :=
    (evaluate_needs_names (atNoon []) enoughLight).2.2 _ hblamed
  have hburnt := (evaluate_needs_names _ _).1 _ hvalue "burnt" (by decide)
  exact ⟨⟨hvalue, hburnt⟩, hblamed, before, after, hnames, hresolve⟩

end Expr

end StoryWorld
