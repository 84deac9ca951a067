/-! Insertion-ordered tables: a key keeps the place of its first entry and takes the last value. -/

namespace StoryWorld

/-- A table as the list of its entries, in the order in which their keys were first set. -/
abbrev Entries (κ α : Type) := List (κ × α)

namespace Entries

variable {κ α : Type} [BEq κ]

/-- The value of `k`. -/
def get? : Entries κ α → κ → Option α
  | [], _ => none
  | (k', a) :: es, k => if k' == k then some a else get? es k

/-- Whether `k` has a value. -/
def has (es : Entries κ α) (k : κ) : Bool := es.any (·.1 == k)

/-- Gives `k` the value `a`, in place if `k` has a value already. -/
def set : Entries κ α → κ → α → Entries κ α
  | [], k, a => [(k, a)]
  | (k', a') :: es, k, a => if k' == k then (k', a) :: es else (k', a') :: set es k a

/-- The keys in order. -/
def keys (es : Entries κ α) : List κ := es.map (·.1)

theorem keys_set (es : Entries κ α) (k : κ) (a : α) :
    (es.set k a).keys = if es.has k then es.keys else es.keys ++ [k] := by
  induction es with
  | nil => rfl
  | cons e es ih =>
    obtain ⟨k', a'⟩ := e
    by_cases h : k' == k
    · simp [set, has, keys, h]
    · simp only [keys, has] at ih
      simp only [set, has, keys, h, Bool.false_eq_true, if_false, List.map_cons, List.any_cons,
        Bool.false_or, ih]
      by_cases hes : es.any (·.1 == k) <;> simp [hes]

variable [LawfulBEq κ]

theorem get?_set_self (es : Entries κ α) (k : κ) (a : α) : (es.set k a).get? k = some a := by
  induction es with
  | nil => simp [set, get?]
  | cons e es ih =>
    obtain ⟨k', a'⟩ := e
    by_cases h : k' == k
    · simp [set, get?, h]
    · simp [set, get?, h, ih]

theorem get?_set_of_ne {k k' : κ} (es : Entries κ α) (a : α) (h : k' ≠ k) :
    (es.set k a).get? k' = es.get? k' := by
  have hb : (k == k') = false := by simpa using Ne.symm h
  induction es with
  | nil => simp [set, get?, hb]
  | cons e es ih =>
    obtain ⟨k₁, a₁⟩ := e
    by_cases h₁ : k₁ == k
    · simp [set, get?, eq_of_beq h₁, hb]
    · simp [set, get?, h₁, ih]

end Entries

end StoryWorld
