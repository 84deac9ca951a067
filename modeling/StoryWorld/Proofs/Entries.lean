import Mathlib.Data.List.Nodup
import StoryWorld.Entries

/-! Insertion-ordered tables: what setting a key does to lookups, keys and entries. -/

namespace StoryWorld

/-- A key behind others is one more to keep if it is not among them. -/
theorem eraseDups_concat {κ : Type} [BEq κ] [LawfulBEq κ] (ks : List κ) (k : κ) :
    (ks ++ [k]).eraseDups = if k ∈ ks then ks.eraseDups else ks.eraseDups ++ [k] := by
  rw [List.eraseDups_append, List.cons_removeAll, List.nil_removeAll]
  by_cases hmem : k ∈ ks
  · simp [hmem]
  · simp [hmem, List.eraseDups_cons]

namespace Entries

variable {κ α : Type} [BEq κ] {es : Entries κ α} {k : κ} {a : α}

theorem has_iff : es.has k = true ↔ ∃ a, es.get? k = some a := by
  induction es with
  | nil => simp [has, get?]
  | cons e es ih =>
    obtain ⟨k', a'⟩ := e
    rw [has] at ih ⊢
    by_cases h : k' == k
    · simp [get?, h]
    · simp only [List.any_cons, get?, h, Bool.false_or, Bool.false_eq_true, if_false, ih]

theorem get?_mapValues {β : Type} (f : α → β) (es : Entries κ α) (k : κ) :
    Entries.get? (es.map fun (key, a) => (key, f a)) k = (es.get? k).map f := by
  induction es with
  | nil => rfl
  | cons e es ih =>
    obtain ⟨k', a⟩ := e
    by_cases h : k' == k <;> simp [get?, h, ih]

variable [LawfulBEq κ]

theorem get?_set [DecidableEq κ] (es : Entries κ α) (k k' : κ) (a : α) :
    (es.set k a).get? k' = if k' = k then some a else es.get? k' := by
  by_cases hk : k' = k
  · rw [if_pos hk, hk, get?_set_self]
  · rw [if_neg hk, get?_set_of_ne es a hk]

theorem has_iff_mem_keys : es.has k = true ↔ k ∈ es.keys := by
  simp [has, keys]

/-- Every entry is an old one or the one that is set. -/
theorem mem_set {e : κ × α} (h : e ∈ es.set k a) : e = (k, a) ∨ e ∈ es := by
  induction es with
  | nil => exact .inl (List.mem_singleton.1 h)
  | cons e' es ih =>
    obtain ⟨k', a'⟩ := e'
    rw [set] at h
    split at h
    · next hk =>
      rcases List.mem_cons.1 h with rfl | h
      · exact .inl (by rw [eq_of_beq hk])
      · exact .inr (List.mem_cons_of_mem _ h)
    · rcases List.mem_cons.1 h with rfl | h
      · exact .inr List.mem_cons_self
      · exact (ih h).imp_right (List.mem_cons_of_mem _)

theorem nodup_keys_set (h : es.keys.Nodup) (k : κ) (a : α) : (es.set k a).keys.Nodup := by
  rw [keys_set]
  split
  · exact h
  · next hk =>
    have hnew : k ∉ es.keys := fun hmem => hk (has_iff_mem_keys.2 hmem)
    exact h.append (List.nodup_singleton k) (List.disjoint_singleton.2 hnew)

theorem mem_iff_get?_eq (h : es.keys.Nodup) : (k, a) ∈ es ↔ es.get? k = some a := by
  induction es with
  | nil => simp [get?]
  | cons e es ih =>
    obtain ⟨k', a'⟩ := e
    obtain ⟨hnew, hrest⟩ := List.nodup_cons.1 h
    by_cases hk : k' = k
    · subst hk
      have hnot : (k', a) ∉ es := fun hmem => hnew (List.mem_map.2 ⟨_, hmem, rfl⟩)
      simp [get?, hnot, eq_comm]
    · simp [get?, hk, Ne.symm hk, ih hrest]

theorem set_of_notMem_keys (h : k ∉ es.keys) (a : α) : es.set k a = es ++ [(k, a)] := by
  induction es with
  | nil => rfl
  | cons e es ih =>
    obtain ⟨k', a'⟩ := e
    rw [keys, List.map_cons, List.mem_cons, not_or] at h
    have hk : (k' == k) = false := by simpa using Ne.symm h.1
    rw [set, hk, ih h.2]
    rfl

end Entries

end StoryWorld
