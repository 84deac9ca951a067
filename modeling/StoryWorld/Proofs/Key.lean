import StoryWorld.Key

/-! The spellings that keys are kept under. -/

namespace StoryWorld.Key

theorem canonical_node : canonical node = node := by decide

theorem canonical_cases (key : String) :
    canonical key ∈ [node, name, description] ∨ canonical key = key := by
  unfold canonical
  split
  · exact .inl (by decide)
  split
  · exact .inl (by decide)
  split
  · exact .inl (by decide)
  · exact .inr rfl

theorem canonical_canonical (key : String) : canonical (canonical key) = canonical key := by
  have hown : ∀ key ∈ [node, name, description], canonical key = key := by decide
  rcases canonical_cases key with h | h
  · exact hown _ h
  · rw [h, h]

/-- A key changes at most in the case of its letters. -/
theorem sameFolded_canonical (key : String) : Text.sameFolded key (canonical key) = true := by
  unfold canonical
  split
  · assumption
  split
  · assumption
  split
  · assumption
  · exact beq_self_eq_true _

/-- A key with a meaning is kept in capitals, however it is written. -/
theorem canonical_of_sameFolded (hknown : known ∈ [node, name, description])
    (h : Text.sameFolded key known = true) : canonical key = known := by
  have hdistinct : ∀ known ∈ [node, name, description], ∀ known' ∈ [node, name, description],
      Text.foldCase known = Text.foldCase known' → known = known' := by decide
  -- the first key with a meaning that matches is the only one
  have hmatch : ∀ known' ∈ [node, name, description],
      Text.sameFolded key known' = true → known' = known := fun known' hknown' h' =>
    hdistinct _ hknown' _ hknown ((eq_of_beq h').symm.trans (eq_of_beq h))
  unfold canonical
  split
  · next h' => exact hmatch _ (by decide) h'
  split
  · next h' => exact hmatch _ (by decide) h'
  split
  · next h' => exact hmatch _ (by decide) h'
  · next hnode hname hdescription =>
    simp only [List.mem_cons, List.not_mem_nil, or_false] at hknown
    rcases hknown with rfl | rfl | rfl
    · exact absurd h hnode
    · exact absurd h hname
    · exact absurd h hdescription

/-- The keys that are kept as they are written are all but the small and mixed spellings of those
with a meaning. -/
theorem canonical_eq_self_iff : canonical key = key ↔
    ∀ known ∈ [node, name, description], Text.sameFolded key known = true → key = known := by
  constructor
  · intro hown known hknown h
    exact hown.symm.trans (canonical_of_sameFolded hknown h)
  · intro hcapitals
    rcases canonical_cases key with hknown | hown
    · exact (hcapitals _ hknown (sameFolded_canonical key)).symm
    · exact hown

end StoryWorld.Key
