import StoryWorld.Proofs.Rule.Passes

/-!
# The candidate nodes of a character

A character that is made by its own operations has every node that it can be in among its
candidates, and none of them twice.
-/

namespace StoryWorld.Character

/-- The characters that their operations make. -/
inductive Built : Character → Prop
  | ofName (name : String) : Built (ofName name)
  | addCharacteristic {c : Character} (key : String) (v : Value) (hc : Built c) :
    Built (c.addCharacteristic key v).1
  | addRule {c : Character} (r : Rule) (hc : Built c) : Built (c.addRule r)
  | kill {c : Character} (hc : Built c) : Built c.kill

/-- Every value that the node key starts with or is assigned is a candidate, as shown. -/
structure NotesNodes (c : Character) : Prop where
  static : ∀ v, c.characteristics.get? Key.node = some v → v.shown ∈ c.candidates
  assigned : ∀ v, (Key.node, v) ∈ Rule.allAssignments c.rules → v.shown ∈ c.candidates

variable {c : Character} {world : Attributes} {settings : Settings}

/-! ## What an evaluation binds -/

theorem reaches_evaluate (h : c.evaluate world settings = .ok e) :
    (c.scope world).Reaches (Rule.allAssignments c.rules) ⟨e.values, world⟩ := by
  have hafter (n : Nat) : (c.scope world).Reaches (Rule.allAssignments c.rules)
      ⟨(Rule.scopeAfter c.rules (c.scope world) n).locals, world⟩ :=
    ⟨rfl, (Rule.reaches_scopeAfter n).get?⟩
  rcases evaluate_eq_ok h with ⟨_, rfl⟩ | ⟨n, _, _, _, rfl⟩
  · exact hafter _
  · exact hafter _

theorem isInNode_iff : c.isInNode node world settings = true ↔
    c.alive = true ∧ ∃ e, c.evaluate world settings = .ok e ∧ e.node? = some node := by
  rw [isInNode, Bool.and_eq_true]
  rcases c.evaluate world settings with error | e
  · simp
  · simp

theorem NotesNodes.mem_candidates (hc : c.NotesNodes) (h : c.evaluate world settings = .ok e)
    (hnode : e.node? = some node) : node ∈ c.candidates := by
  obtain ⟨v, hv, rfl⟩ := Option.map_eq_some_iff.1 hnode
  rcases (reaches_evaluate h).get? Key.node with hstatic | ⟨v', hmem, hassigned⟩
  · exact hc.static v (hstatic.symm.trans hv)
  · rw [hv] at hassigned
    cases hassigned
    exact hc.assigned v hmem

/-! ## What the operations note -/

theorem notesNodes_ofName (name : String) : (ofName name).NotesNodes where
  static v h := by
    have hne : Key.name ≠ Key.node := by decide
    simp [ofName, Entries.get?, hne] at h
  assigned v h := by cases h

theorem NotesNodes.addCharacteristic (hc : c.NotesNodes) (key : String) (v : Value) :
    (c.addCharacteristic key v).1.NotesNodes := by
  constructor
  · intro v' hv'
    by_cases hkey : Key.canonical key = Key.node
    · have hset : (c.characteristics.set (Key.canonical key) v).get? Key.node = some v := by
        rw [hkey]
        exact Entries.get?_set_self ..
      simp only [Character.addCharacteristic] at hv' ⊢
      rw [hset] at hv'
      cases hv'
      rw [if_pos hkey]
      exact mem_noteName.2 (.inr rfl)
    · simp only [Character.addCharacteristic] at hv' ⊢
      rw [Entries.get?_set_of_ne _ _ (Ne.symm hkey)] at hv'
      rw [if_neg hkey]
      exact hc.static v' hv'
  · intro v' hv'
    have hold : v'.shown ∈ c.candidates := hc.assigned v' hv'
    simp only [Character.addCharacteristic]
    split
    · exact mem_noteName.2 (.inl hold)
    · exact hold

theorem NotesNodes.addRule (hc : c.NotesNodes) (r : Rule) : (c.addRule r).NotesNodes := by
  constructor
  · intro v hv
    exact mem_foldl_noteName.2 (.inl (hc.static v hv))
  · intro v hv
    rw [Character.addRule, Rule.allAssignments_concat, List.mem_append] at hv
    rcases hv with hv | hv
    · exact mem_foldl_noteName.2 (.inl (hc.assigned v hv))
    · exact mem_foldl_noteName.2 (.inr (r.mem_nodeNames_iff.2 ⟨v, hv, rfl⟩))

theorem Built.notesNodes (hc : c.Built) : c.NotesNodes := by
  induction hc with
  | ofName name => exact notesNodes_ofName name
  | addCharacteristic key v _ ih => exact ih.addCharacteristic key v
  | addRule r _ ih => exact ih.addRule r
  | kill _ ih => exact ⟨ih.static, ih.assigned⟩

/-! ## Candidates are noted once -/

theorem nodup_candidates_addCharacteristic (hc : c.candidates.Nodup) (key : String) (v : Value) :
    (c.addCharacteristic key v).1.candidates.Nodup := by
  simp only [addCharacteristic]
  split
  · exact nodup_noteName hc _
  · exact hc

theorem Built.nodup_candidates (hc : c.Built) : c.candidates.Nodup := by
  induction hc with
  | ofName name => exact List.nodup_nil
  | addCharacteristic key v _ ih => exact nodup_candidates_addCharacteristic ih key v
  | addRule r _ ih => exact nodup_foldl_noteName ih r.nodeNames
  | kill _ ih => exact ih

end StoryWorld.Character
