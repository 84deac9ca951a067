import StoryWorld.Proofs.World.History
import StoryWorld.World.Link
import StoryWorld.World.Visible

/-!
# Who is in a node

A linked node looks only at the characters that declare it. It shows the same as a look at all
characters, however the world changes after it was linked.
-/

namespace StoryWorld.World

variable {w w' : World}

/-! ## Links to characters -/

theorem mem_candidatesAt {h : Handle .node} {k : Handle .character} :
    k ∈ w.candidatesAt h ↔ ∃ c, w.characters.get? k = some c ∧
      ∃ name ∈ c.candidates, w.nodes.handle? name = some h := by
  simp only [candidatesAt, List.mem_map, List.mem_filter, List.any_eq_true, beq_iff_eq]
  constructor
  · rintro ⟨⟨k', c⟩, ⟨hmem, hname⟩, rfl⟩
    exact ⟨c, Registry.mem_entries.1 hmem, hname⟩
  · rintro ⟨c, hc, hname⟩
    exact ⟨(k, c), ⟨Registry.mem_entries.2 hc, hname⟩, rfl⟩

theorem pairwise_candidatesAt (w : World) (h : Handle .node) :
    (w.candidatesAt h).Pairwise fun k k' => k.index < k'.index :=
  List.pairwise_map.2 ((Registry.pairwise_entries w.characters).sublist List.filter_sublist)

/-- Every node is linked to the characters that declare it, in order. -/
structure Linked (w : World) : Prop where
  mem_possible : ∀ {h : Handle .node} {n : Node}, w.nodes.get? h = some n →
    ∀ k, k ∈ n.possible ↔ ∃ c, w.characters.get? k = some c ∧
      ∃ name ∈ c.candidates, w.nodes.handle? name = some h
  pairwise_possible : ∀ {h : Handle .node} {n : Node}, w.nodes.get? h = some n →
    n.possible.Pairwise fun k k' => k.index < k'.index

theorem linked_link (w : World) : w.link.1.Linked := by
  have hpossible {h : Handle .node} {n : Node} (hn : w.link.1.nodes.get? h = some n) :
      n.possible = w.candidatesAt h := by
    rw [link, Registry.get?_mapEntries] at hn
    obtain ⟨old, _, rfl⟩ := Option.map_eq_some_iff.1 hn
    rfl
  constructor
  · intro h n hn k
    rw [hpossible hn]
    exact mem_candidatesAt
  · intro h n hn
    rw [hpossible hn]
    exact pairwise_candidatesAt w h

theorem Indexed.link (hw : w.Indexed) : w.link.1.Indexed :=
  ⟨hw.nodes.mapEntries _ fun _ _ => rfl, hw.characters, hw.quests⟩

theorem Linked.changed (hw : w.Linked) (h : Changed w w') : w'.Linked := by
  cases h with
  | clock _ => exact ⟨hw.mem_possible, hw.pairwise_possible⟩
  | quest _ _ _ _ _ => exact ⟨hw.mem_possible, hw.pairwise_possible⟩
  | nothing => exact hw
  | kill dead =>
    refine ⟨fun {h n} hn k => ?_, hw.pairwise_possible⟩
    rw [hw.mem_possible hn, kill, modifyCharacter]
    simp only [Registry.get?_modify]
    by_cases hk : k = dead
    · -- death leaves the candidates as they are
      simp only [hk, if_true, Option.map_eq_some_iff]
      constructor
      · rintro ⟨c, hc, hname⟩
        exact ⟨c.kill, ⟨c, hc, rfl⟩, hname⟩
      · rintro ⟨_, ⟨c, hc, rfl⟩, hname⟩
        exact ⟨c, hc, hname⟩
    · simp only [hk, if_false]

/-! ## The characters shown -/

theorem handle_of_visible? {n : Node} (h : w.visible? n k = some v) : v.handle = k := by
  unfold visible? at h
  split at h
  · cases h
  · split at h
    · split at h
      · cases h
      · split at h
        · cases h
          rfl
        · cases h
    · cases h

theorem isSome_visible?_iff {n : Node} : (w.visible? n k).isSome = true ↔
    ∃ c, w.characters.get? k = some c ∧ w.isInNode c n.name = true := by
  unfold visible? isInNode
  rcases w.characters.get? k with _ | c
  · simp
  · simp only [Option.some.injEq, exists_eq_left', Character.isInNode_iff]
    by_cases halive : c.alive
    · simp only [halive, if_true, true_and, World.evaluate]
      rcases c.evaluate w.attributes w.settings with error | e
      · simp
      · by_cases hnode : e.node? = some n.name
        · simp [hnode]
        · simp [hnode]
    · simp [halive]

theorem handles_activeCharacters {h : Handle .node} {n : Node} (hn : w.nodes.get? h = some n) :
    (w.activeCharacters h).map (·.handle) =
      n.possible.filter fun k => (w.visible? n k).isSome := by
  simp only [activeCharacters, hn]
  induction n.possible with
  | nil => rfl
  | cons k ks ih =>
    rcases hv : w.visible? n k with _ | v
    · simp only [List.filterMap_cons, hv, List.filter_cons, Option.isSome_none,
        Bool.false_eq_true, if_false, ih]
    · simp only [List.filterMap_cons, hv, List.filter_cons, Option.isSome_some, if_true,
        List.map_cons, ih, handle_of_visible? hv]

/-! ## Links agree with a look at all characters -/

theorem mem_possible_of_isInNode {h : Handle .node} {n : Node} (hi : w.Indexed) (hl : w.Linked)
    (hnoted : w.Noted) (hn : w.nodes.get? h = some n) (hc : w.characters.get? k = some c)
    (hin : w.isInNode c n.name = true) : k ∈ n.possible := by
  obtain ⟨_, e, he, hnode⟩ := Character.isInNode_iff.1 hin
  have hcandidate : n.name ∈ c.candidates := (hnoted k c hc).mem_candidates he hnode
  exact (hl.mem_possible hn k).2 ⟨c, hc, n.name, hcandidate, hi.nodes.handle?_nameOf hn⟩

/-- The world that registrations make, linked and then changed. -/
def linkedAfter (settings : Settings) (rs : List Registration) (cs : List Change) : World :=
  (registered settings rs).link.1.after cs

theorem invariants_linkedAfter (settings : Settings) (rs : List Registration)
    (cs : List Change) :
    (linkedAfter settings rs cs).Indexed ∧ (linkedAfter settings rs cs).Linked ∧
      (linkedAfter settings rs cs).Noted := by
  have hregistered : (registered settings rs).Indexed ∧ (registered settings rs).Noted :=
    List.foldlRecOn (motive := fun w => w.Indexed ∧ w.Noted) rs add
      ⟨indexed_empty settings, noted_empty settings⟩
      fun _ h r _ => ⟨h.1.add r, h.2.add h.1 r⟩
  exact List.foldlRecOn (motive := fun w => w.Indexed ∧ w.Linked ∧ w.Noted) cs change
    ⟨hregistered.1.link, linked_link _, hregistered.2⟩
    fun w h c _ =>
      have hchanged := changed_change w c
      ⟨h.1.changed hchanged, h.2.1.changed hchanged, h.2.2.changed hchanged⟩

/-- Linked nodes miss nobody: of all characters, a node shows those whose rules place them there,
each once and in the order of their handles. -/
theorem handles_activeCharacters_iff (settings : Settings) (rs : List Registration)
    (cs : List Change) (h : Handle .node) (n : Node)
    (hn : (linkedAfter settings rs cs).nodes.get? h = some n) :
    (∀ k, k ∈ ((linkedAfter settings rs cs).activeCharacters h).map (·.handle) ↔
      ∃ c, (linkedAfter settings rs cs).characters.get? k = some c ∧
        (linkedAfter settings rs cs).isInNode c n.name = true) ∧
    (((linkedAfter settings rs cs).activeCharacters h).map (·.handle)).Pairwise
      fun k k' => k.index < k'.index := by
  obtain ⟨hi, hl, hnoted⟩ := invariants_linkedAfter settings rs cs
  rw [handles_activeCharacters hn]
  constructor
  · intro k
    rw [List.mem_filter, isSome_visible?_iff]
    constructor
    · exact And.right
    · rintro ⟨c, hc, hin⟩
      exact ⟨mem_possible_of_isInNode hi hl hnoted hn hc hin, c, hc, hin⟩
  · exact (hl.pairwise_possible hn).sublist List.filter_sublist

/-- Is at the inn from three o'clock. -/
def guest : Character := (Character.ofName "Ann").addRule
  ⟨⟨"hour >= 3", .binary .ge (.name "hour") (.literal (.int 3))⟩,
    [.assigning "node" (.text "Inn")]⟩

theorem handles_activeCharacters_guest :
    ⟨0⟩ ∈ ((linkedAfter {} [.character guest (.addRule _ (.ofName _)), .node { name := "Inn" }]
      [.hours 4]).activeCharacters ⟨0⟩).map (·.handle) := by
  have hinn : (linkedAfter {} [.character guest (.addRule _ (.ofName _)), .node { name := "Inn" }]
      [.hours 4]).nodes.get? ⟨0⟩ = some { name := "Inn", possible := [⟨0⟩] } := by decide +kernel
  exact ((handles_activeCharacters_iff _ _ _ _ _ hinn).1 ⟨0⟩).2 ⟨guest, rfl, by decide +kernel⟩

end StoryWorld.World
