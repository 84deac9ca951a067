import Mathlib.Data.List.Induction
import StoryWorld.Proofs.Entries
import StoryWorld.Proofs.World.Roster

/-!
# What a world represents

After any operations on an empty world, each roster holds one thing for every name that was
registered: the last one, as the operations since have left it, at the handle that the name was
first given. Links lead to handles that there are, unless a node was added with others: a node of
one world can be added to another, and then keeps its old links until it is linked anew.
-/

namespace StoryWorld

namespace World

variable {settings : Settings} {w : World}

namespace Roster

variable {k : Kind} {α : Type} (R : Roster k α)

/-- The names that operations register, in order. -/
def names (ops : List Operation) : List String := (ops.filterMap R.registered?).map R.nameOf

/-- What operations on a world make of the thing at a handle. -/
def undergoAll (h : Handle k) : World → α → List Operation → α
  | _, a, [] => a
  | w, a, op :: ops => undergoAll h (w.perform op) (R.undergo w op h a) ops

/-- What a roster holds after operations. -/
structure Represents (settings : Settings) (ops : List Operation) : Prop where
  /-- A name has a handle exactly if the thing there has that name. -/
  agrees : ∀ name h, (R.registry (run settings ops)).handle? name = some h ↔
    ∃ a, (R.registry (run settings ops)).get? h = some a ∧ R.nameOf a = name
  /-- Handles are given out in the order in which names are first registered. -/
  names_eq : (R.registry (run settings ops)).items.map R.nameOf = (R.names ops).eraseDups
  nodup : ((R.registry (run settings ops)).items.map R.nameOf).Nodup
  /-- The last thing registered under a name has its handle, as later operations leave it. -/
  last : ∀ h a, (R.registry (run settings ops)).get? h = some a → ∃ before op b after,
    ops = before ++ op :: after ∧ R.registered? op = some b ∧ R.nameOf b = R.nameOf a ∧
      R.nameOf a ∉ R.names after ∧ a = R.undergoAll h (run settings (before ++ [op])) b after
  /-- A name that was registered before has its old handle, with a warning. -/
  again : ∀ a, R.nameOf a ∈ R.names ops →
    ∃ h, (R.registry (run settings ops)).handle? (R.nameOf a) = some h ∧
      (R.add (run settings ops) a).2 = (h, some (R.duplicate (R.nameOf a)))
  /-- A name that was not has the next handle. -/
  first : ∀ a, R.nameOf a ∉ R.names ops →
    (R.add (run settings ops) a).2 = (⟨(R.registry (run settings ops)).size⟩, none)
  /-- Handles never change their owner. -/
  owner : ∀ more h a, (R.registry (run settings ops)).get? h = some a →
    ∃ b, (R.registry (run settings (ops ++ more))).get? h = some b ∧ R.nameOf b = R.nameOf a

variable {R}

theorem names_concat (ops : List Operation) (op : Operation) :
    R.names (ops ++ [op]) = R.names ops ++ ((R.registered? op).map R.nameOf).toList := by
  rw [names, List.filterMap_append, List.map_append, names]
  rcases h : R.registered? op with _ | a
  · simp [h]
  · simp [h]

theorem undergoAll_concat (h : Handle k) (w : World) (a : α) (ops : List Operation)
    (op : Operation) : R.undergoAll h w a (ops ++ [op]) =
      R.undergo (ops.foldl perform w) op h (R.undergoAll h w a ops) := by
  induction ops generalizing w a with
  | nil => rfl
  | cons op' ops ih => exact ih (w.perform op') (R.undergo w op' h a)

/-! ## One operation -/

theorem registry_perform_registering (h : R.registered? op = some a) (w : World) :
    R.registry (w.perform op) = ((R.registry w).insert (R.nameOf a) a).1 := by
  rw [R.perform_registering h, R.registry_add]

/-- An operation leaves every handle to a thing of the same name. -/
theorem get?_perform (hw : w.Indexed) (op : Operation) (ha : (R.registry w).get? h = some a) :
    ∃ b, (R.registry (w.perform op)).get? h = some b ∧ R.nameOf b = R.nameOf a := by
  rcases hop : R.registered? op with _ | b
  · rw [R.perform_other hw hop, Registry.get?_mapEntries, ha]
    exact ⟨_, rfl, R.nameOf_undergo w op h a⟩
  · rw [registry_perform_registering hop, (R.agrees hw).get?_insert]
    split
    · next hh =>
      refine ⟨b, rfl, ?_⟩
      rcases hname : (R.registry w).handle? (R.nameOf b) with _ | h'
      · rw [Registry.insert_of_new hname] at hh
        rw [hh] at ha
        exact absurd (Registry.index_lt_size ha) (Nat.lt_irrefl _)
      · rw [Registry.insert_of_handle? hname] at hh
        obtain rfl : h = h' := hh
        obtain ⟨a', ha', hnameOf⟩ := (R.agrees hw _ _).1 hname
        rw [ha] at ha'
        cases ha'
        exact hnameOf.symm
    · exact ⟨a, ha, rfl⟩

theorem names_perform_registering (hw : w.Indexed) (h : R.registered? op = some a) :
    (R.registry (w.perform op)).items.map R.nameOf =
      if R.nameOf a ∈ (R.registry w).items.map R.nameOf then
        (R.registry w).items.map R.nameOf
      else (R.registry w).items.map R.nameOf ++ [R.nameOf a] := by
  rw [registry_perform_registering h, (R.agrees hw).names_insert]

theorem names_perform_other (hw : w.Indexed) (h : R.registered? op = none) :
    (R.registry (w.perform op)).items.map R.nameOf = (R.registry w).items.map R.nameOf := by
  rw [R.perform_other hw h, Registry.names_mapEntries _ (R.nameOf_undergo w op)]

/-! ## Many operations -/

theorem get?_foldl_perform (hw : w.Indexed) (ops : List Operation)
    (ha : (R.registry w).get? h = some a) :
    ∃ b, (R.registry (ops.foldl perform w)).get? h = some b ∧ R.nameOf b = R.nameOf a := by
  induction ops generalizing w a with
  | nil => exact ⟨a, ha, rfl⟩
  | cons op ops ih =>
    obtain ⟨b, hb, hba⟩ := get?_perform hw op ha
    obtain ⟨c, hc, hcb⟩ := ih (hw.perform op) hb
    exact ⟨c, hc, hcb.trans hba⟩

theorem names_run (settings : Settings) (ops : List Operation) :
    (R.registry (run settings ops)).items.map R.nameOf = (R.names ops).eraseDups := by
  induction ops using List.reverseRecOn with
  | nil =>
    have hempty : R.registry (run settings []) = {} := R.registry_empty settings
    rw [hempty]
    rfl
  | append_singleton ops op ih =>
    rw [run_concat, names_concat]
    rcases hop : R.registered? op with _ | a
    · rw [names_perform_other (indexed_run settings ops) hop, ih, Option.map_none,
        Option.toList_none, List.append_nil]
    · rw [names_perform_registering (indexed_run settings ops) hop, ih, Option.map_some,
        Option.toList_some, eraseDups_concat]
      simp only [List.mem_eraseDups]

theorem mem_names_iff (settings : Settings) (ops : List Operation) (name : String) :
    name ∈ R.names ops ↔ ∃ h, (R.registry (run settings ops)).handle? name = some h := by
  rw [← (R.agrees (indexed_run settings ops)).mem_names_iff, names_run, List.mem_eraseDups]

/-- What has a handle was registered last under its name, and the rest of the operations made it
what it is. -/
theorem exists_last_registration (settings : Settings) (ops : List Operation) (h : Handle k) :
    ∀ a, (R.registry (run settings ops)).get? h = some a → ∃ before op b after,
      ops = before ++ op :: after ∧ R.registered? op = some b ∧ R.nameOf b = R.nameOf a ∧
        R.nameOf a ∉ R.names after ∧
        a = R.undergoAll h (run settings (before ++ [op])) b after := by
  induction ops using List.reverseRecOn with
  | nil =>
    intro a ha
    have hempty : R.registry (run settings []) = {} := R.registry_empty settings
    rw [hempty] at ha
    cases ha
  | append_singleton ops op ih =>
    have hw := indexed_run settings ops
    intro a ha
    -- a thing that this operation does not register has come through it
    have hthrough (a₀ : α) (ha₀ : (R.registry (run settings ops)).get? h = some a₀)
        (hop : ∀ b, R.registered? op = some b → R.nameOf b ≠ R.nameOf a₀)
        (hundergo : a = R.undergo (run settings ops) op h a₀) :
        ∃ before op' b after, ops ++ [op] = before ++ op' :: after ∧
          R.registered? op' = some b ∧ R.nameOf b = R.nameOf a ∧ R.nameOf a ∉ R.names after ∧
            a = R.undergoAll h (run settings (before ++ [op'])) b after := by
      have hname : R.nameOf a = R.nameOf a₀ := by rw [hundergo, R.nameOf_undergo]
      obtain ⟨before, op', b, after, rfl, hop', hb, hafter, ha₀'⟩ := ih a₀ ha₀
      refine ⟨before, op', b, after ++ [op], by simp, hop', hb.trans hname.symm, ?_, ?_⟩
      · rw [names_concat, List.mem_append, hname]
        rintro (hmem | hmem)
        · exact hafter hmem
        · obtain ⟨c, hc, hca⟩ : ∃ c, R.registered? op = some c ∧ R.nameOf c = R.nameOf a₀ := by
            simpa using hmem
          exact hop c hc hca
      · have hrun : run settings (before ++ op' :: after) =
            after.foldl perform (run settings (before ++ [op'])) := by
          simp [run]
        rw [undergoAll_concat, ← hrun, ← ha₀', hundergo]
    rcases hop : R.registered? op with _ | b
    · rw [run_concat, R.perform_other hw hop, Registry.get?_mapEntries] at ha
      obtain ⟨a₀, ha₀, rfl⟩ := Option.map_eq_some_iff.1 ha
      refine hthrough a₀ ha₀ (fun c hc => ?_) rfl
      rw [hop] at hc
      cases hc
    · rw [run_concat, registry_perform_registering hop, (R.agrees hw).get?_insert] at ha
      split at ha
      · cases ha
        exact ⟨ops, op, _, [], rfl, hop, rfl, List.not_mem_nil, rfl⟩
      · next hne =>
        refine hthrough a ha (fun c hc hca => ?_) (R.undergo_registering hop _ _ _).symm
        -- a name that has the handle keeps it
        rw [hop] at hc
        cases hc
        have hhandle := (R.agrees hw).handle?_nameOf ha
        rw [← hca] at hhandle
        rw [Registry.insert_of_handle? hhandle] at hne
        exact hne rfl

theorem represents (R : Roster k α) (settings : Settings) (ops : List Operation) :
    R.Represents settings ops where
  agrees := R.agrees (indexed_run settings ops)
  names_eq := names_run settings ops
  nodup := (R.agrees (indexed_run settings ops)).nodup_names
  last := exists_last_registration settings ops
  again a ha := by
    obtain ⟨h, hname⟩ := (mem_names_iff settings ops _).1 ha
    refine ⟨h, hname, ?_⟩
    rw [R.answer_add, Registry.insert_of_handle? hname]
    rfl
  first a ha := by
    have hname : (R.registry (run settings ops)).handle? (R.nameOf a) = none := by
      rw [mem_names_iff settings] at ha
      exact Option.eq_none_iff_forall_ne_some.2 fun h hh => ha ⟨h, hh⟩
    rw [R.answer_add, Registry.insert_of_new hname]
    rfl
  owner more h a ha := by
    rw [run, List.foldl_append]
    exact get?_foldl_perform (indexed_run settings ops) more ha

end Roster

/-! ## Links -/

end World

/-- The links of a node lead to things that a world has, and to no character twice. -/
structure Node.LinksWithin (n : Node) (w : World) : Prop where
  adjacents : ∀ e ∈ n.adjacents, e.2.index < w.nodes.size
  possible : ∀ k ∈ n.possible, k.index < w.characters.size
  nodup : n.possible.Nodup

/-- Things are never taken away, so links that lead to some go on doing so. -/
theorem Node.LinksWithin.mono {n : Node} {w w' : World} (hn : n.LinksWithin w)
    (hnodes : w.nodes.size ≤ w'.nodes.size)
    (hcharacters : w.characters.size ≤ w'.characters.size) : n.LinksWithin w' where
  adjacents e he := Nat.lt_of_lt_of_le (hn.adjacents e he) hnodes
  possible k hk := Nat.lt_of_lt_of_le (hn.possible k hk) hcharacters
  nodup := hn.nodup

namespace World

variable {w : World}

theorem Indexed.linksWithin_link (hw : w.Indexed) {h : Handle .node} {n : Node}
    (hn : w.link.1.nodes.get? h = some n) : n.LinksWithin w.link.1 := by
  have hsize : w.link.1.nodes.size = w.nodes.size := Registry.size_mapEntries ..
  rw [World.link, Registry.get?_mapEntries] at hn
  obtain ⟨old, -, rfl⟩ := Option.map_eq_some_iff.1 hn
  constructor
  · intro e he
    obtain ⟨⟨direction, target⟩, -, hresolved⟩ := List.mem_filterMap.1 he
    obtain ⟨h', htarget, rfl⟩ := Option.map_eq_some_iff.1 hresolved
    obtain ⟨n', hn', -⟩ := (hw.nodes _ _).1 htarget
    rw [hsize]
    exact Registry.index_lt_size hn'
  · intro k hk
    obtain ⟨c, hc, -⟩ := mem_candidatesAt.1 hk
    exact Registry.index_lt_size hc
  · refine (pairwise_candidatesAt w h).imp fun hlt heq => ?_
    rw [heq] at hlt
    exact Nat.lt_irrefl _ hlt

/-- No operation takes anything away. -/
theorem Indexed.size_le_perform (hw : w.Indexed) (op : Operation) :
    w.nodes.size ≤ (w.perform op).nodes.size ∧
      w.characters.size ≤ (w.perform op).characters.size := by
  cases op with
  | addNode n => exact ⟨Registry.size_insert .., Nat.le_refl _⟩
  | addCharacter c => exact ⟨Nat.le_refl _, Registry.size_insert ..⟩
  | addQuestLine q => exact ⟨Nat.le_refl _, Nat.le_refl _⟩
  | link => exact ⟨Nat.le_of_eq (Registry.size_mapEntries ..).symm, Nat.le_refl _⟩
  | addCharacteristic h key v =>
    exact ⟨Nat.le_refl _, Nat.le_of_eq (Registry.size_modify ..).symm⟩
  | addRule h r => exact ⟨Nat.le_refl _, Nat.le_of_eq (Registry.size_modify ..).symm⟩
  | change c =>
    obtain ⟨hnodes, hcharacters, -⟩ := hw.change_eq c
    rw [World.perform, hnodes, hcharacters]
    refine ⟨Nat.le_refl _, ?_⟩
    cases c with
    | kill h => exact Nat.le_of_eq (Registry.size_modify ..).symm
    | hours | progress | force => exact Nat.le_refl _

/-- A node stands after an operation as it stood before, or is added or linked by it. -/
theorem Indexed.node_perform_cases (hw : w.Indexed) {op : Operation} {h : Handle .node} {n : Node}
    (hn : (w.perform op).nodes.get? h = some n) :
    op = .addNode n ∨ op = .link ∨ (op ≠ .link ∧ w.nodes.get? h = some n) := by
  cases op with
  | addNode m =>
    rw [World.perform, addNode, hw.nodes.get?_insert] at hn
    split at hn
    · cases hn
      exact .inl rfl
    · exact .inr (.inr ⟨nofun, hn⟩)
  | link => exact .inr (.inl rfl)
  | change c =>
    obtain ⟨hnodes, -, -⟩ := hw.change_eq c
    rw [World.perform, hnodes] at hn
    exact .inr (.inr ⟨nofun, hn⟩)
  | addCharacter | addQuestLine | addCharacteristic | addRule => exact .inr (.inr ⟨nofun, hn⟩)

/-- A node was added with links that did not all lead to things that there were, and has not been
linked since. -/
def AddedWithStrayLinks (settings : Settings) (ops : List Operation) (n : Node) : Prop :=
  ∃ before after, ops = before ++ .addNode n :: after ∧ .link ∉ after ∧
    ¬n.LinksWithin (run settings (before ++ [.addNode n]))

/-- A run of operations leaves every node with links to what there is, except for one that came with
others and has not been linked since. -/
theorem linksWithin_run (settings : Settings) (ops : List Operation) {h : Handle .node} {n : Node}
    (hn : (run settings ops).nodes.get? h = some n) :
    n.LinksWithin (run settings ops) ∨ AddedWithStrayLinks settings ops n := by
  induction ops using List.reverseRecOn generalizing h with
  | nil => cases hn
  | append_singleton ops op ih =>
    have hi := indexed_run settings ops
    rw [run_concat] at hn
    rcases hi.node_perform_cases hn with rfl | rfl | ⟨hop, hkept⟩
    · by_cases hwithin : n.LinksWithin (run settings (ops ++ [.addNode n]))
      · exact .inl hwithin
      · exact .inr ⟨ops, [], rfl, List.not_mem_nil, hwithin⟩
    · rw [run_concat]
      exact .inl (hi.linksWithin_link hn)
    · rcases ih hkept with hwithin | ⟨before, after, rfl, hafter, hstray⟩
      · obtain ⟨hnodes, hcharacters⟩ := hi.size_le_perform op
        rw [run_concat]
        exact .inl (hwithin.mono hnodes hcharacters)
      · refine .inr ⟨before, after ++ [op], by simp, ?_, hstray⟩
        rw [List.mem_append, List.mem_singleton, not_or]
        exact ⟨hafter, Ne.symm hop⟩

/-- A hall that leads to a cave, linked in a world where the cave has the second handle. -/
def hallAndCave : World :=
  run {} [.addNode { name := "hall", exits := [("east", "cave")] }, .addNode { name := "cave" },
    .link]

end World

end StoryWorld
