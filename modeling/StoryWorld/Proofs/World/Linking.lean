import StoryWorld.Proofs.World.Order
import StoryWorld.Proofs.World.References

/-!
# Linking resolves every reference once

In a world whose nodes and characters are made by their own operations (`Made.wellDeclared`), linking
is what comes of resolving its references one by one: each is a link or a warning, and nothing else
changes (`WellDeclared.resolvesReferences`).
-/

namespace StoryWorld

/-! ## Worlds that come about -/

/-- The nodes that their operations make. One may be taken from a world, with the links it has
there. -/
inductive Node.Built : Node → Prop
  | ofName (name description : String) : Built { name := name, description := description }
  | addExit {n : Node} (direction target : String) (hn : Built n) :
    Built (n.addExit direction target).1
  | linked {n : Node} (adjacents : Entries String (Handle .node))
    (possible : List (Handle .character)) (hn : Built n) :
    Built { n with adjacents := adjacents, possible := possible }

theorem Node.Built.nodup_directions {n : Node} (hn : n.Built) : n.exits.keys.Nodup := by
  induction hn with
  | ofName name description => exact List.nodup_nil
  | addExit direction target _ ih => exact Entries.nodup_keys_set ih direction target
  | linked _ _ _ ih => exact ih

namespace World

variable {w w' : World}

/-- What an event enrolls is made by its own operations. -/
def Event.Builds : Event → Prop
  | enroll (.node n) => n.Built
  | enroll (.character c) => c.Built
  | _ => True

/-- The worlds that come about: things are enrolled, the world changes and is linked, and characters
and quest lines that are in it change by themselves. -/
inductive Made : World → Prop
  | empty (settings : Settings) : Made (empty settings)
  | follow {w : World} (hw : Made w) {e : Event} (he : e.Builds) : Made (w.follow e)
  | modifyCharacter {w : World} {f : Character → Character} (hw : Made w) (k : Handle .character)
    (hf : ∀ c ∈ w.characters.items, (f c).Built) : Made (w.modifyCharacter k f)
  | modifyQuest {w : World} (hw : Made w) (h : Handle .quest) (f : QuestLine → QuestLine) :
    Made (w.modifyQuest h f)

theorem Made.followAll (hw : w.Made) {es : List Event} (hes : ∀ e ∈ es, e.Builds) :
    (w.followAll es).Made :=
  List.foldlRecOn es World.follow hw fun _ hw e he => hw.follow (hes e he)

/-! ## What linking comes to -/

/-- Nodes are found under their own names, no node has two exits in one direction, and no character
has a candidate twice. -/
structure WellDeclared (w : World) : Prop where
  nodes : w.nodes.Agrees (·.name)
  exits : ∀ n ∈ w.nodes.items, n.exits.keys.Nodup
  candidates : ∀ c ∈ w.characters.items, c.candidates.Nodup

/-- What linking a world comes to. -/
structure ResolvesReferences (w : World) : Prop where
  /-- Old links are dropped, and the references are resolved one by one. -/
  inTurn : w.link = w.unlinked.resolveAll w.references
  /-- No reference is met twice. -/
  once : w.references.Nodup
  /-- Nothing but links is new. -/
  unlinked_eq : w.link.1.unlinked = w.unlinked
  /-- In a direction lies the node of the name that is declared for it. -/
  adjacent?_eq_some_iff : ∀ {h : Handle .node} {n : Node}, w.link.1.nodes.get? h = some n →
    ∀ direction l, n.adjacent? direction = some l ↔
      ∃ m, w.nodes.get? l = some m ∧ n.exits.get? direction = some m.name
  nodup_directions : ∀ {h : Handle .node} {n : Node}, w.link.1.nodes.get? h = some n →
    n.adjacents.keys.Nodup
  /-- The possible characters of a node are those that have its name among their candidates. -/
  mem_possible_iff : ∀ {h : Handle .node} {n : Node}, w.link.1.nodes.get? h = some n →
    ∀ k, k ∈ n.possible ↔ ∃ c, w.characters.get? k = some c ∧ n.name ∈ c.candidates
  increasing : ∀ {h : Handle .node} {n : Node}, w.link.1.nodes.get? h = some n →
    n.possible.Pairwise fun k k' => k.index < k'.index
  /-- The references to no node are warned of, in their order. -/
  warnings : w.link.2 =
    (w.references.filter fun r => r.target ∉ w.nodes.items.map (·.name)).map (·.warning)

theorem keys_resolvedExits_sublist (w : World) (n : Node) :
    (w.resolvedExits n).keys.Sublist n.exits.keys := by
  unfold resolvedExits
  induction n.exits with
  | nil => exact .slnil
  | cons e es ih =>
    obtain ⟨direction, target⟩ := e
    rcases htarget : w.nodes.handle? target with _ | l
    · simp only [List.filterMap_cons, htarget, Option.map_none]
      exact ih.cons _
    · simp only [List.filterMap_cons, htarget, Option.map_some]
      exact ih.cons_cons _

theorem snd_link (w : World) : w.link.2 = w.references.filterMap fun r =>
    if (w.nodes.handle? r.target).isNone then some r.warning else none := by
  rw [references, List.filterMap_append, exitReferences, candidateReferences,
    List.filterMap_flatMap, List.filterMap_flatMap]
  simp only [List.filterMap_map]
  rw [link, unresolvedExits, unresolvedCandidates, ← w.nodes.snd_entries,
    ← w.characters.snd_entries, List.flatMap_map, List.flatMap_map]
  rfl

theorem exists_of_get?_link (hn : w.link.1.nodes.get? h = some n) :
    ∃ old, w.nodes.get? h = some old ∧
      n = { old with adjacents := w.resolvedExits old, possible := w.candidatesAt h } := by
  rw [get?_link] at hn
  obtain ⟨old, hold, rfl⟩ := Option.map_eq_some_iff.1 hn
  exact ⟨old, hold, rfl⟩

namespace WellDeclared

theorem exits_of_get? (hw : w.WellDeclared) (hn : w.nodes.get? h = some n) : n.exits.keys.Nodup :=
  hw.exits n (List.mem_of_getElem? hn)

theorem link_eq_resolveAll (hw : w.WellDeclared) :
    w.link = w.unlinked.resolveAll w.references := by
  have hsettle : w.unlinked.settle = w.settle := rfl
  have hnodes : w.link.1.nodes =
      (w.unlinked.nodes.mapEntries fun h n => w.references.foldl (w.unlinked.settle h) n) := by
    have hunlinked : w.unlinked.nodes = w.nodes.map Node.unlinked := rfl
    have hlinked : w.link.1.nodes = w.nodes.mapEntries fun h n =>
        { n with adjacents := w.resolvedExits n, possible := w.candidatesAt h } := rfl
    rw [hunlinked, hlinked, Registry.mapEntries_map, hsettle]
    -- a node takes its own exits first, then the candidates that have its name
    refine Registry.mapEntries_congr fun h n hn => ?_
    rw [references, List.foldl_append, foldl_settle_exitReferences hn (hw.exits_of_get? hn),
      foldl_settle_candidateReferences w h _ rfl]
  rw [resolveAll_eq, ← hnodes]
  exact Prod.ext rfl (snd_link w)

/-! ### References are met once -/

theorem nodup_exitReferences (hw : w.WellDeclared) : w.exitReferences.Nodup := by
  refine Registry.nodup_flatMap_entries (fun h n hn => ?_) fun h h' n n' hne r hr hr' => ?_
  · have hexits : n.exits.Nodup := .of_map _ (hw.exits_of_get? hn)
    refine hexits.map ?_
    rintro ⟨direction, target⟩ ⟨direction', target'⟩ heq
    cases heq
    rfl
  · obtain ⟨e, -, rfl⟩ := List.mem_map.1 hr
    obtain ⟨e', -, heq⟩ := List.mem_map.1 hr'
    exact hne (Reference.exit.inj heq).1.symm

theorem nodup_candidateReferences (hw : w.WellDeclared) : w.candidateReferences.Nodup := by
  refine Registry.nodup_flatMap_entries (fun k c hc => ?_) fun k k' c c' hne r hr hr' => ?_
  · refine (hw.candidates c (List.mem_of_getElem? hc)).map ?_
    intro name name' heq
    exact (Reference.candidate.inj heq).2.2
  · obtain ⟨name, -, rfl⟩ := List.mem_map.1 hr
    obtain ⟨name', -, heq⟩ := List.mem_map.1 hr'
    exact hne (Reference.candidate.inj heq).1.symm

theorem nodup_references (hw : w.WellDeclared) : w.references.Nodup := by
  refine List.nodup_append.2
    ⟨hw.nodup_exitReferences, hw.nodup_candidateReferences, fun r hr r' hr' => ?_⟩
  obtain ⟨_, -, hr⟩ := List.mem_flatMap.1 hr
  obtain ⟨_, -, hr'⟩ := List.mem_flatMap.1 hr'
  obtain ⟨_, -, rfl⟩ := List.mem_map.1 hr
  obtain ⟨_, -, rfl⟩ := List.mem_map.1 hr'
  exact nofun

/-! ### Links and warnings -/

theorem nodup_resolvedExits (hw : w.WellDeclared) (hn : w.nodes.get? h = some n) :
    (w.resolvedExits n).keys.Nodup :=
  (hw.exits_of_get? hn).sublist (keys_resolvedExits_sublist w n)

theorem adjacent?_link (hw : w.WellDeclared) (hn : w.link.1.nodes.get? h = some n)
    (direction : String) (l : Handle .node) : n.adjacent? direction = some l ↔
      ∃ m, w.nodes.get? l = some m ∧ n.exits.get? direction = some m.name := by
  obtain ⟨old, hold, rfl⟩ := exists_of_get?_link hn
  have hexits := hw.exits_of_get? hold
  have hmem := (linkedAsDeclared_link w).mem_adjacents hn direction l
  rw [Node.adjacent?, ← Entries.mem_iff_get?_eq (hw.nodup_resolvedExits hold), hmem]
  constructor
  · rintro ⟨target, hexit, hl⟩
    obtain ⟨m, hm, rfl⟩ := (hw.nodes _ _).1 hl
    exact ⟨m, hm, (Entries.mem_iff_get?_eq hexits).1 hexit⟩
  · rintro ⟨m, hm, hexit⟩
    exact ⟨m.name, (Entries.mem_iff_get?_eq hexits).2 hexit, hw.nodes.handle?_nameOf hm⟩

theorem mem_possible_link (hw : w.WellDeclared) (hn : w.link.1.nodes.get? h = some n)
    (k : Handle .character) :
    k ∈ n.possible ↔ ∃ c, w.characters.get? k = some c ∧ n.name ∈ c.candidates := by
  obtain ⟨old, hold, rfl⟩ := exists_of_get?_link hn
  rw [(linked_link w).mem_possible hn]
  refine exists_congr fun c => and_congr_right fun _ => ?_
  constructor
  · rintro ⟨name, hname, hh⟩
    obtain ⟨m, hm, rfl⟩ := (hw.nodes _ _).1 hh
    rw [hold] at hm
    cases hm
    exact hname
  · intro hname
    exact ⟨old.name, hname, hw.nodes.handle?_nameOf hold⟩

theorem warnings_link (hw : w.WellDeclared) : w.link.2 =
    (w.references.filter fun r => r.target ∉ w.nodes.items.map (·.name)).map (·.warning) := by
  have hunresolved (r : Reference) : (w.nodes.handle? r.target).isNone = true ↔
      r.target ∉ w.nodes.items.map (·.name) := by
    rw [hw.nodes.mem_names_iff, Option.isNone_iff_eq_none, Option.eq_none_iff_forall_ne_some,
      not_exists]
  simp only [snd_link, hunresolved]
  induction w.references with
  | nil => rfl
  | cons r rs ih =>
    rw [List.filterMap_cons, List.filter_cons, ih]
    by_cases hr : r.target ∉ w.nodes.items.map (·.name)
    · rw [if_pos hr, if_pos (decide_eq_true hr)]
      rfl
    · rw [if_neg hr, if_neg (mt of_decide_eq_true hr)]

theorem resolvesReferences (hw : w.WellDeclared) : w.ResolvesReferences where
  inTurn := hw.link_eq_resolveAll
  once := hw.nodup_references
  unlinked_eq := unlinked_link w
  adjacent?_eq_some_iff := hw.adjacent?_link
  nodup_directions hn := by
    obtain ⟨old, hold, rfl⟩ := exists_of_get?_link hn
    exact hw.nodup_resolvedExits hold
  mem_possible_iff := hw.mem_possible_link
  increasing := (linked_link w).pairwise_possible
  warnings := hw.warnings_link

end WellDeclared

/-! ## Things stay well declared -/

theorem wellDeclared_empty (settings : Settings) : (empty settings).WellDeclared where
  nodes := Registry.agrees_empty
  exits _ hn := nomatch hn
  candidates _ hc := nomatch hc

/-- Characters may change in any way that leaves no candidate twice. -/
theorem WellDeclared.modifyCharacter (hw : w.WellDeclared) (k : Handle .character)
    {f : Character → Character} (hf : ∀ c ∈ w.characters.items, (f c).candidates.Nodup) :
    (w.modifyCharacter k f).WellDeclared where
  nodes := hw.nodes
  exits := hw.exits
  candidates c hc := by
    rcases Registry.mem_items_modify hc with hc | ⟨b, hb, rfl⟩
    · exact hw.candidates c hc
    · exact hf b hb

theorem WellDeclared.changed (hw : w.WellDeclared) (h : Changed w w') : w'.WellDeclared := by
  cases h with
  | clock _ => exact ⟨hw.nodes, hw.exits, hw.candidates⟩
  | quest _ _ _ _ _ => exact ⟨hw.nodes, hw.exits, hw.candidates⟩
  | nothing => exact hw
  | kill k => exact hw.modifyCharacter k hw.candidates

theorem WellDeclared.follow (hw : w.WellDeclared) {e : Event} (he : e.Builds) :
    (w.follow e).WellDeclared := by
  cases e with
  | enroll entity =>
    cases entity with
    | node n =>
      refine ⟨hw.nodes.insert n, fun m hm => ?_, hw.candidates⟩
      rcases Registry.mem_items_insert hm with rfl | hm
      · exact he.nodup_directions
      · exact hw.exits m hm
    | character c =>
      refine ⟨hw.nodes, hw.exits, fun c' hc' => ?_⟩
      rcases Registry.mem_items_insert hc' with rfl | hc'
      · exact he.nodup_candidates
      · exact hw.candidates c' hc'
    | quest q => exact ⟨hw.nodes, hw.exits, hw.candidates⟩
  | change c => exact hw.changed (changed_change w c)
  | link =>
    refine ⟨hw.nodes.mapEntries _ fun _ _ => rfl, fun n hn => ?_, hw.candidates⟩
    obtain ⟨h, old, hold, rfl⟩ := Registry.mem_items_mapEntries hn
    exact hw.exits old hold

theorem Made.wellDeclared (hw : w.Made) : w.WellDeclared := by
  induction hw with
  | empty settings => exact wellDeclared_empty settings
  | follow _ he ih => exact ih.follow he
  | modifyCharacter _ k hf ih => exact ih.modifyCharacter k fun c hc => (hf c hc).nodup_candidates
  | modifyQuest _ h f ih => exact ⟨ih.nodes, ih.exits, ih.candidates⟩

/-- Every world in which things are well declared is linked by resolving its references one by one,
each once, and so is every world that comes about. -/
theorem link_resolves_once :
    (∀ w : World, w.WellDeclared → w.ResolvesReferences) ∧ ∀ w : World, w.Made → w.WellDeclared :=
  ⟨fun _ hw => hw.resolvesReferences, fun _ hw => hw.wellDeclared⟩

/-- A hall with an exit to the inn and one to a cave that there is not. -/
def hall : Node := (({ name := "Hall" : Node }.addExit "north" "Inn").1.addExit "down" "Cave").1

/-- The hall and the inn, a guest of the inn and, once these are linked, somebody at sea. -/
def settling : List Event :=
  [.enroll (.node hall), .enroll (.node { name := "Inn" }), .enroll (.character guest), .link,
    .enroll (.character ((Character.ofName "Bob").addCharacteristic "node" (.text "Sea")).1)]

theorem link_settled : ((empty {}).followAll settling).ResolvesReferences ∧
    ((empty {}).followAll settling).link.2 =
      [.unresolvedExit "Hall" "down" "Cave", .unresolvedCharacterNode "Bob" "Sea"] := by
  have hbuilds : ∀ e ∈ settling, e.Builds := by
    simp only [settling, List.forall_mem_cons]
    refine ⟨?_, ?_, ?_, trivial, ?_, List.forall_mem_nil _⟩
    · exact ((Node.Built.ofName "Hall" "NO DESC").addExit "north" "Inn").addExit "down" "Cave"
    · exact .ofName "Inn" "NO DESC"
    · exact .addRule _ (.ofName "Ann")
    · exact .addCharacteristic "node" (.text "Sea") (.ofName "Bob")
  have hmade : ((empty {}).followAll settling).Made := (Made.empty {}).followAll hbuilds
  exact ⟨link_resolves_once.1 _ (link_resolves_once.2 _ hmade), by decide +kernel⟩

end World

end StoryWorld
