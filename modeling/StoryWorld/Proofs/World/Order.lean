import Mathlib.Data.List.Basic
import StoryWorld.Proofs.World.Relinking

/-!
# The order of registration

Read by names, a linked world is what its things declare, whichever order they were registered in.
Two worlds with the same things in different orders have the same attributes and exits, warn of the
same, and show the same characters (`SameThings`).
-/

namespace StoryWorld

/-! ## Worlds read by names -/

namespace World

/-- The name of the node that a node's exit in a direction leads to. -/
def neighbour? (w : World) (node direction : String) : Option String :=
  ((w.nodes.find? node).bind (·.adjacent? direction)).bind fun h => (w.nodes.get? h).map (·.name)

/-- The characters that a node shows, with their descriptions. -/
def shownAt (w : World) (node : String) : List (String × String) :=
  (((w.nodes.handle? node).map w.activeCharacters).getD []).map fun v => (v.name, v.description)

/-- How a character shows itself in a node, if it is alive and there. -/
def appearance? (w : World) (node : String) (c : Character) : Option (String × String) :=
  if c.alive then
    match w.evaluate c with
    | .error _ => none
    | .ok e =>
      if e.node? = some node then
        some (((e.values.get? Key.name).map (·.shown)).getD c.name,
          ((e.values.get? Key.description).map (·.shown)).getD "")
      else
        none
  else
    none

theorem map_visible? (w : World) (n : Node) (k : Handle .character) :
    (w.visible? n k).map (fun v => (v.name, v.description)) =
      (w.characters.get? k).bind (w.appearance? n.name) := by
  unfold visible? appearance?
  rcases w.characters.get? k with _ | c
  · rfl
  · by_cases halive : c.alive
    · simp only [halive, if_true, Option.bind_some]
      rcases w.evaluate c with error | e
      · rfl
      · by_cases hnode : e.node? = some n.name
        · simp [hnode]
        · simp [hnode]
    · simp [halive]

theorem get?_resolvedExits (w : World) (n : Node) (direction : String) :
    (w.resolvedExits n).get? direction =
      (Entries.get? (n.exits.filter fun e => (w.nodes.handle? e.2).isSome) direction).bind
        w.nodes.handle? := by
  unfold resolvedExits
  induction n.exits with
  | nil => rfl
  | cons e es ih =>
    obtain ⟨direction', target⟩ := e
    rcases htarget : w.nodes.handle? target with _ | h
    · simpa [htarget] using ih
    · by_cases hdirection : direction' = direction
      · simp [htarget, Entries.get?, hdirection]
      · simpa [htarget, Entries.get?, hdirection] using ih

theorem get?_link (w : World) (h : Handle .node) :
    w.link.1.nodes.get? h = (w.nodes.get? h).map fun n =>
      { n with adjacents := w.resolvedExits n, possible := w.candidatesAt h } := by
  rw [link, Registry.get?_mapEntries]

/-- The exits of a linked node lead to the nodes of the names that they declare. -/
theorem Indexed.neighbour?_link {w : World} (hw : w.Indexed) (node direction : String) :
    w.link.1.neighbour? node direction = (w.nodes.find? node).bind fun n =>
      (Entries.get? (n.exits.filter fun e => (w.nodes.find? e.2).isSome) direction).bind
        fun target => (w.nodes.find? target).map (·.name) := by
  have hname (h : Handle .node) : (w.link.1.nodes.get? h).map (·.name) =
      (w.nodes.get? h).map (·.name) := by
    rw [get?_link, Option.map_map]
    rfl
  have hfilter (n : Node) : (n.exits.filter fun e => (w.nodes.find? e.2).isSome) =
      n.exits.filter fun e => (w.nodes.handle? e.2).isSome := by
    simp only [hw.nodes.isSome_handle?]
  have hhandle : w.link.1.nodes.handle? node = w.nodes.handle? node := rfl
  simp only [hfilter]
  simp only [neighbour?, hname, Registry.find?, hhandle]
  rcases w.nodes.handle? node with _ | h
  · rfl
  · simp only [Option.bind_some, get?_link]
    rcases w.nodes.get? h with _ | n
    · rfl
    · simp only [Option.map_some, Option.bind_some, Node.adjacent?, get?_resolvedExits,
        Option.bind_assoc, Option.map_bind, Function.comp_def]

theorem Indexed.candidatesAt_eq {w : World} (hw : w.Indexed) (hn : w.nodes.get? h = some n) :
    w.candidatesAt h =
      (w.characters.entries.filter fun e => decide (n.name ∈ e.2.candidates)).map (·.1) := by
  have hcandidate (c : Character) :
      (c.candidates.any fun name => w.nodes.handle? name == some h) =
        decide (n.name ∈ c.candidates) := by
    rw [Bool.eq_iff_iff, decide_eq_true_iff, List.any_eq_true]
    constructor
    · rintro ⟨name, hmem, hname⟩
      obtain ⟨m, hm, rfl⟩ := (hw.nodes _ _).1 (eq_of_beq hname)
      rw [hn] at hm
      cases hm
      exact hmem
    · intro hmem
      exact ⟨n.name, hmem, beq_iff_eq.2 (hw.nodes.handle?_nameOf hn)⟩
  simp only [candidatesAt, hcandidate]

/-- A linked node shows the characters that declare its name and are there. -/
theorem Indexed.shownAt_link {w : World} (hw : w.Indexed) (node : String) :
    w.link.1.shownAt node = if (w.nodes.find? node).isSome then
      w.characters.items.filterMap fun c =>
        if node ∈ c.candidates then w.appearance? node c else none
    else [] := by
  have hhandle : w.link.1.nodes.handle? node = w.nodes.handle? node := rfl
  rw [shownAt, hhandle, ← hw.nodes.isSome_handle?]
  rcases hname : w.nodes.handle? node with _ | h
  · rfl
  · obtain ⟨n, hn, rfl⟩ := (hw.nodes _ _).1 hname
    simp only [Option.map_some, Option.getD_some, Option.isSome_some, if_true, activeCharacters,
      get?_link, hn, hw.candidatesAt_eq hn]
    rw [← Registry.snd_entries w.characters, List.filterMap_map, List.filterMap_map,
      List.filterMap_filter, List.map_filterMap]
    refine List.filterMap_congr fun e he => ?_
    by_cases hmem : n.name ∈ e.2.candidates
    · simp only [hmem, decide_true, if_true, Function.comp_apply]
      rw [map_visible?, show w.link.1.characters.get? e.1 = some e.2 from Registry.mem_entries.1 he]
      rfl
    · simp [hmem]

theorem attributes_eq {w w' : World} (hclock : w.clock = w'.clock)
    (hquests : w.quests.find? = w'.quests.find?) : w.attributes = w'.attributes := by
  unfold attributes
  rw [hclock, hquests]

/-! ## Worlds of the same things -/

/-- Two worlds with the same things, maybe in different orders. -/
structure SameThings (w w' : World) : Prop where
  settings : w.settings = w'.settings
  clock : w.clock = w'.clock
  nodes : w.nodes.items.Perm w'.nodes.items
  characters : w.characters.items.Perm w'.characters.items
  quests : w.quests.items.Perm w'.quests.items
  indexed : w.Indexed
  indexed' : w'.Indexed

namespace SameThings

variable {w w' : World} (hw : SameThings w w')
include hw

theorem find?_nodes : w.nodes.find? = w'.nodes.find? :=
  hw.indexed.nodes.find?_eq_of_perm hw.indexed'.nodes hw.nodes

theorem attributes : w.attributes = w'.attributes :=
  attributes_eq hw.clock (hw.indexed.quests.find?_eq_of_perm hw.indexed'.quests hw.quests)

theorem isNone_handle? (name : String) :
    (w.nodes.handle? name).isNone = (w'.nodes.handle? name).isNone := by
  rw [← Option.not_isSome, ← Option.not_isSome, hw.indexed.nodes.isSome_handle?,
    hw.indexed'.nodes.isSome_handle?, hw.find?_nodes]

theorem neighbour?_link : w.link.1.neighbour? = w'.link.1.neighbour? := by
  funext node direction
  rw [hw.indexed.neighbour?_link, hw.indexed'.neighbour?_link, hw.find?_nodes]

theorem warnings_link : w.link.2.Perm w'.link.2 := by
  have hexits : w.unresolvedExits.Perm w'.unresolvedExits := by
    unfold unresolvedExits
    simp only [hw.isNone_handle?]
    exact hw.nodes.flatMap_right _
  have hcandidates : w.unresolvedCandidates.Perm w'.unresolvedCandidates := by
    unfold unresolvedCandidates
    simp only [hw.isNone_handle?]
    exact hw.characters.flatMap_right _
  exact hexits.append hcandidates

theorem appearance?_eq : w.appearance? = w'.appearance? := by
  unfold appearance? World.evaluate
  rw [hw.settings, hw.attributes]

theorem shownAt_link (node : String) :
    (w.link.1.shownAt node).Perm (w'.link.1.shownAt node) := by
  rw [hw.indexed.shownAt_link, hw.indexed'.shownAt_link, hw.find?_nodes, hw.appearance?_eq]
  split
  · exact hw.characters.filterMap _
  · exact .nil

end SameThings

/-! ## Registering in different orders -/

namespace Entity

def node? : Entity → Option Node
  | node n => some n
  | _ => none

def character? : Entity → Option Character
  | character c => some c
  | _ => none

def quest? : Entity → Option QuestLine
  | quest q => some q
  | _ => none

/-- Things of which no two of one kind have the same name. -/
structure DistinctNames (es : List Entity) : Prop where
  nodes : ((es.filterMap node?).map (·.name)).Nodup
  characters : ((es.filterMap character?).map (·.name)).Nodup
  quests : ((es.filterMap quest?).map (·.name)).Nodup

/-- The same things of each kind in the same order. -/
structure SameByKind (es es' : List Entity) : Prop where
  nodes : es.filterMap node? = es'.filterMap node?
  characters : es.filterMap character? = es'.filterMap character?
  quests : es.filterMap quest? = es'.filterMap quest?

theorem DistinctNames.perm {es es' : List Entity} (h : DistinctNames es) (hperm : es.Perm es') :
    DistinctNames es' where
  nodes := ((hperm.filterMap _).map _).nodup_iff.1 h.nodes
  characters := ((hperm.filterMap _).map _).nodup_iff.1 h.characters
  quests := ((hperm.filterMap _).map _).nodup_iff.1 h.quests

end Entity

open Entity

theorem foldl_enroll (w : World) (es : List Entity) : es.foldl enroll w = { w with
    nodes := w.nodes.insertAll (·.name) (es.filterMap node?)
    characters := w.characters.insertAll (·.name) (es.filterMap character?)
    quests := w.quests.insertAll (·.name) (es.filterMap quest?) } := by
  induction es generalizing w with
  | nil => rfl
  | cons e es ih =>
    rw [List.foldl_cons, ih]
    cases e <;> rfl

/-- The world that things make, registered in order. -/
def settled (settings : Settings) (es : List Entity) : World := es.foldl enroll (empty settings)

theorem indexed_settled (settings : Settings) (es : List Entity) :
    (settled settings es).Indexed := by
  rw [settled, foldl_enroll]
  have hempty := indexed_empty settings
  exact ⟨hempty.nodes.insertAll _, hempty.characters.insertAll _, hempty.quests.insertAll _⟩

theorem settled_of_sameByKind (settings : Settings) {es es' : List Entity} (h : SameByKind es es') :
    settled settings es = settled settings es' := by
  rw [settled, settled, foldl_enroll, foldl_enroll, h.nodes, h.characters, h.quests]

theorem items_settled (settings : Settings) {es : List Entity} (h : DistinctNames es) :
    (settled settings es).nodes.items = es.filterMap node? ∧
      (settled settings es).characters.items = es.filterMap character? ∧
      (settled settings es).quests.items = es.filterMap quest? := by
  rw [settled, foldl_enroll]
  have hempty := indexed_empty settings
  exact ⟨hempty.nodes.items_insertAll h.nodes, hempty.characters.items_insertAll h.characters,
    hempty.quests.items_insertAll h.quests⟩

theorem sameThings_settled (settings : Settings) {es es' : List Entity} (hperm : es.Perm es')
    (hnames : DistinctNames es) : SameThings (settled settings es) (settled settings es') := by
  obtain ⟨hnodes, hcharacters, hquests⟩ := items_settled settings hnames
  obtain ⟨hnodes', hcharacters', hquests'⟩ := items_settled settings (hnames.perm hperm)
  refine ⟨?_, ?_, ?_, ?_, ?_, indexed_settled settings es, indexed_settled settings es'⟩
  · rw [settled, settled, foldl_enroll, foldl_enroll]
  · rw [settled, settled, foldl_enroll, foldl_enroll]
  · rw [hnodes, hnodes']
    exact hperm.filterMap _
  · rw [hcharacters, hcharacters']
    exact hperm.filterMap _
  · rw [hquests, hquests']
    exact hperm.filterMap _

/-- Things of distinct names may be registered in any order: read by names, the linked world has the
same exits, attributes and visible characters, and linking warns of the same. If the order changes
within no kind, the world itself is the same, and so are the warnings. -/
theorem link_settled_perm (settings : Settings) {es es' : List Entity} (hperm : es.Perm es')
    (hnames : DistinctNames es) :
    (∀ node direction, (settled settings es).link.1.neighbour? node direction =
      (settled settings es').link.1.neighbour? node direction) ∧
    (settled settings es).link.2.Perm (settled settings es').link.2 ∧
    (∀ name, (settled settings es).link.1.attributes name =
      (settled settings es').link.1.attributes name) ∧
    (∀ node, ((settled settings es).link.1.shownAt node).Perm
      ((settled settings es').link.1.shownAt node)) ∧
    (SameByKind es es' → (settled settings es).link = (settled settings es').link) := by
  have hsame := sameThings_settled settings hperm hnames
  refine ⟨fun node direction => ?_, hsame.warnings_link, fun name => ?_, hsame.shownAt_link,
    fun hkinds => ?_⟩
  · rw [hsame.neighbour?_link]
  · exact congrFun hsame.attributes name
  · rw [settled_of_sameByKind settings hkinds]

/-- The cave leads to the inn, and the inn to nowhere. -/
def innAndCave : List Entity :=
  [.node { name := "Cave", exits := [("out", "Inn")] }, .character guest,
    .node { name := "Inn", exits := [("west", "Nowhere")] }]

theorem link_settled_innAndCave :
    DistinctNames innAndCave ∧ innAndCave.Perm innAndCave.reverse ∧
      (settled { startHour := 4 } innAndCave.reverse).link.1.neighbour? "Cave" "out" = some "Inn" ∧
      [("Ann", "")].Perm
        ((settled { startHour := 4 } innAndCave.reverse).link.1.shownAt "Inn") := by
  have hnames : DistinctNames innAndCave := ⟨by decide, by decide, by decide⟩
  have hperm : innAndCave.Perm innAndCave.reverse := (List.reverse_perm innAndCave).symm
  obtain ⟨hexits, -, -, hshown, -⟩ := link_settled_perm { startHour := 4 } hperm hnames
  have hann : (settled { startHour := 4 } innAndCave).link.1.shownAt "Inn" = [("Ann", "")] := by
    decide +kernel
  refine ⟨hnames, hperm, ?_, ?_⟩
  · rw [← hexits]
    decide
  · rw [← hann]
    exact hshown "Inn"

end World

end StoryWorld
