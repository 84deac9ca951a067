import StoryWorld.Proofs.Conversion.Positions
import StoryWorld.Proofs.Conversion.Results
import StoryWorld.Proofs.Loader.Rejection
import StoryWorld.Proofs.Value.Typing
import StoryWorld.Proofs.World.Visibility

/-!
# The names of nodes

A node is referred to by the targets of exits and by the values that characters assign. Targets are
taken as they are written, while values are typed and shown again, so the two mean the same node
exactly if the written name is shown as it was written.
-/

namespace StoryWorld

/-! ## Uses of the name of a node -/

/-- A node of the name `place`, another node with an exit to it, and a character that is put there
by a static assignment, as sources declare them. -/
structure NodeUses where
  place : String
  other : String
  direction : String
  resident : String
  /-- Every static assignment of the resident. -/
  statics : List (String × String)
  placeTexts : List String := []
  otherTexts : List String := []
  placeFirst : Bool := true
  nodesFile : String := "nodes"
  charactersFile : String := "characters"

namespace NodeUses

/-- The span of what was never read. -/
def nowhere : Span := ⟨0, 0⟩

def placeContainer (u : NodeUses) : Container :=
  ⟨u.place, u.placeTexts.map (.item · nowhere), nowhere, nowhere⟩

def otherContainer (u : NodeUses) : Container :=
  ⟨u.other, u.otherTexts.map (.item · nowhere) ++
    [.container exitsName [.assignment u.direction u.place nowhere] nowhere nowhere],
    nowhere, nowhere⟩

def residentContainer (u : NodeUses) : Container :=
  ⟨u.resident, u.statics.map fun s => .assignment s.1 s.2 nowhere, nowhere, nowhere⟩

def nodesTree (u : NodeUses) : SourceTree :=
  ⟨if u.placeFirst then [u.placeContainer, u.otherContainer]
    else [u.otherContainer, u.placeContainer]⟩

def charactersTree (u : NodeUses) : SourceTree := ⟨[u.residentContainer]⟩

def sources (u : NodeUses) : List SourceText :=
  [⟨.node, u.nodesFile, u.nodesTree.write⟩, ⟨.character, u.charactersFile, u.charactersTree.write⟩]

/-- There are two nodes, the resident is put in the first of them and in no other, and the sources
can be written. -/
structure Proper (u : NodeUses) : Prop where
  other_ne : u.other ≠ u.place
  mem_statics : (Key.node, u.place) ∈ u.statics
  eq_place : ∀ s ∈ u.statics, Key.canonical s.1 = Key.node → s.2 = u.place
  nodes_quoteFree : u.nodesTree.QuoteFree
  characters_quoteFree : u.charactersTree.QuoteFree

def loader (u : NodeUses) (settings : Settings) : Loader :=
  ((Loader.start settings).addAll u.sources).1

/-- The exit leads to the node of the name. -/
def ExitResolves (u : NodeUses) (w : World) : Prop :=
  ∃ h n, w.nodes.handle? u.place = some h ∧ w.nodes.find? u.other = some n ∧
    n.adjacent? u.direction = some h

/-- The name is a candidate of the resident. -/
def IsCandidate (u : NodeUses) (w : World) : Prop :=
  ∃ c, w.characters.find? u.resident = some c ∧ u.place ∈ c.candidates

/-- The node of the name shows the resident. -/
def IsShown (u : NodeUses) (w : World) : Prop :=
  ∃ h k, w.nodes.handle? u.place = some h ∧ w.characters.handle? u.resident = some k ∧
    k ∈ (w.activeCharacters h).map (·.handle)

/-- All uses of the name mean the same node. -/
structure Agree (u : NodeUses) (settings : Settings) : Prop where
  unwarned : (u.loader settings).world.link.2 = []
  exit : u.ExitResolves (u.loader settings).world.link.1
  candidate : u.IsCandidate (u.loader settings).world.link.1
  shown : u.IsShown (u.loader settings).world.link.1

/-! ## The world that is loaded -/

variable {u : NodeUses} {w : World}

/-- Worlds as the sources make them. -/
structure Loaded (u : NodeUses) (w : World) : Prop where
  indexed : w.Indexed
  nodes : ∃ a b, w.nodes.items.Perm [a, b] ∧ (a.name = u.place ∧ a.exits = []) ∧
    (b.name = u.other ∧ b.exits = [(u.direction, u.place)])
  character : ∃ c, w.characters.items = [c] ∧ c.Static u.resident (some (.ofText u.place))

theorem ofContainer_placeContainer (u : NodeUses) :
    (Node.ofContainer u.placeContainer).1.name = u.place ∧
      (Node.ofContainer u.placeContainer).1.exits = [] := by
  obtain ⟨description, hitems⟩ :=
    Node.foldl_readMember_items { name := u.place } u.placeTexts nowhere
  rw [Node.ofContainer, placeContainer, fst_gather, hitems]
  exact ⟨rfl, rfl⟩

theorem ofContainer_otherContainer (u : NodeUses) :
    (Node.ofContainer u.otherContainer).1.name = u.other ∧
      (Node.ofContainer u.otherContainer).1.exits = [(u.direction, u.place)] := by
  obtain ⟨description, hitems⟩ :=
    Node.foldl_readMember_items { name := u.other } u.otherTexts nowhere
  simp only [Node.ofContainer, otherContainer, fst_gather, List.foldl_append, hitems]
  exact ⟨rfl, rfl⟩

theorem result_charactersTree (u : NodeUses) :
    (Declared.ofTree .character u.charactersTree).result = .ok (.characters
      [(nowhere, (Character.ofName u.resident).assignStatics u.statics)]) := by
  have hresident : (Character.ofContainer u.residentContainer).result =
      .ok ((Character.ofName u.resident).assignStatics u.statics) :=
    Character.result_foldlM_readMember _ _ nowhere
  have hplaced : ∀ c ∈ [u.residentContainer], (do
      let character ← Character.ofContainer c
      return (c.nameSpan, character) : Checked _).result =
        .ok (nowhere, (Character.ofName u.resident).assignStatics u.statics) := by
    rw [List.forall_mem_singleton, Checked.result_bind hresident]
    rfl
  rw [Declared.ofTree, charactersTree, Checked.result_bind (Checked.result_mapM hplaced)]
  rfl

/-- Nodes of two names, registered in an empty world. -/
theorem items_addNode_addNode (settings : Settings) {a b : Node} (hne : b.name ≠ a.name) :
    (((World.empty settings).addNode a).1.addNode b).1.nodes.items = [a, b] := by
  have hnew : (({} : Registry .node Node).insert a.name a).1.handle? b.name = none := by
    rw [Registry.handle?_insert, if_neg hne]
    rfl
  have hitems := congrArg (·.1.items) (Registry.insert_of_new hnew b)
  exact hitems

theorem loaded_register (hu : u.Proper) (settings : Settings) :
    u.Loaded (((Loader.start settings).world.register (.nodes
        (u.nodesTree.objects.map fun c => (c.nameSpan, (Node.ofContainer c).1)))).1.register
      (.characters [(nowhere, (Character.ofName u.resident).assignStatics u.statics)])).1 := by
  have hplace := u.ofContainer_placeContainer
  have hother := u.ofContainer_otherContainer
  have hne : (Node.ofContainer u.otherContainer).1.name ≠
      (Node.ofContainer u.placeContainer).1.name := by
    rw [hother.1, hplace.1]
    exact hu.other_ne
  have hstatic := (Character.static_ofName u.resident).assignStatics (.inl rfl) hu.eq_place
  rw [if_pos ⟨_, hu.mem_statics, Key.canonical_node⟩] at hstatic
  have hindexed (a b : Node) (c : Character) :
      ((((World.empty settings).addNode a).1.addNode b).1.addCharacter c).1.Indexed := by
    have hempty := World.indexed_empty settings
    exact ⟨(hempty.nodes.insert a).insert b, hempty.characters.insert c, hempty.quests⟩
  unfold nodesTree
  split
  · have hitems := items_addNode_addNode settings hne
    exact ⟨hindexed _ _ _, ⟨_, _, .of_eq hitems, hplace, hother⟩, _, rfl, hstatic⟩
  · have hitems := items_addNode_addNode settings hne.symm
    exact ⟨hindexed _ _ _, ⟨_, _, .trans (.of_eq hitems) (.swap ..), hplace, hother⟩, _, rfl,
      hstatic⟩

theorem loaded_loader (hu : u.Proper) (settings : Settings) :
    ((Loader.start settings).addAll u.sources).2 = [true, true] ∧
      u.Loaded (u.loader settings).world := by
  obtain ⟨haccepted, hworld⟩ := Loader.addText_write hu.nodes_quoteFree
    (Declared.result_ofTree_node _) (Loader.start settings) u.nodesFile
  obtain ⟨haccepted', hworld'⟩ := Loader.addText_write hu.characters_quoteFree
    u.result_charactersTree ((Loader.start settings).addText .node u.nodesFile u.nodesTree.write).1
    u.charactersFile
  rw [hworld] at hworld'
  simp only [loader, Loader.addAll, sources, Loader.add, haccepted, haccepted', hworld']
  exact ⟨trivial, loaded_register hu settings⟩

/-! ## The uses, once linked -/

theorem Loaded.exists_place (hw : u.Loaded w) : ∃ h n, w.nodes.handle? u.place = some h ∧
    w.nodes.get? h = some n ∧ n.name = u.place := by
  obtain ⟨a, b, hperm, ⟨hname, -⟩, -⟩ := hw.nodes
  have hmem : a ∈ w.nodes.items := hperm.mem_iff.2 (by simp)
  obtain ⟨h, hhandle, hget⟩ := hw.indexed.nodes.exists_handle hmem
  exact ⟨h, a, hname ▸ hhandle, hget, hname⟩

theorem Loaded.exitResolves (hw : u.Loaded w) : u.ExitResolves w.link.1 := by
  obtain ⟨h, -, hplace, -⟩ := hw.exists_place
  obtain ⟨a, b, hperm, -, hother, hexits⟩ := hw.nodes
  have hmem : b ∈ w.nodes.items := hperm.mem_iff.2 (by simp)
  obtain ⟨i, hhandle, hget⟩ := hw.indexed.nodes.exists_handle hmem
  rw [hother] at hhandle
  refine ⟨h, { b with adjacents := w.resolvedExits b, possible := w.candidatesAt i }, hplace,
    ?_, ?_⟩
  · simp only [World.link, Registry.find?, Registry.handle?_mapEntries, hhandle, Option.bind_some,
      Registry.get?_mapEntries, hget, Option.map_some]
  · simp [Node.adjacent?, World.resolvedExits, hexits, hplace, Entries.get?]

theorem Loaded.exists_handle_iff (hw : u.Loaded w) (name : String) :
    (∃ h, w.nodes.handle? name = some h) ↔ name ∈ [u.place, u.other] := by
  obtain ⟨a, b, hperm, ⟨hplace, -⟩, hother, -⟩ := hw.nodes
  rw [← hw.indexed.nodes.mem_names_iff, (hperm.map _).mem_iff, List.map_cons, List.map_cons,
    hplace, hother, List.map_nil]

/-- Linking warns of the resident's node if neither node has the name that is shown for it, and of
nothing else. -/
theorem Loaded.warnings_link (hw : u.Loaded w) : w.link.2 =
    if (Value.ofText u.place).shown ∈ [u.place, u.other] then []
    else [.unresolvedCharacterNode u.resident (Value.ofText u.place).shown] := by
  have hexits : w.unresolvedExits = [] := by
    obtain ⟨h, -, hplace, -⟩ := hw.exists_place
    obtain ⟨a, b, hperm, ⟨-, ha⟩, -, hb⟩ := hw.nodes
    rw [World.unresolvedExits, List.flatMap_eq_nil_iff]
    intro n hn
    simp only [hperm.mem_iff, List.mem_cons, List.not_mem_nil, or_false] at hn
    rcases hn with rfl | rfl
    · simp [ha]
    · simp [hb, hplace]
  obtain ⟨c, hitems, hc⟩ := hw.character
  rw [World.link, hexits, List.nil_append, World.unresolvedCandidates, hitems,
    List.flatMap_singleton, hc.candidates, hc.name_eq, Option.map_some, Option.toList_some]
  by_cases hmem : (Value.ofText u.place).shown ∈ [u.place, u.other]
  · obtain ⟨h, hhandle⟩ := (hw.exists_handle_iff _).2 hmem
    rw [if_pos hmem]
    simp [hhandle]
  · have hnone : w.nodes.handle? (Value.ofText u.place).shown = none := by
      rw [Option.eq_none_iff_forall_ne_some]
      exact fun h hhandle => hmem ((hw.exists_handle_iff _).1 ⟨h, hhandle⟩)
    rw [if_neg hmem]
    simp [hnone]

/-- The resident, at its handle. -/
theorem Loaded.exists_resident (hw : u.Loaded w) : ∃ k c,
    w.characters.handle? u.resident = some k ∧ w.characters.get? k = some c ∧
      c.Static u.resident (some (.ofText u.place)) := by
  obtain ⟨c, hitems, hc⟩ := hw.character
  have hmem : c ∈ w.characters.items := hitems ▸ List.mem_singleton_self c
  obtain ⟨k, hhandle, hget⟩ := hw.indexed.characters.exists_handle hmem
  exact ⟨k, c, hc.name_eq ▸ hhandle, hget, hc⟩

theorem Loaded.isCandidate_iff (hw : u.Loaded w) :
    u.IsCandidate w.link.1 ↔ (Value.ofText u.place).shown = u.place := by
  obtain ⟨k, c, hhandle, hget, hc⟩ := hw.exists_resident
  have hfind : w.link.1.characters.find? u.resident = some c := by
    rw [World.link, Registry.find?, hhandle, Option.bind_some, hget]
  rw [IsCandidate, hfind]
  simp [hc.candidates, eq_comm]

theorem Loaded.isShown_iff (hw : u.Loaded w) :
    u.IsShown w.link.1 ↔ (Value.ofText u.place).shown = u.place := by
  obtain ⟨k, c, hhandle, hget, hc⟩ := hw.exists_resident
  obtain ⟨h, n, hplace, hn, hname⟩ := hw.exists_place
  have hlinked : w.link.1.nodes.get? h =
      some { n with adjacents := w.resolvedExits n, possible := w.candidatesAt h } := by
    rw [World.link, Registry.get?_mapEntries, hn, Option.map_some]
  have hin : w.link.1.isInNode c n.name = true ↔ (Value.ofText u.place).shown = u.place := by
    rw [World.isInNode, hc.isInNode_iff, hname]
  constructor
  · rintro ⟨h', k', hplace', hhandle', hmem⟩
    -- a name has one handle
    obtain rfl : h = h' := Option.some.inj (hplace.symm.trans hplace')
    obtain rfl : k = k' := Option.some.inj (hhandle.symm.trans hhandle')
    rw [World.handles_activeCharacters hlinked, List.mem_filter, World.isSome_visible?_iff] at hmem
    obtain ⟨-, c', hc', hin'⟩ := hmem
    obtain rfl : c = c' := Option.some.inj (hget.symm.trans hc')
    exact hin.1 hin'
  · intro hshown
    refine ⟨h, k, hplace, hhandle, ?_⟩
    rw [World.handles_activeCharacters hlinked, List.mem_filter, World.isSome_visible?_iff]
    refine ⟨World.mem_candidatesAt.2 ⟨c, hget, _, ?_, hplace⟩, c, hget, hin.2 hshown⟩
    rw [hc.candidates, Option.map_some, hshown]
    exact List.mem_singleton_self _

/-- An exit always leads to the node of the name that it is written with. A static assignment of
that name means the same node exactly if the name is shown as it was written. Else the node does not
show the resident, and linking warns of that unless the other node has the name that is shown. -/
theorem agree_iff_verbatim (u : NodeUses) (hu : u.Proper) (settings : Settings) :
    ((Loader.start settings).addAll u.sources).2 = [true, true] ∧
      u.ExitResolves (u.loader settings).world.link.1 ∧
      (u.Agree settings ↔ Value.Verbatim u.place) ∧
      (¬ Value.Verbatim u.place →
        ¬ u.IsCandidate (u.loader settings).world.link.1 ∧
        ¬ u.IsShown (u.loader settings).world.link.1 ∧
        (u.loader settings).world.link.2 =
          if (Value.ofText u.place).shown = u.other then []
          else [.unresolvedCharacterNode u.resident (Value.ofText u.place).shown]) := by
  obtain ⟨haccepted, hw⟩ := loaded_loader hu settings
  refine ⟨haccepted, hw.exitResolves, ?_, fun hplace => ?_⟩
  · rw [← Value.shown_ofText_iff]
    constructor
    · intro h
      exact hw.isShown_iff.1 h.shown
    · intro h
      refine ⟨?_, hw.exitResolves, hw.isCandidate_iff.2 h, hw.isShown_iff.2 h⟩
      rw [hw.warnings_link, if_pos (by simp [h])]
  · rw [← Value.shown_ofText_iff] at hplace
    refine ⟨mt hw.isCandidate_iff.1 hplace, mt hw.isShown_iff.1 hplace, ?_⟩
    rw [hw.warnings_link]
    simp [hplace]

/-- Ann is put in the node of a name, with an exit to it from the hall. -/
def annAt (place : String) : NodeUses where
  place := place
  other := "hall"
  direction := "east"
  resident := "Ann"
  statics := [(Key.node, place)]

theorem proper_annAt {place : String} (hne : "hall" ≠ place) (hquote : '"' ∉ place.toList) :
    (annAt place).Proper where
  other_ne := hne
  mem_statics := List.mem_singleton_self _
  eq_place s hs _ := by
    rw [List.mem_singleton.1 hs]
    rfl
  nodes_quoteFree := by
    have htexts : (annAt place).nodesTree.texts = [place, "hall", exitsName, "east", place] := rfl
    rw [SourceTree.QuoteFree, htexts]
    simpa [hquote] using by decide
  characters_quoteFree := by
    have htexts : (annAt place).charactersTree.texts = ["Ann", Key.node, place] := rfl
    rw [SourceTree.QuoteFree, htexts]
    simpa [hquote] using by decide

/-- Ann is in the node seven. -/
theorem agree_annAt_seven : (annAt "7").Agree {} :=
  ((annAt "7").agree_iff_verbatim (proper_annAt (by decide) (by decide)) {}).2.2.1.2 (.int 7)

/-- She is not in a node that is called seven with leading zeros, although the exit leads there. -/
theorem not_agree_annAt_leading_zeros :
    (annAt "007").Proper ∧ ¬ (annAt "007").Agree {} := by
  have hproper : (annAt "007").Proper := proper_annAt (by decide) (by decide)
  refine ⟨hproper, fun h => ?_⟩
  have hshown := (loaded_loader hproper {}).2.isShown_iff.1 h.shown
  exact absurd hshown (by decide)

end NodeUses

end StoryWorld
