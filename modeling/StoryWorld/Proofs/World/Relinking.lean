import StoryWorld.Proofs.World.Visibility

/-!
# Worlds that are linked again

Linking makes the links of a world from what is declared in it. All else that happens to a world
goes on in the same way whether nodes have links or not (`unlinked_follow`), so links that are made
on the way leave nothing behind (`link_followAll`).
-/

namespace StoryWorld

/-! ## What happens to a world -/

/-- The node as it is declared. -/
def Node.unlinked (n : Node) : Node := { n with adjacents := [], possible := [] }

namespace World

/-- Something to register, a node with whatever links it has. -/
inductive Entity
  | node (n : Node)
  | character (c : Character)
  | quest (q : QuestLine)

/-- The world with one more thing. -/
def enroll (w : World) : Entity → World
  | .node n => (w.addNode n).1
  | .character c => (w.addCharacter c).1
  | .quest q => (w.addQuestLine q).1

/-- Something is registered, the world changes, or it is linked. -/
inductive Event
  | enroll (e : Entity)
  | change (c : Change)
  | link

def Event.isLink : Event → Bool
  | link => true
  | _ => false

/-- The world after an event. -/
def follow (w : World) : Event → World
  | .enroll e => w.enroll e
  | .change c => w.change c
  | .link => w.link.1

/-- The world after events, in order. -/
def followAll (w : World) (es : List Event) : World := es.foldl follow w

/-! ## Links do not matter on the way -/

def Entity.unlinked : Entity → Entity
  | node n => node n.unlinked
  | e => e

def Event.unlinked : Event → Event
  | enroll e => enroll e.unlinked
  | e => e

def unlinked (w : World) : World := { w with nodes := w.nodes.map Node.unlinked }

theorem unlinked_enroll (w : World) (e : Entity) :
    (w.enroll e).unlinked = w.unlinked.enroll e.unlinked := by
  cases e with
  | node n =>
    have hinsert := congrArg Prod.fst (w.nodes.insert_map Node.unlinked n.name n)
    exact congrArg (fun nodes => { w with nodes := nodes }) hinsert.symm
  | character | quest => rfl

theorem unlinked_moveQuest (w : World) (quest : String)
    (move : QuestLine → Except QuestError Unit × QuestLine) :
    (w.moveQuest quest move).2.unlinked = (w.unlinked.moveQuest quest move).2 := by
  rcases w.moveQuest_cases quest move with ⟨hquest, hmoved⟩ | ⟨h, q, hname, hq, hmoved⟩
  · rw [hmoved, moveQuest_of_none (w := w.unlinked) hquest]
  · rw [hmoved, moveQuest_of_get? (w := w.unlinked) hname hq]
    rfl

theorem unlinked_change (w : World) (c : Change) :
    (w.change c).unlinked = w.unlinked.change c := by
  cases c with
  | hours | kill => rfl
  | progress quest value => exact unlinked_moveQuest w quest (·.progress value)
  | force quest value => exact unlinked_moveQuest w quest (·.force value)

theorem unlinked_link (w : World) : w.link.1.unlinked = w.unlinked := by
  have hnodes : w.link.1.nodes.map Node.unlinked = w.nodes.map Node.unlinked := by
    rw [link, Registry.map_mapEntries, Registry.map_eq_mapEntries w.nodes]
    rfl
  exact congrArg (fun nodes => { w with nodes := nodes }) hnodes

/-- Linking sees nothing of the links that there are. -/
theorem link_unlinked (w : World) : w.unlinked.link = w.link := by
  have hnodes : w.unlinked.link.1.nodes = w.link.1.nodes := by
    rw [link, unlinked, Registry.mapEntries_map]
    rfl
  have hexits : w.unlinked.unresolvedExits = w.unresolvedExits := by
    rw [unresolvedExits, unlinked, Registry.map, List.flatMap_map]
    rfl
  refine Prod.ext (congrArg (fun nodes => { w with nodes := nodes }) hnodes) ?_
  exact congrArg (· ++ w.unresolvedCandidates) hexits

theorem unlinked_followAll (w : World) (es : List Event) : (w.followAll es).unlinked =
    w.unlinked.followAll ((es.filter (!·.isLink)).map Event.unlinked) := by
  induction es generalizing w with
  | nil => rfl
  | cons e es ih =>
    have hrest : (w.followAll (e :: es)).unlinked = _ := ih (w.follow e)
    rw [hrest]
    cases e with
    | enroll e => rw [follow, unlinked_enroll]; rfl
    | change c => rw [follow, unlinked_change]; rfl
    | link => rw [follow, unlinked_link]; rfl

/-- The links of a world are those that its things declare. -/
structure LinkedAsDeclared (w : World) : Prop extends Linked w where
  mem_adjacents : ∀ {h : Handle .node} {n : Node}, w.nodes.get? h = some n →
    ∀ direction k, (direction, k) ∈ n.adjacents ↔ ∃ target,
      (direction, target) ∈ n.exits ∧ w.nodes.handle? target = some k

theorem linkedAsDeclared_link (w : World) : w.link.1.LinkedAsDeclared := by
  refine ⟨linked_link w, fun {h n} hn direction k => ?_⟩
  rw [link, Registry.get?_mapEntries] at hn
  obtain ⟨old, -, rfl⟩ := Option.map_eq_some_iff.1 hn
  simp only [resolvedExits, List.mem_filterMap, Option.map_eq_some_iff, Prod.mk.injEq]
  constructor
  · rintro ⟨⟨direction', target⟩, hmem, k', hk', rfl, rfl⟩
    exact ⟨target, hmem, hk'⟩
  · rintro ⟨target, hmem, hk⟩
    exact ⟨(direction, target), hmem, k, hk, rfl, rfl⟩

/-- Links that were made before the last ones do not matter: the world and the warnings are the same
without them. To link again changes nothing, and all links are as declared at the end. -/
theorem link_followAll (w : World) (es : List Event) :
    (w.followAll es).link = (w.followAll (es.filter (!·.isLink))).link ∧
      (w.followAll es).link.1.link = (w.followAll es).link ∧
      (w.followAll es).link.1.LinkedAsDeclared := by
  refine ⟨?_, ?_, linkedAsDeclared_link _⟩
  · have hboth : (w.followAll es).unlinked = (w.followAll (es.filter (!·.isLink))).unlinked := by
      rw [unlinked_followAll, unlinked_followAll, List.filter_filter]
      simp only [Bool.and_self]
    rw [← link_unlinked, hboth, link_unlinked]
  · rw [← link_unlinked, unlinked_link, link_unlinked]

end World

end StoryWorld
