import Mathlib.Data.List.Chain
import Mathlib.Data.List.Induction
import StoryWorld.Proofs.Entries
import StoryWorld.QuestLine

/-!
# Quest lines over whole runs

States are added and moves are tried, in any order, on a quest line that starts without states.
Every state stands under its own value, the current value is that of a state from the first one on,
and moves along transitions trace a path of declared ones.
-/

namespace StoryWorld

theorem QuestNode.allows_iff {n : QuestNode} {v : Integer} :
    n.allows v = true ↔ ∃ description, (v, description) ∈ n.transitions := by
  simp [allows, Entries.has]

namespace QuestLine

/-- What can be done to a quest line. -/
inductive Operation
  | addNode (n : QuestNode)
  | progress (value : Integer)
  | force (value : Integer)

/-- The state that an operation adds. -/
def Operation.node? : Operation → Option QuestNode
  | addNode n => some n
  | _ => none

/-- The quest line after an operation. -/
def perform (q : QuestLine) : Operation → QuestLine
  | .addNode n => (q.addNode n).1
  | .progress value => (q.progress value).2
  | .force value => (q.force value).2

/-- The quest line that operations make. -/
def run (name : String) (ops : List Operation) : QuestLine := ops.foldl perform { name := name }

/-- The states that operations add, in order. -/
def added (ops : List Operation) : List QuestNode := ops.filterMap Operation.node?

/-- A transition from the state `u` to the state `v` is declared, and both states are there. -/
def Declares (q : QuestLine) (u v : Integer) : Prop :=
  ∃ n description m, q.node? u = some n ∧ (v, description) ∈ n.transitions ∧ q.node? v = some m

variable {q q' : QuestLine} {u v : Integer} {name : String}

/-! ## One operation -/

/-- A quest line moves to a state that is there, or stays as it is and says why. -/
theorem force_cases (q : QuestLine) (v : Integer) :
    ((∃ m, q.node? v = some m) ∧ q.force v = (.ok (), { q with current := some v })) ∨
    ((¬ ∃ m, q.node? v = some m) ∧ q.force v = (.error (.unknownValue q.name v), q)) := by
  unfold force node?
  rw [← Entries.has_iff]
  split
  · next h => exact .inl ⟨h, rfl⟩
  · next h => exact .inr ⟨h, rfl⟩

theorem currentNode?_eq_some_iff :
    q.currentNode? = some n ↔ ∃ u, q.current = some u ∧ q.node? u = some n :=
  Option.bind_eq_some_iff

/-- A quest line moves along a declared transition, or stays as it is and says why. -/
theorem progress_cases (q : QuestLine) (v : Integer) :
    ((∃ u, q.current = some u ∧ q.Declares u v) ∧
      q.progress v = (.ok (), { q with current := some v })) ∨
    ((¬ ∃ u, q.current = some u ∧ q.Declares u v) ∧ ∃ e, q.progress v = (.error e, q)) := by
  unfold progress
  split
  · next hnone =>
    refine .inr ⟨?_, _, rfl⟩
    rintro ⟨u, hu, n, _, _, hn, -, -⟩
    have hcurrent : q.currentNode? = some n := currentNode?_eq_some_iff.2 ⟨u, hu, hn⟩
    rw [hnone] at hcurrent
    cases hcurrent
  · next n hn =>
    obtain ⟨u, hu, hnode⟩ := currentNode?_eq_some_iff.1 hn
    have hmoves : (∃ u, q.current = some u ∧ q.Declares u v) ↔
        n.allows v = true ∧ ∃ m, q.node? v = some m := by
      simp [hu, Declares, hnode, QuestNode.allows_iff]
    rw [hmoves]
    split
    · next hallows =>
      rcases q.force_cases v with ⟨hm, hforce⟩ | ⟨hm, hforce⟩
      · exact .inl ⟨⟨hallows, hm⟩, hforce⟩
      · exact .inr ⟨fun h => hm h.2, _, hforce⟩
    · next hallows => exact .inr ⟨fun h => hallows h.1, _, rfl⟩

theorem progress_eq_ok_iff : q.progress v = (.ok (), q') ↔
    (∃ u, q.current = some u ∧ q.Declares u v) ∧ q' = { q with current := some v } := by
  rcases q.progress_cases v with ⟨hmoves, hprogress⟩ | ⟨hmoves, e, hprogress⟩
  · rw [hprogress, Prod.mk.injEq, and_iff_right rfl, and_iff_right hmoves, eq_comm]
  · simp [hprogress, hmoves]

theorem node?_addNode (q : QuestLine) (n : QuestNode) (v : Integer) :
    (q.addNode n).1.node? v = if v = n.value then some n else q.node? v :=
  Entries.get?_set ..

/-- An operation adds a state, stands the quest line at one that is there, or leaves it. -/
theorem perform_cases (q : QuestLine) (op : Operation) :
    (∃ n, op.node? = some n ∧ q.perform op = (q.addNode n).1) ∨
    (op.node? = none ∧ ∃ v, (∃ m, q.node? v = some m) ∧
      q.perform op = { q with current := some v }) ∨
    (op.node? = none ∧ q.perform op = q) := by
  cases op with
  | addNode n => exact .inl ⟨n, rfl, rfl⟩
  | progress v =>
    rcases q.progress_cases v with ⟨⟨_, _, _, _, m, _, _, hm⟩, hmove⟩ | ⟨-, e, hmove⟩
    · exact .inr (.inl ⟨rfl, v, ⟨m, hm⟩, by rw [perform, hmove]⟩)
    · exact .inr (.inr ⟨rfl, by rw [perform, hmove]⟩)
  | force v =>
    rcases q.force_cases v with ⟨hm, hmove⟩ | ⟨-, hmove⟩
    · exact .inr (.inl ⟨rfl, v, hm, by rw [perform, hmove]⟩)
    · exact .inr (.inr ⟨rfl, by rw [perform, hmove]⟩)

/-! ## Runs -/

/-- Each state stands once, under its own value, and the current one is among them from the first
one on. -/
structure WellKept (q : QuestLine) : Prop where
  value_eq : ∀ e ∈ q.nodes, e.2.value = e.1
  nodup : q.nodes.keys.Nodup
  current : ∀ v, q.current = some v → ∃ n, q.node? v = some n
  nodes : q.current = none → q.nodes = []

theorem WellKept.perform (hq : q.WellKept) (op : Operation) : (q.perform op).WellKept := by
  rcases perform_cases q op with ⟨n, -, hop⟩ | ⟨-, v, hv, hop⟩ | ⟨-, hop⟩
  · rw [hop]
    refine ⟨fun e he => ?_, Entries.nodup_keys_set hq.nodup _ _, fun v hv => ?_, fun hnone => ?_⟩
    · rcases Entries.mem_set he with rfl | he
      · rfl
      · exact hq.value_eq e he
    · rw [node?_addNode]
      split
      · exact ⟨n, rfl⟩
      · next hne =>
        -- the current value is an old one, since the new state has another value
        rcases Option.or_eq_some_iff.1 hv with hold | ⟨-, hnew⟩
        · exact hq.current v hold
        · exact absurd (Option.some.inj hnew).symm hne
    · cases (Option.or_eq_none_iff.1 hnone).2
  · rw [hop]
    exact ⟨hq.value_eq, hq.nodup, fun w hw => Option.some.inj hw ▸ hv, fun hnone => nomatch hnone⟩
  · rw [hop]
    exact hq

theorem wellKept_run (name : String) (ops : List Operation) : (run name ops).WellKept := by
  refine List.foldlRecOn ops perform ⟨?_, ?_, ?_, fun _ => rfl⟩ fun q hq op _ => hq.perform op
  · exact fun e he => nomatch he
  · exact List.nodup_nil
  · exact fun v hv => nomatch hv

theorem run_concat (name : String) (ops : List Operation) (op : Operation) :
    run name (ops ++ [op]) = (run name ops).perform op :=
  List.foldl_append ..

theorem added_concat (ops : List Operation) (op : Operation) :
    added (ops ++ [op]) = added ops ++ op.node?.toList := by
  rw [added, List.filterMap_append, added]
  rcases h : op.node? with _ | n
  · simp [h]
  · simp [h]

/-- Under a value stands the last state that was added with it. -/
theorem node?_run (name : String) (ops : List Operation) (v : Integer) :
    (run name ops).node? v = (added ops).reverse.find? (·.value == v) := by
  induction ops using List.reverseRecOn with
  | nil => rfl
  | append_singleton ops op ih =>
    rw [run_concat, added_concat]
    rcases perform_cases (run name ops) op with ⟨n, hn, hop⟩ | ⟨hn, _, -, hop⟩ | ⟨hn, hop⟩
    · rw [hop, hn, node?_addNode, ih, Option.toList_some, List.reverse_append,
        List.reverse_singleton, List.singleton_append, List.find?_cons]
      by_cases hv : v = n.value
      · simp [hv]
      · have hne : (n.value == v) = false := beq_eq_false_iff_ne.2 (Ne.symm hv)
        rw [if_neg hv, hne]
    · rw [hop, hn, Option.toList_none, List.append_nil]
      exact ih
    · rw [hop, hn, Option.toList_none, List.append_nil]
      exact ih

theorem current_run_eq_none_iff (name : String) (ops : List Operation) :
    (run name ops).current = none ↔ added ops = [] := by
  induction ops using List.reverseRecOn with
  | nil => simp [run, added]
  | append_singleton ops op ih =>
    rw [run_concat, added_concat]
    rcases perform_cases (run name ops) op with ⟨n, hn, hop⟩ | ⟨hn, v, hv, hop⟩ | ⟨hn, hop⟩
    · simp [hop, hn, addNode]
    · -- a state is there, so one was added
      have hsome : added ops ≠ [] := by
        rintro hnil
        obtain ⟨m, hm⟩ := hv
        rw [node?_run, hnil] at hm
        cases hm
      simp [hop, hn, hsome]
    · simp [hop, hn, ih]

/-! ## Moves along transitions -/

/-- The values that moves along transitions pass: the current one, and then one for each move that
is not refused. -/
def visited (q : QuestLine) : List Integer → List Integer
  | [] => q.current.toList
  | v :: vs =>
    match q.progress v with
    | (.ok (), q') => q.current.toList ++ q'.visited vs
    | (.error _, q') => q'.visited vs

/-- A move passes the current value, and one that is refused passes nothing. -/
theorem visited_cons_cases (q : QuestLine) (v : Integer) (vs : List Integer) :
    (∃ u, q.current = some u ∧ q.Declares u v ∧
      q.perform (.progress v) = { q with current := some v } ∧
      q.visited (v :: vs) = u :: ({ q with current := some v } : QuestLine).visited vs) ∨
    (q.perform (.progress v) = q ∧ q.visited (v :: vs) = q.visited vs) := by
  rcases q.progress_cases v with ⟨⟨u, hu, hdeclares⟩, hmove⟩ | ⟨-, e, hmove⟩
  · refine .inl ⟨u, hu, hdeclares, by rw [perform, hmove], ?_⟩
    simp only [visited, hmove, hu, Option.toList_some, List.singleton_append]
  · exact .inr ⟨by rw [perform, hmove], by simp only [visited, hmove]⟩

theorem head?_visited (q : QuestLine) (vs : List Integer) :
    (q.visited vs).head? = q.current := by
  induction vs with
  | nil => simp [visited]
  | cons v vs ih =>
    rcases q.visited_cons_cases v vs with ⟨u, hu, -, -, hvisited⟩ | ⟨-, hvisited⟩
    · rw [hvisited, hu, List.head?_cons]
    · rw [hvisited, ih]

theorem getLast?_visited (q : QuestLine) (vs : List Integer) :
    (q.visited vs).getLast? = ((vs.map .progress).foldl perform q).current := by
  induction vs generalizing q with
  | nil =>
    change q.current.toList.getLast? = q.current
    cases q.current <;> rfl
  | cons v vs ih =>
    rw [List.map_cons, List.foldl_cons, ← ih]
    rcases q.visited_cons_cases v vs with ⟨u, -, -, hop, hvisited⟩ | ⟨hop, hvisited⟩
    · have hne : ({ q with current := some v } : QuestLine).visited vs ≠ [] := by
        rw [Ne, ← List.head?_eq_none_iff, head?_visited]
        exact Option.some_ne_none v
      rw [hop, hvisited, ← List.singleton_append, List.getLast?_append_of_ne_nil _ hne]
    · rw [hop, hvisited]

theorem isChain_visited (q : QuestLine) (vs : List Integer) :
    (q.visited vs).IsChain q.Declares := by
  induction vs generalizing q with
  | nil =>
    rw [visited]
    cases q.current with
    | none => exact .nil
    | some u => exact .singleton u
  | cons v vs ih =>
    rcases q.visited_cons_cases v vs with ⟨u, -, hdeclares, -, hvisited⟩ | ⟨-, hvisited⟩
    · rw [hvisited, List.isChain_cons]
      refine ⟨fun w hw => ?_, ih { q with current := some v }⟩
      rw [head?_visited] at hw
      cases hw
      exact hdeclares
    · rw [hvisited]
      exact ih q

/-- Every value that moves pass is that of a state. -/
theorem WellKept.exists_node_of_mem_visited (hq : q.WellKept) (vs : List Integer) :
    ∀ u ∈ q.visited vs, ∃ n, q.node? u = some n := by
  induction vs generalizing q with
  | nil => exact fun u hu => hq.current u (Option.mem_toList.1 hu)
  | cons v vs ih =>
    rcases q.visited_cons_cases v vs with ⟨u, hu, -, hop, hvisited⟩ | ⟨-, hvisited⟩
    · have hkept : (q.perform (.progress v)).WellKept := hq.perform _
      rw [hop] at hkept
      rw [hvisited, List.forall_mem_cons]
      exact ⟨hq.current u hu, ih hkept⟩
    · rw [hvisited]
      exact ih hq

/-! ## All runs -/

/-- How a quest line stands after operations, and what it answers to the next one. -/
structure KeepsToStates (name : String) (ops : List Operation) : Prop where
  current_eq_none_iff : (run name ops).current = none ↔ added ops = []
  current : ∀ v, (run name ops).current = some v → ∃ n, (run name ops).node? v = some n
  value_eq : ∀ e ∈ (run name ops).nodes, e.2.value = e.1
  nodup : (run name ops).nodes.keys.Nodup
  /-- Under a value stands the last state that was added with it. -/
  node? : ∀ v, (run name ops).node? v = (added ops).reverse.find? (·.value == v)
  /-- Only the first state that is added becomes the current one. -/
  current_addNode : ∀ n, ((run name ops).perform (.addNode n)).current =
    if added ops = [] then some n.value else (run name ops).current
  /-- A move along a transition needs a current state that declares it, and a state to go to. -/
  progress_iff : ∀ v, ((run name ops).progress v).1 = .ok () ↔
    ∃ u, (run name ops).current = some u ∧ (run name ops).Declares u v
  force_iff : ∀ v, ((run name ops).force v).1 = .ok () ↔ ∃ n, (run name ops).node? v = some n
  /-- A move changes the current value and nothing else. -/
  progress_taken : ∀ v, ((run name ops).progress v).1 = .ok () →
    ((run name ops).progress v).2 = { run name ops with current := some v }
  force_taken : ∀ v, ((run name ops).force v).1 = .ok () →
    ((run name ops).force v).2 = { run name ops with current := some v }
  /-- A move that is refused, for whatever reason, changes nothing. -/
  progress_refused : ∀ v e, ((run name ops).progress v).1 = .error e →
    ((run name ops).progress v).2 = run name ops
  force_refused : ∀ v e, ((run name ops).force v).1 = .error e →
    ((run name ops).force v).2 = run name ops
  /-- Moves along transitions trace a path of declared ones, up to the value they leave. -/
  path : ∀ vs, ((run name ops).visited vs).IsChain (run name ops).Declares
  exists_node : ∀ vs, ∀ v ∈ (run name ops).visited vs, ∃ n, (run name ops).node? v = some n
  getLast?_visited : ∀ vs,
    ((run name ops).visited vs).getLast? = (run name (ops ++ vs.map .progress)).current

/-- Whatever was added and tried, a quest line keeps to the states that were added: it moves to one
of them or stays as it is. -/
theorem run_keepsToStates (name : String) (ops : List Operation) : KeepsToStates name ops where
  current_eq_none_iff := current_run_eq_none_iff name ops
  current := (wellKept_run name ops).current
  value_eq := (wellKept_run name ops).value_eq
  nodup := (wellKept_run name ops).nodup
  node? := node?_run name ops
  current_addNode n := by
    rcases hcurrent : (run name ops).current with _ | u
    · have hadded : added ops = [] := (current_run_eq_none_iff name ops).1 hcurrent
      simp [perform, addNode, hcurrent, hadded]
    · have hadded : added ops ≠ [] := by
        intro hnil
        rw [(current_run_eq_none_iff name ops).2 hnil] at hcurrent
        cases hcurrent
      simp [perform, addNode, hcurrent, hadded]
  progress_iff v := by
    rcases (run name ops).progress_cases v with ⟨hmoves, h⟩ | ⟨hmoves, e, h⟩ <;> simp [h, hmoves]
  force_iff v := by
    rcases (run name ops).force_cases v with ⟨hm, h⟩ | ⟨hm, h⟩ <;> simp [h, hm]
  progress_taken v := by
    rcases (run name ops).progress_cases v with ⟨-, h⟩ | ⟨-, e, h⟩ <;> simp [h]
  force_taken v := by
    rcases (run name ops).force_cases v with ⟨-, h⟩ | ⟨-, h⟩ <;> simp [h]
  progress_refused v e := by
    rcases (run name ops).progress_cases v with ⟨-, h⟩ | ⟨-, e', h⟩ <;> simp [h]
  force_refused v e := by
    rcases (run name ops).force_cases v with ⟨-, h⟩ | ⟨-, h⟩ <;> simp [h]
  path := isChain_visited _
  exists_node := (wellKept_run name ops).exists_node_of_mem_visited
  getLast?_visited vs := by
    rw [getLast?_visited, run, run, List.foldl_append]

end QuestLine

end StoryWorld
