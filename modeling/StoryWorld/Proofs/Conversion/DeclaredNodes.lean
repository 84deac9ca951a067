import StoryWorld.Proofs.Conversion.Characters
import StoryWorld.Proofs.Conversion.Headings
import StoryWorld.Proofs.Entries
import StoryWorld.Proofs.Key
import StoryWorld.Proofs.Rule.Wrapping

/-!
# The nodes that a character's source declares

The candidates of a character are the values that its container assigns to the node key, at any
depth and in any spelling of the key, as shown, each where it is first assigned
(`Character.candidates_of_ofContainer`).
-/

namespace StoryWorld

/-! ## Assignments of a container -/

mutual
/-- The assignments in a member at any depth, in order. -/
def Member.assignments : Member → List (String × String)
  | container _ members _ _ => allAssignments members
  | assignment key value _ => [(key, value)]
  | item .. => []

def Member.allAssignments : List Member → List (String × String)
  | [] => []
  | m :: ms => m.assignments ++ allAssignments ms
end

/-- The values that written assignments give the node key, as shown. -/
def declaredNodes (assignments : List (String × String)) : List String :=
  (assignments.filter fun a => Text.sameFolded a.1 Key.node).map fun a => (Value.ofText a.2).shown

theorem declaredNodes_append (as bs : List (String × String)) :
    declaredNodes (as ++ bs) = declaredNodes as ++ declaredNodes bs := by
  rw [declaredNodes, List.filter_append, List.map_append, declaredNodes, declaredNodes]

theorem Key.canonical_eq_node_iff {key : String} :
    canonical key = node ↔ Text.sameFolded key node = true := by
  constructor
  · intro h
    rw [← h]
    exact sameFolded_canonical key
  · exact canonical_of_sameFolded List.mem_cons_self

theorem declaredNodes_singleton (key value : String) : declaredNodes [(key, value)] =
    if Key.canonical key = Key.node then [(Value.ofText value).shown] else [] := by
  by_cases hkey : Text.sameFolded key Key.node = true
  · simp [declaredNodes, Key.canonical_eq_node_iff, hkey]
  · simp [declaredNodes, Key.canonical_eq_node_iff, hkey]

/-! ## What rules note -/

theorem Effect.AllWritten.allAssignedNodes_eq (h : AllWritten ms es) :
    allAssignedNodes es = declaredNodes (Member.allAssignments ms) := by
  induction h with
  | nil => rfl
  | assign _ ih =>
    rw [allAssignedNodes, ih, assignedNodes, Member.allAssignments, Member.assignments,
      declaredNodes_append, declaredNodes_singleton]
  | nest _ _ _ ihinner ih =>
    rw [allAssignedNodes, ih, assignedNodes, ihinner, Member.allAssignments, Member.assignments,
      declaredNodes_append]
  | rerun _ _ ih => exact ih
  | stray _ _ ih => exact ih

/-! ## Names that are noted once -/

/-- To note names one after the other is to keep the first of each. -/
theorem foldl_noteName_eraseDups (noted names : List String) :
    names.foldl noteName noted.eraseDups = (noted ++ names).eraseDups := by
  induction names generalizing noted with
  | nil => rw [List.foldl_nil, List.append_nil]
  | cons name names ih =>
    have hname : noteName noted.eraseDups name = (noted ++ [name]).eraseDups := by
      rw [eraseDups_concat, noteName, List.contains_eq_mem]
      simp only [List.mem_eraseDups, decide_eq_true_eq]
    rw [List.foldl_cons, hname, ih, List.append_assoc]
    rfl

namespace Character

theorem candidates_addCharacteristic (c : Character) (key : String) (v : Value) :
    (c.addCharacteristic key v).1.candidates =
      if Key.canonical key = Key.node then noteName c.candidates v.shown else c.candidates := rfl

theorem candidates_of_readMember {c c' : Character} {m : Member}
    (h : (readMember c m).result = .ok c') :
    c'.candidates = (declaredNodes m.assignments).foldl noteName c.candidates := by
  cases m with
  | container name members span nameSpan =>
    obtain ⟨r, hr, hc'⟩ := Checked.result_bind_eq_ok_iff.1 h
    obtain rfl := Except.ok.inj hc'
    have hwritten := ((Rule.settles_ofContainer ⟨name, members, span, nameSpan⟩).of_result hr).2
    rw [candidates_addRule, hwritten.effects.allAssignedNodes_eq, Member.assignments]
  | assignment key value span =>
    have hc' : (c.addCharacteristic key (.ofText value)).1 = c' := Except.ok.inj h
    rw [← hc', candidates_addCharacteristic, Member.assignments, declaredNodes_singleton]
    split
    · rfl
    · rfl
  | item text span =>
    obtain rfl := Except.ok.inj h
    rfl

theorem candidates_of_foldlM {c c' : Character} {ms : List Member}
    (h : (ms.foldlM readMember c).result = .ok c') :
    c'.candidates = (declaredNodes (Member.allAssignments ms)).foldl noteName c.candidates := by
  induction ms generalizing c with
  | nil =>
    obtain rfl := Except.ok.inj h
    rfl
  | cons m ms ih =>
    rw [List.foldlM_cons] at h
    obtain ⟨c₁, hc₁, hrest⟩ := Checked.result_bind_eq_ok_iff.1 h
    rw [ih hrest, candidates_of_readMember hc₁, Member.allAssignments, declaredNodes_append,
      List.foldl_append]

/-- The candidates of a character are the nodes that its container declares, in order and each at
its first place. -/
theorem candidates_of_ofContainer {o : Container} {c : Character}
    (h : (ofContainer o).result = .ok c) :
    c.candidates = (declaredNodes (Member.allAssignments o.members)).eraseDups :=
  (candidates_of_foldlM h).trans (foldl_noteName_eraseDups [] _)

/-- A guest who is at home in `7` under two spellings, before and within his rules. -/
def guest : Container where
  name := "guest"
  members := [.container "true" [.assignment "node" "inn" ⟨17, 27⟩,
      .container "late" [.assignment "Node" " +7" ⟨35, 47⟩] ⟨28, 49⟩ ⟨28, 32⟩,
      .assignment "mood" "inn" ⟨50, 60⟩] ⟨8, 62⟩ ⟨8, 14⟩,
    .assignment "NODE" "7" ⟨63, 72⟩, .assignment "nodE" "cave" ⟨73, 85⟩]
  span := ⟨0, 87⟩
  nameSpan := ⟨0, 5⟩

theorem candidates_guest : ∃ c, (ofContainer guest).result = .ok c ∧
    c.candidates = ["inn", "7", "cave"] := by
  have hguest : ∃ c, (ofContainer guest).result = .ok c := ⟨_, rfl⟩
  obtain ⟨c, hc⟩ := hguest
  refine ⟨c, hc, ?_⟩
  rw [candidates_of_ofContainer hc]
  decide

end Character

end StoryWorld
