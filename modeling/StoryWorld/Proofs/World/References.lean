import StoryWorld.Proofs.Entries
import StoryWorld.Proofs.World.Relinking

/-!
# References to nodes by name

Nodes are named in the exits of nodes and among the candidates of characters. References are
resolved one by one: one to a node becomes a link, which some node keeps, and any other a warning.
What comes of all references in turn is said for each node apart (`resolveAll_eq`), and for the
references of a world these are its exits (`foldl_settle_exitReferences`) and its candidates
(`foldl_settle_candidateReferences`).
-/

namespace StoryWorld

/-! ## References -/

/-- The node with one more character that may be in it. -/
def Node.addPossible (n : Node) (k : Handle .character) : Node :=
  if k ∈ n.possible then n else { n with possible := n.possible ++ [k] }

theorem Node.addPossible_addPossible (n : Node) (k : Handle .character) :
    (n.addPossible k).addPossible k = n.addPossible k := by
  by_cases hk : k ∈ n.possible
  · simp [addPossible, hk]
  · simp [addPossible, hk]

namespace World

/-- A name that stands for a node: the target of an exit, or a candidate of a character. -/
inductive Reference
  | exit (h : Handle .node) (node direction target : String)
  | candidate (k : Handle .character) (character target : String)

namespace Reference

def target : Reference → String
  | exit _ _ _ target => target
  | candidate _ _ target => target

/-- What is warned of where no node has the name. -/
def warning : Reference → WorldWarning
  | exit _ node direction target => .unresolvedExit node direction target
  | candidate _ character target => .unresolvedCharacterNode character target

/-- The node that keeps the link which a reference to the node at `l` becomes. -/
def keeper (l : Handle .node) : Reference → Handle .node
  | exit h _ _ _ => h
  | candidate _ _ _ => l

/-- The keeper with its link. -/
def linking (l : Handle .node) : Reference → Node → Node
  | exit _ _ direction _, n => { n with adjacents := n.adjacents.set direction l }
  | candidate k _ _, n => n.addPossible k

end Reference

/-- The exits of a world: nodes by handle, and the exits of each as they are declared. -/
def exitReferences (w : World) : List Reference :=
  w.nodes.entries.flatMap fun (h, n) => n.exits.map fun (direction, target) =>
    .exit h n.name direction target

/-- The candidates of a world: characters by handle, and the candidates of each in order. -/
def candidateReferences (w : World) : List Reference :=
  w.characters.entries.flatMap fun (k, c) => c.candidates.map fun name =>
    .candidate k c.name name

/-- The references in a world, in the order in which they are resolved. -/
def references (w : World) : List Reference := w.exitReferences ++ w.candidateReferences

/-- Resolves one reference: it becomes a link if a node has the name, and a warning if none has. -/
def resolve (w : World) (r : Reference) : World × Option WorldWarning :=
  match w.nodes.handle? r.target with
  | none => (w, some r.warning)
  | some l => ({ w with nodes := w.nodes.modify (r.keeper l) (r.linking l) }, none)

/-- Resolves references one by one. -/
def resolveAll (w : World) : List Reference → World × List WorldWarning
  | [] => (w, [])
  | r :: rs =>
    let (w', warning) := w.resolve r
    let (w'', warnings) := w'.resolveAll rs
    (w'', warning.toList ++ warnings)

/-- The node at `h` once a reference is resolved. -/
def settle (w : World) (h : Handle .node) (n : Node) (r : Reference) : Node :=
  match w.nodes.handle? r.target with
  | none => n
  | some l => if h = r.keeper l then r.linking l n else n

variable {w : World}

theorem resolve_eq (w : World) (r : Reference) : w.resolve r =
    ({ w with nodes := w.nodes.mapEntries fun h n => w.settle h n r },
      if (w.nodes.handle? r.target).isNone then some r.warning else none) := by
  unfold resolve settle
  rcases w.nodes.handle? r.target with _ | l
  · simp only [Registry.mapEntries_eq_self fun _ _ _ => rfl]
    rfl
  · simp only [Registry.modify_eq_mapEntries]
    rfl

theorem resolveAll_eq (w : World) (rs : List Reference) : w.resolveAll rs =
    ({ w with nodes := w.nodes.mapEntries fun h n => rs.foldl (w.settle h) n },
      rs.filterMap fun r =>
        if (w.nodes.handle? r.target).isNone then some r.warning else none) := by
  induction rs generalizing w with
  | nil =>
    rw [resolveAll]
    simp only [List.foldl_nil, Registry.mapEntries_eq_self fun _ _ _ => rfl]
    rfl
  | cons r rs ih =>
    -- links leave the index as it is, so every reference is looked up in `w`
    simp only [resolveAll, resolve_eq, ih, Registry.mapEntries_mapEntries, List.foldl_cons,
      List.filterMap_cons]
    split <;> rfl

/-! ## Exits in turn -/

theorem foldl_settle_exits (h : Handle .node) (name : String) {es : Entries String String}
    (hes : es.keys.Nodup) (n : Node) (hnew : ∀ d ∈ es.keys, d ∉ n.adjacents.keys) :
    (es.map fun e => Reference.exit h name e.1 e.2).foldl (w.settle h) n =
      { n with adjacents := n.adjacents ++ es.filterMap fun e =>
          (w.nodes.handle? e.2).map fun l => (e.1, l) } := by
  induction es generalizing n with
  | nil => simp
  | cons e es ih =>
    obtain ⟨direction, target⟩ := e
    obtain ⟨hfirst, hrest⟩ := List.nodup_cons.1 hes
    rw [Entries.keys, List.map_cons, List.forall_mem_cons] at hnew
    rw [List.map_cons, List.foldl_cons]
    rcases htarget : w.nodes.handle? target with _ | l
    · have hstep : w.settle h n (.exit h name direction target) = n := by
        simp only [settle, Reference.target, htarget]
      rw [hstep, ih hrest n hnew.2]
      simp [htarget]
    · have hstep : w.settle h n (.exit h name direction target) =
          { n with adjacents := n.adjacents ++ [(direction, l)] } := by
        simp only [settle, Reference.target, htarget, Reference.keeper, if_true,
          Reference.linking, Entries.set_of_notMem_keys hnew.1]
      rw [hstep, ih hrest]
      · simp [htarget]
      · intro d hd
        rw [Entries.keys, List.map_append, List.mem_append, not_or]
        refine ⟨hnew.2 d hd, fun hmem => ?_⟩
        obtain rfl : d = direction := List.mem_singleton.1 hmem
        exact hfirst hd

theorem settle_exit_of_ne (hne : h' ≠ h) (w : World) (n : Node) (name direction target : String) :
    w.settle h n (.exit h' name direction target) = n := by
  unfold settle
  split
  · rfl
  · exact if_neg (Ne.symm hne)

theorem foldl_settle_exitReferences (hn : w.nodes.get? h = some n) (hexits : n.exits.keys.Nodup) :
    w.exitReferences.foldl (w.settle h) n.unlinked =
      { n with adjacents := w.resolvedExits n, possible := [] } := by
  rw [exitReferences, List.foldl_flatMap, Registry.foldl_entries_of_get? hn]
  · have hfold := foldl_settle_exits (w := w) h n.name hexits n.unlinked fun d _ => List.not_mem_nil
    exact hfold
  · -- the exits of another node make no link here
    rintro b ⟨h', n'⟩ hne
    dsimp only at hne ⊢
    induction n'.exits generalizing b with
    | nil => rfl
    | cons e es ih =>
      rw [List.map_cons, List.foldl_cons, settle_exit_of_ne hne]
      exact ih b

/-! ## Candidates in turn -/

theorem settle_candidate (w : World) (h : Handle .node) (n : Node) (k : Handle .character)
    (character name : String) : w.settle h n (.candidate k character name) =
      if w.nodes.handle? name == some h then n.addPossible k else n := by
  simp only [settle, Reference.target]
  rcases w.nodes.handle? name with _ | l
  · rfl
  · by_cases hl : h = l
    · simp [Reference.keeper, Reference.linking, hl]
    · simp [Reference.keeper, hl, Ne.symm hl]

theorem foldl_settle_candidates (w : World) (h : Handle .node) (n : Node) (k : Handle .character)
    (character : String) (names : List String) :
    (names.map fun name => Reference.candidate k character name).foldl (w.settle h) n =
      if names.any fun name => w.nodes.handle? name == some h then n.addPossible k else n := by
  induction names generalizing n with
  | nil => rfl
  | cons name names ih =>
    rw [List.map_cons, List.foldl_cons, ih, settle_candidate, List.any_cons]
    by_cases hname : w.nodes.handle? name == some h
    · simp [hname, Node.addPossible_addPossible]
    · simp [hname]

theorem foldl_addPossible {ks : List (Handle .character × Character)} (p : Character → Bool)
    (hks : ks.Pairwise fun e e' => e.1.index < e'.1.index) (n : Node)
    (hnew : ∀ e ∈ ks, e.1 ∉ n.possible) :
    ks.foldl (fun n e => if p e.2 then n.addPossible e.1 else n) n =
      { n with possible := n.possible ++ (ks.filter fun e => p e.2).map (·.1) } := by
  induction ks generalizing n with
  | nil => simp
  | cons e ks ih =>
    obtain ⟨hlt, hrest⟩ := List.pairwise_cons.1 hks
    rw [List.forall_mem_cons] at hnew
    rw [List.foldl_cons]
    by_cases he : p e.2
    · have hadded : n.addPossible e.1 = { n with possible := n.possible ++ [e.1] } := if_neg hnew.1
      rw [if_pos he, hadded, ih hrest]
      · simp [he]
      · intro e' he'
        rw [List.mem_append, List.mem_singleton, not_or]
        refine ⟨hnew.2 e' he', fun heq => ?_⟩
        have hindex := hlt e' he'
        rw [heq] at hindex
        exact Nat.lt_irrefl _ hindex
    · rw [if_neg he, ih hrest n hnew.2]
      simp [he]

theorem foldl_settle_candidateReferences (w : World) (h : Handle .node) (n : Node)
    (hn : n.possible = []) : w.candidateReferences.foldl (w.settle h) n =
      { n with possible := w.candidatesAt h } := by
  rw [candidateReferences, List.foldl_flatMap]
  simp only [foldl_settle_candidates]
  rw [foldl_addPossible (fun c => c.candidates.any fun name => w.nodes.handle? name == some h)
    (Registry.pairwise_entries _) n (by simp [hn]), hn, List.nil_append]
  rfl

end World

end StoryWorld
