import StoryWorld.Loader
import StoryWorld.Proofs.Key
import StoryWorld.Proofs.Rule.Candidates

/-!
# What conversions give

Nodes are never refused, and neither are characters without rules: these have the candidate that
their static node shows, and are there.
-/

namespace StoryWorld

/-! ## Conversions without refusals -/

namespace Checked

variable {α β : Type}

theorem result_bind {x : Checked α} {a : α} (h : x.result = .ok a) (k : α → Checked β) :
    (x >>= k).result = (k a).result := by
  simp only [bind, Checked.bind, h]

theorem result_mapM {k : α → Checked β} {g : α → β} {as : List α}
    (h : ∀ a ∈ as, (k a).result = .ok (g a)) : (as.mapM k).result = .ok (as.map g) := by
  induction as with
  | nil => rfl
  | cons a as ih =>
    rw [List.forall_mem_cons] at h
    rw [List.mapM_cons, result_bind h.1, result_bind (ih h.2)]
    rfl

end Checked

theorem fst_gather {σ α : Type} (f : σ → α → σ × List Notice) (s : σ) (as : List α) :
    (gather f s as).1 = as.foldl (fun s a => (f s a).1) s := by
  induction as generalizing s with
  | nil => rfl
  | cons a as ih => exact ih (f s a).1

theorem Node.foldl_readMember_items (n : Node) (texts : List String) (span : Span) :
    ∃ description, (texts.map (.item · span)).foldl (fun n m => (readMember n m).1) n =
      { n with description := description } := by
  induction texts generalizing n with
  | nil => exact ⟨n.description, rfl⟩
  | cons text texts ih => exact ih { n with description := text }

/-- A source of nodes is not refused. -/
theorem Declared.result_ofTree_node (t : SourceTree) :
    (ofTree .node t).result =
      .ok (.nodes (t.objects.map fun c => (c.nameSpan, (Node.ofContainer c).1))) := by
  rw [ofTree, Checked.result_bind (Checked.result_mapM fun c _ => rfl)]
  rfl

/-! ## Characters of static characteristics -/

namespace Character

/-- A living character without rules whose static node is `v`, if it has one. -/
structure Static (c : Character) (name : String) (v : Option Value) : Prop where
  name_eq : c.name = name
  alive : c.alive = true
  rules : c.rules = []
  candidates : c.candidates = (v.map (·.shown)).toList
  node : c.characteristics.get? Key.node = v

variable {c : Character} {name : String} {v : Value}

theorem static_ofName (name : String) : (ofName name).Static name none where
  name_eq := rfl
  alive := rfl
  rules := rfl
  candidates := rfl
  node := by
    have hne : Key.name ≠ Key.node := by decide
    simp [ofName, Entries.get?, hne]

theorem Static.addCharacteristic_other {key : String} {old : Option Value}
    (hc : c.Static name old) (hkey : Key.canonical key ≠ Key.node) (v : Value) :
    (c.addCharacteristic key v).1.Static name old where
  name_eq := hc.name_eq
  alive := hc.alive
  rules := hc.rules
  candidates := by
    simp only [addCharacteristic, if_neg hkey]
    exact hc.candidates
  node := by
    rw [← hc.node]
    exact Entries.get?_set_of_ne _ _ (Ne.symm hkey)

theorem Static.addCharacteristic_node {key : String} {old : Option Value}
    (hc : c.Static name old) (hkey : Key.canonical key = Key.node)
    (hold : old = none ∨ old = some v) : (c.addCharacteristic key v).1.Static name (some v) where
  name_eq := hc.name_eq
  alive := hc.alive
  rules := hc.rules
  candidates := by
    simp only [addCharacteristic, if_pos hkey, hc.candidates]
    rcases hold with rfl | rfl
    · rfl
    · simp [noteName]
  node := by
    simp only [addCharacteristic, hkey]
    exact Entries.get?_set_self ..

/-- The character with static assignments, in order. -/
def assignStatics (c : Character) (statics : List (String × String)) : Character :=
  statics.foldl (fun c s => (c.addCharacteristic s.1 (.ofText s.2)).1) c

theorem result_foldlM_readMember (c : Character) (statics : List (String × String)) (span : Span) :
    ((statics.map fun s => Member.assignment s.1 s.2 span).foldlM readMember c).result =
      .ok (c.assignStatics statics) := by
  induction statics generalizing c with
  | nil => rfl
  | cons s statics ih =>
    rw [List.map_cons, List.foldlM_cons, Checked.result_bind rfl, ih]
    rfl

theorem Static.assignStatics {text : String} {statics : List (String × String)}
    {old : Option Value} (hc : c.Static name old) (hold : old = none ∨ old = some (.ofText text))
    (hstatics : ∀ s ∈ statics, Key.canonical s.1 = Key.node → s.2 = text) :
    (c.assignStatics statics).Static name
      (if ∃ s ∈ statics, Key.canonical s.1 = Key.node then some (.ofText text) else old) := by
  induction statics generalizing c old with
  | nil => simpa [Character.assignStatics] using hc
  | cons s statics ih =>
    rw [List.forall_mem_cons] at hstatics
    by_cases hkey : Key.canonical s.1 = Key.node
    · -- from here on the static node is the value, and later assignments of it change nothing
      have hnode := hc.addCharacteristic_node hkey (v := .ofText s.2) (by rwa [hstatics.1 hkey])
      rw [hstatics.1 hkey] at hnode
      have hrest := ih hnode (.inr rfl) hstatics.2
      simpa [Character.assignStatics, hkey, hstatics.1 hkey] using hrest
    · have hrest := ih (hc.addCharacteristic_other hkey (.ofText s.2)) hold hstatics.2
      have hiff : (∃ s' ∈ s :: statics, Key.canonical s'.1 = Key.node) ↔
          ∃ s' ∈ statics, Key.canonical s'.1 = Key.node := by simp [hkey]
      simp only [hiff]
      exact hrest

/-- Without rules, a character is where its static node says, whatever the cap on passes. -/
theorem Static.isInNode_iff (hc : c.Static name (some v)) (node : String) (world : Attributes)
    (settings : Settings) : c.isInNode node world settings = true ↔ v.shown = node := by
  have hevaluate : ∃ e, c.evaluate world settings = .ok e ∧ e.values = c.characteristics := by
    rw [evaluate, hc.rules]
    cases settings.maxPasses with
    | zero => exact ⟨_, rfl, rfl⟩
    | succ n => exact ⟨_, rfl, rfl⟩
  obtain ⟨e, he, hvalues⟩ := hevaluate
  rw [Character.isInNode_iff, he]
  simp [hc.alive, Evaluation.node?, hvalues, hc.node]

end Character

end StoryWorld
