import Mathlib.Data.List.Induction
import StoryWorld.Character
import StoryWorld.Node
import StoryWorld.Proofs.Entries
import StoryWorld.QuestLine

/-!
# Sequences of declarations

Exits of a node, transitions of a state and characteristics of a character are declared one after
the other. What is declared last for a key holds, at the place of the first declaration, and each
declaration but the first of its key is warned of. One declaration is enough to see that
(`declareAll_induction`).
-/

namespace StoryWorld

variable {σ κ α : Type}

/-- Makes declarations, and collects what each is answered. -/
def declareAll (declare : σ → κ → α → σ × Option WorldWarning) :
    σ → List (κ × α) → σ × List (Option WorldWarning)
  | s, [] => (s, [])
  | s, (k, a) :: decls =>
    let (s₁, warning) := declare s k a
    let (s₂, warnings) := declareAll declare s₁ decls
    (s₂, warning :: warnings)

theorem declareAll_concat (declare : σ → κ → α → σ × Option WorldWarning) (s : σ)
    (decls : List (κ × α)) (k : κ) (a : α) :
    declareAll declare s (decls ++ [(k, a)]) =
      let (s₁, warnings) := declareAll declare s decls
      let (s₂, warning) := declare s₁ k a
      (s₂, warnings ++ [warning]) := by
  induction decls generalizing s with
  | nil => rfl
  | cons d decls ih => simp only [List.cons_append, declareAll, ih]

/-! ## Tables of what was declared -/

variable [BEq κ]

/-- The value that is declared last for a key. -/
def lastValue? (decls : List (κ × α)) (k : κ) : Option α :=
  (decls.reverse.find? (·.1 == k)).map (·.2)

/-- A table holds each declared key once, in the order in which the keys were first declared, with
the value that was declared last. -/
structure Entries.Records (es : Entries κ α) (decls : List (κ × α)) : Prop where
  keys_eq : es.keys = (decls.map (·.1)).eraseDups
  nodup : es.keys.Nodup
  mem_iff : ∀ k a, (k, a) ∈ es ↔ lastValue? decls k = some a

namespace Entries

theorem records_nil : Records ([] : Entries κ α) [] where
  keys_eq := rfl
  nodup := List.nodup_nil
  mem_iff k a := by simp [lastValue?]

variable [LawfulBEq κ] {es : Entries κ α} {decls : List (κ × α)}

theorem Records.get?_eq (h : es.Records decls) (k : κ) : es.get? k = lastValue? decls k := by
  refine Option.ext fun a => ?_
  rw [← h.mem_iff, mem_iff_get?_eq h.nodup]

theorem Records.has_iff (h : es.Records decls) {k : κ} :
    es.has k = true ↔ k ∈ decls.map (·.1) := by
  rw [has_iff_mem_keys, h.keys_eq, List.mem_eraseDups]

/-- One more declaration. -/
theorem Records.set (h : es.Records decls) (k : κ) (a : α) :
    (es.set k a).Records (decls ++ [(k, a)]) where
  keys_eq := by
    simp only [keys_set, h.has_iff, h.keys_eq, List.map_append, List.map_singleton,
      eraseDups_concat]
  nodup := nodup_keys_set h.nodup k a
  mem_iff k' a' := by
    have hlast : lastValue? (decls ++ [(k, a)]) k' =
        if k == k' then some a else lastValue? decls k' := by
      rw [lastValue?, List.reverse_append, List.reverse_singleton, List.singleton_append,
        List.find?_cons]
      cases k == k' <;> rfl
    rw [mem_iff_get?_eq (nodup_keys_set h.nodup k a), hlast]
    by_cases hk : k = k'
    · rw [hk, get?_set_self, beq_self_eq_true, if_pos rfl]
    · rw [get?_set_of_ne es a (Ne.symm hk), h.get?_eq, beq_eq_false_iff_ne.2 hk]
      rfl

end Entries

/-! ## Warnings -/

variable [LawfulBEq κ]

/-- The answer to the declaration of a key is a warning exactly if an earlier one has the key. -/
structure WarnsOfRepeats (keys : List κ) (warnings : List (Option WorldWarning))
    (warning : κ → WorldWarning) : Prop where
  length_eq : warnings.length = keys.length
  answer : ∀ before k after, keys = before ++ k :: after →
    warnings[before.length]? = some (if k ∈ before then some (warning k) else none)

theorem WarnsOfRepeats.concat {keys : List κ} {warnings : List (Option WorldWarning)}
    {warning : κ → WorldWarning} (h : WarnsOfRepeats keys warnings warning) (k : κ) :
    WarnsOfRepeats (keys ++ [k])
      (warnings ++ [if k ∈ keys then some (warning k) else none]) warning where
  length_eq := by rw [List.length_append, h.length_eq, List.length_append]; rfl
  answer before k' after hkeys := by
    rcases List.eq_nil_or_concat after with rfl | ⟨after, last, rfl⟩
    · obtain ⟨rfl, hlast⟩ := List.append_inj' hkeys rfl
      obtain rfl := List.singleton_inj.1 hlast
      rw [← h.length_eq, List.getElem?_concat_length]
    · rw [List.concat_eq_append, ← List.cons_append, ← List.append_assoc] at hkeys
      obtain ⟨hkeys, -⟩ := List.append_inj' hkeys rfl
      have hlt : before.length < warnings.length := by
        rw [h.length_eq, hkeys, List.length_append, List.length_cons]
        omega
      rw [List.getElem?_append_left hlt]
      exact h.answer before k' after hkeys

/-- What one declaration preserves and answers, all of them do. -/
theorem declareAll_induction {declare : σ → κ → α → σ × Option WorldWarning} (canonical : κ → κ)
    {warning : κ → WorldWarning} {inv : List (κ × α) → σ → Prop}
    (hstep : ∀ decls s k a, inv decls s → inv (decls ++ [(canonical k, a)]) (declare s k a).1 ∧
      (declare s k a).2 =
        if canonical k ∈ decls.map (·.1) then some (warning (canonical k)) else none)
    {s : σ} (hs : inv [] s) (decls : List (κ × α)) :
    inv (decls.map fun d => (canonical d.1, d.2)) (declareAll declare s decls).1 ∧
      WarnsOfRepeats (decls.map (canonical ·.1)) (declareAll declare s decls).2 warning := by
  induction decls using List.reverseRecOn with
  | nil => exact ⟨hs, rfl, fun before _ _ h => by simp at h⟩
  | append_singleton decls d ih =>
    obtain ⟨key, a⟩ := d
    obtain ⟨hinv, hanswer⟩ := hstep _ _ key a ih.1
    have hkeys : (decls.map fun d => (canonical d.1, d.2)).map (·.1) =
        decls.map (canonical ·.1) := by
      rw [List.map_map]
      rfl
    rw [hkeys] at hanswer
    rw [declareAll_concat, List.map_append, List.map_append]
    have hwarns := ih.2.concat (canonical key)
    rw [← hanswer] at hwarns
    exact ⟨hinv, hwarns⟩

/-! ## Exits, transitions and characteristics -/

/-- Declarations that set a table and look at nothing else record what they declare in it, and change
nothing else. -/
theorem declareAll_records {declare : σ → κ → α → σ × Option WorldWarning}
    {withTable : Entries κ α → σ} {warning : κ → WorldWarning}
    (hdeclare : ∀ es k a, declare (withTable es) k a =
      (withTable (es.set k a), if es.has k then some (warning k) else none))
    (decls : List (κ × α)) : ∃ es, (declareAll declare (withTable []) decls).1 = withTable es ∧
      es.Records decls ∧
      WarnsOfRepeats (decls.map (·.1)) (declareAll declare (withTable []) decls).2 warning := by
  have hstep (decls : List (κ × α)) (s : σ) (k : κ) (a : α)
      (h : ∃ es, s = withTable es ∧ es.Records decls) :
      (∃ es, (declare s k a).1 = withTable es ∧ es.Records (decls ++ [(id k, a)])) ∧
        (declare s k a).2 = if id k ∈ decls.map (·.1) then some (warning (id k)) else none := by
    obtain ⟨es, rfl, hrecords⟩ := h
    simp only [hdeclare, hrecords.has_iff, id_eq, and_true]
    exact ⟨es.set k a, rfl, hrecords.set k a⟩
  obtain ⟨⟨es, hes, hrecords⟩, hwarns⟩ :=
    declareAll_induction id hstep ⟨[], rfl, Entries.records_nil⟩ decls
  exact ⟨es, hes, by simpa using hrecords, hwarns⟩

namespace Character

/-- A character made under a name holds that name under the name's key before all that is declared,
and knows whether another was declared. -/
structure Declared (name : String) (decls : List (String × Value)) (c : Character) : Prop where
  name_eq : c.name = name
  characteristics : c.characteristics.Records ((Key.name, .text name) :: decls)
  named_iff : c.named = true ↔ Key.name ∈ decls.map (·.1)

theorem declared_ofName (name : String) : (ofName name).Declared name [] := by
  have hrecords := Entries.records_nil.set Key.name (Value.text name)
  exact ⟨rfl, hrecords, by simp [ofName]⟩

theorem addCharacteristic_step (name : String) (decls : List (String × Value)) (c : Character)
    (key : String) (v : Value) (h : c.Declared name decls) :
    (c.addCharacteristic key v).1.Declared name (decls ++ [(Key.canonical key, v)]) ∧
      (c.addCharacteristic key v).2 = if Key.canonical key ∈ decls.map (·.1) then
        some (.duplicateCharacteristic name (Key.canonical key)) else none := by
  obtain ⟨rfl, hrecords, hnamed⟩ := h
  refine ⟨⟨rfl, hrecords.set (Key.canonical key) v, ?_⟩, ?_⟩
  · have hstep : (c.addCharacteristic key v).1.named =
        (c.named || Key.canonical key == Key.name) := rfl
    rw [hstep, Bool.or_eq_true, hnamed, beq_iff_eq, List.map_append, List.mem_append,
      List.map_singleton, List.mem_singleton, eq_comm (b := Key.name)]
  · -- the name that a character is made with is no declaration
    have hrepeated : (c.characteristics.has (Key.canonical key) &&
        (Key.canonical key != Key.name || c.named)) = true ↔
        Key.canonical key ∈ decls.map (·.1) := by
      rw [Bool.and_eq_true, hrecords.has_iff, Bool.or_eq_true, bne_iff_ne, hnamed, List.map_cons,
        List.mem_cons]
      by_cases hname : Key.canonical key = Key.name
      · simp [hname]
      · simp [hname]
    simp only [addCharacteristic, hrepeated]

end Character

/-- A node keeps its exits, and a state its transitions, in the order of their first declarations with
the values of the last ones. A characteristic reads as what was declared last under any spelling of
its key, and the name as that of the character if none was declared. What is warned of is each
declaration whose key an earlier one has. -/
theorem declarations_recorded :
    (∀ (n : Node) (decls : List (String × String)),
      let told := declareAll Node.addExit { n with exits := [] } decls
      ∃ es, told.1 = { n with exits := es } ∧ es.Records decls ∧
        WarnsOfRepeats (decls.map (·.1)) told.2 (.duplicateExit n.name)) ∧
    (∀ (n : QuestNode) (decls : List (Integer × String)),
      let told := declareAll QuestNode.addTransition { n with transitions := [] } decls
      ∃ es, told.1 = { n with transitions := es } ∧ es.Records decls ∧
        WarnsOfRepeats (decls.map (·.1)) told.2 (.duplicateTransition n.value)) ∧
    ∀ (name : String) (decls : List (String × Value)),
      let told := declareAll Character.addCharacteristic (.ofName name) decls
      (∀ key, told.1.characteristic? key =
        (lastValue? (decls.map fun d => (Key.canonical d.1, d.2)) (Key.canonical key)).or
          (if Key.canonical key = Key.name then some (.text name) else none)) ∧
        WarnsOfRepeats (decls.map (Key.canonical ·.1)) told.2 (.duplicateCharacteristic name) := by
  refine ⟨fun n decls => ?_, fun n decls => ?_, fun name decls => ?_⟩
  · have hadd (es : Entries String String) (direction target : String) :
        Node.addExit { n with exits := es } direction target =
          ({ n with exits := es.set direction target },
            if es.has direction then some (.duplicateExit n.name direction) else none) := rfl
    exact declareAll_records hadd decls
  · have hadd (es : Entries Integer String) (target : Integer) (description : String) :
        QuestNode.addTransition { n with transitions := es } target description =
          ({ n with transitions := es.set target description },
            if es.has target then some (.duplicateTransition n.value target) else none) := rfl
    exact declareAll_records hadd decls
  · obtain ⟨hdeclared, hwarns⟩ := declareAll_induction Key.canonical
      (Character.addCharacteristic_step name) (Character.declared_ofName name) decls
    refine ⟨fun key => ?_, hwarns⟩
    rw [Character.characteristic?, hdeclared.characteristics.get?_eq, lastValue?, lastValue?,
      List.reverse_cons, List.find?_append, Option.map_or]
    congr 1
    by_cases hname : Key.canonical key = Key.name
    · simp [hname]
    · simp [hname, Ne.symm hname]

/-- The name that a character is made with is not a declaration of its own. -/
example : (declareAll Character.addCharacteristic (.ofName "innkeeper")
    [("name", .text "Old Tom"), ("NAME", .text "Tom")]).2 =
      [none, some (.duplicateCharacteristic "innkeeper" "NAME")] := by decide

end StoryWorld
