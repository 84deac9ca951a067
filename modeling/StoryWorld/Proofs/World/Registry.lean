import Mathlib.Data.List.Dedup
import StoryWorld.Registry

/-!
# Registries whose index agrees with their items
-/

namespace StoryWorld

theorem Entries.get?_append {κ α : Type} [BEq κ] (es es' : Entries κ α) (key : κ) :
    Entries.get? (es ++ es') key = (es.get? key).or (es'.get? key) := by
  induction es with
  | nil => rfl
  | cons e es ih =>
    by_cases he : e.1 == key
    · simp [get?, he]
    · simp [get?, he, ih]

namespace Registry

variable {k : Kind} {α : Type} {r r' : Registry k α} {nameOf : α → String}

/-! ## Things by handle -/

theorem mem_entries : (h, a) ∈ r.entries ↔ r.get? h = some a := by
  simp only [entries, get?, List.mem_map, Prod.mk.injEq]
  constructor
  · rintro ⟨⟨a', i⟩, hmem, rfl, rfl⟩
    exact List.mem_zipIdx_iff_getElem?.1 hmem
  · intro ha
    exact ⟨(a, h.index), List.mem_zipIdx_iff_getElem?.2 ha, rfl, rfl⟩

theorem indices_entries (r : Registry k α) :
    r.entries.map (fun e => e.1.index) = List.range r.size := by
  have h : (fun e : Handle k × α => e.1.index) ∘ (fun p : α × Nat => ((⟨p.2⟩ : Handle k), p.1)) =
      Prod.snd := rfl
  rw [entries, List.map_map, h, List.zipIdx_map_snd, List.range_eq_range', size]

theorem pairwise_entries (r : Registry k α) :
    r.entries.Pairwise fun e e' => e.1.index < e'.1.index := by
  have h : (r.entries.map fun e => e.1.index).Pairwise (· < ·) := by
    rw [indices_entries]
    exact List.pairwise_lt_range
  exact List.pairwise_map.1 h

theorem snd_entries (r : Registry k α) : r.entries.map (·.2) = r.items := by
  have h : (fun e : Handle k × α => e.2) ∘ (fun p : α × Nat => ((⟨p.2⟩ : Handle k), p.1)) =
      Prod.fst := rfl
  rw [entries, List.map_map, h, List.zipIdx_map_fst]

theorem get?_modify (r : Registry k α) (h h' : Handle k) (f : α → α) :
    (r.modify h f).get? h' = if h' = h then (r.get? h').map f else r.get? h' := by
  obtain ⟨i⟩ := h
  obtain ⟨j⟩ := h'
  simp only [modify, get?, List.getElem?_modify, Handle.mk.injEq]
  by_cases hij : j = i
  · simp [hij]
  · simp [hij, Ne.symm hij]

theorem get?_mapEntries (r : Registry k α) (f : Handle k → α → α) (h : Handle k) :
    (r.mapEntries f).get? h = (r.get? h).map (f h) := by
  simp only [mapEntries, get?, entries, List.map_map, List.getElem?_map, List.getElem?_zipIdx]
  rcases r.items[h.index]? with _ | a
  · rfl
  · simp

@[simp] theorem handle?_modify (r : Registry k α) (h : Handle k) (f : α → α) (name : String) :
    (r.modify h f).handle? name = r.handle? name := rfl

@[simp] theorem handle?_mapEntries (r : Registry k α) (f : Handle k → α → α) (name : String) :
    (r.mapEntries f).handle? name = r.handle? name := rfl

theorem mapEntries_congr {f g : Handle k → α → α}
    (h : ∀ i a, r.get? i = some a → f i a = g i a) : r.mapEntries f = r.mapEntries g := by
  unfold mapEntries
  congr 1
  refine List.map_congr_left fun e he => ?_
  exact h e.1 e.2 (mem_entries.1 he)

theorem mapEntries_eq_self {f : Handle k → α → α}
    (h : ∀ i a, r.get? i = some a → f i a = a) : r.mapEntries f = r := by
  rw [mapEntries_congr h, mapEntries]
  exact congrArg (fun items => { r with items := items }) r.snd_entries

theorem modify_eq_mapEntries (r : Registry k α) (h : Handle k) (f : α → α) :
    r.modify h f = r.mapEntries fun i a => if i = h then f a else a := by
  have hitems : (r.modify h f).items =
      (r.mapEntries fun i a => if i = h then f a else a).items := by
    refine List.ext_getElem? fun i => ?_
    have hi := get?_modify r h ⟨i⟩ f
    have hi' := get?_mapEntries r (fun i a => if i = h then f a else a) ⟨i⟩
    by_cases hih : (⟨i⟩ : Handle k) = h
    · simp only [hih, if_true] at hi hi'
      simpa only [get?, ← hih] using hi.trans hi'.symm
    · simp only [hih, if_false] at hi hi'
      simpa only [get?, Option.map_id'] using hi.trans (hi'.trans (Option.map_id' ..)).symm
  exact congrArg (fun items => ({ r with items := items } : Registry k α)) hitems

/-- A change by a value that the thing at the handle has is a change by the function. -/
theorem modify_const (ha : r.get? h = some a) (f : α → α) :
    r.modify h (fun _ => f a) = r.modify h f := by
  rw [modify_eq_mapEntries, modify_eq_mapEntries]
  refine mapEntries_congr fun i b hb => ?_
  by_cases hi : i = h
  · subst hi
    obtain rfl := Option.some.inj (hb.symm.trans ha)
    rfl
  · rw [if_neg hi, if_neg hi]

theorem mem_items_mapEntries {f : Handle k → α → α} (h : a ∈ (r.mapEntries f).items) :
    ∃ i, ∃ b ∈ r.items, a = f i b := by
  obtain ⟨⟨i, b⟩, hmem, rfl⟩ := List.mem_map.1 h
  exact ⟨i, b, List.mem_of_getElem? (mem_entries.1 hmem), rfl⟩

theorem mem_items_modify {f : α → α} (h : a ∈ (r.modify i f).items) :
    a ∈ r.items ∨ ∃ b ∈ r.items, a = f b := by
  rw [modify_eq_mapEntries] at h
  obtain ⟨j, b, hb, rfl⟩ := mem_items_mapEntries h
  split
  · exact .inr ⟨b, hb, rfl⟩
  · exact .inl hb

theorem size_insert (r : Registry k α) (name : String) (a : α) :
    r.size ≤ (r.insert name a).1.size := by
  unfold insert
  split
  · simp [size]
  · simp [size]

@[simp] theorem size_modify (r : Registry k α) (h : Handle k) (f : α → α) :
    (r.modify h f).size = r.size := by
  simp [size, modify]

@[simp] theorem size_mapEntries (r : Registry k α) (f : Handle k → α → α) :
    (r.mapEntries f).size = r.size := by
  simp [size, mapEntries, entries]

theorem index_lt_size (ha : r.get? h = some a) : h.index < r.size :=
  (List.getElem?_eq_some_iff.1 ha).1

/-! ## The index -/

/-- A name has a handle exactly if the thing there has that name. -/
def Agrees (r : Registry k α) (nameOf : α → String) : Prop :=
  ∀ name h, r.handle? name = some h ↔ ∃ a, r.get? h = some a ∧ nameOf a = name

theorem agrees_empty : ({} : Registry k α).Agrees nameOf := by
  intro name h
  simp [handle?, get?, Entries.get?]

theorem Agrees.handle?_nameOf (hr : r.Agrees nameOf) (ha : r.get? h = some a) :
    r.handle? (nameOf a) = some h :=
  (hr _ _).2 ⟨a, ha, rfl⟩

theorem Agrees.exists_handle (hr : r.Agrees nameOf) (ha : a ∈ r.items) :
    ∃ h, r.handle? (nameOf a) = some h ∧ r.get? h = some a := by
  obtain ⟨i, hi⟩ := List.mem_iff_getElem?.1 ha
  exact ⟨⟨i⟩, hr.handle?_nameOf hi, hi⟩

/-- A change at the handle of a name is a change of what has the name. -/
theorem Agrees.modify_eq_mapEntries (hr : r.Agrees nameOf) (hname : r.handle? name = some h)
    (f : α → α) : r.modify h f = r.mapEntries fun _ a => if nameOf a = name then f a else a := by
  rw [Registry.modify_eq_mapEntries]
  refine mapEntries_congr fun i a ha => if_congr ?_ rfl rfl
  constructor
  · rintro rfl
    obtain ⟨b, hb, hnameOf⟩ := (hr _ _).1 hname
    obtain rfl := Option.some.inj (ha.symm.trans hb)
    exact hnameOf
  · rintro rfl
    exact Option.some.inj ((hr.handle?_nameOf ha).symm.trans hname)

theorem Agrees.modify (hr : r.Agrees nameOf) (f : α → α)
    (hf : ∀ a, r.get? h = some a → nameOf (f a) = nameOf a) : (r.modify h f).Agrees nameOf := by
  intro name h'
  rw [handle?_modify, hr, get?_modify]
  by_cases hh : h' = h
  · subst hh
    rw [if_pos rfl]
    constructor
    · rintro ⟨a, ha, rfl⟩
      exact ⟨f a, by rw [ha, Option.map_some], hf a ha⟩
    · rintro ⟨b, hb, rfl⟩
      obtain ⟨a, ha, rfl⟩ := Option.map_eq_some_iff.1 hb
      exact ⟨a, ha, (hf a ha).symm⟩
  · rw [if_neg hh]

theorem Agrees.mapEntries (hr : r.Agrees nameOf) (f : Handle k → α → α)
    (hf : ∀ h a, nameOf (f h a) = nameOf a) : (r.mapEntries f).Agrees nameOf := by
  intro name h
  rw [handle?_mapEntries, hr, get?_mapEntries]
  constructor
  · rintro ⟨a, ha, rfl⟩
    exact ⟨f h a, by rw [ha, Option.map_some], hf h a⟩
  · rintro ⟨b, hb, rfl⟩
    obtain ⟨a, ha, rfl⟩ := Option.map_eq_some_iff.1 hb
    exact ⟨a, ha, (hf h a).symm⟩

/-! ## Insertion -/

theorem insert_of_handle? (hname : r.handle? name = some h) (a : α) :
    r.insert name a = ({ r with items := r.items.set h.index a }, h, false) := by
  rw [insert, hname]

theorem insert_of_new (hname : r.handle? name = none) (a : α) :
    r.insert name a = ({ items := r.items ++ [a], index := r.index ++ [(name, ⟨r.size⟩)] },
      ⟨r.size⟩, true) := by
  rw [insert, hname]
  rfl

theorem mem_items_insert (h : a ∈ (r.insert name b).1.items) : a = b ∨ a ∈ r.items := by
  rcases hname : r.handle? name with _ | i
  · rw [insert_of_new hname] at h
    exact (List.mem_append.1 h).symm.imp_left List.mem_singleton.1
  · rw [insert_of_handle? hname] at h
    exact (List.mem_or_eq_of_mem_set h).symm

theorem handle?_insert (r : Registry k α) (name name' : String) (a : α) :
    (r.insert name a).1.handle? name' =
      if name' = name then some (r.insert name a).2.1 else r.handle? name' := by
  rcases hname : r.handle? name with _ | h
  · rw [insert_of_new hname]
    simp only [handle?, Entries.get?_append, Entries.get?]
    rw [handle?] at hname
    by_cases hn : name' = name
    · simp [hn, hname]
    · simp [hn, Ne.symm hn]
  · rw [insert_of_handle? hname]
    by_cases hn : name' = name
    · rw [if_pos hn, hn]
      exact hname
    · rw [if_neg hn]
      rfl

theorem Agrees.get?_insert (hr : r.Agrees nameOf) (name : String) (a : α) (h' : Handle k) :
    (r.insert name a).1.get? h' =
      if h' = (r.insert name a).2.1 then some a else r.get? h' := by
  obtain ⟨j⟩ := h'
  rcases hname : r.handle? name with _ | ⟨⟨i⟩⟩
  · rw [insert_of_new hname]
    simp only [get?, List.getElem?_append, Handle.mk.injEq, size]
    rcases Nat.lt_trichotomy j r.items.length with hj | hj | hj
    · rw [if_pos hj, if_neg (by omega)]
    · simp [hj]
    · rw [if_neg (by omega), if_neg (by omega), List.getElem?_eq_none (by simp; omega),
        List.getElem?_eq_none (by omega)]
  · rw [insert_of_handle? hname]
    obtain ⟨old, hold, _⟩ := (hr _ _).1 hname
    have hi : i < r.items.length := (List.getElem?_eq_some_iff.1 hold).1
    simp only [get?, List.getElem?_set, Handle.mk.injEq]
    by_cases hij : i = j
    · simp [hij, hij ▸ hi]
    · rw [if_neg hij, if_neg (Ne.symm hij)]

theorem Agrees.ne_handle_insert (hr : r.Agrees nameOf) (a : α) (hne : name' ≠ name) :
    r.handle? name' ≠ some (r.insert name a).2.1 := by
  intro hname'
  -- what stands at the handle before the insertion has `name`, if there is anything
  obtain ⟨b, hb, hnb⟩ := (hr _ _).1 hname'
  rcases hname : r.handle? name with _ | h
  · rw [insert_of_new hname] at hb
    have hlt : r.size < r.items.length := (List.getElem?_eq_some_iff.1 hb).1
    exact absurd hlt (Nat.lt_irrefl _)
  · rw [insert_of_handle? hname] at hb
    obtain ⟨b', hb', hnb'⟩ := (hr _ _).1 hname
    rw [hb] at hb'
    cases hb'
    exact hne (hnb.symm.trans hnb')

theorem Agrees.insert (hr : r.Agrees nameOf) (a : α) :
    (r.insert (nameOf a) a).1.Agrees nameOf := by
  intro name h
  rw [handle?_insert, hr.get?_insert]
  by_cases hn : name = nameOf a
  · rw [if_pos hn]
    by_cases hh : h = (r.insert (nameOf a) a).2.1
    · rw [if_pos hh, hh]
      exact ⟨fun _ => ⟨a, rfl, hn.symm⟩, fun _ => rfl⟩
    · rw [if_neg hh]
      constructor
      · intro heq
        exact absurd (Option.some.inj heq).symm hh
      · intro hold
        have hname := (hr _ _).2 hold
        rw [hn] at hname
        rw [insert_of_handle? hname]
  · rw [if_neg hn]
    by_cases hh : h = (r.insert (nameOf a) a).2.1
    · rw [if_pos hh, hh]
      constructor
      · intro hname
        exact absurd hname (hr.ne_handle_insert a hn)
      · rintro ⟨b, hb, rfl⟩
        cases hb
        exact absurd rfl hn
    · rw [if_neg hh]
      exact hr name h

/-! ## Names -/

theorem names_mapEntries (r : Registry k α) {f : Handle k → α → α}
    (hf : ∀ h a, nameOf (f h a) = nameOf a) :
    (r.mapEntries f).items.map nameOf = r.items.map nameOf := by
  simp only [mapEntries, entries, List.map_map]
  have hname : (nameOf ∘ (fun e : Handle k × α => f e.1 e.2) ∘
      fun p : α × Nat => ((⟨p.2⟩ : Handle k), p.1)) = nameOf ∘ Prod.fst :=
    funext fun p => hf _ _
  rw [hname, ← List.map_map, List.zipIdx_map_fst]

theorem Agrees.mem_names_iff (hr : r.Agrees nameOf) :
    name ∈ r.items.map nameOf ↔ ∃ h, r.handle? name = some h := by
  rw [List.mem_map]
  constructor
  · rintro ⟨a, ha, rfl⟩
    obtain ⟨h, hname, -⟩ := hr.exists_handle ha
    exact ⟨h, hname⟩
  · rintro ⟨h, hname⟩
    obtain ⟨a, ha, rfl⟩ := (hr _ _).1 hname
    exact ⟨a, List.mem_of_getElem? ha, rfl⟩

theorem Agrees.nodup_names (hr : r.Agrees nameOf) : (r.items.map nameOf).Nodup := by
  rw [List.Nodup, List.pairwise_map, List.pairwise_iff_getElem]
  intro i j hi hj hij heq
  -- both places have the handle of the name they share
  have hhi := hr.handle?_nameOf (h := ⟨i⟩) (List.getElem?_eq_getElem hi)
  have hhj := hr.handle?_nameOf (h := ⟨j⟩) (List.getElem?_eq_getElem hj)
  rw [heq, hhj] at hhi
  cases hhi
  exact Nat.lt_irrefl _ hij

theorem Agrees.names_insert (hr : r.Agrees nameOf) (a : α) :
    (r.insert (nameOf a) a).1.items.map nameOf =
      if nameOf a ∈ r.items.map nameOf then r.items.map nameOf
      else r.items.map nameOf ++ [nameOf a] := by
  rcases hname : r.handle? (nameOf a) with _ | h
  · have hnew : nameOf a ∉ r.items.map nameOf := by
      rw [hr.mem_names_iff, hname]
      rintro ⟨h, ⟨⟩⟩
    rw [insert_of_new hname, if_neg hnew]
    exact List.map_append
  · rw [insert_of_handle? hname, if_pos (hr.mem_names_iff.2 ⟨h, hname⟩)]
    obtain ⟨old, hold, hnameOf⟩ := (hr _ _).1 hname
    obtain ⟨hlt, rfl⟩ := List.getElem?_eq_some_iff.1 hold
    have hset : (r.items.map nameOf).set h.index (nameOf r.items[h.index]) = r.items.map nameOf :=
      by rw [← List.map_set, List.set_getElem_self]
    rw [List.map_set, ← hnameOf, hset]

/-! ## Things by name -/

theorem Agrees.find?_eq_some_iff (hr : r.Agrees nameOf) :
    r.find? name = some a ↔ a ∈ r.items ∧ nameOf a = name := by
  rw [find?, Option.bind_eq_some_iff]
  constructor
  · rintro ⟨h, hname, ha⟩
    obtain ⟨b, hb, hnameOf⟩ := (hr _ _).1 hname
    rw [ha] at hb
    cases hb
    exact ⟨List.mem_of_getElem? ha, hnameOf⟩
  · rintro ⟨ha, rfl⟩
    exact hr.exists_handle ha

theorem Agrees.find?_eq_of_perm (hr : r.Agrees nameOf) (hr' : r'.Agrees nameOf)
    (hperm : r.items.Perm r'.items) : r.find? = r'.find? := by
  funext name
  refine Option.ext fun a => ?_
  rw [hr.find?_eq_some_iff, hr'.find?_eq_some_iff, hperm.mem_iff]

theorem Agrees.isSome_handle? (hr : r.Agrees nameOf) (name : String) :
    (r.handle? name).isSome = (r.find? name).isSome := by
  rw [find?]
  rcases hname : r.handle? name with _ | h
  · rfl
  · obtain ⟨a, ha, -⟩ := (hr _ _).1 hname
    rw [Option.bind_some, ha]
    rfl

/-! ## Many things -/

/-- The registry after things are registered, in order. -/
def insertAll (nameOf : α → String) (r : Registry k α) (as : List α) : Registry k α :=
  as.foldl (fun r a => (r.insert (nameOf a) a).1) r

theorem Agrees.insertAll (hr : r.Agrees nameOf) (as : List α) :
    (r.insertAll nameOf as).Agrees nameOf :=
  List.foldlRecOn (motive := fun r : Registry k α => r.Agrees nameOf) as _ hr
    fun _ hr a _ => hr.insert a

theorem Agrees.items_insertAll (hr : r.Agrees nameOf) {as : List α}
    (hnames : ((r.items ++ as).map nameOf).Nodup) :
    (r.insertAll nameOf as).items = r.items ++ as := by
  induction as generalizing r with
  | nil => exact (List.append_nil _).symm
  | cons a as ih =>
    have hnew : r.handle? (nameOf a) = none := by
      rw [Option.eq_none_iff_forall_ne_some]
      intro h hname
      have hmem := hr.mem_names_iff.2 ⟨h, hname⟩
      rw [List.map_append, List.nodup_append] at hnames
      exact hnames.2.2 _ hmem _ List.mem_cons_self rfl
    have hitems : (r.insert (nameOf a) a).1.items = r.items ++ [a] := by rw [insert_of_new hnew]
    have hrest := ih (hr.insert a) (by rwa [hitems, List.append_assoc])
    rw [hitems, List.append_assoc] at hrest
    exact hrest

theorem mem_items_insertAll {as : List α} (ha : a ∈ (r.insertAll nameOf as).items) :
    a ∈ r.items ∨ a ∈ as := by
  induction as generalizing r with
  | nil => exact .inl ha
  | cons b as ih =>
    rcases ih (r := (r.insert (nameOf b) b).1) ha with hitem | hmem
    · rcases mem_items_insert hitem with rfl | hold
      · exact .inr List.mem_cons_self
      · exact .inl hold
    · exact .inr (List.mem_cons_of_mem b hmem)

theorem Agrees.mem_names_insertAll (hr : r.Agrees nameOf) (as : List α) (name : String) :
    name ∈ (r.insertAll nameOf as).items.map nameOf ↔
      name ∈ r.items.map nameOf ∨ name ∈ as.map nameOf := by
  induction as generalizing r with
  | nil => simp [Registry.insertAll]
  | cons a as ih =>
    have hrest := ih (hr.insert a)
    rw [hr.names_insert] at hrest
    rw [List.map_cons, List.mem_cons]
    refine hrest.trans ?_
    split
    · next hmem =>
      constructor
      · exact Or.imp_right .inr
      · rintro (hold | rfl | hnew)
        · exact .inl hold
        · exact .inl hmem
        · exact .inr hnew
    · rw [List.mem_append, List.mem_singleton, or_assoc]

/-- As many things are registered as they have names. -/
theorem size_insertAll (nameOf : α → String) (as : List α) :
    (({} : Registry k α).insertAll nameOf as).size = (as.map nameOf).dedup.length := by
  have hempty : ({} : Registry k α).Agrees nameOf := agrees_empty
  have hperm : ((({} : Registry k α).insertAll nameOf as).items.map nameOf).Perm
      (as.map nameOf).dedup := by
    rw [List.perm_ext_iff_of_nodup (hempty.insertAll as).nodup_names (List.nodup_dedup _)]
    intro name
    rw [hempty.mem_names_insertAll, List.mem_dedup]
    simp
  rw [size, ← hperm.length_eq, List.length_map]

/-! ## Every thing changed alike -/

def map (r : Registry k α) (f : α → α) : Registry k α := { r with items := r.items.map f }

theorem insert_map (r : Registry k α) (f : α → α) (name : String) (a : α) :
    (r.map f).insert name (f a) = ((r.insert name a).1.map f, (r.insert name a).2) := by
  rcases hname : r.handle? name with _ | h
  · rw [insert_of_new hname, insert_of_new (r := r.map f) hname]
    simp [map, size]
  · rw [insert_of_handle? hname, insert_of_handle? (r := r.map f) hname]
    simp [map, List.map_set]

theorem map_eq_mapEntries (r : Registry k α) (f : α → α) :
    r.map f = r.mapEntries fun _ a => f a := by
  have hf : (fun e : Handle k × α => f e.2) = f ∘ Prod.snd := rfl
  rw [map, mapEntries, hf, ← List.map_map, r.snd_entries]

theorem map_mapEntries (r : Registry k α) (f : α → α) (g : Handle k → α → α) :
    (r.mapEntries g).map f = r.mapEntries fun h a => f (g h a) := by
  simp [map, mapEntries, Function.comp_def]

theorem mapEntries_map (r : Registry k α) (f : α → α) (g : Handle k → α → α) :
    (r.map f).mapEntries g = r.mapEntries fun h a => g h (f a) := by
  simp [map, mapEntries, entries, List.zipIdx_map, Function.comp_def]

/-! ## Every thing in turn -/

variable {β : Type}

theorem mapEntries_mapEntries (r : Registry k α) (f g : Handle k → α → α) :
    (r.mapEntries f).mapEntries g = r.mapEntries fun h a => g h (f h a) := by
  have hitems : ((r.mapEntries f).mapEntries g).items =
      (r.mapEntries fun h a => g h (f h a)).items := by
    refine List.ext_getElem? fun i => ?_
    have htwice : ((r.mapEntries f).mapEntries g).get? ⟨i⟩ =
        (r.mapEntries fun h a => g h (f h a)).get? ⟨i⟩ := by
      rw [get?_mapEntries, get?_mapEntries, get?_mapEntries, Option.map_map]
      rfl
    exact htwice
  exact congrArg (fun items => { r with items := items }) hitems

/-- A fold over the things of a registry that only the one at `h` changes. -/
theorem foldl_entries_of_get? {f : β → Handle k × α → β} (ha : r.get? h = some a)
    (hf : ∀ b e, e.1 ≠ h → f b e = b) (b : β) : r.entries.foldl f b = f b (h, a) := by
  have hfixed : ∀ (es : List (Handle k × α)) (b : β), (∀ e ∈ es, e.1 ≠ h) → es.foldl f b = b := by
    intro es b hes
    induction es with
    | nil => rfl
    | cons e es ih =>
      rw [List.forall_mem_cons] at hes
      rw [List.foldl_cons, hf b e hes.1, ih hes.2]
  obtain ⟨before, after, hsplit⟩ := List.append_of_mem (mem_entries.2 ha)
  have hpairwise := r.pairwise_entries
  rw [hsplit, List.pairwise_append, List.pairwise_cons] at hpairwise
  obtain ⟨-, ⟨hafter, -⟩, hbefore⟩ := hpairwise
  have hbefore' : ∀ e ∈ before, e.1 ≠ h := by
    intro e he heq
    have hlt : e.1.index < h.index := hbefore e he (h, a) List.mem_cons_self
    exact Nat.lt_irrefl _ (heq ▸ hlt)
  have hafter' : ∀ e ∈ after, e.1 ≠ h := by
    intro e he heq
    have hlt : h.index < e.1.index := hafter e he
    exact Nat.lt_irrefl _ (heq ▸ hlt)
  rw [hsplit, List.foldl_append, hfixed before b hbefore', List.foldl_cons, hfixed after _ hafter']

theorem nodup_flatMap_entries {f : Handle k × α → List β}
    (hf : ∀ h a, r.get? h = some a → (f (h, a)).Nodup)
    (hdisjoint : ∀ h h' a a', h ≠ h' → ∀ b ∈ f (h, a), b ∉ f (h', a')) :
    (r.entries.flatMap f).Nodup := by
  refine List.nodup_flatMap.2 ⟨fun e he => hf e.1 e.2 (mem_entries.1 he), ?_⟩
  refine r.pairwise_entries.imp fun {e e'} hlt => ?_
  have hne : e.1 ≠ e'.1 := fun heq => Nat.lt_irrefl _ (heq ▸ hlt)
  exact fun b hb hb' => hdisjoint e.1 e'.1 e.2 e'.2 hne b hb hb'

end Registry

end StoryWorld
