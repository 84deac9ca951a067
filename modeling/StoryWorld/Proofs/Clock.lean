import Mathlib.Algebra.BigOperators.Group.List.Basic
import Mathlib.Algebra.Ring.Int.Defs
import Mathlib.Data.List.Induction
import StoryWorld.Proofs.World.Operations

/-!
# Clocks over whole runs

An advance moves the hour by its delta, but never past an end of the range. Where no sum of the
first deltas leaves the range, a clock ends at the sum of them all, in whatever order they come. The
hour of the day, the day and the weekday of any clock fit together, and the clock of a world is moved
by advances alone.
-/

namespace StoryWorld

theorem Integer.toInt_clamp (n : Int) : (clamp n).toInt = max least (min n greatest) := by
  have hmin : Int64.minValue.toInt = least := rfl
  have hmax : Int64.maxValue.toInt = greatest := rfl
  have hends : least ≤ greatest := by decide
  unfold clamp Int64.ofIntClamp
  split
  · next hleast =>
    split
    · next hgreatest =>
      rw [Int64.toInt_ofIntLE]
      omega
    · omega
  · omega

namespace Clock

/-- The clock after advances, in order. -/
def run (c : Clock) (deltas : List Integer) : Clock :=
  deltas.foldl (fun c delta => (c.advance delta).1) c

/-- The hour and the first of some deltas have no sum out of range. -/
def StaysInRange (c : Clock) (deltas : List Integer) : Prop :=
  ∀ first, first <+: deltas →
    Integer.least ≤ c.hour.toInt + (first.map (·.toInt)).sum ∧
      c.hour.toInt + (first.map (·.toInt)).sum ≤ Integer.greatest

/-- The hour of the day, the day and the weekday of a clock are what its hour comes apart into. -/
structure FitsTogether (c : Clock) : Prop where
  hourOfDay : 0 ≤ c.hourOfDay.toInt ∧ c.hourOfDay.toInt < 24
  weekday : 0 ≤ c.weekday.toInt ∧ c.weekday.toInt < 7
  hour_eq : c.hour.toInt = 24 * c.day.toInt + c.hourOfDay.toInt
  dvd : 7 ∣ c.day.toInt - c.weekday.toInt

variable (c : Clock) (delta : Integer) (deltas : List Integer)

/-! ## The parts of a clock -/

theorem toInt_hourOfDay : c.hourOfDay.toInt = c.hour.toInt % 24 := by
  rw [hourOfDay, Int64.toInt_ofInt_of_le]
  · omega
  · omega

theorem toInt_day : c.day.toInt = c.hour.toInt / 24 := by
  have hleast := Integer.least_le_toInt c.hour
  have hgreatest := Integer.toInt_le_greatest c.hour
  rw [Integer.least] at hleast
  rw [Integer.greatest] at hgreatest
  rw [day, Int64.toInt_ofInt_of_le]
  · omega
  · omega

theorem toInt_weekday : c.weekday.toInt = c.day.toInt % 7 := by
  rw [toInt_day, weekday, Int64.toInt_ofInt_of_le]
  · omega
  · omega

theorem fitsTogether : c.FitsTogether where
  hourOfDay := by
    rw [toInt_hourOfDay]
    omega
  weekday := by
    rw [toInt_weekday]
    omega
  hour_eq := by
    rw [toInt_day, toInt_hourOfDay]
    omega
  dvd := by
    rw [toInt_weekday]
    exact Int.dvd_self_sub_emod

/-! ## One advance -/

theorem toInt_hour_advance : (c.advance delta).1.hour.toInt =
    max Integer.least (min (c.hour.toInt + delta.toInt) Integer.greatest) :=
  Integer.toInt_clamp _

variable {c delta deltas}

theorem hour_le_advance (h : 0 ≤ delta.toInt) :
    c.hour.toInt ≤ (c.advance delta).1.hour.toInt := by
  have hgreatest := Integer.toInt_le_greatest c.hour
  rw [toInt_hour_advance]
  omega

theorem day_le_day {c' : Clock} (h : c.hour.toInt ≤ c'.hour.toInt) :
    c.day.toInt ≤ c'.day.toInt := by
  rw [toInt_day, toInt_day]
  exact Int.ediv_le_ediv (by decide) h

/-! ## Runs -/

variable (c deltas)

theorem run_append (deltas' : List Integer) :
    c.run (deltas ++ deltas') = (c.run deltas).run deltas' :=
  List.foldl_append

theorem run_concat (delta : Integer) :
    c.run (deltas ++ [delta]) = ((c.run deltas).advance delta).1 :=
  run_append ..

variable {c deltas}

theorem hour_le_run (h : ∀ delta ∈ deltas, 0 ≤ delta.toInt) :
    c.hour.toInt ≤ (c.run deltas).hour.toInt := by
  induction deltas generalizing c with
  | nil => exact Int.le_refl _
  | cons delta deltas ih =>
    rw [List.forall_mem_cons] at h
    exact Int.le_trans (hour_le_advance h.1) (ih h.2)

theorem StaysInRange.of_prefix (h : c.StaysInRange deltas) {first : List Integer}
    (hfirst : first <+: deltas) : c.StaysInRange first :=
  fun _ hmore => h _ (hmore.trans hfirst)

/-- Where nothing leaves the range, nothing is cut off. -/
theorem StaysInRange.toInt_hour_run (h : c.StaysInRange deltas) :
    (c.run deltas).hour.toInt = c.hour.toInt + (deltas.map (·.toInt)).sum := by
  induction deltas using List.reverseRecOn with
  | nil => simp [run]
  | append_singleton deltas delta ih =>
    have hsum := h _ List.prefix_rfl
    rw [List.map_append, List.sum_append, List.map_singleton, List.sum_singleton] at hsum ⊢
    rw [run_concat, toInt_hour_advance, ih (h.of_prefix (List.prefix_append _ _))]
    omega

end Clock

/-! ## Worlds -/

/-- The hours by which an operation on a world moves the clock. -/
def World.Operation.delta? : Operation → Option Integer
  | change (.hours delta) => some delta
  | _ => none

namespace World

theorem Indexed.clock_perform {w : World} (hw : w.Indexed) (op : Operation) :
    (w.perform op).clock = w.clock.run op.delta?.toList := by
  have hmoved (quest : String) (move : QuestLine → Except QuestError Unit × QuestLine) :
      (w.moveQuest quest move).2.clock = w.clock := by
    rw [hw.moveQuest_eq]
  cases op with
  | change c =>
    cases c with
    | progress quest value => exact hmoved quest (·.progress value)
    | force quest value => exact hmoved quest (·.force value)
    | hours | kill => rfl
  | addNode | addCharacter | addQuestLine | link | addCharacteristic | addRule => rfl

/-- Nothing but advances moves the clock of a world. -/
theorem clock_run (settings : Settings) (ops : List Operation) :
    (run settings ops).clock = Clock.run ⟨settings.startHour⟩ (ops.filterMap Operation.delta?) := by
  induction ops using List.reverseRecOn with
  | nil => rfl
  | append_singleton ops op ih =>
    rw [run_concat, (indexed_run settings ops).clock_perform, ih, List.filterMap_append,
      Clock.run_append]
    cases hop : op.delta? with
    | none => simp [hop]
    | some delta => simp [hop]

end World

/-! ## All runs -/

namespace Clock

/-- What a clock shows over a list of advances. -/
structure KeepsTime (start : Integer) (deltas : List Integer) : Prop where
  /-- An advance moves the hour by its delta, but not past an end of the range. -/
  hour_eq : ∀ before delta after, deltas = before ++ delta :: after →
    (run ⟨start⟩ (before ++ [delta])).hour.toInt =
      max Integer.least (min ((run ⟨start⟩ before).hour.toInt + delta.toInt) Integer.greatest)
  /-- The hour that an advance gives is the one at which the clock then stands. -/
  hour_advance : ∀ before delta after, deltas = before ++ delta :: after →
    ((run ⟨start⟩ before).advance delta).2 = (run ⟨start⟩ (before ++ [delta])).hour
  sum : StaysInRange ⟨start⟩ deltas →
    (run ⟨start⟩ deltas).hour.toInt = start.toInt + (deltas.map (·.toInt)).sum
  /-- Two orders of the same deltas, neither of which leaves the range, end at the same hour. -/
  perm : ∀ deltas', deltas.Perm deltas' → StaysInRange ⟨start⟩ deltas →
    StaysInRange ⟨start⟩ deltas' → run ⟨start⟩ deltas = run ⟨start⟩ deltas'
  fitsTogether : ∀ before, before <+: deltas → (run ⟨start⟩ before).FitsTogether
  /-- Advances that are not negative never lead to an earlier day. -/
  day_le : ∀ before between after, deltas = before ++ between ++ after →
    (∀ delta ∈ between, 0 ≤ delta.toInt) →
    (run ⟨start⟩ before).day.toInt ≤ (run ⟨start⟩ (before ++ between)).day.toInt
  /-- The clock of a world stands where these advances leave it, whatever is done between them. -/
  world : ∀ settings ops, settings.startHour = start →
    ops.filterMap World.Operation.delta? = deltas →
    (World.run settings ops).clock = run ⟨start⟩ deltas
  /-- What such a world tells of the next advance is the hour after it. -/
  hour_addHour : ∀ settings ops delta, settings.startHour = start →
    ops.filterMap World.Operation.delta? = deltas →
    ((World.run settings ops).addHour delta).2 = (run ⟨start⟩ (deltas ++ [delta])).hour

/-- A clock never wraps, and its parts fit together wherever it stands. -/
theorem run_keepsTime (start : Integer) (deltas : List Integer) : KeepsTime start deltas where
  hour_eq before delta after _ := by
    rw [run_concat]
    exact toInt_hour_advance _ _
  hour_advance before delta after _ := by
    rw [run_concat]
    rfl
  sum h := h.toInt_hour_run
  perm deltas' hperm h h' := by
    have hhour : (run ⟨start⟩ deltas).hour.toInt = (run ⟨start⟩ deltas').hour.toInt := by
      rw [h.toInt_hour_run, h'.toInt_hour_run, (hperm.map _).sum_eq]
    exact congrArg Clock.mk (Int64.toInt_inj.1 hhour)
  fitsTogether before _ := (run ⟨start⟩ before).fitsTogether
  day_le before between _ _ h := by
    rw [run_append]
    exact day_le_day (hour_le_run h)
  world settings ops hstart hdeltas := by
    rw [World.clock_run, hstart, hdeltas]
  hour_addHour settings ops delta hstart hdeltas := by
    rw [run_concat, ← hstart, ← hdeltas, ← World.clock_run]
    rfl

/-- At an end of the range the order of advances does matter. -/
example : run ⟨Int64.maxValue⟩ [1, -1] = ⟨Int64.maxValue - 1⟩ ∧
    run ⟨Int64.maxValue⟩ [-1, 1] = ⟨Int64.maxValue⟩ := by decide

end Clock

end StoryWorld
