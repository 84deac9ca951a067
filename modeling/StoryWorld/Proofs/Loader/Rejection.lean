import StoryWorld.Loader

/-!
# Rejected sources

Whether a source is accepted depends on its text alone, and a rejected one leaves an error and
nothing else. So a load makes the world that its accepted sources make, with the same warnings.
-/

namespace StoryWorld

theorem LoadError.isError_toDiagnostic (e : LoadError) : e.toDiagnostic.isError = true := by
  cases e with
  | malformed file e =>
    cases e with
    | lex e => cases e <;> rfl
    | parse fault => rfl
  | notADirectory | unreadable | invalid => rfl

theorem filter_isError {ds : List Diagnostic} (h : ∀ d ∈ ds, d.isError = false) :
    ds.filter (·.isError) = [] := by
  rw [List.filter_eq_nil_iff]
  intro d hd
  simp [h d hd]

theorem filter_not_isError {ds : List Diagnostic} (h : ∀ d ∈ ds, d.isError = false) :
    (ds.filter fun d => !d.isError) = ds := by
  rw [List.filter_eq_self]
  intro d hd
  simp [h d hd]

theorem Notice.isError_toDiagnostic (file : String) (n : Notice) :
    (n.toDiagnostic file).isError = false := rfl

/-- A text to be loaded as a source. -/
structure SourceText where
  kind : Kind
  file : String
  text : String

/-- Why a source is rejected, if it is. -/
def SourceText.refusal? (u : SourceText) : Option LoadError :=
  match Loader.declared u.kind u.file (.ofText u.text) with
  | .error e => some e
  | .ok _ => none

namespace Loader

variable {l l' : Loader} {u : SourceText} {e : LoadError}

/-- Loads a source, and says whether it was accepted. -/
def add (l : Loader) (u : SourceText) : Loader × Bool := l.addText u.kind u.file u.text

/-- Loads sources in order, and says of each whether it was accepted. -/
def addAll (l : Loader) : List SourceText → Loader × List Bool
  | [] => (l, [])
  | u :: us =>
    let (l₁, accepted) := l.add u
    let (l₂, rest) := l₁.addAll us
    (l₂, accepted :: rest)

/-- The report of a load of sources. -/
def report (settings : Settings) (us : List SourceText) : LoadReport :=
  ((start settings).addAll us).1.finish

/-- The sources that were given an answer. -/
def answered (answer : Bool) (settings : Settings) (us : List SourceText) : List SourceText :=
  ((us.zip ((start settings).addAll us).2).filter (·.2 == answer)).map (·.1)

/-! ## One source -/

theorem add_of_refusal (h : u.refusal? = some e) (l : Loader) :
    l.add u = ({ l with
      diagnostics := l.diagnostics ++ [e.toDiagnostic]
      sources := l.sources.set u.file u.text }, false) := by
  unfold SourceText.refusal? at h
  unfold add addText accept
  rcases hd : declared u.kind u.file (.ofText u.text) with e' | d
  · rw [hd] at h
    cases h
    rfl
  · rw [hd] at h
    cases h

/-- An accepted source changes the world and adds warnings, both by what the world is alone. -/
theorem add_of_no_refusal (h : u.refusal? = none) : ∃ f : World → World × List Diagnostic,
    (∀ w, ∀ d ∈ (f w).2, d.isError = false) ∧
    ∀ l : Loader, l.add u = ({
      world := (f l.world).1
      diagnostics := l.diagnostics ++ (f l.world).2
      sources := l.sources.set u.file u.text }, true) := by
  unfold SourceText.refusal? at h
  rcases hd : declared u.kind u.file (.ofText u.text) with e | ⟨d, notices⟩
  · rw [hd] at h
    cases h
  · -- what is declared is the same for every loader
    refine ⟨fun w => ((w.register d).1,
      (notices ++ (w.register d).2).map (·.toDiagnostic u.file)), fun w d' hd' => ?_, fun l => ?_⟩
    · obtain ⟨n, -, rfl⟩ := List.mem_map.1 hd'
      exact n.isError_toDiagnostic u.file
    · unfold add addText accept
      rw [hd]

theorem snd_add (l : Loader) (u : SourceText) : (l.add u).2 = u.refusal?.isNone := by
  rcases h : u.refusal? with _ | e
  · obtain ⟨f, -, hadd⟩ := add_of_no_refusal h
    rw [hadd]
    rfl
  · rw [add_of_refusal h]
    rfl

theorem get?_sources_add (l : Loader) (u : SourceText) :
    (l.add u).1.sources.get? u.file = some u.text := by
  rcases h : u.refusal? with _ | e
  · obtain ⟨f, -, hadd⟩ := add_of_no_refusal h
    rw [hadd]
    exact Entries.get?_set_self ..
  · rw [add_of_refusal h]
    exact Entries.get?_set_self ..

theorem add_eq_of_rejected (h : (l.add u).2 = false) : (l.add u).1.world = l.world ∧
    ∃ d, d.isError = true ∧ (l.add u).1.diagnostics = l.diagnostics ++ [d] := by
  rcases hu : u.refusal? with _ | e
  · rw [snd_add, hu] at h
    cases h
  · rw [add_of_refusal hu]
    exact ⟨rfl, e.toDiagnostic, e.isError_toDiagnostic, rfl⟩

theorem add_eq_of_accepted (h : (l.add u).2 = true) :
    ∃ ds, (∀ d ∈ ds, d.isError = false) ∧ (l.add u).1.diagnostics = l.diagnostics ++ ds := by
  rcases hu : u.refusal? with _ | e
  · obtain ⟨f, hf, hadd⟩ := add_of_no_refusal hu
    rw [hadd]
    exact ⟨(f l.world).2, hf l.world, rfl⟩
  · rw [snd_add, hu] at h
    cases h

/-! ## Loaders that differ by errors -/

/-- The same world, and the same diagnostics but for errors. -/
structure WithoutErrors (l l' : Loader) : Prop where
  world : l'.world = l.world
  diagnostics : l'.diagnostics = l.diagnostics.filter fun d => !d.isError

theorem WithoutErrors.add_rejected (h : WithoutErrors l l') (hu : u.refusal? = some e) :
    WithoutErrors (l.add u).1 l' := by
  rw [add_of_refusal hu]
  refine ⟨h.world, ?_⟩
  simp [h.diagnostics, e.isError_toDiagnostic]

theorem WithoutErrors.add_accepted (h : WithoutErrors l l') (hu : u.refusal? = none) :
    WithoutErrors (l.add u).1 (l'.add u).1 := by
  obtain ⟨f, hf, hadd⟩ := add_of_no_refusal hu
  rw [hadd, hadd, h.world]
  refine ⟨rfl, ?_⟩
  rw [List.filter_append, filter_not_isError (hf l.world), h.diagnostics]

theorem WithoutErrors.addAll (h : WithoutErrors l l') (us : List SourceText) :
    WithoutErrors (l.addAll us).1 (l'.addAll (us.filter (·.refusal?.isNone))).1 := by
  induction us generalizing l l' with
  | nil => exact h
  | cons u us ih =>
    rcases hu : u.refusal? with _ | e
    · rw [List.filter_cons_of_pos (by simp [hu])]
      exact ih (h.add_accepted hu)
    · rw [List.filter_cons_of_neg (by simp [hu])]
      exact ih (h.add_rejected hu)

/-! ## Answers and errors of a load -/

theorem snd_addAll (l : Loader) (us : List SourceText) :
    (l.addAll us).2 = us.map (·.refusal?.isNone) := by
  induction us generalizing l with
  | nil => rfl
  | cons u us ih => simp only [addAll, List.map_cons, ih, snd_add]

theorem answered_eq (answer : Bool) (settings : Settings) (us : List SourceText) :
    answered answer settings us = us.filter (·.refusal?.isNone == answer) := by
  rw [answered, snd_addAll]
  induction us with
  | nil => rfl
  | cons u us ih =>
    rw [List.map_cons, List.zip_cons_cons, List.filter_cons, List.filter_cons, ← ih]
    split <;> rfl

theorem errors_addAll (l : Loader) (us : List SourceText) :
    (l.addAll us).1.diagnostics.filter (·.isError) =
      l.diagnostics.filter (·.isError) ++
        us.filterMap fun u => u.refusal?.map (·.toDiagnostic) := by
  induction us generalizing l with
  | nil => exact (List.append_nil _).symm
  | cons u us ih =>
    have hrest : ((l.add u).1.addAll us).1.diagnostics.filter (·.isError) = _ := ih (l.add u).1
    rcases hu : u.refusal? with _ | e
    · obtain ⟨f, hf, hadd⟩ := add_of_no_refusal hu
      rw [hadd, List.filter_append, filter_isError (hf l.world), List.append_nil] at hrest
      simpa [addAll, hu, hadd] using hrest
    · rw [add_of_refusal hu] at hrest
      simpa [addAll, hu, add_of_refusal hu, e.isError_toDiagnostic] using hrest

/-! ## The report of a load -/

theorem isError_of_mem_warnings {ws : List WorldWarning} :
    ∀ d ∈ ws.map fun w => Diagnostic.warningOf w.message, d.isError = false := by
  intro d hd
  obtain ⟨w, -, rfl⟩ := List.mem_map.1 hd
  rfl

theorem WithoutErrors.finish (h : WithoutErrors l l') :
    l'.finish.world = l.finish.world ∧
      l'.finish.diagnostics = l.finish.diagnostics.filter fun d => !d.isError := by
  unfold Loader.finish
  rw [h.world, h.diagnostics, List.filter_append, filter_not_isError isError_of_mem_warnings]
  exact ⟨rfl, rfl⟩

theorem errors_report (settings : Settings) (us : List SourceText) :
    (report settings us).diagnostics.filter (·.isError) =
      (answered false settings us).filterMap fun u => u.refusal?.map (·.toDiagnostic) := by
  rw [report, Loader.finish, List.filter_append, filter_isError isError_of_mem_warnings,
    List.append_nil, errors_addAll, answered_eq, List.filterMap_filter]
  refine congrArg (List.filterMap · us) (funext fun u => ?_)
  cases u.refusal? <;> rfl

theorem errorCount_report (settings : Settings) (us : List SourceText) :
    (report settings us).errorCount = (answered false settings us).length := by
  rw [LoadReport.errorCount, List.countP_eq_length_filter, errors_report,
    List.length_filterMap_eq_countP, List.countP_eq_length]
  intro u hu
  rw [answered_eq, List.mem_filter] at hu
  rw [Option.isSome_map]
  rcases hr : u.refusal? with _ | e
  · rw [hr] at hu
    exact absurd hu.2 (by decide)
  · rfl

/-- A rejected source leaves the world as it is and one error, an accepted one leaves no error, and
the text of each is recorded. In a whole load, the rejected sources might as well not be there, but
for their errors, one for each. -/
theorem rejected_add_nothing :
    (∀ (l : Loader) (u : SourceText),
      ((l.add u).2 = false → (l.add u).1.world = l.world ∧
        ∃ d, d.isError = true ∧ (l.add u).1.diagnostics = l.diagnostics ++ [d]) ∧
      ((l.add u).2 = true → ∃ ds, (∀ d ∈ ds, d.isError = false) ∧
        (l.add u).1.diagnostics = l.diagnostics ++ ds) ∧
      (l.add u).1.sources.get? u.file = some u.text) ∧
    ∀ (settings : Settings) (us : List SourceText),
      (report settings (answered true settings us)).world = (report settings us).world ∧
      (report settings (answered true settings us)).diagnostics =
        (report settings us).diagnostics.filter (fun d => !d.isError) ∧
      (report settings us).diagnostics.filter (·.isError) =
        (answered false settings us).filterMap (fun u => u.refusal?.map (·.toDiagnostic)) ∧
      (report settings us).errorCount = (answered false settings us).length := by
  constructor
  · intro l u
    exact ⟨add_eq_of_rejected, add_eq_of_accepted, get?_sources_add l u⟩
  · intro settings us
    have hclean : WithoutErrors ((start settings).addAll us).1
        ((start settings).addAll (answered true settings us)).1 := by
      have h := WithoutErrors.addAll (l := start settings) ⟨rfl, rfl⟩ us
      simpa [answered_eq] using h
    exact ⟨hclean.finish.1, hclean.finish.2, errors_report settings us,
      errorCount_report settings us⟩

/-- Ann is read, with a warning, before Bob's condition is refused. -/
def annAndBob : SourceText := ⟨.character, "c", "Ann\x7bstray,\x7dBob\x7b\"hour >\"\x7b\x7d,\x7d"⟩

theorem rejected_add_nothing_annAndBob :
    ((start {}).add annAndBob).1.world = .empty {} ∧
      ∃ d, d.isError = true ∧ ((start {}).add annAndBob).1.diagnostics = [] ++ [d] :=
  (rejected_add_nothing.1 (start {}) annAndBob).1 (by decide +kernel)

end Loader

end StoryWorld
