import StoryWorld.Proofs.Conversion.Places
import StoryWorld.Proofs.Loader.Joining
import StoryWorld.Proofs.Loader.Rejection

/-!
# Located diagnostics

Whatever is wrong with a source, the diagnostics that it raises stand in its own text
(`Loader.pointsAt_outcome`). As long as no name is used twice, later sources take none of these
texts away, so at the end of a load every place can be shown.
-/

namespace StoryWorld

namespace Diagnostic

/-- Whether a diagnostic that has a place has it in the text of a source. -/
def PointsAt (d : Diagnostic) (file text : String) : Prop :=
  ∀ s, d.span = some s → d.file = some file ∧ s.InText text

/-- Whether a diagnostic that has a place has it in the text of one of some sources. -/
def PointsInto (d : Diagnostic) (sources : Sources) : Prop :=
  ∀ s, d.span = some s →
    ∃ file text, d.file = some file ∧ sources.get? file = some text ∧ s.InText text

variable {d : Diagnostic} {sources : Sources} {file text : String}

theorem PointsAt.pointsInto_set (h : d.PointsAt file text) :
    d.PointsInto (sources.set file text) := by
  intro s hs
  obtain ⟨hfile, hspan⟩ := h s hs
  exact ⟨file, text, hfile, Entries.get?_set_self .., hspan⟩

/-- A source with a new name hides no place. -/
theorem PointsInto.set (h : d.PointsInto sources) (hnew : sources.get? file = none) :
    d.PointsInto (sources.set file text) := by
  intro s hs
  obtain ⟨file', text', hfile, hget, hspan⟩ := h s hs
  have hne : file' ≠ file := by
    rintro rfl
    rw [hnew] at hget
    cases hget
  rw [← Entries.get?_set_of_ne sources text hne] at hget
  exact ⟨file', text', hfile, hget, hspan⟩

theorem pointsInto_warningOf (message : String) (sources : Sources) :
    (warningOf message).PointsInto sources := by
  intro s hs
  cases hs

end Diagnostic

theorem Notice.pointsAt_toDiagnostic {n : Notice} {file text : String} (h : n.span.InText text) :
    (n.toDiagnostic file).PointsAt file text := by
  intro s hs
  obtain rfl := Option.some.inj hs
  exact ⟨rfl, h⟩

/-- A text that is no tree is wrong at an opening quote, at a token or at its end. -/
theorem LoadError.pointsAt_malformed {file text : String} {fault : SyntaxError}
    (h : SourceTree.ofText text = .error fault) :
    (malformed file fault).toDiagnostic.PointsAt file text := by
  intro s hs
  rcases SourceTree.ofText_eq_error_iff.1 h with ⟨e, rfl, herror⟩ | ⟨e, rfl, -, hlexemes⟩
  · cases e with
    | unterminatedQuote start =>
      obtain rfl := Option.some.inj hs
      exact ⟨rfl, Lexing.inText_of_error herror⟩
    | read => cases hs
  · obtain rfl := Option.some.inj hs
    exact ⟨rfl, SourceTree.inText_of_ofLexemes_eq_error hlexemes⟩

namespace Loader

/-! ## One source -/

theorem pointsAt_of_declared_eq_error {k : Kind} {file text : String} {e : LoadError}
    (h : declared k file (.ofText text) = .error e) : e.toDiagnostic.PointsAt file text := by
  unfold declared at h
  split at h
  · next fault hread =>
    cases h
    exact LoadError.pointsAt_malformed hread
  · next t hread =>
    have hpoints := Declared.pointsTo_ofTree k fun s hs => SourceTree.inText_of_mem_spans hread hs
    split at h
    · cases h
    · next notices fault htree =>
      cases h
      rw [htree] at hpoints
      intro s hs
      obtain rfl := Option.some.inj hs
      exact ⟨rfl, hpoints.refusal fault rfl⟩

theorem inText_of_declared_eq_ok {k : Kind} {file text : String} {d : Declared}
    {notices : List Notice} (h : declared k file (.ofText text) = .ok (d, notices)) :
    (∀ n ∈ notices, n.span.InText text) ∧ ∀ p ∈ d.headings, p.1.InText text := by
  obtain ⟨t, hread, htree⟩ := declared_eq_ok_iff.1 h
  have hspans : ∀ s ∈ t.spans, s.InText text := fun s hs => SourceTree.inText_of_mem_spans hread hs
  have hpoints := Declared.pointsTo_ofTree k hspans
  have hresult : (Declared.ofTree k t).result = .ok d := by rw [htree]
  rw [htree] at hpoints
  refine ⟨hpoints.notices, ?_⟩
  rw [Declared.headings_of_ofTree hresult, List.forall_mem_map]
  intro c hc
  exact hspans _ (List.mem_flatMap.2 ⟨c, hc, c.nameSpan_mem_spans⟩)

theorem pointsAt_outcome (k : Kind) (file text : String) (w : World) :
    ∀ d ∈ (outcome k file (.ofText text) w).diagnostics, d.PointsAt file text := by
  unfold outcome
  rcases h : declared k file (.ofText text) with e | ⟨d, notices⟩
  · exact List.forall_mem_singleton.2 (pointsAt_of_declared_eq_error h)
  · dsimp only
    obtain ⟨hnotices, hheadings⟩ := inText_of_declared_eq_ok h
    rw [List.map_append, List.forall_mem_append, List.forall_mem_map, List.forall_mem_map]
    constructor
    · intro n hn
      exact n.pointsAt_toDiagnostic (hnotices n hn)
    · intro n hn
      have hspan : n.span.InText text :=
        w.forall_notices_register (P := (·.InText text)) hheadings n hn
      exact n.pointsAt_toDiagnostic hspan

/-! ## Many sources -/

/-- Whether all places of the diagnostics so far are in texts of the sources so far. -/
def Located (l : Loader) : Prop := ∀ d ∈ l.diagnostics, d.PointsInto l.sources

variable {l : Loader}

theorem sources_add (l : Loader) (u : SourceText) :
    (l.add u).1.sources = l.sources.set u.file u.text := by
  rw [add, addText, accept_eq]

theorem Located.add {u : SourceText} (h : l.Located) (hnew : l.sources.get? u.file = none) :
    (l.add u).1.Located := by
  unfold Located Loader.add addText
  rw [accept_eq]
  refine List.forall_mem_append.2 ⟨fun d hd => (h d hd).set hnew, fun d hd => ?_⟩
  exact (pointsAt_outcome u.kind u.file u.text l.world d hd).pointsInto_set

theorem Located.addAll {us : List SourceText} (h : l.Located)
    (hnew : ∀ u ∈ us, l.sources.get? u.file = none) (hus : (us.map (·.file)).Nodup) :
    (l.addAll us).1.Located := by
  induction us generalizing l with
  | nil => exact h
  | cons u us ih =>
    rw [List.forall_mem_cons] at hnew
    rw [List.map_cons, List.nodup_cons] at hus
    refine ih (l := (l.add u).1) (h.add hnew.1) (fun u' hu' => ?_) hus.2
    -- the names to come are none of those so far, and not that of this source
    have hne : u'.file ≠ u.file := by
      intro heq
      exact hus.1 (heq ▸ List.mem_map_of_mem hu')
    rw [sources_add, Entries.get?_set_of_ne _ _ hne]
    exact hnew.2 u' hu'

theorem Located.finish (h : l.Located) :
    ∀ d ∈ l.finish.diagnostics, d.PointsInto l.finish.sources := by
  unfold Loader.finish
  refine List.forall_mem_append.2 ⟨h, fun d hd => ?_⟩
  obtain ⟨w, -, rfl⟩ := List.mem_map.1 hd
  exact Diagnostic.pointsInto_warningOf w.message l.sources

/-- Where sources have names of their own, every place in the report of a load is in the recorded
text of the source that the diagnostic names. -/
theorem pointsInto_report (settings : Settings) {us : List SourceText}
    (hus : (us.map (·.file)).Nodup) : ∀ d ∈ (report settings us).diagnostics,
      d.PointsInto (report settings us).sources := by
  have hstart : (start settings).Located := by
    intro d hd
    cases hd
  exact (hstart.addAll (fun _ _ => rfl) hus).finish

/-- A quote that is never closed, an object that ends too early and an entry that is passed over. -/
def faultySources : List SourceText :=
  [⟨.node, "quote", "é\x7b\""⟩, ⟨.node, "end", "Inn\x7b "⟩,
    ⟨.character, "entry", "\"Zoë\"\x7bstray,\x7d"⟩]

theorem pointsInto_report_faultySources :
    (report {} faultySources).diagnostics.map (·.span) =
        [some ⟨3, 4⟩, some ⟨4, 4⟩, some ⟨7, 13⟩] ∧
      ∀ d ∈ (report {} faultySources).diagnostics, d.PointsInto (report {} faultySources).sources :=
  ⟨by decide +kernel, pointsInto_report {} (by decide)⟩

end Loader

end StoryWorld
