import StoryWorld.Proofs.Conversion.Positions
import StoryWorld.Proofs.Token.Joining

/-!
# Layout and comments

Spans flow through reading, conversion and registration and decide nothing there: where the bytes
of all tokens are moved, a source has the same outcome but for the places of its diagnostics
(`Loader.unplaced_outcome_mapSpans`). So two texts with the same tokens mean the same, whatever
blanks and comments lie between these.
-/

namespace StoryWorld

/-- The diagnostic without its place. -/
def Diagnostic.unplaced (d : Diagnostic) : Diagnostic := { d with span := none }

@[simp] theorem Notice.unplaced_mapSpan (f : Nat → Nat) (file : String) (n : Notice) :
    ((n.mapSpan f).toDiagnostic file).unplaced = (n.toDiagnostic file).unplaced := rfl

/-! ## Moving the spans of failures -/

def SyntaxError.mapSpan (f : Nat → Nat) : SyntaxError → SyntaxError
  | lex e => lex (e.mapSpan f)
  | parse e => parse (e.mapSpan f)

def LoadError.mapSpan (f : Nat → Nat) : LoadError → LoadError
  | malformed file e => malformed file (e.mapSpan f)
  | invalid file e => invalid file (e.mapSpan f)
  | e => e

/-- No wording and no label depends on where an error stands. -/
theorem LoadError.unplaced_mapSpan (f : Nat → Nat) (e : LoadError) :
    (e.mapSpan f).toDiagnostic.unplaced = e.toDiagnostic.unplaced := by
  cases e with
  | malformed file e =>
    cases e with
    | lex e => cases e <;> rfl
    | parse fault => rfl
  | invalid file fault => cases fault <;> rfl
  | notADirectory | unreadable => rfl

theorem SourceTree.ofLexing_mapSpans {f : Nat → Nat} (hf : f 0 = 0) (tokens : Lexing) :
    ofLexing (tokens.mapSpans f) =
      match ofLexing tokens with
      | .error e => .error (e.mapSpan f)
      | .ok t => .ok (t.mapSpans f) := by
  obtain ⟨ls, _ | e⟩ := tokens
  · simp only [ofLexing, Lexing.mapSpans, Lexing.result, Option.map_none, ofLexemes_mapSpans hf]
    cases ofLexemes ls <;> rfl
  · rfl

namespace Loader

/-! ## Outcomes -/

/-- What comes of a source: whether it is accepted, the world after it and what is said of it. -/
structure Outcome where
  accepted : Bool
  world : World
  diagnostics : List Diagnostic

/-- The outcome of a source in a world. -/
def outcome (k : Kind) (file : String) (tokens : Lexing) (w : World) : Outcome :=
  match declared k file tokens with
  | .error e => ⟨false, w, [e.toDiagnostic]⟩
  | .ok (d, notices) =>
    ⟨true, (w.register d).1, (notices ++ (w.register d).2).map (·.toDiagnostic file)⟩

theorem accept_eq (l : Loader) (k : Kind) (file text : String) (tokens : Lexing) :
    l.accept k file text tokens = ({
      world := (outcome k file tokens l.world).world
      diagnostics := l.diagnostics ++ (outcome k file tokens l.world).diagnostics
      sources := l.sources.set file text }, (outcome k file tokens l.world).accepted) := by
  unfold accept outcome
  rcases declared k file tokens with e | ⟨d, notices⟩ <;> rfl

def Outcome.unplaced (o : Outcome) : Outcome :=
  { o with diagnostics := o.diagnostics.map (·.unplaced) }

/-! ## Outcomes at moved spans -/

variable {f : Nat → Nat}

theorem declared_mapSpans (hf : f 0 = 0) (k : Kind) (file : String) (tokens : Lexing) :
    declared k file (tokens.mapSpans f) =
      match declared k file tokens with
      | .error e => .error (e.mapSpan f)
      | .ok (d, notices) => .ok (d.mapSpans f, notices.map (·.mapSpan f)) := by
  simp only [declared, SourceTree.ofLexing_mapSpans hf]
  rcases SourceTree.ofLexing tokens with e | t
  · rfl
  · simp only [← Declared.ofTree_mapSpans, Checked.mapSpans]
    rcases Declared.ofTree k t with ⟨notices, e | d⟩ <;> rfl

theorem unplaced_outcome_mapSpans (hf : f 0 = 0) (k : Kind) (file : String) (tokens : Lexing)
    (w : World) :
    (outcome k file (tokens.mapSpans f) w).unplaced = (outcome k file tokens w).unplaced := by
  simp only [outcome, declared_mapSpans hf]
  rcases declared k file tokens with e | ⟨d, notices⟩
  · simp [Outcome.unplaced, LoadError.unplaced_mapSpan]
  · simp [Outcome.unplaced, World.register_mapSpans, Notice.mapSpans, Function.comp_def]

/-! ## Texts with the same tokens -/

theorem mapSpans_forget_ofText {a : String} {ls : List Lexeme} (ha : lex a = .ok ls) :
    (Lexing.ofText a).mapSpans Span.forget =
      ⟨(ls.map (·.token)).map (Lexeme.mk · ⟨0, 0⟩), none⟩ := by
  obtain ⟨herror, rfl⟩ := lex_eq_ok_iff.1 ha
  rw [Lexing.mapSpans, herror, List.map_map]
  rfl

/-- Texts with the same tokens are both accepted or both rejected, make the same world, and raise
the same diagnostics but for their places. -/
theorem addText_of_same_tokens (l : Loader) (k : Kind) (file : String) {a b : String}
    {ls ms : List Lexeme} (ha : lex a = .ok ls) (hb : lex b = .ok ms)
    (htokens : ls.map (·.token) = ms.map (·.token)) :
    (l.addText k file a).2 = (l.addText k file b).2 ∧
      (l.addText k file a).1.world = (l.addText k file b).1.world ∧
      ∃ ds es, (l.addText k file a).1.diagnostics = l.diagnostics ++ ds ∧
        (l.addText k file b).1.diagnostics = l.diagnostics ++ es ∧
        ds.map (·.unplaced) = es.map (·.unplaced) := by
  have hmoved : (Lexing.ofText a).mapSpans Span.forget =
      (Lexing.ofText b).mapSpans Span.forget := by
    rw [mapSpans_forget_ofText ha, mapSpans_forget_ofText hb, htokens]
  have houtcome : (outcome k file (.ofText a) l.world).unplaced =
      (outcome k file (.ofText b) l.world).unplaced := by
    rw [← unplaced_outcome_mapSpans (f := Span.forget) rfl, hmoved,
      unplaced_outcome_mapSpans rfl]
  rw [addText, addText, accept_eq, accept_eq]
  obtain ⟨haccepted, hworld, hdiagnostics⟩ := Outcome.mk.inj houtcome
  exact ⟨haccepted, hworld, _, _, rfl, rfl, hdiagnostics⟩

/-- The inn, written in one line. -/
def innInLine : String := "Inn\x7bcosy,light=dim,\x7d"

/-- The inn, with comments. -/
def innSpread : String := "# by the road\nInn \x7b\n  cosy, # and warm\n  light = dim,\n\x7d\n"

theorem addText_inn : ∃ ls ms, lex innInLine = .ok ls ∧ lex innSpread = .ok ms ∧
    ls.map (·.token) = ms.map (·.token) ∧
    ((start {}).addText .node "inn" innSpread).2 = true ∧
    ((start {}).addText .node "inn" innInLine).1.world =
      ((start {}).addText .node "inn" innSpread).1.world := by
  have hline : lex innInLine = .ok (Lexing.ofText innInLine).lexemes :=
    lex_eq_ok_iff.2 ⟨by decide +kernel, rfl⟩
  have hspread : lex innSpread = .ok (Lexing.ofText innSpread).lexemes :=
    lex_eq_ok_iff.2 ⟨by decide +kernel, rfl⟩
  have htokens : (Lexing.ofText innInLine).lexemes.map (·.token) =
      (Lexing.ofText innSpread).lexemes.map (·.token) := by decide +kernel
  obtain ⟨haccepted, hworld, -⟩ :=
    addText_of_same_tokens (start {}) .node "inn" hline hspread htokens
  refine ⟨_, _, hline, hspread, htokens, ?_, hworld⟩
  rw [← haccepted]
  decide +kernel

end Loader

end StoryWorld
