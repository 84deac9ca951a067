import StoryWorld.Proofs.Token.Slices

/-!
# Tokens across the ends of lines

Between two texts a newline keeps their tokens apart, unless the first text leaves a quote open. That
quote goes on into the second text up to the next quote there (`Lexing.goesOn_ofText`). In either
case the tokens that the first text has by itself come first.
-/

namespace StoryWorld

open Mode (byteLength)

namespace Lexing

variable {a : String} {e : LexError}

/-- A text that is cut behind the given tokens. -/
def prepend (ls : List Lexeme) (x : Lexing) : Lexing := ⟨ls ++ x.lexemes, x.error⟩

/-- How characters from byte `o` on are cut if a quote that opens at byte `start` holds `text`
before them. -/
inductive GoesOn (start : Nat) (text : String) (o : Nat) : List Char → Lexing → Prop
  | unclosed {cs : List Char} (h : '"' ∉ cs) :
    GoesOn start text o cs ⟨[], some (.unterminatedQuote start)⟩
  | closed {pre post : List Char} {stop : Nat} (h : '"' ∉ pre)
    (hstop : stop = o + byteLength pre + 1) :
    GoesOn start text o (pre ++ '"' :: post)
      (((ofText (String.ofList post)).mapSpans (· + stop)).prepend
        [⟨.quoted (text ++ String.ofList pre), ⟨start, stop⟩⟩])

theorem goesOn_scanLine (start : Nat) (text : String) (o : Nat) (cs : List Char) :
    GoesOn start text o cs
      ⟨((Mode.quoted start text).scanLine o (String.ofList cs)).2,
        ((Mode.quoted start text).scanLine o (String.ofList cs)).1.failure?⟩ := by
  by_cases hquote : '"' ∈ cs
  · obtain ⟨pre, post, rfl, hpre⟩ := List.eq_append_cons_of_mem hquote
    have hclose : (Mode.quoted start text).scan o (pre ++ ['"']) = (.between,
        [⟨.quoted (text ++ String.ofList pre), ⟨start, o + byteLength pre + 1⟩⟩]) := by
      simp [Mode.scan_append, Mode.scan_quoted hpre, Mode.scan, Mode.step]
    have hsize : o + byteLength (pre ++ ['"']) = 0 + (o + byteLength pre + 1) := by
      have hquote : '"'.utf8Size = 1 := rfl
      simp [hquote, Nat.add_assoc]
    have hrest : Mode.between.scanLine (0 + (o + byteLength pre + 1)) (String.ofList post) = _ :=
      Mode.scanLine_shift (o + byteLength pre + 1) .between 0 (String.ofList post)
    rw [List.append_cons, Mode.scanLine_append_of_scan hclose, hsize, hrest, ← List.append_cons]
    simp only [Mode.failure?_shift]
    exact .closed hpre rfl
  · simp only [Mode.scanLine, String.toList_ofList, Mode.scan_quoted hquote, Mode.endLine,
      List.nil_append]
    exact .unclosed hquote

/-- A text that cannot be cut ends inside a quote. -/
theorem scan_of_error (h : (ofText a).error = some e) : ∃ pre post,
    a.toList = pre ++ '"' :: post ∧ '"' ∉ post ∧ e = .unterminatedQuote (byteLength pre) ∧
      Mode.between.scan 0 a.toList =
        (.quoted (byteLength pre) (String.ofList post), (ofText a).lexemes) := by
  have hcut := cut_ofText a
  rcases hx : ofText a with ⟨ls, error⟩
  rw [hx] at hcut h
  cases hcut with
  | whole => cases h
  | @upTo pre post _ htext hpost htiles =>
    obtain rfl := Option.some.inj h
    have hmode : (Mode.between.scan 0 a.toList).1 =
        .quoted (byteLength pre) (String.ofList post) := by
      rw [htext, Mode.scan_open_quote (htiles.outside (by simp)) hpost, Nat.zero_add]
    refine ⟨pre, post, htext, hpost, by rw [Nat.zero_add], Prod.ext hmode ?_⟩
    have hlexemes := congrArg lexemes hx
    simpa [ofText, Mode.scanLine, hmode, Mode.endLine] using hlexemes

/-- A quote that a text leaves open goes on into whatever follows. -/
theorem goesOn_ofText (h : (ofText a).error = some e) (rest : String) : ∃ pre post x,
    a.toList = pre ++ '"' :: post ∧ '"' ∉ post ∧ e = .unterminatedQuote (byteLength pre) ∧
      GoesOn (byteLength pre) (String.ofList post) a.utf8ByteSize rest.toList x ∧
      ofText (a ++ rest) = x.prepend (ofText a).lexemes := by
  obtain ⟨pre, post, htext, hpost, he, hscan⟩ := scan_of_error h
  refine ⟨pre, post, _, htext, hpost, he, goesOn_scanLine _ _ _ _, ?_⟩
  have hall := Mode.scanLine_append_of_scan hscan rest.toList
  rw [String.ofList_append, String.ofList_toList, String.ofList_toList, Mode.byteLength_toList,
    Nat.zero_add] at hall
  rw [ofText, hall, String.ofList_toList]
  rfl

end Lexing

/-- Behind a text that can be cut and a newline, a text has its own tokens and its own error, moved
right. Behind one that cannot be cut, the tokens before the error stay the first ones. -/
theorem lex_across_newline (a b : String) :
    (∀ ls, lex a = .ok ls →
      lex (a ++ "\n" ++ b) = ((lex b).map fun ls' =>
        ls ++ ls'.map (·.mapSpan (Span.behind a))).mapError (·.mapSpan (Span.behind a))) ∧
    (∀ ls, lex a = .ok ls → (Lexing.ofText (a ++ "\n" ++ b)).lexemes =
      ls ++ (Lexing.ofText b).lexemes.map (·.mapSpan (Span.behind a))) ∧
    ∀ e, lex a = .error e →
      (Lexing.ofText a).lexemes <+: (Lexing.ofText (a ++ "\n" ++ b)).lexemes := by
  refine ⟨fun ls h => ?_, fun ls h => ?_, fun e h => ?_⟩
  · obtain ⟨hnone, rfl⟩ := lex_eq_ok_iff.1 h
    rw [lex, Lexing.ofText_append_newline hnone, lex, Lexing.result, Lexing.result]
    cases hb : (Lexing.ofText b).error with
    | none | some => simp [Lexing.mapSpans, hb, Except.map, Except.mapError]
  · obtain ⟨hnone, rfl⟩ := lex_eq_ok_iff.1 h
    rw [Lexing.ofText_append_newline hnone]
    rfl
  · obtain ⟨-, -, x, -, -, -, -, hall⟩ :=
      Lexing.goesOn_ofText (lex_eq_error_iff.1 h) ("\n" ++ b)
    rw [String.append_assoc, hall]
    exact List.prefix_append _ _

/-- A comment hides a quote up to the newline, and an open quote takes in the newline. -/
theorem lex_across_newline_quotes :
    lex "é #\"" = .ok [⟨.punct 'é', ⟨0, 2⟩⟩] ∧
    lex "é #\"\n\"w\" \"" = .error (.unterminatedQuote 10) ∧
    lex "x \"q" = .error (.unterminatedQuote 2) ∧
    [⟨.word "x", ⟨0, 1⟩⟩] <+: (Lexing.ofText "x \"q\nw\" y").lexemes := by
  have hcomment : lex "é #\"" = .ok [⟨.punct 'é', ⟨0, 2⟩⟩] := by decide
  have hopen : lex "x \"q" = .error (.unterminatedQuote 2) := by decide
  exact ⟨hcomment, (lex_across_newline "é #\"" "\"w\" \"").1 _ hcomment, hopen,
    (lex_across_newline "x \"q" "w\" y").2.2 _ hopen⟩

end StoryWorld
