import Mathlib.Data.String.Basic
import StoryWorld.Proofs.Token.Joining
import StoryWorld.Proofs.Token.Ranges

/-!
# Tokens of slices

What is tiled is scanned as its tiles (`Tiles.scanLine_eq`), and a tiling comes apart between any
two tokens (`Tiles.exists_of_append`). So the slice of a text from the start of one token to the end
of a later one is cut into the tokens in between, whatever stands around it (`Lexing.ofText_slice`).
-/

namespace StoryWorld

open Mode (byteLength)

/-! ## Scanning tiles -/

namespace Text.Gap

/-- What follows a gap matters to a last comment only. -/
theorem mono {after after' gap : List Char} (h : Gap after gap)
    (hafter : after = [] → after' = []) : Gap after' gap := by
  induction h with
  | nil => exact .nil
  | blank hc _ ih => exact .blank hc ih
  | comment hbody _ ih => exact .comment hbody ih
  | lastComment hbody hnil => exact .lastComment hbody (hafter hnil)

end Text.Gap

theorem Token.EndsBefore.of_append {t : Token} {cs ds : List Char} (h : t.EndsBefore (cs ++ ds)) :
    t.EndsBefore cs := fun w hw _ hc => h w hw _ (List.mem_head?_append_of_mem_head? hc)

namespace Mode

variable {cs : List Char} {o : Nat}

theorem scanLine_append_of_scan {m m' : Mode} {ls : List Lexeme} (h : m.scan o cs = (m', ls))
    (ds : List Char) :
    m.scanLine o (String.ofList (cs ++ ds)) =
      let (m₁, ls₁) := m'.scanLine (o + byteLength cs) (String.ofList ds)
      (m₁, ls ++ ls₁) := by
  simp only [scanLine, String.toList_ofList, utf8ByteSize_ofList, scan_append, h,
    byteLength_append, Nat.add_assoc, List.append_assoc]

/-- A gap gives no token, and only the last one may leave a comment open. -/
theorem scan_gap {after gap : List Char} (h : Text.Gap after gap) (o : Nat) :
    between.scan o gap = (between, []) ∨ after = [] ∧ between.scan o gap = (comment, []) := by
  induction h generalizing o with
  | nil => exact .inl rfl
  | @blank c gap hc _ ih =>
    have hstep : between.scan o (c :: gap) = between.scan (o + c.utf8Size) gap := by
      simp [scan, step, enter, hc]
    rw [hstep]
    exact ih _
  | @comment body gap hbody _ ih =>
    have hopen : between.scan o ('#' :: (body ++ '\n' :: gap)) =
        between.scan (o + '#'.utf8Size + byteLength body + '\n'.utf8Size) gap := by
      have henter : between.step o '#' = (.comment, []) := rfl
      have hclose (o : Nat) : comment.step o '\n' = (between, []) := rfl
      simp only [scan, henter, scan_append, scan_comment hbody, hclose, List.nil_append]
    rw [hopen]
    exact ih _
  | lastComment hbody hafter =>
    have henter : between.step o '#' = (.comment, []) := rfl
    refine .inr ⟨hafter, ?_⟩
    simp only [scan, henter, scan_comment hbody, List.nil_append]

/-- An open word that cannot go on is a token, and the rest is read as between tokens. -/
theorem scanLine_word {text : String} (hcs : ∀ c ∈ cs.head?, Text.isWordChar c = false)
    (start o : Nat) :
    (word start text).scanLine o (String.ofList cs) =
      let (m, ls) := between.scanLine o (String.ofList cs)
      (m, ⟨.word text, ⟨start, o⟩⟩ :: ls) := by
  cases cs with
  | nil => rfl
  | cons c cs =>
    simp only [scanLine, String.toList_ofList, scan_word_cons (hcs c rfl), List.cons_append]

/-- Wherever a token stands, it is read before the rest. -/
theorem scanLine_token {t : Token} (ht : t.Spellable) (hend : t.EndsBefore cs) (o : Nat) :
    between.scanLine o (String.ofList (t.shown.toList ++ cs)) =
      let (m, ls) := between.scanLine (o + byteLength t.shown.toList) (String.ofList cs)
      (m, ⟨t, ⟨o, o + byteLength t.shown.toList⟩⟩ :: ls) := by
  cases t with
  | word text =>
    have hopen := scan_wordChars ht.shown_ne_nil ht.2 o
    rw [scanLine_append_of_scan hopen, scanLine_word (hend text rfl), String.ofList_toList]
    rfl
  | quoted text =>
    have hscan : between.scan o (Token.quoted text).shown.toList = (between,
        [⟨.quoted text, ⟨o, o + byteLength (Token.quoted text).shown.toList⟩⟩]) := by
      have henter : enter o '"' = (quoted o "", []) := rfl
      have hsize : '"'.utf8Size = 1 := rfl
      have hbody : '"' ∉ text.toList := ht
      simp [Token.shown, scan, henter, scan_append, scan_quoted hbody, step, hsize, Nat.add_assoc]
    rw [scanLine_append_of_scan hscan]
    rfl
  | punct c =>
    have hscan : between.scan o (Token.punct c).shown.toList =
        (between, [⟨.punct c, ⟨o, o + byteLength (Token.punct c).shown.toList⟩⟩]) := by
      obtain ⟨hblank, hhash, hquote, hword⟩ := ht
      simp [Token.shown, scan, step, enter, hblank, hhash, hquote, hword]
    rw [scanLine_append_of_scan hscan]
    rfl

end Mode

namespace Tiles

variable {after cs : List Char} {o : Nat} {ls ms : List Lexeme}

/-- What follows a tiling may be cut off. -/
theorem cutOff (h : Tiles after o cs ls) : Tiles [] o cs ls := by
  induction h with
  | gap hgap => exact .gap (hgap.mono fun _ => rfl)
  | @token o gap rest t ls hgap ht hend _ ih =>
    have hne : t.shown.toList ++ (rest ++ after) ≠ [] := by simp [ht.shown_ne_nil]
    refine .token (hgap.mono fun hnil => absurd hnil hne) ht ?_ ih
    rw [List.append_nil]
    exact hend.of_append

/-- What is tiled to its end is scanned as its tiles, from wherever it starts. -/
theorem scanLine_eq (h : Tiles [] o cs ls) :
    Mode.between.scanLine o (String.ofList cs) = (.between, ls) := by
  induction h with
  | @gap o gap hgap =>
    rcases Mode.scan_gap hgap o with hscan | ⟨-, hscan⟩
    · simp [Mode.scanLine, hscan, Mode.endLine]
    · simp [Mode.scanLine, hscan, Mode.endLine]
  | @token o gap rest t ls hgap ht hend _ ih =>
    rw [List.append_nil] at hend
    rcases Mode.scan_gap hgap o with hscan | ⟨hnil, -⟩
    · rw [Mode.scanLine_append_of_scan hscan, Mode.scanLine_token ht hend, ih]
      rfl
    · exact absurd hnil (by simp [ht.shown_ne_nil])

/-- A tiling comes apart behind the last of some tokens. -/
theorem exists_of_append (h : Tiles after o cs (ls ++ ms)) :
    ∃ ds es, cs = ds ++ es ∧ Tiles (es ++ after) o ds ls ∧ Tiles after (o + byteLength ds) es ms ∧
      o + byteLength ds = (ls.getLast?.map (·.span.stop)).getD o := by
  induction ls generalizing o cs with
  | nil => exact ⟨[], cs, rfl, .gap .nil, h, rfl⟩
  | cons l ls ih =>
    cases h with
    | @token _ gap rest t _ hgap ht hend hrest =>
      obtain ⟨ds, es, rfl, hls, hms, hlast⟩ := ih hrest
      rw [List.append_assoc] at hgap hend
      refine ⟨gap ++ (t.shown.toList ++ ds), es, by simp, .token hgap ht hend hls, ?_, ?_⟩
      · simpa [Nat.add_assoc] using hms
      · rw [List.getLast?_cons, Option.map_some, Option.getD_some]
        cases hls : ls.getLast? with
        | none | some => simpa [hls, Nat.add_assoc] using hlast

end Tiles

/-! ## Slices -/

/-- Whether a span reaches from the first of some tokens to the last. -/
def Span.Covers (s : Span) (ls : List Lexeme) : Prop :=
  ∃ first ∈ ls.head?, ∃ last ∈ ls.getLast?, s = first.span.through last.span

/-- The part of a text that a span takes up. -/
def Span.slice (s : Span) (text : String) : String :=
  String.Pos.Raw.extract text ⟨s.start⟩ ⟨s.stop⟩

namespace Span

variable {s : Span} {text : String} {before piece after : List Char}

theorem Covers.firstToLast (l l' : Lexeme) (ls : List Lexeme) :
    (l.span.through l'.span).Covers (l :: (ls ++ [l'])) :=
  ⟨l, rfl, l', by simp [List.getLast?_cons], rfl⟩

theorem Covers.stop_eq {ls : List Lexeme} {l : Lexeme} (h : s.Covers (ls ++ [l])) :
    s.stop = l.span.stop := by
  obtain ⟨first, -, last, hlast, rfl⟩ := h
  rw [List.getLast?_concat] at hlast
  rw [Span.through, Option.some.inj hlast]

theorem Selects.slice_eq (h : s.Selects text.toList before piece after) :
    s.slice text = String.ofList piece := by
  have hlength (cs : List Char) : byteLength cs = String.utf8Len cs := by
    rw [← Mode.utf8ByteSize_ofList, String.utf8ByteSize_ofList]
  have htext : text = String.ofList (before ++ piece ++ after) := by
    rw [← h.text_eq, String.ofList_toList]
  rw [slice, h.start_eq, h.stop_eq, hlength, hlength, htext, String.extract_of_valid]

end Span

/-- The tokens from one to a later one tile what their span takes up. -/
theorem Tiles.exists_selects {cs after : List Char} {ls ms : List Lexeme} {s : Span}
    (h : Tiles after 0 cs ls) (hms : ms <:+: ls) (hs : s.Covers ms) :
    ∃ before piece rest, s.Selects (cs ++ after) before piece rest ∧
      Tiles [] s.start piece ms := by
  obtain ⟨pre, post, rfl⟩ := hms
  obtain ⟨first, hfirst, last, hlast, rfl⟩ := hs
  obtain ⟨ms, rfl⟩ := List.head?_eq_some_iff.1 hfirst
  rw [List.append_assoc] at h
  obtain ⟨ds, es, rfl, -, h, -⟩ := h.exists_of_append
  obtain ⟨fs, gs, rfl, h, -, hstop⟩ := h.exists_of_append
  rw [Option.mem_def.1 hlast, Option.map_some, Option.getD_some] at hstop
  -- the gap before the first token is not part of the slice
  cases h with
  | @token _ gap rest t _ hgap ht hend hrest =>
    have hstart : 0 + byteLength ds + byteLength gap = byteLength (ds ++ gap) := by simp
    refine ⟨ds ++ gap, t.shown.toList ++ rest, gs ++ after, ⟨by simp, hstart, ?_⟩, ?_⟩
    · rw [Span.through, ← hstop]
      simp [Nat.add_assoc]
    · have hpiece := Tiles.token (o := 0 + byteLength ds + byteLength gap) .nil ht hend hrest
      exact hpiece.cutOff

/-- The slice of a text from the start of one token to the end of a later one is cut into the tokens
in between, moved to its start. -/
theorem Lexing.ofText_slice {text : String} {ms : List Lexeme} {s : Span}
    (hms : ms <:+: (ofText text).lexemes) (hs : s.Covers ms) :
    ∃ ls, ofText (s.slice text) = ⟨ls, none⟩ ∧ ms = ls.map (·.mapSpan (· + s.start)) ∧
      s.stop = (s.slice text).utf8ByteSize + s.start := by
  obtain ⟨cs, after, htext, htiles⟩ := exists_tiles text
  obtain ⟨before, piece, rest, hselects, hpiece⟩ := htiles.exists_selects hms hs
  rw [← htext] at hselects
  have hmoved : Mode.between.scanLine (0 + s.start) (String.ofList piece) = _ :=
    Mode.scanLine_shift s.start .between 0 (String.ofList piece)
  rw [Nat.zero_add, hpiece.scanLine_eq] at hmoved
  obtain ⟨hmode, hlexemes⟩ := Prod.mk.inj hmoved
  have hfailure := Mode.failure?_shift s.start (Mode.between.scanLine 0 (String.ofList piece)).1
  rw [← hmode] at hfailure
  rw [hselects.slice_eq]
  refine ⟨_, ?_, hlexemes, ?_⟩
  · exact congrArg (Lexing.mk _) (Option.map_eq_none_iff.1 hfailure.symm)
  · rw [hselects.stop_eq, hselects.start_eq, Mode.utf8ByteSize_ofList, Nat.add_comm]

end StoryWorld
