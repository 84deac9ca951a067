import StoryWorld.Proofs.Token.Partition

/-!
# Spans that are ranges of a text

A span is a range of a text if it does not end before it starts, ends within the text and cuts no
character at either end (`Span.InText`). The span of each token is one, and so is each stretch from
a token to a later one (`Stretch.inText`); the end of the last token and the end of the text are
empty ranges.
-/

namespace StoryWorld

open Mode (byteLength)

/-- Whether a span is a range of bytes of a text, with characters as a whole on either side of both
its ends. -/
structure Span.InText (s : Span) (text : String) : Prop where
  start_le_stop : s.start ≤ s.stop
  stop_le : s.stop ≤ text.utf8ByteSize
  start_isValid : String.Pos.Raw.IsValid text ⟨s.start⟩
  stop_isValid : String.Pos.Raw.IsValid text ⟨s.stop⟩

theorem isValid_byteLength {text : String} {before after : List Char}
    (h : text.toList = before ++ after) :
    String.Pos.Raw.IsValid text ⟨byteLength before⟩ := by
  rw [String.Pos.Raw.isValid_iff_exists_append]
  refine ⟨String.ofList before, String.ofList after, ?_, ?_⟩
  · rw [← String.ofList_append, ← h, String.ofList_toList]
  · have hsize := Mode.byteLength_toList (String.ofList before)
    rw [String.toList_ofList] at hsize
    rw [hsize]
    rfl

namespace Span

variable {s t : Span} {text : String}

theorem Selects.inText {before piece after : List Char}
    (h : s.Selects text.toList before piece after) : s.InText text where
  start_le_stop := by
    rw [h.start_eq, h.stop_eq]
    exact Nat.le_add_right ..
  stop_le := by
    rw [h.stop_eq, ← Mode.byteLength_toList, h.text_eq, Mode.byteLength_append,
      Mode.byteLength_append]
    exact Nat.le_add_right ..
  start_isValid := by
    rw [h.start_eq]
    exact isValid_byteLength (h.text_eq.trans (List.append_assoc ..))
  stop_isValid := by
    rw [h.stop_eq, ← Mode.byteLength_append]
    exact isValid_byteLength h.text_eq

namespace InText

theorem through (hs : s.InText text) (ht : t.InText text) (h : s.start ≤ t.stop) :
    (s.through t).InText text :=
  ⟨h, ht.stop_le, hs.start_isValid, ht.stop_isValid⟩

theorem point_stop (hs : s.InText text) : (point s.stop).InText text :=
  ⟨Nat.le_refl _, hs.stop_le, hs.stop_isValid, hs.stop_isValid⟩

theorem point_end (text : String) : (point text.utf8ByteSize).InText text := by
  have hvalid : String.Pos.Raw.IsValid text ⟨byteLength text.toList⟩ :=
    isValid_byteLength (List.append_nil _).symm
  rw [Mode.byteLength_toList] at hvalid
  exact ⟨Nat.le_refl _, Nat.le_refl _, hvalid, hvalid⟩

theorem point_zero (text : String) : (point 0).InText text :=
  have hvalid : String.Pos.Raw.IsValid text ⟨byteLength []⟩ := isValid_byteLength rfl
  ⟨Nat.le_refl _, Nat.zero_le _, hvalid, hvalid⟩

end InText

end Span

/-! ## Tokens and stretches of them -/

/-- The spans from the start of one of some tokens to the end of the same one or of a later one. -/
inductive Stretch (ls : List Lexeme) : Span → Prop
  | one {l : Lexeme} (h : l ∈ ls) : Stretch ls l.span
  | more {l l' : Lexeme} (h : [l, l'].Sublist ls) : Stretch ls (l.span.through l'.span)

namespace Stretch

variable {ls ls' : List Lexeme} {s : Span}

theorem mono (h : Stretch ls s) (hls : ls.Sublist ls') : Stretch ls' s := by
  cases h with
  | one h => exact .one (hls.subset h)
  | more h => exact .more (h.trans hls)

theorem firstToLast (l l' : Lexeme) (ls : List Lexeme) :
    Stretch (l :: (ls ++ [l'])) (l.span.through l'.span) :=
  .more (.cons_cons l (List.sublist_append_right ls [l']))

end Stretch

namespace Lexing

variable {text : String} {l : Lexeme}

theorem exists_tiles (text : String) :
    ∃ cs after, text.toList = cs ++ after ∧ Tiles after 0 cs (ofText text).lexemes := by
  have hcut := cut_ofText text
  rcases hx : ofText text with ⟨ls, error⟩
  rw [hx] at hcut
  cases hcut with
  | whole h => exact ⟨_, [], (List.append_nil _).symm, h⟩
  | upTo htext _ h => exact ⟨_, _, htext, h⟩

theorem exists_partition (text : String) :
    ∃ stop, Partition text.toList 0 stop (ofText text).lexemes := by
  obtain ⟨cs, after, htext, h⟩ := exists_tiles text
  exact ⟨_, h.partition [] htext rfl⟩

theorem inText_of_mem (hl : l ∈ (ofText text).lexemes) : l.span.InText text := by
  obtain ⟨stop, hpartition⟩ := exists_partition text
  obtain ⟨before, after, hselects⟩ := hpartition.token l hl
  exact hselects.inText

/-- The place of a lexing error is its opening quote. -/
theorem inText_of_error {e : LexError} (h : (ofText text).error = some e) : e.span.InText text := by
  have hcut := cut_ofText text
  rcases hx : ofText text with ⟨ls, error⟩
  rw [hx] at hcut h
  cases hcut with
  | whole => cases h
  | @upTo pre post _ htext hpost _ =>
    obtain rfl := Option.some.inj h
    have hselects : (LexError.unterminatedQuote (0 + byteLength pre)).span.Selects text.toList pre
        ['"'] post := ⟨by simp [htext], Nat.zero_add _, by simp [LexError.span]; rfl⟩
    exact hselects.inText

end Lexing

theorem Stretch.inText {text : String} {s : Span} (h : Stretch (Lexing.ofText text).lexemes s) :
    s.InText text := by
  cases h with
  | one hl => exact Lexing.inText_of_mem hl
  | @more l l' hls =>
    obtain ⟨stop, hpartition⟩ := Lexing.exists_partition text
    have hl := hls.subset List.mem_cons_self
    have hl' := hls.subset (List.mem_cons_of_mem _ List.mem_cons_self)
    have hordered : l.span.stop ≤ l'.span.start := by
      simpa using hpartition.ordered.sublist hls
    refine (Lexing.inText_of_mem hl).through (Lexing.inText_of_mem hl') ?_
    have hstart := (Lexing.inText_of_mem hl).start_le_stop
    have hstop := (Lexing.inText_of_mem hl').start_le_stop
    omega

end StoryWorld
