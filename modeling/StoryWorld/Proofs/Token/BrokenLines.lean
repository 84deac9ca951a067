import StoryWorld.Proofs.Token.LineReading

/-!
# Bytes that are no text

A reader of bytes that are not UTF-8 throughout stops at the first line that is not. Up to there it
gives what it gives of a text (`LineReader.itemsOfLines_of_readableUpTo`), and then the error, which
takes the place of an open quote (`LineReader.ofBytes_of_not_text`).
-/

namespace StoryWorld

/-- Whether `text` is what lines say before the first of them that is no text. -/
inductive ReadableUpTo : List (List UInt8) → String → Prop
  | broken {bytes : List UInt8} {rest : List (List UInt8)} (hbytes : decodeText? bytes = none) :
    ReadableUpTo (bytes :: rest) ""
  | line {bytes : List UInt8} {rest : List (List UInt8)} {line text : String}
    (hbytes : decodeText? bytes = some line) (hrest : ReadableUpTo rest text) :
    ReadableUpTo (bytes :: rest) (line ++ text)

/-- Whether `text` is what bytes say in all lines before the first that is no text. -/
def TextBeforeBrokenLine (bytes : List UInt8) (text : String) : Prop :=
  ∃ lines, IsLines 0x0A lines ∧ lines.flatten = bytes ∧ ReadableUpTo lines text

/-! ## Where bytes stop being a text -/

theorem decodeText?_append {bytes bytes' : List UInt8} {text text' : String}
    (h : decodeText? bytes = some text) (h' : decodeText? bytes' = some text') :
    decodeText? (bytes ++ bytes') = some (text ++ text') := by
  have hboth : bytes ++ bytes' = encodeChars (text ++ text').toList := by
    rw [eq_encodeChars_of_decodeText? h, eq_encodeChars_of_decodeText? h', String.toList_append,
      encodeChars_append]
  rw [hboth, decodeText?_encodeChars, String.ofList_toList]

/-- Lines that are all texts make up a text. -/
theorem readableUpTo_or_decodeText? (lines : List (List UInt8)) :
    (∃ text, ReadableUpTo lines text) ∨ ∃ text, decodeText? lines.flatten = some text := by
  induction lines with
  | nil => exact .inr ⟨_, decodeText?_encodeChars []⟩
  | cons bytes rest ih =>
    rcases hbytes : decodeText? bytes with _ | line
    · exact .inl ⟨"", .broken hbytes⟩
    · rcases ih with ⟨text, hrest⟩ | ⟨text, hrest⟩
      · exact .inl ⟨line ++ text, .line hbytes hrest⟩
      · exact .inr ⟨line ++ text, decodeText?_append hbytes hrest⟩

theorem exists_textBeforeBrokenLine {bytes : List UInt8} (h : decodeText? bytes = none) :
    ∃ text, TextBeforeBrokenLine bytes text := by
  rcases readableUpTo_or_decodeText? (cutAfter 0x0A bytes) with ⟨text, htext⟩ | ⟨text, htext⟩
  · exact ⟨text, cutAfter 0x0A bytes, isLines_cutAfter _ bytes, flatten_cutAfter _ bytes, htext⟩
  · rw [flatten_cutAfter, h] at htext
    cases htext

theorem TextBeforeBrokenLine.readableUpTo {bytes : List UInt8} {text : String}
    (h : TextBeforeBrokenLine bytes text) : ReadableUpTo (cutAfter 0x0A bytes) text := by
  obtain ⟨lines, hlines, rfl, htext⟩ := h
  rwa [cutAfter_flatten hlines]

namespace ReadableUpTo

variable {bytes : List UInt8} {rest : List (List UInt8)} {line text : String}

theorem ne_nil {lines : List (List UInt8)} (h : ReadableUpTo lines text) : lines ≠ [] := by
  cases h <;> exact List.cons_ne_nil _ _

/-- A line before the broken one ends in a newline. -/
theorem getLast?_line (hlines : IsLines 0x0A (bytes :: rest)) (hrest : ReadableUpTo rest text)
    (hbytes : decodeText? bytes = some line) : line.toList.getLast? = some '\n' := by
  obtain ⟨bytes', rest, rfl⟩ := List.exists_cons_of_ne_nil hrest.ne_nil
  have hsplit : IsLines 0x0A ([bytes] ++ bytes' :: rest) := hlines
  have hlast : bytes.getLast? = some 0x0A := hsplit.getLast?_of_append bytes List.mem_cons_self
  rw [eq_encodeChars_of_decodeText? hbytes] at hlast
  exact getLast?_of_encodeChars hlast

end ReadableUpTo

/-! ## What a reader gives -/

namespace LineReader

/-- Up to the broken line, lines give what their text gives. -/
theorem itemsOfLines_of_readableUpTo {lines : List (List UInt8)} {p : String}
    (h : ReadableUpTo lines p) (hlines : IsLines 0x0A lines) {m : Mode} (hm : m.AtLineStart)
    (text : String) :
    itemsOfLines text m lines = (m.scanLine text.utf8ByteSize p).2.map .ok ++
      [.error (.read (text ++ p).utf8ByteSize .notText)] := by
  induction h generalizing m text with
  | broken hbytes => simp [itemsOfLines, hbytes, hm.scanLine_empty]
  | line hbytes hrest ih =>
    have hline := hrest.getLast?_line hlines hbytes
    rw [itemsOfLines, hbytes, Mode.scanLine_append hline, ← String.append_assoc]
    simp only [ih hlines.tail (Mode.atLineStart_scanLine _ _ _), String.utf8ByteSize_append,
      List.map_append, List.append_assoc]

theorem textOfLines_of_readableUpTo {lines : List (List UInt8)} {p : String}
    (h : ReadableUpTo lines p) (text : String) : textOfLines text lines = text ++ p := by
  induction h generalizing text with
  | broken hbytes => simp [textOfLines, hbytes]
  | line hbytes _ ih => simp [textOfLines, hbytes, ih, String.append_assoc]

/-- Bytes that are no text have a first line that is none. A reader gives the tokens of the text
before that line and one error, which stands at the end of that text whether or not a quote is open
there; then nothing more, and only that text is read. -/
theorem ofBytes_of_not_text {bytes : List UInt8} (h : decodeText? bytes = none) :
    (∃ p, TextBeforeBrokenLine bytes p) ∧
      ∀ p, TextBeforeBrokenLine bytes p →
        let r := ofBytes bytes
        let e := LexError.read p.utf8ByteSize .notText
        (∀ n, r.given? n = ((Lexing.ofText p).lexemes.map .ok ++ [.error e])[n]?) ∧
          e.span = ⟨p.utf8ByteSize, p.utf8ByteSize⟩ ∧
          ∀ n, r.given? n = none → (r.after (n + 1)).text = p := by
  refine ⟨exists_textBeforeBrokenLine h, fun p hp => ?_⟩
  intro r e
  have hread : ReadableUpTo (cutAfter 0x0A bytes) p := hp.readableUpTo
  have hitems : r.items = (Lexing.ofText p).lexemes.map .ok ++ [.error e] := by
    rw [items_ofBytes_eq, itemsOfLines_of_readableUpTo hread (isLines_cutAfter _ bytes)
      Mode.atLineStart_between, String.empty_append]
    rfl
  refine ⟨fun n => ?_, rfl, fun n hn => ?_⟩
  · rw [given?_eq, hitems]
  · rw [text_after_of_none hn, lastText_ofBytes_eq, textOfLines_of_readableUpTo hread,
      String.empty_append]

/-- A quote that is open where the text breaks off is not what is reported. -/
theorem given?_of_broken_line :
    let r := ofBytes [0x61, 0x20, 0x22, 0x62, 0x0A, 0xFF, 0x0A, 0x22]
    r.given? 0 = some (.ok ⟨.word "a", ⟨0, 1⟩⟩) ∧ r.given? 1 = some (.error (.read 5 .notText)) ∧
      r.given? 2 = none ∧ (r.after 3).text = "a \"b\n" := by
  intro r
  have hbytes : decodeText? [0x61, 0x20, 0x22, 0x62, 0x0A, 0xFF, 0x0A, 0x22] = none := by decide
  have hlines : IsLines (0x0A : UInt8)
      [[0x61, 0x20, 0x22, 0x62] ++ [0x0A], [0xFF] ++ [0x0A], [0x22]] :=
    .cons (by decide) (.cons (by decide) (.last (by decide) (by decide)))
  have hread : ReadableUpTo [[0x61, 0x20, 0x22, 0x62, 0x0A], [0xFF, 0x0A], [0x22]]
      ("a \"b\n" ++ "") := .line (by decide) (.broken (by decide))
  rw [String.append_empty] at hread
  obtain ⟨-, hgives⟩ := ofBytes_of_not_text hbytes
  obtain ⟨hgiven, -, htext⟩ := hgives _ ⟨_, hlines, rfl, hread⟩
  exact ⟨hgiven 0, hgiven 1, hgiven 2, htext 2 (hgiven 2)⟩

end LineReader

end StoryWorld
