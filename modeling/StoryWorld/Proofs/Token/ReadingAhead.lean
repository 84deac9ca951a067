import StoryWorld.Proofs.Token.LineReading
import StoryWorld.Proofs.Token.Ranges

/-!
# How far a reader of lines has read

A reader takes up a line only when it has given all tokens of the lines before. So the line that it
has read last when it gives a token is the one in which the token ends (`LineReader.Through.next`),
and it has read the shortest whole lines that hold the token
(`LineReader.ofBytes_reads_no_further`).
-/

namespace StoryWorld

open Mode (byteLength byteLength_append)

/-! ## Whole lines of a text -/

namespace Text

/-- Whether `part` is whole lines that a text starts with. Only the last line of the text may lack
a newline. -/
def StartsWithLines (text part : String) : Prop :=
  ∃ rest, text = part ++ rest ∧ (part = "" ∨ part.toList.getLast? = some '\n' ∨ rest = "")

/-- Whether `part` is the shortest whole lines that a text starts with and that hold a byte. -/
structure LinesThrough (text : String) (byte : Nat) (part : String) : Prop where
  startsWith : StartsWithLines text part
  holds : byte < part.utf8ByteSize
  shortest : ∀ part', StartsWithLines text part' → byte < part'.utf8ByteSize →
    part.utf8ByteSize ≤ part'.utf8ByteSize

variable {text : String} {before line : List Char} {rest : List (List Char)} {byte : Nat}

theorem startsWithLines_of_isLines (htext : text.toList = before ++ line ++ rest.flatten)
    (hlines : IsLines '\n' (line :: rest)) :
    StartsWithLines text (String.ofList (before ++ line)) := by
  refine ⟨String.ofList rest.flatten, ?_, .inr ?_⟩
  · rw [← String.ofList_append, ← htext, String.ofList_toList]
  · cases hlines with
    | last => exact .inr rfl
    | cons => exact .inl (by simp)

/-- No whole lines end inside of a line. -/
theorem le_of_startsWithLines {part : String}
    (htext : text.toList = before ++ line ++ rest.flatten) (hlines : IsLines '\n' (line :: rest))
    (hpart : StartsWithLines text part) (hlt : byteLength before < byteLength part.toList) :
    byteLength (before ++ line) ≤ byteLength part.toList := by
  obtain ⟨more, rfl, hwhole⟩ := hpart
  rw [String.toList_append] at htext
  rcases List.append_eq_append_iff.1 htext with ⟨post, hpost, hmore⟩ | ⟨post, hpost, -⟩
  · rcases List.append_eq_append_iff.1 hpost with ⟨mid, hmid, rfl⟩ | ⟨mid, hmid, -⟩
    · by_cases hnil : post = []
      · simp [hmid, hnil]
      · have hne : mid ≠ [] := by
          rintro rfl
          simp [hmid] at hlt
        rcases hwhole with rfl | hlast | rfl
        · simp at hlt
        · rw [hmid, List.getLast?_append_of_ne_nil _ hne] at hlast
          exact absurd hlast (hlines.getLast?_ne_of_append hnil)
        · exact absurd (List.append_eq_nil_iff.1 hmore.symm).1 hnil
    · rw [hmid, byteLength_append] at hlt
      omega
  · rw [hpost, byteLength_append (before ++ line)]
    exact Nat.le_add_right _ _

/-- The lines up to one that holds a byte are the shortest that hold it. -/
theorem linesThrough_of_isLines (htext : text.toList = before ++ line ++ rest.flatten)
    (hlines : IsLines '\n' (line :: rest)) (hbefore : byteLength before ≤ byte)
    (hbyte : byte < byteLength (before ++ line)) :
    LinesThrough text byte (String.ofList (before ++ line)) := by
  refine ⟨startsWithLines_of_isLines htext hlines, ?_, fun part hpart hholds => ?_⟩
  · rwa [Mode.utf8ByteSize_ofList]
  · rw [← Mode.byteLength_toList] at hholds
    rw [Mode.utf8ByteSize_ofList, ← Mode.byteLength_toList]
    exact le_of_startsWithLines htext hlines hpart (Nat.lt_of_le_of_lt hbefore hholds)

end Text

/-! ## Where tokens end -/

namespace Mode

variable {m : Mode} {b o : Nat}

/-- Whether the token that is read next in a mode at byte `o` ends behind byte `b`. -/
def EndsBehind (b o : Nat) : Mode → Prop
  | between | comment | quoted .. => b ≤ o
  | word .. => b < o

/-- Whether the mode and the tokens that reading gives up to byte `o` end behind byte `b`. -/
structure GivesBehind (b o : Nat) (r : Mode × List Lexeme) : Prop where
  mode : r.1.EndsBehind b o
  behind : ∀ l ∈ r.2, b < l.span.stop
  upTo : ∀ l ∈ r.2, l.span.stop ≤ o

theorem givesBehind_enter (h : b ≤ o) (c : Char) :
    GivesBehind b (o + c.utf8Size) (enter o c) := by
  have hc := c.utf8Size_pos
  unfold enter
  split
  · exact ⟨Nat.le_add_right_of_le h, by simp, by simp⟩
  split
  · exact ⟨Nat.le_add_right_of_le h, by simp, by simp⟩
  split
  · exact ⟨Nat.le_add_right_of_le h, by simp, by simp⟩
  split
  · exact ⟨Nat.lt_of_le_of_lt h (Nat.lt_add_of_pos_right hc), by simp, by simp⟩
  · exact ⟨Nat.le_add_right_of_le h, by simp; omega, by simp⟩

theorem EndsBehind.step (h : m.EndsBehind b o) (c : Char) :
    GivesBehind b (o + c.utf8Size) (m.step o c) := by
  have hc := c.utf8Size_pos
  cases m with
  | between => exact givesBehind_enter h c
  | comment =>
    rw [Mode.step]
    split
    · exact ⟨Nat.le_add_right_of_le h, by simp, by simp⟩
    · exact ⟨Nat.le_add_right_of_le h, by simp, by simp⟩
  | word start text =>
    have hlt : b < o := h
    rw [Mode.step]
    split
    · exact ⟨Nat.lt_add_right _ hlt, by simp, by simp⟩
    · obtain ⟨hmode, hbehind, hby⟩ := givesBehind_enter (Nat.le_of_lt hlt) c
      refine ⟨hmode, List.forall_mem_cons.2 ⟨hlt, hbehind⟩, List.forall_mem_cons.2 ⟨?_, hby⟩⟩
      exact Nat.le_add_right _ _
  | quoted start text =>
    have hle : b ≤ o := h
    rw [Mode.step]
    split
    · exact ⟨Nat.le_add_right_of_le hle, by simp; omega, by simp; omega⟩
    · exact ⟨Nat.le_add_right_of_le hle, by simp, by simp⟩

theorem EndsBehind.scan (h : m.EndsBehind b o) (cs : List Char) :
    GivesBehind b (o + byteLength cs) (m.scan o cs) := by
  induction cs generalizing m o with
  | nil => exact ⟨h, by simp [Mode.scan], by simp [Mode.scan]⟩
  | cons c cs ih =>
    obtain ⟨hmode, hbehind, hby⟩ := h.step c
    obtain ⟨hmode', hbehind', hby'⟩ := ih hmode
    rw [Nat.add_assoc] at hmode' hby'
    refine ⟨hmode', List.forall_mem_append.2 ⟨hbehind, hbehind'⟩,
      List.forall_mem_append.2 ⟨fun l hl => ?_, hby'⟩⟩
    have hl := hby l hl
    rw [byteLength_cons]
    omega

theorem AtLineStart.endsBehind (h : m.AtLineStart) (o : Nat) : m.EndsBehind o o := by
  cases m with
  | between | comment | quoted => exact Nat.le_refl o
  | word => cases h o

/-- The tokens of a line end in it. -/
theorem AtLineStart.stop_scanLine (h : m.AtLineStart) (o : Nat) (line : String) :
    ∀ l ∈ (m.scanLine o line).2, o < l.span.stop ∧ l.span.stop ≤ o + line.utf8ByteSize := by
  obtain ⟨hmode, hbehind, hby⟩ := (h.endsBehind o).scan line.toList
  rw [byteLength_toList] at hmode hby
  refine List.forall_mem_append.2 ⟨fun l hl => ⟨hbehind l hl, hby l hl⟩, ?_⟩
  cases hm : (m.scan o line.toList).1 with
  | word start text =>
    have hlt : o < o + line.utf8ByteSize := by rwa [hm] at hmode
    simpa [endLine] using hlt
  | between | comment | quoted => simp

end Mode

/-! ## Readers in step with their tokens -/

namespace LineReader

/-- Whether a token ends in the last line of what was read of a text. -/
def EndsInLastLine (text read : String) (l : Lexeme) : Prop :=
  ∃ last, l.span.stop = last + 1 ∧ Text.LinesThrough text last read

/-- A reader on its way through a text: the tokens at hand end in the line that was read last, and
an error is at hand only once all is read. -/
structure Through (text : String) (r : LineReader) : Prop where
  queue : ∀ l ∈ r.queue, EndsInLastLine text r.text l
  error : r.error ≠ none → r.text = text
  mode : r.mode.AtLineStart
  unread : r.ended = false → ∃ lines : List (List Char), r.unread = lines.map encodeChars ∧
    IsLines '\n' lines ∧ text.toList = r.text.toList ++ lines.flatten

/-- What a call gives, and the reader after it. -/
structure GivesInStep (text : String) (x : Option (Except LexError Lexeme) × LineReader) :
    Prop where
  token : ∀ l, x.1 = some (.ok l) → EndsInLastLine text x.2.text l
  error : ∀ e, x.1 = some (.error e) → x.2.text = text
  reader : x.2.Through text

variable {text : String} {r : LineReader}

theorem Through.take (h : r.Through text) : GivesInStep text r.take := by
  unfold LineReader.take
  split
  · next l ls _ hq =>
    have hqueue := h.queue
    rw [hq, List.forall_mem_cons] at hqueue
    refine ⟨?_, nofun, hqueue.2, h.error, h.mode, h.unread⟩
    rintro _ ⟨⟩
    exact hqueue.1
  · next hq he =>
    have htext : r.text = text := h.error (by simp [he])
    exact ⟨nofun, fun _ _ => htext, h.queue, fun hne => absurd rfl hne, h.mode, h.unread⟩
  · exact ⟨nofun, nofun, h⟩

/-- Lines are read up to one that has a token. -/
theorem through_fill {read : String} {m : Mode} {lines : List (List Char)} (hm : m.AtLineStart)
    (hlines : IsLines '\n' lines) (htext : text.toList = read.toList ++ lines.flatten) :
    (fill read m (lines.map encodeChars)).Through text := by
  induction lines generalizing read m with
  | nil =>
    have hread : read = text := String.toList_inj.1 (by simpa using htext.symm)
    exact ⟨nofun, fun _ => hread, Mode.atLineStart_between, nofun⟩
  | cons line rest ih =>
    have hm' := m.atLineStart_scanLine read.utf8ByteSize (String.ofList line)
    have hends := hm.stop_scanLine read.utf8ByteSize (String.ofList line)
    have hrest : text.toList = (read ++ String.ofList line).toList ++ rest.flatten := by
      simpa using htext
    rw [List.map_cons, fill, decodeText?_encodeChars]
    rcases hscan : m.scanLine read.utf8ByteSize (String.ofList line) with ⟨m', _ | ⟨l, ls⟩⟩
    · rw [hscan] at hm'
      simp only [hscan]
      exact ih hm' hlines.tail hrest
    · rw [hscan] at hm' hends
      simp only [hscan]
      refine ⟨fun l hl => ?_, fun hne => absurd rfl hne, hm', fun _ =>
        ⟨rest, rfl, hlines.tail, hrest⟩⟩
      obtain ⟨hbehind, hby⟩ := hends l hl
      obtain ⟨last, hlast⟩ : ∃ last, l.span.stop = last + 1 :=
        Nat.exists_eq_add_one_of_ne_zero (by omega)
      rw [← Mode.byteLength_toList] at hbehind hby
      rw [Mode.utf8ByteSize_ofList] at hby
      have hsplit : text.toList = read.toList ++ line ++ rest.flatten := by simpa using htext
      have hread : String.ofList (read.toList ++ line) = read ++ String.ofList line := by simp
      refine ⟨last, hlast, hread ▸ Text.linesThrough_of_isLines hsplit hlines (by omega) ?_⟩
      rw [byteLength_append]
      omega

theorem Through.next (h : r.Through text) : GivesInStep text r.next := by
  unfold LineReader.next
  split
  · next item r' htake => exact htake ▸ h.take
  · split
    · exact ⟨nofun, nofun, h⟩
    · next hended =>
      obtain ⟨lines, hunread, hlines, htext⟩ := h.unread (by simpa using hended)
      rw [hunread]
      exact (through_fill h.mode hlines htext).take

theorem through_ofBytes (text : String) : (ofBytes text.toUTF8.toList).Through text := by
  refine ⟨nofun, fun hne => absurd rfl hne, Mode.atLineStart_between, fun _ =>
    ⟨cutAfter '\n' text.toList, ?_, isLines_cutAfter .., ?_⟩⟩
  · rw [← cutAfter_encodeChars, ← toList_toUTF8]
    rfl
  · rw [flatten_cutAfter]
    rfl

theorem Through.after (h : r.Through text) (n : Nat) : (r.after n).Through text := by
  induction n generalizing r with
  | zero => exact h
  | succ n ih => exact ih h.next.reader

/-- When a reader gives a token, it has read the shortest whole lines that hold the last byte of the
token. When it gives an error, which is an open quote, it has read all. -/
theorem ofBytes_reads_no_further (text : String) (n : Nat) :
    let r := ofBytes text.toUTF8.toList
    (∀ l, r.given? n = some (.ok l) → ∃ last, l.span.start ≤ last ∧ l.span.stop = last + 1 ∧
      Text.LinesThrough text last (r.after (n + 1)).text) ∧
    ∀ e, r.given? n = some (.error e) →
      (∃ start, e = .unterminatedQuote start) ∧ (r.after (n + 1)).text = text := by
  intro r
  have hnext : GivesInStep text (r.after n).next := ((through_ofBytes text).after n).next
  have hitems : r.given? n = (Lexing.ofText text).items[n]? := by rw [given?_eq, items_ofBytes]
  rw [after_succ]
  refine ⟨fun l hl => ?_, fun e he => ?_⟩
  · obtain ⟨last, hlast, hlines⟩ := hnext.token l hl
    -- a token takes up at least one byte
    have hmem : l ∈ (Lexing.ofText text).lexemes := by
      rw [← Lexing.filterMap_items, List.mem_filterMap]
      exact ⟨_, List.mem_of_getElem? (hitems.symm.trans hl), rfl⟩
    obtain ⟨stop, hpartition⟩ := Lexing.exists_partition text
    have hnonempty := hpartition.nonempty l hmem
    exact ⟨last, by omega, hlast, hlines⟩
  · obtain ⟨-, herror⟩ := Lexing.eq_of_items_error (hitems.symm.trans he)
    exact ⟨Lexing.error_ofText herror, hnext.error e he⟩

/-- A text in quotes makes the reader take up the line in which it closes, and nothing further. -/
theorem linesThrough_of_quoted :
    let text := "a \"b\nc\" d\ne"
    let r := ofBytes text.toUTF8.toList
    r.given? 1 = some (.ok ⟨.quoted "b\nc", ⟨2, 7⟩⟩) ∧
      Text.LinesThrough text 6 (r.after 2).text := by
  intro text r
  have hlexing : Lexing.ofText text = ⟨[⟨.word "a", ⟨0, 1⟩⟩, ⟨.quoted "b\nc", ⟨2, 7⟩⟩,
      ⟨.word "d", ⟨8, 9⟩⟩, ⟨.word "e", ⟨10, 11⟩⟩], none⟩ := by decide
  have hgiven : r.given? 1 = some (.ok ⟨.quoted "b\nc", ⟨2, 7⟩⟩) := by
    rw [given?_eq, items_ofBytes, hlexing]
    rfl
  obtain ⟨htokens, -⟩ := ofBytes_reads_no_further text 1
  obtain ⟨last, -, hlast, hlines⟩ := htokens _ hgiven
  obtain rfl : 6 = last := Nat.succ.inj hlast
  exact ⟨hgiven, hlines⟩

end LineReader

end StoryWorld
