import StoryWorld.Token.Scanner

/-! Reading tokens from bytes, a line at a time: no line is read before the tokens of the lines
before it are used up. -/

namespace StoryWorld

/-- A list cut after each `newline`. -/
def cutAfter {α : Type} [DecidableEq α] (newline : α) : List α → List (List α)
  | [] => []
  | a :: as =>
    if a = newline then
      [a] :: cutAfter newline as
    else
      match cutAfter newline as with
      | [] => [[a]]
      | line :: rest => (a :: line) :: rest

/-- The text that bytes encode in UTF-8, if they do. -/
def decodeText? (bytes : List UInt8) : Option String :=
  String.fromUTF8? ⟨bytes.toArray⟩

/-- A reader: the lines still to be read, the text read so far, the tokens of it that were not given
out yet, and the error to give out after them. -/
structure LineReader where
  unread : List (List UInt8)
  text : String := ""
  queue : List Lexeme := []
  mode : Mode := .between
  error : Option LexError := none
  ended : Bool := false

namespace LineReader

/-- A reader at the start of some bytes. Lines end after each newline byte. -/
def ofBytes (bytes : List UInt8) : LineReader where
  unread := cutAfter 0x0A bytes

/-- A reader of what opens like a file and cannot be read. -/
def refusing (e : SystemError) : LineReader where
  unread := []
  error := some (.read 0 (.system e))
  ended := true

/-- Reads lines until there is a token or an error to give out, or nothing left. -/
def fill (text : String) (m : Mode) : List (List UInt8) → LineReader
  | [] => { unread := [], text := text, error := m.failure?, ended := true }
  | bytes :: rest =>
    match decodeText? bytes with
    | none =>
      { unread := rest, text := text, error := some (.read text.utf8ByteSize .notText),
        ended := true }
    | some line =>
      match m.scanLine text.utf8ByteSize line with
      | (m', []) => fill (text ++ line) m' rest
      | (m', l :: ls) =>
        { unread := rest, text := text ++ line, queue := l :: ls, mode := m' }

/-- Gives out what is ready: a token, and else the error. -/
def take (r : LineReader) : Option (Except LexError Lexeme) × LineReader :=
  match r.queue, r.error with
  | l :: ls, _ => (some (.ok l), { r with queue := ls })
  | [], some e => (some (.error e), { r with error := none })
  | [], none => (none, r)

/-- The next token or the error, if anything is left. -/
def next (r : LineReader) : Option (Except LexError Lexeme) × LineReader :=
  match r.take with
  | (some item, r') => (some item, r')
  | (none, _) => if r.ended then (none, r) else (fill r.text r.mode r.unread).take

/-- How much a reader can still do: lines to read, then things to give out. -/
def measure (r : LineReader) : Nat × Nat :=
  (r.unread.length + if r.ended then 0 else 1, r.queue.length + if r.error.isSome then 1 else 0)

theorem measure_fill (text : String) (m : Mode) (lines : List (List UInt8)) :
    (fill text m lines).measure.1 < lines.length + 1 := by
  induction lines generalizing text m with
  | nil => simp [fill, measure]
  | cons bytes rest ih =>
    unfold fill
    split
    · simp only [measure, List.length_cons, if_true]; omega
    · split
      · exact Nat.lt_succ_of_lt (ih _ _)
      · simp [measure]

theorem measure_take_fst (r : LineReader) : r.take.2.measure.1 = r.measure.1 := by
  unfold take
  split <;> rfl

theorem measure_take_snd {r r' : LineReader} {item : Except LexError Lexeme}
    (h : r.take = (some item, r')) : r'.measure.2 < r.measure.2 := by
  unfold take at h
  split at h
  · next hq => cases h; simp [measure, hq]
  · next hq he => cases h; simp [measure, hq, he]
  · cases h

/-- A reader that gave something out can do less than before. -/
theorem measure_next {r r' : LineReader} {item : Except LexError Lexeme}
    (h : r.next = (some item, r')) : Prod.Lex (· < ·) (· < ·) r'.measure r.measure := by
  rw [Prod.lex_def]
  unfold next at h
  split at h
  · next ht =>
    cases h
    refine .inr ⟨?_, measure_take_snd ht⟩
    rw [← measure_take_fst r, ht]
  · split at h
    · cases h
    · next hended =>
      refine .inl ?_
      have hr : r' = (fill r.text r.mode r.unread).take.2 := by rw [h]
      rw [hr, measure_take_fst]
      simpa [measure, hended] using measure_fill r.text r.mode r.unread

/-- Everything that a reader gives out, each with the number of bytes read by then, after what was
given out before, the latest first; and the reader at the end. -/
def drainAfter (given : List (Except LexError Lexeme × Nat)) (r : LineReader) :
    List (Except LexError Lexeme × Nat) × LineReader :=
  match _h : r.next with
  | (none, last) => (given.reverse, last)
  | (some item, r') => r'.drainAfter ((item, r'.text.utf8ByteSize) :: given)
termination_by r.measure
decreasing_by exact measure_next (by assumption)

/-- Everything that a reader gives out, each with the number of bytes read by then, and the reader
at the end. -/
def drain (r : LineReader) : List (Except LexError Lexeme × Nat) × LineReader := r.drainAfter []

/-- The text and the tokens that a reader gives, up to its end or its error. -/
def contents (r : LineReader) : String × Lexing :=
  let (items, last) := r.drain
  (last.text,
    ⟨items.filterMap fun (item, _) => item.toOption,
      items.findSome? fun | (.error e, _) => some e | (.ok _, _) => none⟩)

end LineReader

end StoryWorld
