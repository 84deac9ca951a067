import StoryWorld.Loader
import StoryWorld.Proofs.Token.Scanning
import StoryWorld.Proofs.Token.Utf8Lines

/-! A reader of lines gives what scanning the whole text gives.

`LineReader.items` says what a reader still has to give, as one list; each call of `next` takes the
first item off it and keeps the text that will have been read at the end (`next_spec`). The main
statement compares the items of a reader at the start of an encoded text with `Lexing.items` of the
text. -/

namespace StoryWorld

/-! ## What a text gives -/

namespace Lexing

/-- What a text gives in order: its tokens, then its error if it has one. -/
def items (l : Lexing) : List (Except LexError Lexeme) :=
  l.lexemes.map .ok ++ l.error.toList.map .error

/-- The error that an item is. -/
def failure? : Except LexError Lexeme → Option LexError
  | .ok _ => none
  | .error e => some e

theorem filterMap_items (l : Lexing) : l.items.filterMap (·.toOption) = l.lexemes := by
  obtain ⟨lexemes, error⟩ := l
  rw [items, List.filterMap_append, List.filterMap_map, List.filterMap_map]
  cases error <;> simp [Function.comp_def, Except.toOption]

theorem findSome?_items (l : Lexing) : l.items.findSome? failure? = l.error := by
  have hok : (l.lexemes.map Except.ok).findSome? failure? = none := by
    rw [List.findSome?_map, List.findSome?_eq_none_iff]
    exact fun _ _ => rfl
  rw [items, List.findSome?_append, hok]
  cases l.error <;> rfl

theorem error_ofText {text : String} {e : LexError} (h : (ofText text).error = some e) :
    ∃ start, e = .unterminatedQuote start := by
  have hf : (Mode.between.scanLine 0 text).1.failure? = some e := h
  cases hm : (Mode.between.scanLine 0 text).1 with
  | quoted start held => rw [hm] at hf; exact ⟨start, (Option.some.inj hf).symm⟩
  | between | comment | word => rw [hm] at hf; cases hf

theorem eq_of_items_error {l : Lexing} {n : Nat} {e : LexError}
    (h : l.items[n]? = some (.error e)) : n + 1 = l.items.length ∧ l.error = some e := by
  obtain ⟨lexemes, error⟩ := l
  rw [items, List.getElem?_append] at h
  split at h
  · simp at h
  · next hn =>
    cases error with
    | none => simp at h
    | some e' =>
      obtain ⟨hlt, heq⟩ := List.getElem?_eq_some_iff.1 h
      simp only [List.length_map, Option.toList_some, List.map_cons, List.map_nil,
        List.length_singleton] at hn hlt heq
      have hn' : n = lexemes.length := by omega
      subst hn'
      simp at heq
      simp [items, heq]

end Lexing

namespace LineReader

/-! ## What is still to come -/

/-- What unread lines give, after the text read so far left mode `m`. -/
def itemsOfLines (text : String) (m : Mode) : List (List UInt8) → List (Except LexError Lexeme)
  | [] => m.failure?.toList.map .error
  | bytes :: rest =>
    match decodeText? bytes with
    | none => [.error (.read text.utf8ByteSize .notText)]
    | some line =>
      let (m', ls) := m.scanLine text.utf8ByteSize line
      ls.map .ok ++ itemsOfLines (text ++ line) m' rest

/-- The text read once unread lines are used up. -/
def textOfLines (text : String) : List (List UInt8) → String
  | [] => text
  | bytes :: rest =>
    match decodeText? bytes with
    | none => text
    | some line => textOfLines (text ++ line) rest

/-- What can be given out without reading on. -/
def ready (r : LineReader) : List (Except LexError Lexeme) :=
  r.queue.map .ok ++ r.error.toList.map .error

/-- Everything that a reader still gives. -/
def items (r : LineReader) : List (Except LexError Lexeme) :=
  r.ready ++ if r.ended then [] else itemsOfLines r.text r.mode r.unread

/-- The text read once the reader gives nothing more. -/
def lastText (r : LineReader) : String :=
  if r.ended then r.text else textOfLines r.text r.unread

/-- The reader after `n` calls of `next`. -/
def after (r : LineReader) : Nat → LineReader
  | 0 => r
  | n + 1 => r.next.2.after n

/-- What the call of `next` after `n` others gives. -/
def given? (r : LineReader) (n : Nat) : Option (Except LexError Lexeme) := (r.after n).next.1

/-! ## One call -/

theorem take_fst (r : LineReader) : r.take.1 = r.ready.head? := by
  unfold take ready
  split <;> simp_all

theorem take_snd (r : LineReader) :
    r.take.2.ready = r.ready.tail ∧ r.take.2.text = r.text ∧ r.take.2.ended = r.ended ∧
      r.take.2.mode = r.mode ∧ r.take.2.unread = r.unread := by
  unfold take ready
  split <;> simp_all

theorem items_take {r : LineReader} (h : r.ready ≠ [] ∨ r.ended = true) :
    r.take.1 = r.items.head? ∧ r.take.2.items = r.items.tail := by
  obtain ⟨hready, htext, hended, hmode, hunread⟩ := take_snd r
  rw [take_fst]
  simp only [items, hready, htext, hended, hmode, hunread]
  rcases h with h | h
  · cases hr : r.ready with
    | nil => exact absurd hr h
    | cons => simp
  · simp [h]

theorem lastText_take (r : LineReader) : r.take.2.lastText = r.lastText := by
  obtain ⟨-, htext, hended, -, hunread⟩ := take_snd r
  simp only [lastText, htext, hended, hunread]

/-- Reading lines changes nothing about what is to come, and makes something ready if there is
anything. -/
theorem fill_spec (text : String) (m : Mode) (lines : List (List UInt8)) :
    (fill text m lines).items = itemsOfLines text m lines ∧
      (fill text m lines).lastText = textOfLines text lines ∧
      ((fill text m lines).ready ≠ [] ∨ (fill text m lines).ended = true) := by
  induction lines generalizing text m with
  | nil => simp [fill, items, ready, itemsOfLines, lastText, textOfLines]
  | cons bytes rest ih =>
    rw [fill, itemsOfLines, textOfLines]
    rcases hdecoded : decodeText? bytes with _ | line
    · simp [items, ready, lastText]
    · rcases hscan : m.scanLine text.utf8ByteSize line with ⟨m', _ | ⟨l, ls⟩⟩
      · simpa [hscan] using ih (text ++ line) m'
      · simp [hscan, items, ready, lastText]

theorem next_spec (r : LineReader) :
    r.next.1 = r.items.head? ∧ r.next.2.items = r.items.tail ∧ r.next.2.lastText = r.lastText := by
  obtain ⟨hitems, htext, hready⟩ := fill_spec r.text r.mode r.unread
  -- something is ready, or lines are read until something is
  unfold next
  split
  · next item r' h =>
    have hne : r.ready ≠ [] := fun hnil => by
      have := take_fst r
      simp [h, hnil] at this
    obtain ⟨hfst, hsnd⟩ := items_take (.inl hne)
    have hlast := lastText_take r
    rw [h] at hfst hsnd hlast
    exact ⟨hfst, hsnd, hlast⟩
  · next r' h =>
    have hnil : r.ready = [] := by
      have := take_fst r
      rw [h] at this
      exact List.head?_eq_none_iff.1 this.symm
    split
    · next hended => simp [items, hnil, hended]
    · next hended =>
      have hr : r.items = (fill r.text r.mode r.unread).items := by
        rw [hitems]; simp [items, hnil, hended]
      have hl : r.lastText = (fill r.text r.mode r.unread).lastText := by
        rw [htext]; simp [lastText, hended]
      obtain ⟨hfst, hsnd⟩ := items_take hready
      exact ⟨hr ▸ hfst, hr ▸ hsnd, hl ▸ lastText_take _⟩

theorem text_next_of_none {r : LineReader} (h : r.next.1 = none) : r.next.2.text = r.lastText := by
  have hended : r.next.2.ended = true := by
    unfold next at h ⊢
    split
    · next ht => simp [ht] at h
    · split
      · assumption
      · next ht hended =>
        rw [ht] at h
        simp only [hended, Bool.false_eq_true, if_false, take_fst, List.head?_eq_none_iff] at h
        rw [(take_snd _).2.2.1]
        exact (fill_spec _ _ _).2.2.resolve_left (fun hne => hne h)
  rw [← (next_spec r).2.2, lastText, if_pos hended]

/-! ## Repeated calls -/

/-- The calls of `next` give the items in order, and nothing after them. -/
theorem given?_eq (r : LineReader) (n : Nat) : r.given? n = r.items[n]? := by
  induction n generalizing r with
  | zero => rw [← List.head?_eq_getElem?]; exact (next_spec r).1
  | succ n ih =>
    have hstep : r.given? (n + 1) = r.next.2.given? n := rfl
    rw [hstep, ih, (next_spec r).2.1, List.getElem?_tail]

theorem lastText_after (r : LineReader) (n : Nat) : (r.after n).lastText = r.lastText := by
  induction n generalizing r with
  | zero => rfl
  | succ n ih => exact (ih _).trans (next_spec r).2.2

theorem after_succ (r : LineReader) (n : Nat) : r.after (n + 1) = (r.after n).next.2 := by
  induction n generalizing r with
  | zero => rfl
  | succ n ih => exact ih r.next.2

theorem text_after_of_none {r : LineReader} {n : Nat} (h : r.given? n = none) :
    (r.after (n + 1)).text = r.lastText := by
  rw [after_succ, text_next_of_none h, lastText_after]

/-- Draining a reader gives its items, and leaves it with the whole source read. -/
theorem drainAfter_spec (given : List (Except LexError Lexeme × Nat)) (r : LineReader) :
    (r.drainAfter given).1.map Prod.fst = given.reverse.map Prod.fst ++ r.items ∧
      (r.drainAfter given).2.text = r.lastText := by
  obtain ⟨hfst, hitems, hlast⟩ := next_spec r
  fun_induction drainAfter given r with
  | case1 given r last h =>
    have hnone : r.next.1 = none := by rw [h]
    have hnil : r.items = [] := by rw [hnone] at hfst; exact List.head?_eq_none_iff.1 hfst.symm
    have htext := text_next_of_none hnone
    rw [h] at htext
    exact ⟨by simp [hnil], htext⟩
  | case2 given r item r' h ih =>
    rw [h] at hfst hitems hlast
    obtain ⟨hf, hi, hl⟩ := next_spec r'
    obtain ⟨hmap, htext⟩ := ih hf hi hl
    have hcons : r.items = item :: r'.items := by
      obtain ⟨rest, hrest⟩ := List.head?_eq_some_iff.1 hfst.symm
      rw [hitems, hrest, List.tail_cons]
    refine ⟨?_, htext.trans hlast⟩
    rw [hmap, hcons]
    simp

theorem drain_spec (r : LineReader) :
    r.drain.1.map Prod.fst = r.items ∧ r.drain.2.text = r.lastText := by
  simpa only [drain, List.reverse_nil, List.map_nil, List.nil_append] using drainAfter_spec [] r

/-! ## Readers of encoded text -/

theorem itemsOfLines_cons_encodeChars (text : String) (m : Mode) (line : List Char)
    (rest : List (List UInt8)) : itemsOfLines text m (encodeChars line :: rest) =
      (m.scanLine text.utf8ByteSize (String.ofList line)).2.map .ok ++
        itemsOfLines (text ++ String.ofList line)
          (m.scanLine text.utf8ByteSize (String.ofList line)).1 rest := by
  rw [itemsOfLines, decodeText?_encodeChars]

/-- Encoded lines give what their text gives when it is scanned as a whole. -/
theorem itemsOfLines_encodeChars {lines : List (List Char)} (hlines : IsLines '\n' lines) {m : Mode}
    (hm : m.AtLineStart) (text : String) :
    itemsOfLines text m (lines.map encodeChars) =
      let (m', ls) := m.scanLine text.utf8ByteSize (String.ofList lines.flatten)
      ls.map .ok ++ m'.failure?.toList.map .error := by
  induction hlines generalizing text m with
  | nil => simp [itemsOfLines, hm.scanLine_empty]
  | @last line _ _ =>
    rw [List.map_singleton, itemsOfLines_cons_encodeChars]
    simp [itemsOfLines]
  | @cons line rest _ _ ih =>
    have hline : (String.ofList (line ++ ['\n'])).toList.getLast? = some '\n' := by simp
    have hjoined : String.ofList ((line ++ ['\n']) :: rest).flatten =
        String.ofList (line ++ ['\n']) ++ String.ofList rest.flatten := String.ofList_append
    rw [List.map_cons, itemsOfLines_cons_encodeChars, ih (Mode.atLineStart_scanLine _ _ _),
      hjoined, Mode.scanLine_append hline, String.utf8ByteSize_append]
    simp

theorem textOfLines_encodeChars (lines : List (List Char)) (text : String) :
    textOfLines text (lines.map encodeChars) = text ++ String.ofList lines.flatten := by
  induction lines generalizing text with
  | nil => simp [textOfLines]
  | cons line rest ih =>
    simp [textOfLines, decodeText?_encodeChars, ih, String.append_assoc]

theorem items_ofBytes_eq (bytes : List UInt8) :
    (ofBytes bytes).items = itemsOfLines "" .between (cutAfter 0x0A bytes) := rfl

theorem lastText_ofBytes_eq (bytes : List UInt8) :
    (ofBytes bytes).lastText = textOfLines "" (cutAfter 0x0A bytes) := rfl

theorem items_ofBytes (text : String) :
    (ofBytes text.toUTF8.toList).items = (Lexing.ofText text).items := by
  have h := itemsOfLines_encodeChars (isLines_cutAfter '\n' text.toList) Mode.atLineStart_between ""
  rw [flatten_cutAfter, String.ofList_toList, String.utf8ByteSize_empty] at h
  rw [items_ofBytes_eq, toList_toUTF8, cutAfter_encodeChars, h]
  rfl

theorem lastText_ofBytes (text : String) : (ofBytes text.toUTF8.toList).lastText = text := by
  rw [lastText_ofBytes_eq, toList_toUTF8, cutAfter_encodeChars, textOfLines_encodeChars,
    flatten_cutAfter, String.ofList_toList, String.empty_append]

theorem contents_of_items {r : LineReader} {l : Lexing} (h : r.items = l.items) :
    r.contents = (r.lastText, l) := by
  obtain ⟨hitems, htext⟩ := drain_spec r
  rw [h] at hitems
  have hlexemes : (r.drain.1.filterMap fun x => x.1.toOption) = l.lexemes := by
    rw [← l.filterMap_items, ← hitems, List.filterMap_map]
    rfl
  have herror : (r.drain.1.findSome? fun x => Lexing.failure? x.1) = l.error := by
    rw [← l.findSome?_items, ← hitems, List.findSome?_map]
    rfl
  have hcontents : r.contents = (r.drain.2.text, ⟨r.drain.1.filterMap fun x => x.1.toOption,
      r.drain.1.findSome? fun x => Lexing.failure? x.1⟩) := by
    refine Prod.ext rfl (congrArg (Lexing.mk _) ?_)
    refine congrArg (List.findSome? · _) (funext fun ⟨item, n⟩ => ?_)
    cases item <;> rfl
  rw [hcontents, htext, hlexemes, herror]

theorem contents_ofBytes (text : String) :
    (ofBytes text.toUTF8.toList).contents = (text, .ofText text) := by
  rw [contents_of_items (items_ofBytes text), lastText_ofBytes]

/-- A reader of encoded text gives, call by call, the items of the text: its tokens where they
stand, and at the end the open quote if there is one; then nothing more, and the whole text is read.
A loader cannot tell a source that is read so from one that is held as text. -/
theorem ofBytes_agrees_with_ofText (text : String) :
    let r := ofBytes text.toUTF8.toList
    let l := Lexing.ofText text
    (∀ n, r.given? n = l.items[n]?) ∧
      (∀ n e, l.items[n]? = some (.error e) →
        n + 1 = l.items.length ∧ ∃ start, e = .unterminatedQuote start) ∧
      (∀ n, r.given? n = none → (r.after (n + 1)).text = text) ∧
      r.contents = (text, l) ∧
      ∀ (loader : Loader) (k : Kind) (file : String),
        loader.addFile k file r = loader.addText k file text := by
  intro r l
  have hitems : r.items = l.items := items_ofBytes text
  have hcontents : r.contents = (text, l) := contents_ofBytes text
  refine ⟨fun n => ?_, fun n e h => ?_, fun n h => ?_, hcontents, fun loader k file => ?_⟩
  · rw [given?_eq, hitems]
  · obtain ⟨hn, he⟩ := Lexing.eq_of_items_error h
    exact ⟨hn, Lexing.error_ofText he⟩
  · rw [text_after_of_none h]
    exact lastText_ofBytes text
  · rw [Loader.addFile, hcontents]
    rfl

/-- A quote that stays open over a line end is found once everything is read. -/
theorem given?_of_open_quote :
    let r := ofBytes "a \"b\nc".toUTF8.toList
    r.given? 0 = some (.ok ⟨.word "a", ⟨0, 1⟩⟩) ∧
      r.given? 1 = some (.error (.unterminatedQuote 2)) ∧ r.given? 2 = none ∧
        (r.after 3).text = "a \"b\nc" := by
  intro r
  have hitems : (Lexing.ofText "a \"b\nc").items =
      [.ok ⟨.word "a", ⟨0, 1⟩⟩, .error (.unterminatedQuote 2)] := by rfl
  obtain ⟨hgiven, -, htext, -⟩ := ofBytes_agrees_with_ofText "a \"b\nc"
  rw [hitems] at hgiven
  exact ⟨hgiven 0, hgiven 1, hgiven 2, htext 2 (hgiven 2)⟩

end LineReader

end StoryWorld
