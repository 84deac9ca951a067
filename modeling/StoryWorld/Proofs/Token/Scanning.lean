import StoryWorld.Token.Scanner

/-! Scanning across the ends of lines. A newline leaves nothing open but a quote, so a text may be
scanned line by line: `Mode.scanLine_append` is the law that a reader of lines rests on. -/

namespace StoryWorld.Mode

/-! ## Bytes -/

@[simp] theorem byteLength_nil : byteLength [] = 0 := rfl

@[simp] theorem byteLength_cons (c : Char) (cs : List Char) :
    byteLength (c :: cs) = c.utf8Size + byteLength cs := rfl

@[simp] theorem byteLength_append (cs ds : List Char) :
    byteLength (cs ++ ds) = byteLength cs + byteLength ds := by
  induction cs with
  | nil => simp
  | cons c cs ih => simp [ih, Nat.add_assoc]

theorem utf8ByteSize_ofList (cs : List Char) :
    (String.ofList cs).utf8ByteSize = byteLength cs := by
  rw [← String.size_toByteArray, String.toByteArray_ofList, List.utf8Encode, List.size_toByteArray]
  induction cs with
  | nil => rfl
  | cons c cs ih => simp [ih]

theorem byteLength_toList (s : String) : byteLength s.toList = s.utf8ByteSize := by
  rw [← utf8ByteSize_ofList, String.ofList_toList]

/-! ## Ends of lines -/

/-- After a newline, the end of the line adds nothing. -/
theorem endLine_step_newline (m : Mode) (o o' : Nat) :
    (m.step o '\n').1.endLine o' = ((m.step o '\n').1, []) := by
  have henter : enter o '\n' = (between, []) := rfl
  have hword : Text.isWordChar '\n' = false := rfl
  cases m with
  | between => simp [step, henter, endLine]
  | comment => simp [step, endLine]
  | word start text => simp [step, hword, henter, endLine]
  | quoted start text => simp [step, endLine]

/-- Where nothing stays open, the end of a line adds what a newline adds. -/
theorem endLine_eq_step_newline {m : Mode} {o : Nat} (h : (m.step o '\n').1 = between) :
    m.endLine o = m.step o '\n' := by
  cases m with
  | between | comment | word => rfl
  | quoted start text => cases h

theorem endLine_scan_of_newline {cs : List Char} (h : cs.getLast? = some '\n') (m : Mode)
    (o o' : Nat) : (m.scan o cs).1.endLine o' = ((m.scan o cs).1, []) := by
  obtain ⟨ds, rfl⟩ := List.getLast?_eq_some_iff.1 h
  rw [scan_append]
  exact endLine_step_newline _ _ _

/-- A line that ends in a newline is scanned like any other characters. -/
theorem scanLine_of_newline {line : String} (h : line.toList.getLast? = some '\n') (m : Mode)
    (o : Nat) : m.scanLine o line = m.scan o line.toList := by
  simp only [scanLine, endLine_scan_of_newline h, List.append_nil]

/-- Modes that a line may start in: the end of the line before adds nothing. -/
def AtLineStart (m : Mode) : Prop := ∀ o, m.endLine o = (m, [])

theorem atLineStart_between : between.AtLineStart := fun _ => rfl

theorem AtLineStart.scanLine_empty {m : Mode} (h : m.AtLineStart) (o : Nat) :
    m.scanLine o "" = (m, []) := by
  simp [scanLine, scan, h _]

theorem atLineStart_endLine (m : Mode) (o : Nat) : (m.endLine o).1.AtLineStart := by
  cases m <;> exact fun _ => rfl

theorem atLineStart_scanLine (m : Mode) (o : Nat) (line : String) :
    (m.scanLine o line).1.AtLineStart := atLineStart_endLine _ _

/-- A text is scanned line by line: what comes after a newline goes on in the mode that the lines
before it leave. -/
theorem scanLine_append {line : String} (h : line.toList.getLast? = some '\n') (m : Mode) (o : Nat)
    (rest : String) :
    m.scanLine o (line ++ rest) =
      let (m₁, ls₁) := m.scanLine o line
      let (m₂, ls₂) := m₁.scanLine (o + line.utf8ByteSize) rest
      (m₂, ls₁ ++ ls₂) := by
  rw [scanLine_of_newline h]
  simp only [scanLine, String.toList_append, String.utf8ByteSize_append, scan_append,
    byteLength_toList, Nat.add_assoc, List.append_assoc]

end StoryWorld.Mode
