import StoryWorld.Proofs.Token.Scanning
import StoryWorld.Proofs.Tree.Positions

/-!
# Tokens of texts that are joined

A scanner knows no place but by the byte it starts from: from a later byte it gives the same tokens,
moved (`scan_shift`). A newline leaves nothing open but a quote, so a text behind another and a
newline has its own tokens, moved (`ofText_append_newline`).
-/

namespace StoryWorld

def LexError.mapSpan (f : Nat → Nat) : LexError → LexError
  | unterminatedQuote start => unterminatedQuote (f start)
  | read offset cause => read (f offset) cause

def Lexing.mapSpans (f : Nat → Nat) (l : Lexing) : Lexing :=
  ⟨l.lexemes.map (·.mapSpan f), l.error.map (·.mapSpan f)⟩

namespace Mode

variable (n : Nat)

/-! ## Moving right -/

def shift : Mode → Mode
  | word start text => word (start + n) text
  | quoted start text => quoted (start + n) text
  | m => m

theorem enter_shift (o : Nat) (c : Char) : enter (o + n) c =
    ((enter o c).1.shift n, (enter o c).2.map (·.mapSpan (· + n))) := by
  unfold enter
  split
  · rfl
  · split
    · rfl
    · split
      · rfl
      · split
        · rfl
        · simp [shift, Lexeme.mapSpan, Span.map, Nat.add_right_comm]

theorem step_shift (m : Mode) (o : Nat) (c : Char) : (m.shift n).step (o + n) c =
    ((m.step o c).1.shift n, (m.step o c).2.map (·.mapSpan (· + n))) := by
  cases m with
  | between => exact enter_shift n o c
  | comment =>
    simp only [shift, step]
    split <;> rfl
  | word start text =>
    simp only [shift, step]
    split
    · rfl
    · simp only [enter_shift]
      rfl
  | quoted start text =>
    simp only [shift, step]
    split
    · simp [Lexeme.mapSpan, Span.map, Nat.add_right_comm]
    · rfl

theorem endLine_shift (m : Mode) (o : Nat) : (m.shift n).endLine (o + n) =
    ((m.endLine o).1.shift n, (m.endLine o).2.map (·.mapSpan (· + n))) := by
  cases m <;> rfl

theorem scan_shift (m : Mode) (o : Nat) (cs : List Char) : (m.shift n).scan (o + n) cs =
    ((m.scan o cs).1.shift n, (m.scan o cs).2.map (·.mapSpan (· + n))) := by
  induction cs generalizing m o with
  | nil => rfl
  | cons c cs ih =>
    have hrest := ih (m.step o c).1 (o + c.utf8Size)
    rw [Nat.add_right_comm] at hrest
    simp only [scan, step_shift, hrest, List.map_append]

theorem scanLine_shift (m : Mode) (o : Nat) (line : String) : (m.shift n).scanLine (o + n) line =
    ((m.scanLine o line).1.shift n, (m.scanLine o line).2.map (·.mapSpan (· + n))) := by
  simp only [scanLine, scan_shift, Nat.add_right_comm o n, endLine_shift, List.map_append]

theorem failure?_shift (m : Mode) : (m.shift n).failure? = m.failure?.map (·.mapSpan (· + n)) := by
  cases m <;> rfl

/-! ## Newlines -/

variable {n} {m : Mode} {o : Nat}

/-- A line that leaves no quote open may as well end in a newline. -/
theorem scanLine_concat_newline {line : String} (h : (m.scanLine o line).1.failure? = none) :
    m.scanLine o (line ++ "\n") = (between, (m.scanLine o line).2) := by
  have hlast : (line ++ "\n").toList.getLast? = some '\n' := by simp
  rw [scanLine_of_newline hlast, String.toList_append, scan_append]
  have hoffset : o + byteLength line.toList = o + line.utf8ByteSize := by rw [byteLength_toList]
  simp only [scanLine, hoffset] at h ⊢
  cases hm : (m.scan o line.toList).1 with
  | quoted start text =>
    rw [hm] at h
    cases h
  | between | comment | word =>
    rfl

end Mode

/-- Where a byte of a text is once the text stands behind another and a newline. -/
def Span.behind (a : String) (n : Nat) : Nat := n + (a.utf8ByteSize + 1)

/-- What is cut into tokens may be followed by a newline and more text, which has its own tokens,
moved behind it. -/
theorem Lexing.ofText_append_newline {a : String} (h : (ofText a).error = none) (b : String) :
    ofText (a ++ "\n" ++ b) =
      let moved := (ofText b).mapSpans (Span.behind a)
      ⟨(ofText a).lexemes ++ moved.lexemes, moved.error⟩ := by
  have hlast : (a ++ "\n").toList.getLast? = some '\n' := by simp
  have hsize : 0 + (a ++ "\n").utf8ByteSize = 0 + (a.utf8ByteSize + 1) := by
    rw [String.utf8ByteSize_append]
    rfl
  have hfirst : Mode.between.scanLine 0 (a ++ "\n") = (.between, (ofText a).lexemes) :=
    Mode.scanLine_concat_newline h
  have hrest : Mode.between.scanLine (0 + (a.utf8ByteSize + 1)) b = _ :=
    Mode.scanLine_shift (a.utf8ByteSize + 1) .between 0 b
  rw [ofText, Mode.scanLine_append hlast, hfirst, hsize]
  simp only [hrest, Mode.failure?_shift]
  rfl

end StoryWorld
