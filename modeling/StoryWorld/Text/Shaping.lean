import StoryWorld.Text.Emoji
import StoryWorld.Text.Joining
import StoryWorld.Text.Width.Unicode18

/-! How many columns of a terminal a text takes up. A text is measured from its end: what it starts
with decides how many columns a character before it adds, as the letters of a ligature, the
pictures of a joined picture and the two halves of a flag share their columns. On its own a
character is as wide as Unicode 18 says. -/

namespace StoryWorld.Text

/-! ## What a text starts with -/

/-- What a text starts with, as far as it matters to a character before it. -/
inductive Initial
  /-- Nothing that matters. -/
  | plain
  /-- A letter that joins the one before it in a ligature. -/
  | alef | lamed | ya | vowelYa | tifinagh | joinedTifinagh | lisuTone | orkhonI | khmer
  /-- A picture, a skin tone, a joiner before a picture, or a keycap before such a joiner. -/
  | picture | skinTone | joinedPicture | joinedKeycap
  /-- Halves of flags: the last of a row, several, and those that a joiner follows. -/
  | indicator | indicators | joinedIndicator | evenIndicators | oddIndicators
  /-- The end of a flag spelt in tags, and the letters or digits before it. -/
  | tagEnd | tagLetters (count : Nat) | tagDigits (count : Nat)
  /-- A Kirat vowel sign that forms another one with a sign before it. -/
  | kiratE | kiratAi
  deriving DecidableEq, Repr

/-- A selector asks for one way to show the character before it. -/
inductive Selector
  | picture | text | wideQuote
  deriving DecidableEq, Repr

/-- How a text starts: what with, whether a joiner stands before that, and the selectors before both
that may still apply. -/
structure Start where
  initial : Initial := .plain
  joined : Bool := false
  selectors : List Selector := []
  deriving DecidableEq, Repr

/-- A half of a flag. -/
def isIndicator (c : Char) : Bool := 0x1F1E6 ≤ c.toNat && c.toNat ≤ 0x1F1FF

/-- A skin tone. -/
def isSkinTone (c : Char) : Bool := 0x1F3FB ≤ c.toNat && c.toNat ≤ 0x1F3FF

/-- A quotation mark with a wide form. -/
def isCurlyQuote (c : Char) : Bool :=
  c.toNat == 0x2018 || c.toNat == 0x2019 || c.toNat == 0x201C || c.toNat == 0x201D

/-- The zero-width joiner. -/
def isJoiner (c : Char) : Bool := c.toNat == 0x200D

/-- A letter of a tag. -/
def isTagLetter (c : Char) : Bool := 0xE0061 ≤ c.toNat && c.toNat ≤ 0xE007A

/-- A digit of a tag. -/
def isTagDigit (c : Char) : Bool := 0xE0030 ≤ c.toNat && c.toNat ≤ 0xE0039

namespace Initial

/-- What a character starts a text with. -/
def ofChar (c : Char) : Initial :=
  if isAlef c then alef
  else if c.toNat = 0x5DC then lamed
  else if isKhmerSubjoinable c then khmer
  else if c.toNat = 0x1A10 then ya
  else if isTifinagh c then tifinagh
  else if c.toNat = 0xA4FC ∨ c.toNat = 0xA4FD then lisuTone
  else if c.toNat = 0x10C03 then orkhonI
  else if c.toNat = 0x16D67 then kiratE
  else if c.toNat = 0x16D68 then kiratAi
  else if isIndicator c then indicator
  else if isSkinTone c then skinTone
  else if isPictograph c then picture
  else plain

/-- A letter that joins the one before it. -/
def isLetter : Initial → Bool
  | alef | lamed | ya | vowelYa | tifinagh | joinedTifinagh | lisuTone | orkhonI | khmer => true
  | _ => false

/-- A joiner before a picture, with a keycap before it or not. -/
def isJoinedPicture : Initial → Bool
  | joinedPicture | joinedKeycap => true
  | _ => false

end Initial

/-- The selector that a character is. -/
def Selector.ofChar? (c : Char) : Option Selector :=
  if c.toNat = 0xFE0F then some picture
  else if c.toNat = 0xFE0E then some text
  else if c.toNat = 0xFE01 then some wideQuote
  else none

/-! ## A character before a text -/

namespace Start

/-- The start with a selector before it. Only letters that join, and joined pictures before the
selector for pictures, still reach past it. -/
def select (s : Start) (x : Selector) : Start :=
  if s.initial.isLetter || (x == .picture && s.initial.isJoinedPicture) then
    { s with selectors := x :: s.selectors }
  else
    { selectors := [x] }

/-- The start for a character that a selector does not apply to. -/
def unselect (s : Start) (x : Selector) : Start :=
  if s.selectors.contains x then
    if s.initial.isLetter then { s with selectors := s.selectors.filter (· != x) } else {}
  else
    s

/-- What a letter before a letter that joins it adds. -/
def ligature? (s : Start) (c : Char) : Option (Int × Initial) :=
  match s.initial, s.joined with
  | .alef, _ =>
    if isLam c then some (0, .plain)
    else if unicode18.columns c = 0 ∧ !isParting c then some (0, .alef)
    else none
  | .lamed, true => if c.toNat = 0x5D0 then some (0, .plain) else none
  | .khmer, _ => if c.toNat = 0x17D2 then some (-1, .plain) else none
  | .ya, true => if c.toNat = 0x1A17 then some (0, .vowelYa) else none
  | .vowelYa, _ => if c.toNat = 0x1A15 then some (0, .plain) else none
  | .tifinagh, joined =>
    if c.toNat = 0x2D7F then some (1, .joinedTifinagh)
    else if joined && isTifinagh c then some (0, .plain)
    else none
  | .joinedTifinagh, _ => if isTifinagh c then some (-1, .plain) else none
  | .lisuTone, _ =>
    if 0xA4F8 ≤ c.toNat ∧ c.toNat ≤ 0xA4FB then some (0, .plain) else none
  | .orkhonI, true => if c.toNat = 0x10C32 then some (0, .plain) else none
  | _, _ => none

/-- What a character before a picture, a half of a flag or a tag adds. -/
def picture? (i : Initial) (c : Char) : Option (Int × Initial) :=
  match i with
  | .picture => if isJoiner c then some (0, .joinedPicture) else none
  | .skinTone =>
    if isModifierBase c then some (0, .picture)
    else if isJoiner c then some (0, .joinedPicture)
    else none
  | .joinedPicture =>
    if c.toNat = 0x20E3 then some (0, .joinedKeycap)
    else if isIndicator c then some (1, .joinedIndicator)
    else if isSkinTone c then some (0, .skinTone)
    else if c.toNat = 0xE007F then some (0, .tagEnd)
    else if isPictograph c then some (0, .picture)
    else none
  | .indicator => if isIndicator c then some (1, .indicators) else none
  | .indicators =>
    if isIndicator c then some (1, .indicators)
    else if isJoiner c then some (0, .joinedPicture)
    else none
  | .joinedIndicator => if isIndicator c then some (-1, .evenIndicators) else none
  | .oddIndicators =>
    if isIndicator c then some (-1, .evenIndicators)
    else if isJoiner c then some (0, .joinedPicture)
    else none
  | .evenIndicators =>
    if isIndicator c then some (3, .oddIndicators)
    else if isJoiner c then some (0, .joinedPicture)
    else none
  | .tagEnd =>
    if isTagLetter c then some (0, .tagLetters 1)
    else if isTagDigit c then some (0, .tagDigits 1)
    else none
  | .tagLetters n =>
    if isTagLetter c ∧ n < 6 then some (0, .tagLetters (n + 1))
    else if isTagDigit c ∧ n ≤ 4 then some (0, .tagDigits 1)
    else if c.toNat = 0x1F3F4 ∧ 3 ≤ n then some (0, .picture)
    else none
  | .tagDigits n =>
    if isTagDigit c ∧ n < 3 then some (0, .tagDigits (n + 1))
    else if c.toNat = 0x1F3F4 ∧ n = 3 then some (0, .picture)
    else none
  | _ => none

/-- What a Kirat vowel sign before another one adds. -/
def vowel? (i : Initial) (c : Char) : Option (Int × Initial) :=
  match i with
  | .kiratE =>
    if c.toNat = 0x16D63 ∨ c.toNat = 0x16D69 then some (0, .plain)
    else if c.toNat = 0x16D67 then some (0, .kiratAi)
    else if c.toNat = 0x16D68 then some (1, .kiratE)
    else none
  | .kiratAi => if c.toNat = 0x16D63 then some (0, .plain) else none
  | _ => none

/-- What a character adds that no selector applies to, and the start that it makes. -/
def unstyled (s : Start) (c : Char) : Int × Start :=
  let reaches := s.initial.isLetter && s.initial != .alef
  if reaches && isJoiner c then
    (0, { s with joined := true })
  else if reaches && isSteering c then
    (0, s)
  else
    match ligature? s c <|> picture? s.initial c <|> vowel? s.initial c with
    | some (columns, initial) => (columns, { initial })
    | none => (unicode18.columns c, { initial := .ofChar c })

/-- The columns that a character adds to a text with this start, and the start that it makes. -/
def before (s : Start) (c : Char) : Int × Start :=
  if s.selectors.contains .picture && takesPictureStyle c then
    (if s.initial.isJoinedPicture then 0 else 2, { initial := .picture })
  else if c.toNat ≤ 0xA0 then
    (1, {})
  else
    let s := s.unselect .picture
    match Selector.ofChar? c with
    | some x => (0, s.select x)
    | none =>
      if s.selectors.contains .text && takesTextStyle c then (1, {})
      else if s.selectors.contains .wideQuote && isCurlyQuote c then (2, {})
      else ((s.unselect .text).unselect .wideQuote).unstyled c

end Start

/-! ## The columns of a text -/

/-- The columns of a text, and how it starts. -/
def measure (cs : List Char) : Int × Start :=
  cs.foldr (fun c (columns, start) =>
    let (more, start) := start.before c
    (columns + more, start)) (0, {})

/-- The columns of a text on one line. -/
def width (s : String) : Nat := (measure s.toList).1.toNat

end StoryWorld.Text
