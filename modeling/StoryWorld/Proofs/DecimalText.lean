import StoryWorld.Integer

/-!
# Decimal text

Digits are read as their value if it is in range, and an integer is read back from its text. The
texts that are read as an integer are its spellings (`Integer.Numeral`).
-/

namespace StoryWorld.Integer

theorem readDigits?_eq_some_iff {digits : List Char} {k : Nat} :
    readDigits? digits = some k ↔
      digits ≠ [] ∧ (∀ c ∈ digits, c.isDigit = true) ∧ Nat.ofDigitChars 10 digits 0 = k := by
  have hall : digits.all Char.isDigit = true ↔ ∀ c ∈ digits, c.isDigit = true := List.all_eq_true
  rw [← hall]
  unfold readDigits?
  split
  · next h => simp [h.1, h.2]
  · next h =>
    constructor
    · intro h'
      cases h'
    · rintro ⟨hne, hdigits, -⟩
      exact absurd ⟨hne, hdigits⟩ h

/-! ## The spellings of an integer -/

/-- Decimal digits. -/
def IsDigits (cs : List Char) : Prop := cs ≠ [] ∧ ∀ c ∈ cs, c.isDigit = true

/-- The spellings of an integer: digits, after a sign or none. -/
inductive Numeral (n : Integer) : List Char → Prop
  | plain {cs : List Char} (h : IsDigits cs) (hn : n.toInt = Nat.ofDigitChars 10 cs 0) :
    Numeral n cs
  | plus {cs : List Char} (h : IsDigits cs) (hn : n.toInt = Nat.ofDigitChars 10 cs 0) :
    Numeral n ('+' :: cs)
  | minus {cs : List Char} (h : IsDigits cs) (hn : n.toInt = -(Nat.ofDigitChars 10 cs 0 : Int)) :
    Numeral n ('-' :: cs)

theorem ne_cons_of_digits {c : Char} {cs cs' : List Char} (h : ∀ c ∈ cs, c.isDigit = true)
    (hc : c.isDigit = false) : cs ≠ c :: cs' := by
  rintro rfl
  have hdigit := h c List.mem_cons_self
  rw [hc] at hdigit
  cases hdigit

theorem readDigits?_bind_eq_some_iff {cs : List Char} {f : Nat → Int} {n : Integer} :
    ((readDigits? cs).bind fun k => ofInt? (f k)) = some n ↔
      IsDigits cs ∧ n.toInt = f (Nat.ofDigitChars 10 cs 0) := by
  rw [Option.bind_eq_some_iff]
  constructor
  · rintro ⟨k, hk, hn⟩
    obtain ⟨hne, hdigits, rfl⟩ := readDigits?_eq_some_iff.1 hk
    exact ⟨⟨hne, hdigits⟩, ofInt?_eq_some_iff.1 hn⟩
  · rintro ⟨⟨hne, hdigits⟩, hn⟩
    exact ⟨_, readDigits?_eq_some_iff.2 ⟨hne, hdigits, rfl⟩, ofInt?_eq_some_iff.2 hn⟩

variable {n : Integer} {cs : List Char}

theorem numeral_plus_iff :
    n.Numeral ('+' :: cs) ↔ IsDigits cs ∧ n.toInt = Nat.ofDigitChars 10 cs 0 := by
  constructor
  · intro h
    cases h with
    | plain h => exact absurd rfl (ne_cons_of_digits h.2 rfl)
    | plus h hn => exact ⟨h, hn⟩
  · intro h
    exact .plus h.1 h.2

theorem numeral_minus_iff :
    n.Numeral ('-' :: cs) ↔ IsDigits cs ∧ n.toInt = -(Nat.ofDigitChars 10 cs 0 : Int) := by
  constructor
  · intro h
    cases h with
    | plain h => exact absurd rfl (ne_cons_of_digits h.2 rfl)
    | minus h hn => exact ⟨h, hn⟩
  · intro h
    exact .minus h.1 h.2

theorem numeral_iff_of_unsigned (hplus : ∀ ds, cs = '+' :: ds → False)
    (hminus : ∀ ds, cs = '-' :: ds → False) :
    n.Numeral cs ↔ IsDigits cs ∧ n.toInt = Nat.ofDigitChars 10 cs 0 := by
  constructor
  · intro h
    cases h with
    | plain h hn => exact ⟨h, hn⟩
    | plus => exact (hplus _ rfl).elim
    | minus => exact (hminus _ rfl).elim
  · intro h
    exact .plain h.1 h.2

theorem readChars?_eq_some_iff : readChars? cs = some n ↔ n.Numeral cs := by
  unfold readChars?
  split
  · exact readDigits?_bind_eq_some_iff.trans numeral_minus_iff.symm
  · exact readDigits?_bind_eq_some_iff.trans numeral_plus_iff.symm
  · next hminus hplus =>
    exact readDigits?_bind_eq_some_iff.trans (numeral_iff_of_unsigned hplus hminus).symm

theorem read?_eq_some_iff {text : String} : read? text = some n ↔ n.Numeral text.toList :=
  readChars?_eq_some_iff

/-- Digits spell the integer of their value. -/
theorem read?_eq_some_iff_of_digits {text : String} (h : ∀ c ∈ text.toList, c.isDigit = true)
    {n : Integer} :
    read? text = some n ↔ text ≠ "" ∧ n.toInt = Nat.ofDigitChars 10 text.toList 0 := by
  have hplus (ds : List Char) : text.toList ≠ '+' :: ds := ne_cons_of_digits h rfl
  have hminus (ds : List Char) : text.toList ≠ '-' :: ds := ne_cons_of_digits h rfl
  rw [read?_eq_some_iff, numeral_iff_of_unsigned hplus hminus, IsDigits, ne_eq,
    String.toList_eq_nil_iff, and_iff_left h]

/-- A minus sign needs digits after it. -/
theorem read?_minus_eq_some_iff {text : String} {n : Integer} :
    read? ("-" ++ text) = some n ↔
      text ≠ "" ∧ (∀ c ∈ text.toList, c.isDigit = true) ∧
        n.toInt = -(Nat.ofDigitChars 10 text.toList 0 : Int) := by
  have htoList : ("-" ++ text).toList = '-' :: text.toList := by
    rw [String.toList_append]
    rfl
  rw [read?_eq_some_iff, htoList, numeral_minus_iff, IsDigits, ne_eq, String.toList_eq_nil_iff,
    and_assoc]

/-! ## The text of an integer -/

theorem isDigit_of_mem_repr {k : Nat} {c : Char} (h : c ∈ k.repr.toList) : c.isDigit = true := by
  rw [Nat.toList_repr] at h
  exact Nat.isDigit_of_mem_toDigits (by decide) (by decide) h

theorem ofDigitChars_repr (k : Nat) : Nat.ofDigitChars 10 k.repr.toList 0 = k := by
  rw [Nat.toList_repr]
  exact Nat.ofDigitChars_ten_toDigits

theorem repr_ne_empty (k : Nat) : k.repr ≠ "" := by
  intro h
  have hlist := congrArg String.toList h
  rw [Nat.toList_repr] at hlist
  exact Nat.toDigits_ne_nil hlist

/-- The text of an integer is that of its absolute value, after a minus sign below zero. -/
theorem text_eq (n : Integer) :
    (∃ k : Nat, n.toInt = k ∧ n.text = k.repr) ∨
      ∃ k : Nat, n.toInt = -(k : Int) ∧ n.text = "-" ++ k.repr := by
  unfold text
  rcases hn : n.toInt with k | k
  · exact .inl ⟨k, rfl, rfl⟩
  · exact .inr ⟨k + 1, rfl, rfl⟩

theorem isDigit_or_eq_minus_of_mem_text {n : Integer} {c : Char} (h : c ∈ n.text.toList) :
    c.isDigit = true ∨ c = '-' := by
  rcases text_eq n with ⟨k, -, htext⟩ | ⟨k, -, htext⟩
  · exact .inl (isDigit_of_mem_repr (htext ▸ h))
  · rw [htext, String.toList_append, List.mem_append] at h
    rcases h with hsign | hc
    · exact .inr (List.mem_singleton.1 hsign)
    · exact .inl (isDigit_of_mem_repr hc)

theorem notMem_text (n : Integer) {c : Char} (hdigit : c.isDigit = false) (hsign : c ≠ '-') :
    c ∉ n.text.toList := by
  intro h
  rcases isDigit_or_eq_minus_of_mem_text h with hc | hc
  · cases hdigit.symm.trans hc
  · exact hsign hc

theorem numeral_text (n : Integer) : n.Numeral n.text.toList := by
  have hdigits (k : Nat) : IsDigits k.repr.toList :=
    ⟨fun h => repr_ne_empty k (String.toList_eq_nil_iff.1 h), fun _ => isDigit_of_mem_repr⟩
  rcases n.text_eq with ⟨k, hn, htext⟩ | ⟨k, hn, htext⟩
  · rw [htext]
    exact .plain (hdigits k) (by rw [ofDigitChars_repr, hn])
  · have htoList : n.text.toList = '-' :: k.repr.toList := by
      rw [htext, String.toList_append]
      rfl
    rw [htoList]
    exact .minus (hdigits k) (by rw [ofDigitChars_repr, hn])

end StoryWorld.Integer
