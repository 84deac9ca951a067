import StoryWorld.Proofs.Value.Equality

/-!
# Typing what was shown

What shows the value of a text stands for that value again. An integer is read from its decimal text
with further zeros behind the sign and blanks around it, and a text stays as it stands if, trimmed,
it spells neither an integer nor a boolean.
-/

namespace StoryWorld

theorem Text.trimChars_of_blanks {before cs after : List Char}
    (hbefore : ∀ c ∈ before, isBlank c = true) (hcs : ∀ c ∈ cs, isBlank c = false)
    (hafter : ∀ c ∈ after, isBlank c = true) : trimChars (before ++ cs ++ after) = cs := by
  have hstart : (before ++ cs ++ after).dropWhile isBlank = (cs ++ after).dropWhile isBlank := by
    rw [List.append_assoc, List.dropWhile_append_of_pos hbefore]
  have hend (ds : List Char) : trimEndChars (ds ++ after) = trimEndChars ds := by
    rw [trimEndChars, trimEndChars, List.reverse_append,
      List.dropWhile_append_of_pos fun c hc => hafter c (List.mem_reverse.1 hc)]
  rw [trimChars, hstart]
  cases cs with
  | nil =>
    have hnone : (after ++ []).dropWhile isBlank = [] := List.dropWhile_append_of_pos hafter
    rw [List.append_nil] at hnone
    rw [List.nil_append, hnone]
    rfl
  | cons c cs =>
    have hc : ¬ isBlank c = true := by simp [hcs c List.mem_cons_self]
    have hreverse : ∀ d ∈ (c :: cs).reverse, isBlank d = false :=
      fun d hd => hcs d (List.mem_reverse.1 hd)
    rw [List.cons_append, List.dropWhile_cons_of_neg hc, ← List.cons_append, hend, trimEndChars,
      dropWhile_isBlank hreverse, List.reverse_reverse]

namespace Integer

variable {n : Integer} {cs : List Char}

/-! ## Further zeros -/

/-- The decimal text of an integer, with zeros behind the sign, and with a plus sign or none if the
integer is not negative. -/
inductive Padded (n : Integer) : List Char → Prop
  | plain (zeros : Nat) (h : 0 ≤ n.toInt) :
    Padded n (List.replicate zeros '0' ++ n.text.toList)
  | plus (zeros : Nat) (h : 0 ≤ n.toInt) :
    Padded n ('+' :: (List.replicate zeros '0' ++ n.text.toList))
  | minus (zeros : Nat) {digits : List Char} (h : n.text.toList = '-' :: digits) :
    Padded n ('-' :: (List.replicate zeros '0' ++ digits))

theorem IsDigits.replicate_append (h : IsDigits cs) (zeros : Nat) :
    IsDigits (List.replicate zeros '0' ++ cs) := by
  refine ⟨List.append_ne_nil_of_right_ne_nil _ h.1, fun c hc => ?_⟩
  rcases List.mem_append.1 hc with hzero | hc
  · rw [(List.mem_replicate.1 hzero).2]
    rfl
  · exact h.2 c hc

theorem ofDigitChars_replicate_append (zeros : Nat) (cs : List Char) :
    Nat.ofDigitChars 10 (List.replicate zeros '0' ++ cs) 0 = Nat.ofDigitChars 10 cs 0 := by
  rw [Nat.ofDigitChars_append, Nat.ofDigitChars_replicate_zero, Nat.mul_zero]

/-- The text of an integer that is not negative has no sign. -/
theorem isDigits_text (h : 0 ≤ n.toInt) :
    IsDigits n.text.toList ∧ n.toInt = Nat.ofDigitChars 10 n.text.toList 0 := by
  obtain ⟨k, hk⟩ := Int.eq_ofNat_of_zero_le h
  have htext : n.text = k.repr := by
    rw [text, hk]
    rfl
  have hdigits : ∀ c ∈ n.text.toList, c.isDigit = true := by
    rw [htext]
    exact fun c => isDigit_of_mem_repr
  exact (numeral_iff_of_unsigned (fun _ => ne_cons_of_digits hdigits rfl)
    fun _ => ne_cons_of_digits hdigits rfl).1 n.numeral_text

theorem Padded.numeral (h : n.Padded cs) : n.Numeral cs := by
  cases h with
  | plain zeros h =>
    obtain ⟨hdigits, hn⟩ := isDigits_text h
    exact .plain (hdigits.replicate_append zeros) (by rw [ofDigitChars_replicate_append, hn])
  | plus zeros h =>
    obtain ⟨hdigits, hn⟩ := isDigits_text h
    exact .plus (hdigits.replicate_append zeros) (by rw [ofDigitChars_replicate_append, hn])
  | minus zeros h =>
    have htext := n.numeral_text
    rw [h] at htext
    obtain ⟨hdigits, hn⟩ := numeral_minus_iff.1 htext
    exact .minus (hdigits.replicate_append zeros) (by rw [ofDigitChars_replicate_append, hn])

theorem Numeral.isBlank_of_mem (h : n.Numeral cs) {c : Char} (hc : c ∈ cs) :
    Text.isBlank c = false := by
  have hdigit {cs : List Char} (h : IsDigits cs) {c : Char} (hc : c ∈ cs) :
      Text.isBlank c = false :=
    Text.isBlank_of_isWordChar (Text.isWordChar_of_isDigit (h.2 c hc))
  cases h with
  | plain h => exact hdigit h hc
  | plus h | minus h =>
    rcases List.mem_cons.1 hc with rfl | hc
    · rfl
    · exact hdigit h hc

end Integer

namespace Value

variable {raw : String}

/-- A numeral may stand between blanks. -/
theorem ofText_of_numeral {n : Integer} {before cs after : List Char}
    (hraw : raw.toList = before ++ cs ++ after) (hn : n.Numeral cs)
    (hbefore : ∀ c ∈ before, Text.isBlank c = true)
    (hafter : ∀ c ∈ after, Text.isBlank c = true) : ofText raw = .int n := by
  have htrim : (Text.trim raw).toList = cs := by
    rw [Text.trim, hraw, Text.trimChars_of_blanks hbefore (fun _ => hn.isBlank_of_mem) hafter,
      String.toList_ofList]
  have hread : Integer.read? (Text.trim raw) = some n :=
    Integer.read?_eq_some_iff.2 (htrim ▸ hn)
  simp only [ofText, hread]

theorem ofText_shown_ofText (raw : String) : ofText (ofText raw).shown = ofText raw := by
  by_cases htext : (ofText raw).IsText
  · obtain ⟨t, ht⟩ := htext
    obtain rfl := eq_of_ofText_eq_text ht
    rw [ht, shown, ht]
  · exact ofText_shown htext

/-- A value is typed again from what shows it, an integer from each of its decimal texts, and text is
what spells neither an integer nor a boolean. -/
theorem ofText_stable :
    (∀ raw, ofText (ofText raw).shown = ofText raw) ∧
    (∀ (n : Integer) (raw : String) (before cs after : List Char),
      raw.toList = before ++ cs ++ after → n.Padded cs →
      (∀ c ∈ before, Text.isBlank c = true) → (∀ c ∈ after, Text.isBlank c = true) →
      ofText raw = .int n) ∧
    ∀ raw t, ofText raw = .text t ↔ t = raw ∧
      (∀ n : Integer, ¬ n.Numeral (Text.trim raw).toList) ∧
        Text.sameFolded (Text.trim raw) "true" = false ∧
        Text.sameFolded (Text.trim raw) "false" = false := by
  refine ⟨ofText_shown_ofText, fun n raw before cs after hraw hn hbefore hafter =>
    ofText_of_numeral hraw hn.numeral hbefore hafter, fun raw t => ?_⟩
  have hread : Integer.read? (Text.trim raw) = none ↔
      ∀ n : Integer, ¬ n.Numeral (Text.trim raw).toList := by
    simp only [Option.eq_none_iff_forall_ne_some, ne_eq, Integer.read?_eq_some_iff]
  rw [ofText_eq_text_iff, hread]

/-- The least integer with a zero too many, and one that is out of range. -/
theorem ofText_stable_least :
    ofText "\u3000-09223372036854775808\n" = .int Int64.minValue ∧
    ofText "-9223372036854775809" = .text "-9223372036854775809" := by
  obtain ⟨-, hpadded, htext⟩ := ofText_stable
  have hsign : Integer.text Int64.minValue = "-9223372036854775808" := by decide
  have hleast : Integer.Padded Int64.minValue "-09223372036854775808".toList :=
    .minus 1 (congrArg String.toList hsign)
  refine ⟨hpadded _ _ ['\u3000'] _ ['\n'] rfl hleast (List.all_eq_true.1 rfl)
    (List.all_eq_true.1 rfl), (htext _ _).2 ⟨rfl, fun n hn => ?_, rfl, rfl⟩⟩
  have hread : Integer.read? (Text.trim "-9223372036854775809") = some n :=
    Integer.read?_eq_some_iff.2 hn
  have hnone : Integer.read? (Text.trim "-9223372036854775809") = none := by decide
  rw [hnone] at hread
  cases hread

end Value

end StoryWorld
