import StoryWorld.Proofs.DecimalText
import StoryWorld.Proofs.Token.Spelling
import StoryWorld.Value

/-!
# Written text and its value

A value is shown as it was written, unless the text spells an integer or a boolean in another way
than that one is shown.
-/

namespace StoryWorld

namespace Text

theorem dropWhile_isBlank {cs : List Char} (h : ∀ c ∈ cs, isBlank c = false) :
    cs.dropWhile isBlank = cs := by
  cases cs with
  | nil => rfl
  | cons c cs => exact List.dropWhile_cons_of_neg (by simp [h c List.mem_cons_self])

theorem trim_eq_self {s : String} (h : ∀ c ∈ s.toList, isBlank c = false) : trim s = s := by
  have hreverse : ∀ c ∈ s.toList.reverse, isBlank c = false :=
    fun c hc => h c (List.mem_reverse.1 hc)
  rw [trim, trimChars, trimEndChars, dropWhile_isBlank h, dropWhile_isBlank hreverse,
    List.reverse_reverse, String.ofList_toList]

end Text

namespace Integer

theorem isBlank_of_mem_text {n : Integer} {c : Char} (h : c ∈ n.text.toList) :
    Text.isBlank c = false := by
  rcases isDigit_or_eq_minus_of_mem_text h with hdigit | rfl
  · exact Text.isBlank_of_isWordChar (Text.isWordChar_of_isDigit hdigit)
  · decide

theorem read?_text (n : Integer) : read? n.text = some n := read?_eq_some_iff.2 n.numeral_text

end Integer

namespace Value

theorem ofText_text (n : Integer) : ofText n.text = .int n := by
  have htrim : Text.trim n.text = n.text := Text.trim_eq_self fun _ => Integer.isBlank_of_mem_text
  simp only [ofText, htrim, Integer.read?_text]

theorem ofText_eq_text_iff {raw t : String} : ofText raw = .text t ↔ t = raw ∧
    Integer.read? (Text.trim raw) = none ∧ Text.sameFolded (Text.trim raw) "true" = false ∧
      Text.sameFolded (Text.trim raw) "false" = false := by
  constructor
  · intro h
    rw [ofText] at h
    split at h
    · cases h
    · next hread =>
      split at h
      · cases h
      · next htrue =>
        split at h
        · cases h
        · next hfalse =>
          exact ⟨(text.inj h).symm, hread, Bool.eq_false_iff.2 htrue, Bool.eq_false_iff.2 hfalse⟩
  · rintro ⟨rfl, hread, htrue, hfalse⟩
    simp [ofText, hread, htrue, hfalse]

/-- The texts whose values are shown as they were written: what shows an integer or a boolean, and
what spells none. -/
inductive Verbatim : String → Prop
  | int (n : Integer) : Verbatim n.text
  | bool (b : Bool) : Verbatim (Value.bool b).shown
  | text {s : String} (hint : Integer.read? (Text.trim s) = none)
      (htrue : Text.sameFolded (Text.trim s) "true" = false)
      (hfalse : Text.sameFolded (Text.trim s) "false" = false) : Verbatim s

theorem shown_ofText_iff {s : String} : (ofText s).shown = s ↔ Verbatim s := by
  constructor
  · intro h
    cases hv : ofText s with
    | int n =>
      rw [hv] at h
      exact h ▸ .int n
    | bool b =>
      rw [hv] at h
      exact h ▸ .bool b
    | text t =>
      obtain ⟨-, hint, htrue, hfalse⟩ := ofText_eq_text_iff.1 hv
      exact .text hint htrue hfalse
  · intro h
    cases h with
    | int n => rw [ofText_text, shown]
    | bool b => cases b <;> rfl
    | text hint htrue hfalse => rw [ofText_eq_text_iff.2 ⟨rfl, hint, htrue, hfalse⟩, shown]

end Value

end StoryWorld
