import StoryWorld.Proofs.Token.Scanning

/-! Characters and the tokens they spell.

`Token.Spellable` is what every scanned token satisfies (`Lexing.spellable_of_mem`). `Spells` says
that characters are cut into given tokens wherever they stand; it is closed under `++`, so that a
written text can be taken apart piece by piece. -/

namespace StoryWorld

/-! ## Tokens that can be scanned -/

/-- Characters that are tokens of their own. -/
def Text.IsPunct (c : Char) : Prop :=
  Text.isBlank c = false ∧ c ≠ '#' ∧ c ≠ '"' ∧ Text.isWordChar c = false

instance (c : Char) : Decidable (Text.IsPunct c) :=
  inferInstanceAs (Decidable (_ ∧ _ ∧ _ ∧ _))

/-- Tokens that a text can hold. -/
def Token.Spellable : Token → Prop
  | word text => text ≠ "" ∧ ∀ c ∈ text.toList, Text.isWordChar c = true
  | quoted text => '"' ∉ text.toList
  | punct c => Text.IsPunct c

/-- Modes that carry the beginning of a token that a text can hold. -/
def Mode.Spellable : Mode → Prop
  | between => True
  | comment => True
  | word _ text => (Token.word text).Spellable
  | quoted _ text => (Token.quoted text).Spellable

namespace Mode

theorem spellable_enter (o : Nat) (c : Char) :
    (enter o c).1.Spellable ∧ ∀ l ∈ (enter o c).2, l.token.Spellable := by
  unfold enter
  split
  · exact ⟨trivial, by simp⟩
  split
  · exact ⟨trivial, by simp⟩
  split
  · exact ⟨by simp [Spellable, Token.Spellable], by simp⟩
  split
  · next hw => exact ⟨by simp [Spellable, Token.Spellable, hw], by simp⟩
  · next hb hh hq hw =>
    refine ⟨trivial, fun l hl => ?_⟩
    rw [List.mem_singleton.1 hl]
    exact ⟨by simpa using hb, hh, hq, by simpa using hw⟩

theorem spellable_step {m : Mode} (hm : m.Spellable) (o : Nat) (c : Char) :
    (m.step o c).1.Spellable ∧ ∀ l ∈ (m.step o c).2, l.token.Spellable := by
  cases m with
  | between => exact spellable_enter o c
  | comment => by_cases hc : c = '\n' <;> simp [step, hc, Spellable]
  | word start text =>
    by_cases hc : Text.isWordChar c
    · simp only [step, hc, if_true]
      refine ⟨⟨?_, fun d hd => ?_⟩, by simp⟩
      · simp
      · rw [String.toList_push, List.mem_append, List.mem_singleton] at hd
        rcases hd with hd | rfl
        · exact hm.2 d hd
        · exact hc
    · obtain ⟨h₁, h₂⟩ := spellable_enter o c
      simp only [step, hc]
      refine ⟨h₁, fun l hl => ?_⟩
      rcases List.mem_cons.1 hl with rfl | hl
      · exact hm
      · exact h₂ l hl
  | quoted start text =>
    by_cases hc : c = '"'
    · simp only [step, hc, if_true]
      exact ⟨trivial, fun l hl => by rw [List.mem_singleton.1 hl]; exact hm⟩
    · simp only [step, hc, if_false]
      refine ⟨fun h => ?_, by simp⟩
      rw [String.toList_push, List.mem_append, List.mem_singleton] at h
      exact h.elim hm (fun h => hc h.symm)

theorem spellable_scan {m : Mode} (hm : m.Spellable) (o : Nat) (cs : List Char) :
    (m.scan o cs).1.Spellable ∧ ∀ l ∈ (m.scan o cs).2, l.token.Spellable := by
  induction cs generalizing m o with
  | nil => exact ⟨hm, by simp [scan]⟩
  | cons c cs ih =>
    obtain ⟨h₁, h₂⟩ := spellable_step hm o c
    obtain ⟨h₃, h₄⟩ := ih h₁ (o + c.utf8Size)
    refine ⟨h₃, fun l hl => ?_⟩
    rcases List.mem_append.1 hl with hl | hl
    · exact h₂ l hl
    · exact h₄ l hl

theorem spellable_endLine {m : Mode} (hm : m.Spellable) (o : Nat) :
    ∀ l ∈ (m.endLine o).2, l.token.Spellable := by
  cases m with
  | word start text => exact fun l hl => by rw [List.mem_singleton.1 hl]; exact hm
  | between | comment | quoted => simp [endLine]

end Mode

theorem Lexing.spellable_of_mem {text : String} {l : Lexeme} (h : l ∈ (ofText text).lexemes) :
    l.token.Spellable := by
  obtain ⟨hm, hls⟩ := Mode.spellable_scan (m := .between) trivial 0 text.toList
  rcases List.mem_append.1 h with h | h
  · exact hls l h
  · exact Mode.spellable_endLine hm _ l h

theorem lex_eq_ok_iff {text : String} {ls : List Lexeme} :
    lex text = .ok ls ↔
      (Lexing.ofText text).error = none ∧ (Lexing.ofText text).lexemes = ls := by
  unfold lex Lexing.result
  cases (Lexing.ofText text).error <;> simp

theorem lex_eq_error_iff {text : String} {e : LexError} :
    lex text = .error e ↔ (Lexing.ofText text).error = some e := by
  unfold lex Lexing.result
  cases (Lexing.ofText text).error <;> simp

theorem spellable_of_lex {text : String} {ls : List Lexeme} (h : lex text = .ok ls) :
    ∀ l ∈ ls, l.token.Spellable := by
  obtain ⟨-, rfl⟩ := lex_eq_ok_iff.1 h
  intro l hl
  exact Lexing.spellable_of_mem hl

theorem Token.Spellable.quote_not_mem {t : Token} (h : t.Spellable) : '"' ∉ t.text.toList := by
  cases t with
  | word text => exact fun hq => absurd (h.2 _ hq) (by decide)
  | quoted text => exact h
  | punct c => simpa [Token.text] using h.2.2.1.symm

/-! ## Characters that spell tokens -/

/-- Characters that are cut into the given tokens wherever they stand between tokens, and leave
nothing open. -/
def Spells (cs : List Char) (ts : List Token) : Prop :=
  ∀ o, ∃ ls, Mode.between.scan o cs = (.between, ls) ∧ ls.map (·.token) = ts

namespace Spells

theorem nil : Spells [] [] := fun _ => ⟨[], rfl, rfl⟩

theorem append {cs ds : List Char} {ts us : List Token} (h : Spells cs ts) (h' : Spells ds us) :
    Spells (cs ++ ds) (ts ++ us) := by
  intro o
  obtain ⟨ls, hscan, rfl⟩ := h o
  obtain ⟨ls', hscan', rfl⟩ := h' (o + Mode.byteLength cs)
  refine ⟨ls ++ ls', ?_, List.map_append⟩
  simp only [Mode.scan_append, hscan, hscan']

theorem blank {c : Char} (h : Text.isBlank c = true) : Spells [c] [] := fun _ =>
  ⟨[], by simp [Mode.scan, Mode.step, Mode.enter, h], rfl⟩

theorem cons_blank {c : Char} {cs : List Char} {ts : List Token} (h : Text.isBlank c = true)
    (hcs : Spells cs ts) : Spells (c :: cs) ts := (blank h).append hcs

theorem append_blanks {bs cs : List Char} {ts : List Token}
    (h : ∀ b ∈ bs, Text.isBlank b = true) (hcs : Spells cs ts) : Spells (bs ++ cs) ts := by
  induction bs with
  | nil => exact hcs
  | cons b bs ih =>
    exact cons_blank (h b List.mem_cons_self) (ih fun b' hb => h b' (List.mem_cons_of_mem _ hb))

theorem punct {c : Char} (h : Text.IsPunct c) : Spells [c] [.punct c] := by
  intro o
  obtain ⟨hb, hh, hq, hw⟩ := h
  exact ⟨[⟨.punct c, ⟨o, o + c.utf8Size⟩⟩],
    by simp [Mode.scan, Mode.step, Mode.enter, hb, hh, hq, hw], rfl⟩

theorem cons_punct {c : Char} {cs : List Char} {ts : List Token} (h : Text.IsPunct c)
    (hcs : Spells cs ts) : Spells (c :: cs) (.punct c :: ts) := (punct h).append hcs

end Spells

/-! ## Words and quoted texts -/

theorem Text.toNat_of_isWordChar {c : Char} (h : Text.isWordChar c = true) :
    (48 ≤ c.toNat ∧ c.toNat ≤ 57) ∨ (65 ≤ c.toNat ∧ c.toNat ≤ 90) ∨ c.toNat = 95 ∨
      (97 ≤ c.toNat ∧ c.toNat ≤ 122) := by
  have hclasses : Text.isWordChar c = ((decide (c.val ≥ 65 ∧ c.val ≤ 90) ||
      (c.val ≥ 97 && c.val ≤ 122)) || (c.val ≥ 48 && c.val ≤ 57) || c == '_') := rfl
  simp only [hclasses, Bool.or_eq_true, Bool.and_eq_true, decide_eq_true_eq, beq_iff_eq,
    UInt32.le_iff_toNat_le, ge_iff_le] at h
  rcases h with ((h | h) | h) | rfl
  · exact .inr (.inl h)
  · exact .inr (.inr (.inr h))
  · exact .inl h
  · exact .inr (.inr (.inl rfl))

theorem Text.isWordChar_of_isDigit {c : Char} (h : c.isDigit = true) :
    Text.isWordChar c = true := by
  simp [Text.isWordChar, Char.isAlphanum, h]

theorem Text.isBlank_of_isWordChar {c : Char} (h : Text.isWordChar c = true) :
    Text.isBlank c = false := by
  have hc := toNat_of_isWordChar h
  simp only [isBlank, Bool.or_eq_false_iff, Bool.and_eq_false_iff, decide_eq_false_iff_not,
    beq_eq_false_iff_ne]
  omega

namespace Mode

private theorem push_append (text : String) (c : Char) (cs : List Char) :
    text.push c ++ String.ofList cs = text ++ String.ofList (c :: cs) :=
  String.toList_inj.1 (by simp)

theorem scan_quoted {cs : List Char} (h : '"' ∉ cs) (start o : Nat) (text : String) :
    (quoted start text).scan o cs = (quoted start (text ++ String.ofList cs), []) := by
  induction cs generalizing text o with
  | nil => simp [scan]
  | cons c cs ih =>
    rw [List.mem_cons, not_or] at h
    simp only [scan, step, if_neg (Ne.symm h.1), ih h.2, push_append, List.nil_append]

theorem scan_word {cs : List Char} (h : ∀ c ∈ cs, Text.isWordChar c = true) (start o : Nat)
    (text : String) :
    (word start text).scan o cs = (word start (text ++ String.ofList cs), []) := by
  induction cs generalizing text o with
  | nil => simp [scan]
  | cons c cs ih =>
    have hc := h c List.mem_cons_self
    simp only [scan, step, if_pos hc, ih fun d hd => h d (List.mem_cons_of_mem _ hd), push_append,
      List.nil_append]

/-- A character that is part of no word ends an open one, and is read like any other. -/
theorem scan_word_cons {c : Char} (h : Text.isWordChar c = false) (start o : Nat) (text : String)
    (cs : List Char) :
    (word start text).scan o (c :: cs) =
      let (m, ls) := between.scan o (c :: cs)
      (m, ⟨.word text, ⟨start, o⟩⟩ :: ls) := by
  simp [scan, step, h]

theorem enter_word {c : Char} (h : Text.isWordChar c = true) (o : Nat) :
    enter o c = (word o (String.singleton c), []) := by
  have hb := Text.isBlank_of_isWordChar h
  have hh : c ≠ '#' := by rintro rfl; exact absurd h (by decide)
  have hq : c ≠ '"' := by rintro rfl; exact absurd h (by decide)
  simp [enter, hb, hh, hq, h]

theorem scan_wordChars {w : List Char} (hne : w ≠ []) (h : ∀ c ∈ w, Text.isWordChar c = true)
    (o : Nat) : between.scan o w = (word o (String.ofList w), []) := by
  obtain ⟨c, cs, rfl⟩ := List.exists_cons_of_ne_nil hne
  have hjoined : String.singleton c ++ String.ofList cs = String.ofList (c :: cs) :=
    String.toList_inj.1 (by simp)
  rw [List.forall_mem_cons] at h
  simp only [scan, step, enter_word h.1, scan_word h.2, hjoined, List.nil_append]

end Mode

namespace Spells

theorem quoted {cs : List Char} (h : '"' ∉ cs) :
    Spells ('"' :: (cs ++ ['"'])) [.quoted (String.ofList cs)] := by
  intro o
  have henter : Mode.enter o '"' = (.quoted o "", []) := rfl
  refine ⟨[⟨.quoted (String.ofList cs), ⟨o, o + 1 + Mode.byteLength cs + 1⟩⟩], ?_, rfl⟩
  have hsize : '"'.utf8Size = 1 := rfl
  simp only [Mode.scan, Mode.step, henter, Mode.scan_append, Mode.scan_quoted h, hsize, if_true,
    String.empty_append, List.nil_append, List.append_nil]

/-- A word is spelled by its characters before one that is part of no word. -/
theorem word {w cs : List Char} {c : Char} {ts : List Token} (hne : w ≠ [])
    (hw : ∀ d ∈ w, Text.isWordChar d = true) (hc : Text.isWordChar c = false)
    (h : Spells (c :: cs) ts) : Spells (w ++ c :: cs) (.word (String.ofList w) :: ts) := by
  intro o
  obtain ⟨ls, hscan, rfl⟩ := h (o + Mode.byteLength w)
  refine ⟨⟨.word (String.ofList w), ⟨o, o + Mode.byteLength w⟩⟩ :: ls, ?_, rfl⟩
  have hopen := Mode.scan_wordChars hne hw o
  simp only [Mode.scan_append, hopen, Mode.scan_word_cons hc, hscan, List.nil_append]

/-- The text of a word spells it before a character that is part of no word. -/
theorem append_word {w : String} {cs : List Char} {c : Char} {ts : List Token} (hne : w ≠ "")
    (hw : ∀ d ∈ w.toList, Text.isWordChar d = true) (hc : Text.isWordChar c = false)
    (h : Spells (c :: cs) ts) : Spells (w.toList ++ c :: cs) (.word w :: ts) := by
  have hlist : w.toList ≠ [] := fun hnil => hne (String.toList_eq_nil_iff.1 hnil)
  simpa using word hlist hw hc h

theorem ofText {text : String} {ts : List Token} (h : Spells text.toList ts) :
    (Lexing.ofText text).lexemes.map (·.token) = ts ∧ (Lexing.ofText text).error = none := by
  obtain ⟨ls, hscan, rfl⟩ := h 0
  simp [Lexing.ofText, Mode.scanLine, hscan, Mode.endLine, Mode.failure?]

/-- The end of a text cuts off an open word like a newline. -/
theorem ofText_of_newline {text : String} {ts : List Token} (h : Spells (text.toList ++ ['\n']) ts) :
    (Lexing.ofText text).lexemes.map (·.token) = ts ∧ (Lexing.ofText text).error = none := by
  obtain ⟨ls, hscan, rfl⟩ := h 0
  rcases hopen : Mode.between.scan 0 text.toList with ⟨m, ls₁⟩
  rcases hlast : m.step (0 + Mode.byteLength text.toList) '\n' with ⟨m₂, ls₂⟩
  simp only [Mode.scan_append, hopen, Mode.scan, hlast, List.append_nil] at hscan
  obtain ⟨rfl, rfl⟩ := Prod.mk.inj hscan
  have hend := Mode.endLine_eq_step_newline (congrArg Prod.fst hlast)
  rw [hlast, Mode.byteLength_toList, Nat.zero_add] at hend
  simp [Lexing.ofText, Mode.scanLine, hopen, hend, Mode.failure?]

end Spells

end StoryWorld
