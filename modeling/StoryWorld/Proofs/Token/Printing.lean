import StoryWorld.Proofs.Token.Slices

/-!
# Printed tokens

Tokens survive printing. Written one after another with blanks between them they tile what is
written (`Token.Joined.tiles`), so they are what it is cut into; and whatever a text is cut into can
be written so (`lex_joined`).
-/

namespace StoryWorld

theorem Text.Gap.append_blanks {after gap cs : List Char} (hgap : ∀ c ∈ gap, isBlank c = true)
    (h : Gap after cs) : Gap after (gap ++ cs) := by
  induction gap with
  | nil => exact h
  | cons c gap ih =>
    rw [List.forall_mem_cons] at hgap
    exact .blank hgap.1 (ih hgap.2)

namespace Token

/-- Whether a text is tokens as they are written, with blanks between each two. -/
inductive Joined : List Token → String → Prop
  | nil : Joined [] ""
  | single (t : Token) : Joined [t] t.shown
  | cons (t : Token) {t' : Token} {ts : List Token} {gap text : String} (hne : gap ≠ "")
    (hgap : ∀ c ∈ gap.toList, Text.isBlank c = true) (h : Joined (t' :: ts) text) :
    Joined (t :: t' :: ts) (t.shown ++ gap ++ text)

/-- Any token may end before a blank. -/
theorem EndsBefore.blank (t : Token) {c : Char} (hc : Text.isBlank c = true) (cs : List Char) :
    t.EndsBefore (c :: cs) := by
  intro w _ d hd
  obtain rfl : c = d := Option.some.inj hd
  rw [Bool.eq_false_iff]
  intro hword
  rw [Text.isBlank_of_isWordChar hword] at hc
  cases hc

theorem Joined.tiles {ts : List Token} {text : String} (h : Joined ts text)
    (hts : ∀ t ∈ ts, t.Spellable) (o : Nat) :
    ∃ ls, Tiles [] o text.toList ls ∧ ls.map (·.token) = ts := by
  induction h generalizing o with
  | nil => exact ⟨[], .gap .nil, rfl⟩
  | single t =>
    have htiles : Tiles [] o ([] ++ (t.shown.toList ++ [])) _ :=
      .token .nil (hts t List.mem_cons_self) (.nil t) (.gap .nil)
    rw [List.nil_append, List.append_nil] at htiles
    exact ⟨_, htiles, rfl⟩
  | @cons t t' ts gap text hne hgap _ ih =>
    rw [List.forall_mem_cons] at hts
    have hlist : gap.toList ≠ [] := fun hnil => hne (String.toList_eq_nil_iff.1 hnil)
    obtain ⟨c, cs, hcs⟩ := List.exists_cons_of_ne_nil hlist
    have hend : t.EndsBefore (gap.toList ++ text.toList ++ []) := by
      rw [hcs] at hgap ⊢
      exact .blank t (hgap c List.mem_cons_self) _
    obtain ⟨ls, hrest, htokens⟩ := ih hts.2
      (o + Mode.byteLength [] + Mode.byteLength t.shown.toList + Mode.byteLength gap.toList)
    have hall := Tiles.token .nil hts.1 hend (hrest.append_gap (Text.Gap.append_blanks hgap))
    rw [List.nil_append, ← List.append_assoc, ← String.toList_append,
      ← String.toList_append] at hall
    exact ⟨_, hall, congrArg (t :: ·) htokens⟩

end Token

/-- What is tiled is a text that can be cut, and its tiles are what it is cut into. -/
theorem Tiles.lex_eq {text : String} {ls : List Lexeme} (h : Tiles [] 0 text.toList ls) :
    lex text = .ok ls := by
  have hscan := h.scanLine_eq
  rw [String.ofList_toList] at hscan
  rw [lex, Lexing.ofText, hscan]
  rfl

/-- Tokens are read back from what they are written as, with any blanks between them; and every
text that can be cut is cut into tokens that can be written so. -/
theorem lex_joined :
    (∀ (ts : List Token) (text : String), (∀ t ∈ ts, t.Spellable) → Token.Joined ts text →
      ∃ ls, lex text = .ok ls ∧ ls.map (·.token) = ts) ∧
    ∀ (text : String) (ls : List Lexeme), lex text = .ok ls →
      ∀ t ∈ ls.map (·.token), t.Spellable := by
  refine ⟨fun ts text hts h => ?_, fun text ls h t ht => ?_⟩
  · obtain ⟨ls, htiles, htokens⟩ := h.tiles hts 0
    exact ⟨ls, htiles.lex_eq, htokens⟩
  · obtain ⟨l, hl, rfl⟩ := List.mem_map.1 ht
    exact spellable_of_lex h l hl

/-- A quoted text may hold what starts a comment, ends a line or is a token elsewhere. -/
theorem lex_joined_quoted :
    ∃ ls, lex "say \"# no\n;\"\u3000;\n\t_1" = .ok ls ∧
      ls.map (·.token) = [.word "say", .quoted "# no\n;", .punct ';', .word "_1"] := by
  have hsay : (Token.word "say").Spellable := ⟨by decide, List.all_eq_true.1 rfl⟩
  have hquoted : (Token.quoted "# no\n;").Spellable := fun hmem => absurd hmem (by decide)
  have hpunct : Text.IsPunct ';' := by decide
  have hnumber : (Token.word "_1").Spellable := ⟨by decide, List.all_eq_true.1 rfl⟩
  have hspellable : ∀ t ∈ [Token.word "say", .quoted "# no\n;", .punct ';', .word "_1"],
      t.Spellable := by
    simp only [List.forall_mem_cons, List.not_mem_nil, false_implies, implies_true, and_true]
    exact ⟨hsay, hquoted, hpunct, hnumber⟩
  have hjoined : Token.Joined [.word "say", .quoted "# no\n;", .punct ';', .word "_1"]
      ("say" ++ " " ++ ("\"" ++ "# no\n;" ++ "\"" ++ "\u3000" ++ (";" ++ "\n\t" ++ "_1"))) :=
    .cons (.word "say") (by decide) (List.all_eq_true.1 rfl)
      (.cons (.quoted "# no\n;") (by decide) (List.all_eq_true.1 rfl)
        (.cons (.punct ';') (by decide) (List.all_eq_true.1 rfl) (.single (.word "_1"))))
  obtain ⟨hread, -⟩ := lex_joined
  exact hread _ _ hspellable hjoined

end StoryWorld
