import StoryWorld.Proofs.Condition.Reading
import StoryWorld.Proofs.Token.Spelling

/-!
# Writing a condition and reading it back

The text of an expression has parentheses around every operation, so it spells one atom of the
grammar, and reading it gives the expression back. The expressions that can be written in this way
are those that some text gives.
-/

namespace StoryWorld

open ConditionGrammar

/-- Words that are read as names. -/
structure Text.IsName (w : String) : Prop where
  ne_empty : w ≠ ""
  word : ∀ c ∈ w.toList, Text.isWordChar c = true
  not_digits : ¬ ∀ c ∈ w.toList, c.isDigit = true
  not_reserved : ∀ s ∈ ["true", "false", "and", "or", "xor", "xnor"], Text.sameFolded w s = false

/-- Expressions over integers, booleans and names that words can spell. -/
def Expr.Writable : Expr → Prop
  | literal (.int _) => True
  | literal (.bool _) => True
  | literal (.text _) => False
  | name ident => Text.IsName ident
  | binary _ left right => left.Writable ∧ right.Writable

/-! ## Spelling -/

/-- The symbol of an operator, with the blank that is written after it. -/
theorem Operator.exists_spells_symbol (op : Operator) :
    ∃ ts, IsOperator ts op ∧ ∀ {cs us}, Spells cs us →
      Spells (op.symbol.toList ++ ' ' :: cs) (ts ++ us) := by
  have hblank : ∀ {cs us}, Spells cs us → Spells (' ' :: cs) us := fun h => h.cons_blank rfl
  have hword : ∀ op ∈ words, ∀ {cs us}, Spells cs us →
      Spells (op.symbol.toList ++ ' ' :: cs) (.word op.symbol :: us) := by
    intro op hop cs us h
    have hsymbol : ∀ op ∈ words, op.symbol ≠ "" ∧ op.symbol.toList.all Text.isWordChar = true := by
      decide
    obtain ⟨hne, hall⟩ := hsymbol op hop
    exact Spells.append_word hne (List.all_eq_true.1 hall) (by decide) (hblank h)
  cases op with
  | add => exact ⟨_, .single .add, fun h => .cons_punct (by decide) (hblank h)⟩
  | sub => exact ⟨_, .single .sub, fun h => .cons_punct (by decide) (hblank h)⟩
  | mul => exact ⟨_, .single .mul, fun h => .cons_punct (by decide) (hblank h)⟩
  | div => exact ⟨_, .single .div, fun h => .cons_punct (by decide) (hblank h)⟩
  | lt => exact ⟨_, .lt, fun h => .cons_punct (by decide) (hblank h)⟩
  | gt => exact ⟨_, .gt, fun h => .cons_punct (by decide) (hblank h)⟩
  | le => exact ⟨_, .le, fun h => .cons_punct (by decide) (.cons_punct (by decide) (hblank h))⟩
  | ge => exact ⟨_, .ge, fun h => .cons_punct (by decide) (.cons_punct (by decide) (hblank h))⟩
  | eq => exact ⟨_, .eq, fun h => .cons_punct (by decide) (.cons_punct (by decide) (hblank h))⟩
  | ne => exact ⟨_, .ne, fun h => .cons_punct (by decide) (.cons_punct (by decide) (hblank h))⟩
  | and => exact ⟨_, .single (.word (by decide) (by decide)), hword .and (by decide)⟩
  | or => exact ⟨_, .single (.word (by decide) (by decide)), hword .or (by decide)⟩
  | xor => exact ⟨_, .single (.word (by decide) (by decide)), hword .xor (by decide)⟩
  | xnor => exact ⟨_, .single (.word (by decide) (by decide)), hword .xnor (by decide)⟩

theorem Integer.exists_spells_text (n : Integer) :
    ∃ ts, IsAtom ts (.literal (.int n)) ∧ ∀ {c cs us}, Text.isWordChar c = false →
      Spells (c :: cs) us → Spells (n.text.toList ++ c :: cs) (ts ++ us) := by
  have hdigits (k : Nat) : ∀ c ∈ k.repr.toList, c.isDigit = true := fun _ => isDigit_of_mem_repr
  have hword (k : Nat) : ∀ c ∈ k.repr.toList, Text.isWordChar c = true :=
    fun c hc => Text.isWordChar_of_isDigit (hdigits k c hc)
  rcases text_eq n with ⟨k, hn, htext⟩ | ⟨k, hn, htext⟩
  · rw [← ofDigitChars_repr k] at hn
    refine ⟨_, .word (.number (repr_ne_empty k) (hdigits k) hn), fun hc hcs => ?_⟩
    rw [htext]
    exact Spells.append_word (repr_ne_empty k) (hword k) hc hcs
  · rw [← ofDigitChars_repr k] at hn
    refine ⟨_, .minus (repr_ne_empty k) (hdigits k) hn, fun hc hcs => ?_⟩
    have hrest := Spells.append_word (repr_ne_empty k) (hword k) hc hcs
    rw [htext, String.toList_append]
    exact Spells.cons_punct (by decide) hrest

/-- A written expression is one atom, wherever it stands before what cannot go on a word. -/
theorem Expr.exists_spells_shown {e : Expr} (h : e.Writable) :
    ∃ ts, IsAtom ts e ∧ ∀ {c cs us}, Text.isWordChar c = false →
      Spells (c :: cs) us → Spells (e.shown.toList ++ c :: cs) (ts ++ us) := by
  induction e with
  | literal v =>
    cases v with
    | int n => exact n.exists_spells_text
    | bool b =>
      cases b with
      | false =>
        refine ⟨[.word "false"], .word (.falsehood (by decide)), fun hc hcs => ?_⟩
        exact Spells.append_word (by decide) (List.all_eq_true.1 rfl) hc hcs
      | true =>
        refine ⟨[.word "true"], .word (.truth (by decide)), fun hc hcs => ?_⟩
        exact Spells.append_word (by decide) (List.all_eq_true.1 rfl) hc hcs
    | text s => exact absurd h id
  | name ident =>
    have hreserved := h.not_reserved
    simp only [List.forall_mem_cons] at hreserved
    obtain ⟨htrue, hfalse, hand, hor, hxor, hxnor, -⟩ := hreserved
    have hop : ∀ op ∈ Operator.words, Text.sameFolded ident op.symbol = false := by
      simp only [Operator.words, List.forall_mem_cons]
      exact ⟨hand, hor, hxor, hxnor, List.forall_mem_nil _⟩
    refine ⟨_, .word (.name h.not_digits htrue hfalse hop), fun hc hcs => ?_⟩
    exact Spells.append_word h.ne_empty h.word hc hcs
  | binary op left right ihl ihr =>
    obtain ⟨ts, hleft, hspellsLeft⟩ := ihl h.1
    obtain ⟨os, hop, hspellsOp⟩ := op.exists_spells_symbol
    obtain ⟨us, hright, hspellsRight⟩ := ihr h.2
    refine ⟨_, .parens (.binary hleft hop (.atom hright)), fun hc hcs => ?_⟩
    -- from the end on, since a word is only cut off by what follows it
    have hclose : Spells (')' :: _ :: _) (.punct ')' :: _) := .cons_punct (by decide) hcs
    have hafter := hspellsOp (hspellsRight (by decide) hclose)
    have hbefore := hspellsLeft (by decide) (hafter.cons_blank (by decide : Text.isBlank ' ' = true))
    have hopen := hbefore.cons_punct (by decide : Text.IsPunct '(')
    simpa [shown, String.toList_append] using hopen

theorem Condition.ofText_shown {e : Expr} (h : e.Writable) : ofText e.shown = .ok ⟨e.shown, e⟩ := by
  obtain ⟨ts, hatom, hspells⟩ := Expr.exists_spells_shown h
  have hend : Spells ['\n'] [] := .blank rfl
  have htext := hspells (by decide) hend
  rw [List.append_nil] at htext
  obtain ⟨htokens, herror⟩ := htext.ofText_of_newline
  refine ofText_eq_ok_iff.2 ⟨rfl, _, lex_eq_ok_iff.2 ⟨herror, rfl⟩, ?_⟩
  rw [htokens]
  exact .atom hatom

/-! ## What is read can be written -/

theorem ConditionGrammar.IsOperand.writable (h : IsOperand w e) (hw : (Token.word w).Spellable) :
    e.Writable := by
  cases h with
  | number | truth | falsehood => trivial
  | name hdigits htrue hfalse hop =>
    refine ⟨hw.1, hw.2, hdigits, ?_⟩
    simp only [Operator.words, List.forall_mem_cons] at hop
    obtain ⟨hand, hor, hxor, hxnor, -⟩ := hop
    simp only [List.forall_mem_cons]
    exact ⟨htrue, hfalse, hand, hor, hxor, hxnor, List.forall_mem_nil _⟩

mutual
theorem ConditionGrammar.IsAtom.writable : IsAtom ts e → (∀ t ∈ ts, t.Spellable) → e.Writable
  | .word hw, hts => hw.writable (hts _ List.mem_cons_self)
  | .minus .., _ => trivial
  | .parens h, hts => by
    simp only [List.forall_mem_cons, List.forall_mem_append] at hts
    exact h.writable hts.2.1

theorem ConditionGrammar.Derives.writable :
    Derives ts e → (∀ t ∈ ts, t.Spellable) → e.Writable
  | .atom h, hts => h.writable hts
  | .binary hleft _ hright, hts => by
    simp only [List.forall_mem_append] at hts
    exact ⟨hleft.writable hts.1.1, hright.writable hts.2⟩
end

namespace Condition

theorem writable_of_ofText {text : String} {c : Condition} (h : ofText text = .ok c) :
    c.expr.Writable := by
  obtain ⟨-, ls, hls, hderives⟩ := ofText_eq_ok_iff.1 h
  exact hderives.writable (List.forall_mem_map.2 (spellable_of_lex hls))

/-- Writing an expression and reading the text gives the expression back exactly when it consists
of integers, booleans and names that words can spell. Every expression that was read is of this
kind, so that writing it and reading it again changes nothing. -/
theorem ofText_shown_iff :
    (∀ e : Expr, (∃ c, ofText e.shown = .ok c ∧ c.expr = e) ↔ e.Writable) ∧
      ∀ (text : String) (c : Condition), ofText text = .ok c →
        c.expr.Writable ∧ ∃ c', ofText c.expr.shown = .ok c' ∧ c'.expr = c.expr := by
  refine ⟨fun e => ⟨?_, ?_⟩, fun text c hc => ?_⟩
  · rintro ⟨c, hc, rfl⟩
    exact writable_of_ofText hc
  · intro he
    exact ⟨_, ofText_shown he, rfl⟩
  · have he := writable_of_ofText hc
    exact ⟨he, _, ofText_shown he, rfl⟩

theorem ofText_shown_of_read :
    ∃ c c', ofText "a - -5 <(b_1 XOR 007)" = .ok c ∧ c.expr.shown = "(a - (-5 < (b_1 xor 7)))" ∧
      ofText c.expr.shown = .ok c' ∧ c'.expr = c.expr := by
  have hread : ofText "a - -5 <(b_1 XOR 007)" =
      .ok ⟨"a - -5 <(b_1 XOR 007)", .binary .sub (.name "a") (.binary .lt (.literal (.int (-5)))
        (.binary .xor (.name "b_1") (.literal (.int 7))))⟩ := by rfl
  obtain ⟨-, c', hc', hexpr⟩ := ofText_shown_iff.2 _ _ hread
  exact ⟨_, c', hread, rfl, hc', hexpr⟩

end Condition

end StoryWorld
