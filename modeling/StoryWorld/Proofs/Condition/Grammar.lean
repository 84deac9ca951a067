import StoryWorld.Condition.Reader
import StoryWorld.Proofs.DecimalText

/-!
# The grammar of conditions

`Derives` is the grammar of the tokens of a condition with the expression that they make. An
expression is a chain of operands with operators between them, and all that stands right of an
operator is its right operand (`derives_iff_chain`).
-/

namespace StoryWorld

/-- The operators that are written as words. -/
def Operator.words : List Operator := [.and, .or, .xor, .xnor]

namespace ConditionGrammar

/-- A token that is an operator, whatever comes after it. -/
inductive IsSingle : Token → Operator → Prop
  | add : IsSingle (.punct '+') .add
  | sub : IsSingle (.punct '-') .sub
  | mul : IsSingle (.punct '*') .mul
  | div : IsSingle (.punct '/') .div
  | word (hop : op ∈ Operator.words) (hw : Text.sameFolded w op.symbol = true) :
    IsSingle (.word w) op

/-- The tokens of an operator. -/
inductive IsOperator : List Token → Operator → Prop
  | single (h : IsSingle t op) : IsOperator [t] op
  | lt : IsOperator [.punct '<'] .lt
  | gt : IsOperator [.punct '>'] .gt
  | le : IsOperator [.punct '<', .equals] .le
  | ge : IsOperator [.punct '>', .equals] .ge
  | eq : IsOperator [.equals, .equals] .eq
  | ne : IsOperator [.punct '!', .equals] .ne

/-- The operand that a word makes: digits an integer in range, and any other word that is no
operator a boolean or a name. -/
inductive IsOperand : String → Expr → Prop
  | number {n : Integer} (hne : w ≠ "") (hdigits : ∀ c ∈ w.toList, c.isDigit = true)
      (hn : n.toInt = Nat.ofDigitChars 10 w.toList 0) : IsOperand w (.literal (.int n))
  | truth (hw : Text.sameFolded w "true" = true) : IsOperand w (.literal (.bool true))
  | falsehood (hw : Text.sameFolded w "false" = true) : IsOperand w (.literal (.bool false))
  | name (hdigits : ¬ ∀ c ∈ w.toList, c.isDigit = true)
      (htrue : Text.sameFolded w "true" = false) (hfalse : Text.sameFolded w "false" = false)
      (hop : ∀ op ∈ Operator.words, Text.sameFolded w op.symbol = false) : IsOperand w (.name w)

mutual
/-- `atom = word | '-' word | '(' expr ')'` -/
inductive IsAtom : List Token → Expr → Prop
  | word (hw : IsOperand w e) : IsAtom [.word w] e
  | minus {n : Integer} (hne : w ≠ "") (hdigits : ∀ c ∈ w.toList, c.isDigit = true)
      (hn : n.toInt = -(Nat.ofDigitChars 10 w.toList 0 : Int)) :
    IsAtom [.punct '-', .word w] (.literal (.int n))
  | parens (h : Derives ts e) : IsAtom (.punct '(' :: (ts ++ [.punct ')'])) e

/-- `expr = atom (operator expr)?` -/
inductive Derives : List Token → Expr → Prop
  | atom (h : IsAtom ts e) : Derives ts e
  | binary (hleft : IsAtom ts left) (hop : IsOperator us op) (hright : Derives vs right) :
    Derives (ts ++ us ++ vs) (.binary op left right)
end

/-! ## Chains -/

/-- The tokens of a chain: operands, each with the operator after it, and the last operand. -/
inductive IsChain : List Token → List (Expr × Operator) → Expr → Prop
  | last (h : IsAtom ts e) : IsChain ts [] e
  | link (hleft : IsAtom ts left) (hop : IsOperator us op) (hrest : IsChain vs links last) :
    IsChain (ts ++ us ++ vs) ((left, op) :: links) last

/-- The expression of a chain, which groups to the right. -/
def chained (links : List (Expr × Operator)) (last : Expr) : Expr :=
  links.foldr (fun (left, op) right => .binary op left right) last

theorem derives_of_chain (h : IsChain ts links last) : Derives ts (chained links last) := by
  induction h with
  | last h => exact .atom h
  | link hleft hop _ ih => exact .binary hleft hop ih

theorem Derives.exists_chain : Derives ts e →
    ∃ links last, IsChain ts links last ∧ chained links last = e
  | .atom h => ⟨[], _, .last h, rfl⟩
  | .binary hleft hop hright => by
    obtain ⟨links, last, hchain, rfl⟩ := hright.exists_chain
    exact ⟨_, last, .link hleft hop hchain, rfl⟩

theorem derives_iff_chain :
    Derives ts e ↔ ∃ links last, IsChain ts links last ∧ chained links last = e := by
  constructor
  · intro h
    exact h.exists_chain
  · rintro ⟨links, last, hchain, rfl⟩
    exact derives_of_chain hchain

/-! ## What the reader takes a word for -/

theorem foldCase_of_digits {w : String} (h : ∀ c ∈ w.toList, c.isDigit = true) :
    Text.foldCase w = w.toList := by
  have hlower : ∀ c ∈ w.toList, c.toLower = c := by
    intro c hc
    have hdigit := h c hc
    simp only [Char.isDigit, Bool.and_eq_true, decide_eq_true_eq] at hdigit
    have hupper : ¬ (c.val ≥ 'A'.val ∧ c.val ≤ 'Z'.val) := by
      intro hA
      have h57 : c.val.toNat ≤ 57 := UInt32.le_iff_toNat_le.1 hdigit.2
      have h65 : 65 ≤ c.val.toNat := UInt32.le_iff_toNat_le.1 hA.1
      omega
    exact dif_neg hupper
  rw [Text.foldCase, List.map_congr_left hlower, List.map_id']

theorem not_sameFolded_of_digits {w s : String} (h : ∀ c ∈ w.toList, c.isDigit = true)
    (hs : (Text.foldCase s).all Char.isDigit = false) : Text.sameFolded w s = false := by
  rw [Text.sameFolded, foldCase_of_digits h, beq_eq_false_iff_ne]
  intro heq
  rw [← heq, List.all_eq_true.2 h] at hs
  cases hs

theorem not_digits_of_sameFolded {w s : String} (h : Text.sameFolded w s = true)
    (hs : (Text.foldCase s).all Char.isDigit = false) : ¬ w.toList.all Char.isDigit = true := by
  intro hdigits
  have hne := not_sameFolded_of_digits (List.all_eq_true.1 hdigits) hs
  rw [h] at hne
  cases hne

theorem ofWord?_eq_some_iff {w : String} {op : Operator} :
    Operator.ofWord? w = some op ↔
      op ∈ Operator.words ∧ Text.sameFolded w op.symbol = true := by
  constructor
  · intro h
    have hsame := List.find?_some h
    exact ⟨List.mem_of_find?_eq_some h, hsame⟩
  · rintro ⟨hop, hw⟩
    cases hfound : Operator.ofWord? w with
    | none => exact absurd hw (List.find?_eq_none.1 hfound op hop)
    | some op' =>
      -- two words that fold to the same text are the same operator
      have hw' := List.find?_some hfound
      have hop' : op' ∈ Operator.words := List.mem_of_find?_eq_some hfound
      rw [Text.sameFolded, beq_iff_eq] at hw hw'
      have hsame : Text.foldCase op'.symbol = Text.foldCase op.symbol := hw'.symm.trans hw
      have hinj : ∀ a ∈ Operator.words, ∀ b ∈ Operator.words,
          Text.foldCase a.symbol = Text.foldCase b.symbol → a = b := by decide
      rw [hinj op' hop' op hop hsame]

theorem ofWord?_eq_none_iff {w : String} :
    Operator.ofWord? w = none ↔
      ∀ op ∈ Operator.words, Text.sameFolded w op.symbol = false := by
  unfold Operator.ofWord? Operator.words
  simp only [List.find?_eq_none, Bool.not_eq_true]

theorem not_sameFolded_of_sameFolded {w s s' : String} (h : Text.sameFolded w s = true)
    (hne : Text.foldCase s ≠ Text.foldCase s') : Text.sameFolded w s' = false := by
  rw [Text.sameFolded, beq_iff_eq] at h
  rw [Text.sameFolded, h, beq_eq_false_iff_ne]
  exact hne

theorem isOperand_of_ofWord? {w : String} {e : Expr} (hop : Operator.ofWord? w = none)
    (he : Expr.ofWord? w = some e) : IsOperand w e := by
  unfold Expr.ofWord? at he
  split at he
  · next hdigits =>
    rw [List.all_eq_true] at hdigits
    obtain ⟨n, hn, rfl⟩ := Option.map_eq_some_iff.1 he
    obtain ⟨hne, hvalue⟩ := (Integer.read?_eq_some_iff_of_digits hdigits).1 hn
    exact .number hne hdigits hvalue
  · next hdigits =>
    rw [List.all_eq_true] at hdigits
    split at he
    · next htrue =>
      cases he
      exact .truth htrue
    · next htrue =>
      split at he
      · next hfalse =>
        cases he
        exact .falsehood hfalse
      · next hfalse =>
        cases he
        exact .name hdigits (Bool.not_eq_true _ ▸ htrue) (Bool.not_eq_true _ ▸ hfalse)
          (ofWord?_eq_none_iff.1 hop)

theorem ofWord?_of_isOperand {w : String} {e : Expr} (h : IsOperand w e) :
    Operator.ofWord? w = none ∧ Expr.ofWord? w = some e := by
  rw [ofWord?_eq_none_iff]
  -- no operator looks like a number or a boolean
  have hwords : ∀ op ∈ Operator.words, (Text.foldCase op.symbol).all Char.isDigit = false ∧
      Text.foldCase "true" ≠ Text.foldCase op.symbol ∧
      Text.foldCase "false" ≠ Text.foldCase op.symbol := by decide
  cases h with
  | number hne hdigits hn =>
    refine ⟨fun op hop => not_sameFolded_of_digits hdigits (hwords op hop).1, ?_⟩
    have hread := (Integer.read?_eq_some_iff_of_digits hdigits).2 ⟨hne, hn⟩
    rw [Expr.ofWord?, if_pos (List.all_eq_true.2 hdigits), hread]
    rfl
  | truth hw =>
    refine ⟨fun op hop => not_sameFolded_of_sameFolded hw (hwords op hop).2.1, ?_⟩
    have hdigits := not_digits_of_sameFolded hw (by decide)
    rw [Expr.ofWord?, if_neg hdigits, if_pos hw]
  | falsehood hw =>
    refine ⟨fun op hop => not_sameFolded_of_sameFolded hw (hwords op hop).2.2, ?_⟩
    have hdigits := not_digits_of_sameFolded hw (by decide)
    have htrue : Text.sameFolded w "true" = false := not_sameFolded_of_sameFolded hw (by decide)
    rw [Expr.ofWord?, if_neg hdigits, if_neg (Bool.not_eq_true _ ▸ htrue), if_pos hw]
  | name hdigits htrue hfalse hop =>
    refine ⟨hop, ?_⟩
    rw [Expr.ofWord?, if_neg (by rwa [List.all_eq_true]), htrue, hfalse]
    rfl

end ConditionGrammar

end StoryWorld
