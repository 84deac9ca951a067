import Mathlib.Logic.ExistsUnique
import StoryWorld.Proofs.Condition.Steps

/-!
# The condition reader and its grammar

The reader accepts the grammar and makes the expression of the derivation. Soundness is an
invariant of its steps: a state holds what the tokens before it make (`ReadsState`). Completeness
goes by the derivation: the reader runs over the tokens of an expression, whatever waits for it.
-/

namespace StoryWorld

namespace ConditionGrammar

/-! ## What a state has read -/

/-- The tokens of operands that wait, each with the operator after it. -/
inductive IsWaiting : List Token → Pending → Prop
  | nil : IsWaiting [] []
  | cons (hinit : IsWaiting ts waiting) (hleft : IsAtom us left) (hop : IsOperator vs op) :
    IsWaiting (ts ++ us ++ vs) ((left, op) :: waiting)

/-- The tokens around the innermost parentheses, up to the last one that opens. -/
inductive IsOutside : List Token → List Pending → Prop
  | nil : IsOutside [] []
  | cons (houter : IsOutside ts outer) (hwaiting : IsWaiting us waiting) :
    IsOutside (ts ++ us ++ [.punct '(']) (waiting :: outer)

/-- The tokens of an operand or an operator that is read as far as the place says. -/
inductive IsPlace : List Token → OperandState → Prop
  | operand : IsPlace [] .operand
  | minus {span angle} : IsPlace [.punct '-'] (.minus span angle)
  | complete (h : IsAtom ts e) : IsPlace ts (.complete e)
  | angle (hleft : IsAtom ts left) (hstrict : IsOperator [t] strict)
      (hloose : IsOperator [t, .equals] loose) :
    IsPlace (ts ++ [t]) (.angle left strict loose)
  | half (hleft : IsAtom ts left) (hop : IsOperator [t, .equals] op) :
    IsPlace (ts ++ [t]) (.half left op)

/-- Tokens that are read as far as a state says. -/
inductive ReadsState : List Token → ConditionState → Prop
  | mk (houter : IsOutside os outer) (hwaiting : IsWaiting ws waiting) (hplace : IsPlace ps place) :
    ReadsState (os ++ ws ++ ps) ⟨waiting, outer, place⟩

/-- Where an operand may start, what waits has been read and nothing else. -/
theorem ReadsState.of_awaits (hs : ReadsState ts s)
    (hawaits : ConditionState.Awaits s waiting outer angle) :
    ∃ os ws, ts = os ++ ws ∧ IsOutside os outer ∧ IsWaiting ws waiting := by
  cases hs with
  | mk houter hwaiting hplace =>
    cases hawaits with
    | operand =>
      cases hplace
      exact ⟨_, _, List.append_nil _, houter, hwaiting⟩
    | angle =>
      cases hplace with
      | angle hleft hstrict hloose =>
        refine ⟨_, _, ?_, houter, .cons hwaiting hleft hstrict⟩
        simp

/-- The operands that wait and the expression after them make one expression. -/
theorem derives_close (hwaiting : IsWaiting ts waiting) (h : Derives us e) :
    Derives (ts ++ us) (waiting.close e) := by
  induction hwaiting generalizing us e with
  | nil => exact h
  | cons _ hleft hop ih =>
    have hlast := ih (.binary hleft hop h)
    simpa [Pending.close] using hlast

/-- A step reads the token that it is made on. -/
theorem ReadsState.step (hs : ReadsState ts s) (hstep : ConditionState.Step s l s') :
    ReadsState (ts ++ [l.token]) s' := by
  cases hstep with
  | word hawaits hl hw =>
    obtain ⟨os, ws, rfl, houter, hwaiting⟩ := hs.of_awaits hawaits
    rw [hl]
    exact .mk houter hwaiting (.complete (.word hw))
  | minus hawaits hl =>
    obtain ⟨os, ws, rfl, houter, hwaiting⟩ := hs.of_awaits hawaits
    rw [hl]
    exact .mk houter hwaiting .minus
  | enter hawaits hl =>
    obtain ⟨os, ws, rfl, houter, hwaiting⟩ := hs.of_awaits hawaits
    have h := ReadsState.mk (.cons houter hwaiting) .nil .operand
    rw [hl]
    simpa using h
  | negative hl hn =>
    cases hs with | mk houter hwaiting hplace =>
    cases hplace
    obtain ⟨hne, hdigits, hn⟩ := Integer.read?_minus_eq_some_iff.1 hn
    have h := ReadsState.mk houter hwaiting (.complete (.minus hne hdigits hn))
    rw [hl]
    simpa using h
  | leave hl =>
    cases hs with | mk houter hwaiting hplace =>
    cases houter with | cons houter hnext =>
    cases hplace with | complete hleft =>
    have hinner := derives_close hwaiting (.atom hleft)
    have h := ReadsState.mk houter hnext (.complete (.parens hinner))
    rw [hl]
    simpa using h
  | single hop =>
    cases hs with | mk houter hwaiting hplace =>
    cases hplace with | complete hleft =>
    have h := ReadsState.mk houter (.cons hwaiting hleft (.single hop)) .operand
    simpa using h
  | less hl =>
    cases hs with | mk houter hwaiting hplace =>
    cases hplace with | complete hleft =>
    have h := ReadsState.mk houter hwaiting (.angle hleft .lt .le)
    rw [hl]
    simpa using h
  | greater hl =>
    cases hs with | mk houter hwaiting hplace =>
    cases hplace with | complete hleft =>
    have h := ReadsState.mk houter hwaiting (.angle hleft .gt .ge)
    rw [hl]
    simpa using h
  | equal hl =>
    cases hs with | mk houter hwaiting hplace =>
    cases hplace with | complete hleft =>
    have h := ReadsState.mk houter hwaiting (.half hleft .eq)
    rw [hl]
    simpa using h
  | unequal hl =>
    cases hs with | mk houter hwaiting hplace =>
    cases hplace with | complete hleft =>
    have h := ReadsState.mk houter hwaiting (.half hleft .ne)
    rw [hl]
    simpa using h
  | loosen hl =>
    cases hs with | mk houter hwaiting hplace =>
    cases hplace with | angle hleft _ hloose =>
    have h := ReadsState.mk houter (.cons hwaiting hleft hloose) .operand
    rw [hl]
    simpa using h
  | half hl =>
    cases hs with | mk houter hwaiting hplace =>
    cases hplace with | half hleft hop =>
    have h := ReadsState.mk houter (.cons hwaiting hleft hop) .operand
    rw [hl]
    simpa using h

/-- A condition may end after an operand, outside all parentheses. -/
theorem ReadsState.derives (hs : ReadsState ts ⟨waiting, [], .complete last⟩) :
    Derives ts (waiting.close last) := by
  cases hs with | mk houter hwaiting hplace =>
  cases houter
  cases hplace with | complete hlast =>
  have h := derives_close hwaiting (.atom hlast)
  simpa using h

theorem ReadsState.run (hs : ReadsState ts s) (h : ConditionState.run s ls = .ok s') :
    ReadsState (ts ++ ls.map (·.token)) s' := by
  induction ls generalizing ts s with
  | nil =>
    cases h
    rwa [List.map_nil, List.append_nil]
  | cons l ls ih =>
    simp only [ConditionState.run] at h
    split at h
    · next s₁ hstep =>
      have hs₁ := hs.step (ConditionState.step_eq_ok_iff.1 hstep)
      rw [List.map_cons, List.append_cons]
      exact ih hs₁ h
    · cases h

end ConditionGrammar

open ConditionGrammar

/-! ## Runs over what can be derived -/

namespace ConditionState

private theorem run_pair {s s₁ s₂ : ConditionState} {ls : List Lexeme}
    (hls : ls.map (·.token) = [t, t₁]) (h : ∀ {l : Lexeme}, l.token = t → Step s l s₁)
    (h₁ : ∀ {l : Lexeme}, l.token = t₁ → Step s₁ l s₂) (rest : List Lexeme) :
    s.run (ls ++ rest) = s₂.run rest := by
  obtain ⟨l, ls, rfl, hl, htail⟩ := List.map_eq_cons_iff.1 hls
  obtain ⟨l₁, rfl, hl₁⟩ := List.map_eq_singleton_iff.1 htail
  exact (run_cons_of_step (h hl) _).trans (run_cons_of_step (h₁ hl₁) rest)

/-- After an operator its right operand is awaited. A bare `<` or `>` leaves open whether an equals
sign follows, but none can start an operand. -/
theorem run_operator (hop : IsOperator ts op) (waiting : Pending) (outer : List Pending)
    (left : Expr) {ls : List Lexeme} (hls : ls.map (·.token) = ts) :
    ∃ s angle, Awaits s ((left, op) :: waiting) outer angle ∧ ∀ rest : List Lexeme,
      run ⟨waiting, outer, .complete left⟩ (ls ++ rest) = s.run rest := by
  cases hop with
  | single hop =>
    obtain ⟨l, rfl, rfl⟩ := List.map_eq_singleton_iff.1 hls
    exact ⟨_, _, .operand, run_cons_of_step (.single hop)⟩
  | lt =>
    obtain ⟨l, rfl, hl⟩ := List.map_eq_singleton_iff.1 hls
    exact ⟨_, _, .angle, run_cons_of_step (.less hl)⟩
  | gt =>
    obtain ⟨l, rfl, hl⟩ := List.map_eq_singleton_iff.1 hls
    exact ⟨_, _, .angle, run_cons_of_step (.greater hl)⟩
  | le => exact ⟨_, _, .operand, run_pair hls .less .loosen⟩
  | ge => exact ⟨_, _, .operand, run_pair hls .greater .loosen⟩
  | eq => exact ⟨_, _, .operand, run_pair hls .equal .half⟩
  | ne => exact ⟨_, _, .operand, run_pair hls .unequal .half⟩

mutual
theorem run_atom : IsAtom ts e → ∀ {s : ConditionState} {waiting : Pending}
    {outer : List Pending} {angle : Bool}, Awaits s waiting outer angle →
    ∀ ls : List Lexeme, ls.map (·.token) = ts → ∀ rest : List Lexeme,
      s.run (ls ++ rest) = run ⟨waiting, outer, .complete e⟩ rest
  | .word hw, s, waiting, outer, angle, hs, ls, hls, rest => by
    obtain ⟨l, rfl, hl⟩ := List.map_eq_singleton_iff.1 hls
    exact run_cons_of_step (.word hs hl hw) rest
  | .minus hne hdigits hn, s, waiting, outer, angle, hs, ls, hls, rest => by
    obtain ⟨l, ls, rfl, hl, htail⟩ := List.map_eq_cons_iff.1 hls
    obtain ⟨l', rfl, hl'⟩ := List.map_eq_singleton_iff.1 htail
    have hread := Integer.read?_minus_eq_some_iff.2 ⟨hne, hdigits, hn⟩
    exact (run_cons_of_step (.minus hs hl) _).trans (run_cons_of_step (.negative hl' hread) rest)
  | .parens h, s, waiting, outer, angle, hs, ls, hls, rest => by
    obtain ⟨l, ls, rfl, hl, htail⟩ := List.map_eq_cons_iff.1 hls
    obtain ⟨body, ls, rfl, hbody, hlast⟩ := List.map_eq_append_iff.1 htail
    obtain ⟨l', rfl, hl'⟩ := List.map_eq_singleton_iff.1 hlast
    obtain ⟨inner, last, hclose, hrun⟩ := run_derives h (.operand : Awaits _ [] (waiting :: outer) _)
      body hbody
    rw [List.cons_append, List.append_assoc, run_cons_of_step (.enter hs hl), hrun,
      List.singleton_append, run_cons_of_step (.leave hl'), hclose]
    rfl

theorem run_derives : Derives ts e → ∀ {s : ConditionState} {waiting : Pending}
    {outer : List Pending} {angle : Bool}, Awaits s waiting outer angle →
    ∀ ls : List Lexeme, ls.map (·.token) = ts → ∃ (waiting' : Pending) (last : Expr),
      waiting'.close last = waiting.close e ∧ ∀ rest : List Lexeme,
        s.run (ls ++ rest) = run ⟨waiting', outer, .complete last⟩ rest
  | .atom h, s, waiting, outer, angle, hs, ls, hls => ⟨waiting, _, rfl, run_atom h hs ls hls⟩
  | .binary hleft hop hright, s, waiting, outer, angle, hs, ls, hls => by
    obtain ⟨ls, right, rfl, hls, hmap⟩ := List.map_eq_append_iff.1 hls
    obtain ⟨left, ops, rfl, hmap', hmap''⟩ := List.map_eq_append_iff.1 hls
    obtain ⟨s', angle', hs', hrun⟩ := run_operator hop waiting outer _ hmap''
    obtain ⟨waiting', last, hclose, hrun'⟩ := run_derives hright hs' right hmap
    refine ⟨waiting', last, hclose, fun rest => ?_⟩
    rw [List.append_assoc, List.append_assoc, run_atom hleft hs left hmap', hrun, hrun']
end

theorem finish_eq_ok_iff {s : ConditionState} {n : Nat} {e : Expr} :
    s.finish n = .ok e ↔
      ∃ waiting last, s = ⟨waiting, [], .complete last⟩ ∧ waiting.close last = e := by
  obtain ⟨waiting, outer, place⟩ := s
  cases place with
  | complete last =>
    cases outer with
    | nil => simp [finish, and_assoc]
    | cons next outer => simp [finish]
  | operand | minus | angle | half => simp [finish]

end ConditionState

/-- The reader makes an expression of the tokens that derive it, wherever they stand. -/
theorem Expr.ofLexemes_eq_ok_iff {ls : List Lexeme} {n : Nat} {e : Expr} :
    ofLexemes ls n = .ok e ↔ Derives (ls.map (·.token)) e := by
  unfold ofLexemes
  constructor
  · intro h
    split at h
    · cases h
    · next s hrun =>
      have hstart : ReadsState [] ⟨[], [], .operand⟩ := .mk .nil .nil .operand
      have hend := hstart.run hrun
      obtain ⟨waiting, last, rfl, rfl⟩ := ConditionState.finish_eq_ok_iff.1 h
      rw [List.nil_append] at hend
      exact hend.derives
  · intro h
    obtain ⟨waiting, last, hclose, hrun⟩ := ConditionState.run_derives h .operand ls rfl
    have hend := hrun []
    rw [List.append_nil] at hend
    rw [hend]
    exact ConditionState.finish_eq_ok_iff.2 ⟨waiting, last, rfl, hclose⟩

/-- No tokens derive two expressions. -/
theorem ConditionGrammar.Derives.unique (h : Derives ts e) (h' : Derives ts e') : e = e' := by
  have hbare : (ts.map fun t => (⟨t, ⟨0, 0⟩⟩ : Lexeme)).map (·.token) = ts := by
    rw [List.map_map]
    exact List.map_id' ts
  rw [← hbare] at h h'
  have hread : Expr.ofLexemes _ 0 = .ok e := Expr.ofLexemes_eq_ok_iff.2 h
  have hread' : Expr.ofLexemes _ 0 = .ok e' := Expr.ofLexemes_eq_ok_iff.2 h'
  rw [hread] at hread'
  exact Except.ok.inj hread'

namespace Condition

theorem ofText_eq_ok_iff {text : String} {c : Condition} :
    ofText text = .ok c ↔
      c.source = text ∧ ∃ ls, lex text = .ok ls ∧ Derives (ls.map (·.token)) c.expr := by
  obtain ⟨source, expr⟩ := c
  unfold ofText
  constructor
  · intro h
    split at h
    · cases h
    · next ls hls =>
      split at h
      · cases h
      · next e he =>
        cases h
        exact ⟨rfl, ls, hls, Expr.ofLexemes_eq_ok_iff.1 he⟩
  · rintro ⟨rfl, ls, hls, hderives⟩
    simp only [hls, Expr.ofLexemes_eq_ok_iff.2 hderives]

/-- A text is a condition exactly when its tokens derive an expression. They derive no other, and
it is the one of the chain that they make, grouped to the right. -/
theorem ofText_grammar :
    (∀ text, (∃ c, ofText text = .ok c) ↔
      ∃ ls, lex text = .ok ls ∧ ∃ e, Derives (ls.map (·.token)) e) ∧
    (∀ text c, ofText text = .ok c ↔
      c.source = text ∧ ∃ ls, lex text = .ok ls ∧ Derives (ls.map (·.token)) c.expr) ∧
    (∀ ts, (∃ e, Derives ts e) ↔ ∃! e, Derives ts e) ∧
    ∀ ts e, Derives ts e ↔ ∃ links last, IsChain ts links last ∧ chained links last = e := by
  refine ⟨fun text => ?_, fun text c => ofText_eq_ok_iff, fun ts => ?_,
    fun ts e => derives_iff_chain⟩
  · constructor
    · rintro ⟨c, hc⟩
      obtain ⟨-, ls, hls, hderives⟩ := ofText_eq_ok_iff.1 hc
      exact ⟨ls, hls, c.expr, hderives⟩
    · rintro ⟨ls, hls, e, hderives⟩
      exact ⟨⟨text, e⟩, ofText_eq_ok_iff.2 ⟨rfl, ls, hls, hderives⟩⟩
  · constructor
    · rintro ⟨e, he⟩
      exact ⟨e, he, fun e' he' => he'.unique he⟩
    · rintro ⟨e, he, -⟩
      exact ⟨e, he⟩

end Condition

end StoryWorld
