import StoryWorld.Proofs.Condition.Reading
import StoryWorld.Proofs.Token.Ranges

/-!
# Where the condition reader stops

The reader runs over tokens exactly as long as they can be carried on to those of a condition, since
no state of it is a dead end (`ConditionState.exists_run_eq_complete`). So the error of a condition
stands at the first token that ends that, or at the end of the text. A minus sign that starts an
operand and becomes no literal takes the blame for what comes behind it (`Condition.ofText_faults`).
-/

namespace StoryWorld

namespace ConditionGrammar

/-! ## Where operands start -/

/-- Tokens behind which an operand starts. -/
inductive BeforeOperand : List Token → Prop
  | nil : BeforeOperand []
  | operator (h : BeforeOperand ts) (hleft : IsAtom us left) (hop : IsOperator vs op) :
    BeforeOperand (ts ++ us ++ vs)
  | paren (h : BeforeOperand ts) : BeforeOperand (ts ++ [.punct '('])

/-- Tokens that end in a minus sign where an operand starts. -/
inductive EndsInSign : List Token → Prop
  | minus (h : BeforeOperand ts) : EndsInSign (ts ++ [.punct '-'])

theorem BeforeOperand.append_waiting (h : BeforeOperand ts) (hwaiting : IsWaiting us waiting) :
    BeforeOperand (ts ++ us) := by
  induction hwaiting with
  | nil => rwa [List.append_nil]
  | cons _ hleft hop ih =>
    rw [← List.append_assoc, ← List.append_assoc]
    exact ih.operator hleft hop

theorem IsOutside.beforeOperand (h : IsOutside ts outer) : BeforeOperand ts := by
  induction h with
  | nil => exact .nil
  | cons _ hwaiting ih => exact (ih.append_waiting hwaiting).paren

/-- Where the reader awaits an operand, one starts. -/
theorem ReadsState.beforeOperand (hs : ReadsState ts s)
    (hawaits : ConditionState.Awaits s waiting outer angle) : BeforeOperand ts := by
  obtain ⟨os, ws, rfl, houter, hwaiting⟩ := hs.of_awaits hawaits
  exact houter.beforeOperand.append_waiting hwaiting

/-- Where an operand starts, the reader awaits one. -/
theorem BeforeOperand.exists_run (h : BeforeOperand ts) {ls : List Lexeme}
    (hls : ls.map (·.token) = ts) : ∃ s waiting outer angle,
      ConditionState.Awaits s waiting outer angle ∧
        ∀ rest, ConditionState.run ⟨[], [], .operand⟩ (ls ++ rest) = s.run rest := by
  induction h generalizing ls with
  | nil =>
    obtain rfl := List.map_eq_nil_iff.1 hls
    exact ⟨_, [], [], false, .operand, fun rest => rfl⟩
  | operator _ hleft hop ih =>
    obtain ⟨init, ops, rfl, hinit, hops⟩ := List.map_eq_append_iff.1 hls
    obtain ⟨init, left, rfl, hinit, hatom⟩ := List.map_eq_append_iff.1 hinit
    obtain ⟨s, waiting, outer, angle, hs, hrun⟩ := ih hinit
    obtain ⟨s', angle', hs', hrun'⟩ := ConditionState.run_operator hop waiting outer _ hops
    refine ⟨s', _, outer, angle', hs', fun rest => ?_⟩
    rw [List.append_assoc, List.append_assoc, hrun, ConditionState.run_atom hleft hs left hatom,
      hrun']
  | paren _ ih =>
    obtain ⟨init, opening, rfl, hinit, hopening⟩ := List.map_eq_append_iff.1 hls
    obtain ⟨l, rfl, hl⟩ := List.map_eq_singleton_iff.1 hopening
    obtain ⟨s, waiting, outer, angle, hs, hrun⟩ := ih hinit
    refine ⟨_, [], waiting :: outer, false, .operand, fun rest => ?_⟩
    rw [List.append_assoc, hrun, List.singleton_append,
      ConditionState.run_cons_of_step (.enter hs hl)]

end ConditionGrammar

open ConditionGrammar

namespace ConditionState

variable {s s' : ConditionState} {l : Lexeme} {ls : List Lexeme} {e : Unexpected}

/-! ## Runs that go on -/

theorem run_append (s : ConditionState) (ls ms : List Lexeme) :
    s.run (ls ++ ms) = (s.run ls).bind fun s' => s'.run ms := by
  induction ls generalizing s with
  | nil => rfl
  | cons l ls ih =>
    simp only [List.cons_append, run]
    cases s.step l with
    | error e => rfl
    | ok s' => exact ih s'

theorem run_concat (h : s.run ls = .ok s') (l : Lexeme) : s.run (ls ++ [l]) = s'.step l := by
  rw [run_append, h, Except.bind, run]
  cases s'.step l <;> rfl

/-- A run fails at the first lexeme that a step fails at. -/
theorem run_eq_error_iff : s.run ls = .error e ↔ ∃ pre l post s', ls = pre ++ l :: post ∧
    s.run pre = .ok s' ∧ s'.step l = .error e := by
  constructor
  · intro h
    induction ls generalizing s with
    | nil => cases h
    | cons l ls ih =>
      simp only [run] at h
      split at h
      · next s₁ hstep =>
        obtain ⟨pre, l', post, s', rfl, hrun, herror⟩ := ih h
        refine ⟨l :: pre, l', post, s', rfl, ?_, herror⟩
        rw [run_cons_of_step (step_eq_ok_iff.1 hstep), hrun]
      · next hstep =>
        cases h
        exact ⟨[], l, ls, s, rfl, rfl, hstep⟩
  · rintro ⟨pre, l, post, s', rfl, hrun, herror⟩
    rw [run_append, hrun, Except.bind, run, herror]

private def Completes (s : ConditionState) : Prop :=
  ∃ ls waiting last, s.run ls = .ok ⟨waiting, [], .complete last⟩

private theorem Completes.of_step (h : s'.Completes) (hstep : Step s l s') : s.Completes := by
  obtain ⟨ls, waiting, last, hrun⟩ := h
  exact ⟨l :: ls, waiting, last, (run_cons_of_step hstep ls).trans hrun⟩

private theorem completes_complete (waiting : Pending) (outer : List Pending) (last : Expr) :
    Completes ⟨waiting, outer, .complete last⟩ := by
  induction outer generalizing waiting last with
  | nil => exact ⟨[], waiting, last, rfl⟩
  | cons next outer ih => exact (ih ..).of_step (l := ⟨.punct ')', .point 0⟩) (.leave rfl)

private theorem completes_of_awaits {waiting : Pending} {outer : List Pending} {angle : Bool}
    (hs : Awaits s waiting outer angle) : s.Completes := by
  have hname : IsOperand "x" (.name "x") := isOperand_of_ofWord? rfl rfl
  exact (completes_complete ..).of_step (l := ⟨.word "x", .point 0⟩) (.word hs rfl hname)

/-- No state is a dead end. -/
theorem exists_run_eq_complete (s : ConditionState) :
    ∃ ls waiting last, s.run ls = .ok ⟨waiting, [], .complete last⟩ := by
  show s.Completes
  obtain ⟨waiting, outer, place⟩ := s
  cases place with
  | operand => exact completes_of_awaits .operand
  | minus span angle =>
    have hread : Integer.read? ("-" ++ "1") = some (-1) := by decide
    exact (completes_complete ..).of_step (l := ⟨.word "1", .point 0⟩) (.negative rfl hread)
  | complete last => exact completes_complete ..
  | angle left strict loose => exact completes_of_awaits .angle
  | half left op =>
    exact (completes_of_awaits .operand).of_step (l := ⟨.equals, .point 0⟩) (.half rfl)

/-! ## Blame -/

/-- Where the error stands if a state cannot go on at a span. -/
def blamed (s : ConditionState) (span : Span) : Span :=
  match s.place with
  | .minus sign _ => sign
  | _ => span

theorem span_of_readOperand_eq_error {waiting : Pending} {outer : List Pending} {angle : Bool}
    (h : readOperand waiting outer angle l = .error e) : e.span = l.span := by
  unfold readOperand at h
  split at h
  · split at h
    · cases h
      rfl
    · split at h
      · cases h
      · cases h
        rfl
  · cases h
  · cases h
  · cases h
    rfl

theorem span_of_readOperator_eq_error {waiting : Pending} {outer : List Pending} {left : Expr}
    (h : readOperator waiting outer left l = .error e) : e.span = l.span := by
  unfold readOperator at h
  split at h
  -- only a closing parenthesis, a word and any other token can be refused
  case h_9 =>
    split at h
    · cases h
      rfl
    · cases h
  case h_10 =>
    split at h
    · cases h
    · cases h
      rfl
  case h_11 =>
    cases h
    rfl
  all_goals cases h

theorem span_of_step_eq_error (h : s.step l = .error e) : e.span = s.blamed l.span := by
  obtain ⟨waiting, outer, place⟩ := s
  cases place with
  | operand => exact span_of_readOperand_eq_error h
  | minus span angle =>
    simp only [step] at h
    split at h
    · split at h
      · cases h
      · cases h
        rfl
    · cases h
      rfl
  | complete left => exact span_of_readOperator_eq_error h
  | angle left strict loose =>
    simp only [step] at h
    split at h
    · cases h
    · exact span_of_readOperand_eq_error h
  | half left op =>
    simp only [step] at h
    split at h
    · cases h
    · cases h
      rfl

theorem span_of_finish_eq_error {n : Nat} (h : s.finish n = .error e) :
    e.span = s.blamed (.point n) := by
  obtain ⟨waiting, outer, place⟩ := s
  cases place with
  | complete last =>
    simp only [finish] at h
    split at h
    · cases h
    · cases h
      rfl
  | operand | minus | angle | half =>
    cases h
    rfl

/-- A state either blames what it cannot go on with, or it is behind a sign and blames that. -/
theorem blamed_cases (h : run ⟨[], [], .operand⟩ ls = .ok s) :
    (¬ EndsInSign (ls.map (·.token)) ∧ ∀ span, s.blamed span = span) ∨
      ∃ init sign waiting outer angle, ls = init ++ [sign] ∧ sign.token = .punct '-' ∧
        BeforeOperand (init.map (·.token)) ∧ s = ⟨waiting, outer, .minus sign.span angle⟩ := by
  by_cases hplace : ∃ span angle, s.place = .minus span angle
  · right
    rcases List.eq_nil_or_concat ls with rfl | ⟨init, sign, rfl⟩
    · cases h
      simp at hplace
    · rw [List.concat_eq_append, run_append] at h
      cases hinit : run ⟨[], [], .operand⟩ init with
      | error e =>
        rw [hinit] at h
        cases h
      | ok s₁ =>
        rw [← run_append, run_concat hinit, step_eq_ok_iff] at h
        -- no other step leaves a sign open
        obtain ⟨span, angle, hplace⟩ := hplace
        cases h with
        | minus hs hl =>
          have hstart : ReadsState [] ⟨[], [], .operand⟩ := .mk .nil .nil .operand
          refine ⟨init, sign, _, _, _, List.concat_eq_append, hl, ?_, rfl⟩
          exact (hstart.run hinit).beforeOperand hs
        | word | enter | negative | leave | single | less | greater | equal | unequal | loosen
        | half => cases hplace
  · left
    constructor
    · intro hsign
      generalize hts : ls.map (·.token) = ts at hsign
      cases hsign with | minus hinit =>
      obtain ⟨init, ls, rfl, hmap, hlast⟩ := List.map_eq_append_iff.1 hts
      obtain ⟨sign, rfl, hl⟩ := List.map_eq_singleton_iff.1 hlast
      obtain ⟨s₁, waiting, outer, angle, hs₁, hrun⟩ := hinit.exists_run hmap
      rw [hrun, run_cons_of_step (.minus hs₁ hl)] at h
      cases h
      exact hplace ⟨_, _, rfl⟩
    · intro span
      obtain ⟨waiting, outer, place⟩ := s
      cases place with
      | minus sign angle => exact absurd ⟨sign, angle, rfl⟩ hplace
      | operand | complete | angle | half => rfl

/-- Behind a sign there may be what makes it a literal and nothing else. -/
theorem exists_step_minus_iff {waiting : Pending} {outer : List Pending} {sign : Span}
    {angle : Bool} : (∃ s', Step ⟨waiting, outer, .minus sign angle⟩ l s') ↔
      ∃ e, IsAtom [.punct '-', l.token] e := by
  constructor
  · rintro ⟨s', h⟩
    cases h with
    | negative hl hn =>
      obtain ⟨hne, hdigits, hn⟩ := Integer.read?_minus_eq_some_iff.1 hn
      rw [hl]
      exact ⟨_, .minus hne hdigits hn⟩
    | word hs | minus hs | enter hs => cases hs
  · rintro ⟨e, h⟩
    generalize ht : l.token = t at h
    cases h with
    | minus hne hdigits hn =>
      exact ⟨_, .negative ht (Integer.read?_minus_eq_some_iff.2 ⟨hne, hdigits, hn⟩)⟩

end ConditionState

namespace Expr

/-! ## Faults -/

/-- Whether lexemes can be carried on to those of an expression. -/
def Viable (ls : List Lexeme) : Prop := ∃ ms n e, ofLexemes (ls ++ ms) n = .ok e

theorem ofLexemes_eq (ls : List Lexeme) (n : Nat) :
    ofLexemes ls n = (ConditionState.run ⟨[], [], .operand⟩ ls).bind fun s => s.finish n := by
  unfold ofLexemes
  cases ConditionState.run ⟨[], [], .operand⟩ ls <;> rfl

theorem viable_iff {ls : List Lexeme} :
    Viable ls ↔ ∃ s, ConditionState.run ⟨[], [], .operand⟩ ls = .ok s := by
  constructor
  · rintro ⟨ms, n, e, h⟩
    rw [ofLexemes_eq, ConditionState.run_append] at h
    cases hrun : ConditionState.run ⟨[], [], .operand⟩ ls with
    | error e =>
      rw [hrun] at h
      cases h
    | ok s => exact ⟨s, rfl⟩
  · rintro ⟨s, hrun⟩
    obtain ⟨ms, waiting, last, hend⟩ := s.exists_run_eq_complete
    refine ⟨ms, 0, waiting.close last, ?_⟩
    rw [ofLexemes_eq, ConditionState.run_append, hrun]
    show (s.run ms).bind _ = _
    rw [hend]
    rfl

/-- Where the error of lexemes stands in a text that ends at byte `n`: at the first lexeme that ends
what can be carried on to an expression, or at the end of the text if there is no such lexeme, and
no expression either. But a minus sign where an operand starts stands for what is behind it, unless
the two of them are a literal. -/
inductive IsFault (ls : List Lexeme) (n : Nat) : Span → Prop
  | token {pre post : List Lexeme} {l : Lexeme} (hls : ls = pre ++ l :: post) (hpre : Viable pre)
      (hl : ¬ Viable (pre ++ [l])) (hsign : ¬ EndsInSign (pre.map (·.token))) : IsFault ls n l.span
  | endOfText (hls : Viable ls) (hnone : ∀ e, ofLexemes ls n ≠ .ok e)
      (hsign : ¬ EndsInSign (ls.map (·.token))) : IsFault ls n ⟨n, n⟩
  | sign {pre post : List Lexeme} {sign : Lexeme} (hls : ls = pre ++ sign :: post)
      (hpre : BeforeOperand (pre.map (·.token))) (hsign : sign.token = .punct '-')
      (hpost : ∀ l ∈ post.head?, ¬ ∃ e, IsAtom [sign.token, l.token] e) : IsFault ls n sign.span

theorem isFault_of_ofLexemes_eq_error {ls : List Lexeme} {n : Nat} {e : Unexpected}
    (h : ofLexemes ls n = .error e) : IsFault ls n e.span := by
  have hnone : ∀ e', ofLexemes ls n ≠ .ok e' := by
    intro e' he'
    rw [h] at he'
    cases he'
  rw [ofLexemes_eq] at h
  cases hrun : ConditionState.run ⟨[], [], .operand⟩ ls with
  | error e' =>
    rw [hrun] at h
    obtain rfl := Except.error.inj h
    obtain ⟨pre, l, post, s, rfl, hpre, hstep⟩ := ConditionState.run_eq_error_iff.1 hrun
    have hstuck : ¬ ∃ s', ConditionState.Step s l s' := by
      rintro ⟨s', hs'⟩
      rw [ConditionState.step_eq_ok_iff.2 hs'] at hstep
      cases hstep
    rw [ConditionState.span_of_step_eq_error hstep]
    rcases ConditionState.blamed_cases hpre with
      ⟨hsign, hblamed⟩ | ⟨init, sign, waiting, outer, angle, rfl, hl, hinit, rfl⟩
    · rw [hblamed]
      refine .token rfl (viable_iff.2 ⟨s, hpre⟩) ?_ hsign
      rw [viable_iff, ConditionState.run_concat hpre, hstep]
      simp
    · refine .sign (List.append_assoc ..) hinit hl ?_
      rw [ConditionState.exists_step_minus_iff] at hstuck
      simpa [hl] using hstuck
  | ok s =>
    rw [hrun] at h
    rw [ConditionState.span_of_finish_eq_error h]
    rcases ConditionState.blamed_cases hrun with
      ⟨hsign, hblamed⟩ | ⟨init, sign, waiting, outer, angle, rfl, hl, hinit, rfl⟩
    · rw [hblamed]
      exact .endOfText (viable_iff.2 ⟨s, hrun⟩) hnone hsign
    · exact .sign rfl hinit hl (by simp)

theorem IsFault.exists_ofLexemes_eq_error {ls : List Lexeme} {n : Nat} {span : Span}
    (h : IsFault ls n span) : ∃ e, ofLexemes ls n = .error e ∧ e.span = span := by
  cases h with
  | @token pre post l hls hpre hl hsign =>
    obtain ⟨s, hrun⟩ := viable_iff.1 hpre
    rw [viable_iff, ConditionState.run_concat hrun] at hl
    cases hstep : s.step l with
    | ok s' => exact absurd ⟨s', hstep⟩ hl
    | error e =>
      refine ⟨e, ?_, ?_⟩
      · rw [ofLexemes_eq, ConditionState.run_eq_error_iff.2 ⟨pre, l, post, s, hls, hrun, hstep⟩]
        rfl
      · rcases ConditionState.blamed_cases hrun with
          ⟨-, hblamed⟩ | ⟨init, sign, waiting, outer, angle, rfl, hl, hinit, -⟩
        · rw [ConditionState.span_of_step_eq_error hstep, hblamed]
        · rw [List.map_append, List.map_singleton, hl] at hsign
          exact absurd (.minus hinit) hsign
  | endOfText hls hnone hsign =>
    obtain ⟨s, hrun⟩ := viable_iff.1 hls
    rw [ofLexemes_eq, hrun] at hnone ⊢
    cases hfinish : s.finish n with
    | ok e => exact absurd hfinish (hnone e)
    | error e =>
      refine ⟨e, hfinish, ?_⟩
      rcases ConditionState.blamed_cases hrun with
        ⟨-, hblamed⟩ | ⟨init, sign, waiting, outer, angle, rfl, hl, hinit, -⟩
      · rw [ConditionState.span_of_finish_eq_error hfinish, hblamed]
        rfl
      · rw [List.map_append, List.map_singleton, hl] at hsign
        exact absurd (.minus hinit) hsign
  | @sign pre post sign hls hpre hsign hpost =>
    obtain ⟨s, waiting, outer, angle, hs, hrun⟩ := hpre.exists_run rfl
    have hend : ∀ rest, ConditionState.run ⟨[], [], .operand⟩ (pre ++ sign :: rest) =
        ConditionState.run ⟨waiting, outer, .minus sign.span angle⟩ rest := fun rest => by
      rw [hrun, ConditionState.run_cons_of_step (.minus hs hsign)]
    rw [ofLexemes_eq, hls, hend]
    cases post with
    | nil => exact ⟨_, rfl, rfl⟩
    | cons l post =>
      have hstuck : ¬ ∃ s', ConditionState.Step ⟨waiting, outer, .minus sign.span angle⟩ l s' := by
        rw [ConditionState.exists_step_minus_iff, ← hsign]
        exact hpost l rfl
      cases hstep : ConditionState.step ⟨waiting, outer, .minus sign.span angle⟩ l with
      | ok s' => exact absurd ⟨s', ConditionState.step_eq_ok_iff.1 hstep⟩ hstuck
      | error e =>
        refine ⟨e, ?_, ConditionState.span_of_step_eq_error hstep⟩
        rw [ConditionState.run, hstep]
        rfl

end Expr

namespace Condition

theorem ofText_eq_error_iff {text : String} {err : ConditionError} :
    ofText text = .error err ↔
      (∃ e, lex text = .error e ∧ err = ⟨text, .lex e⟩) ∨
        ∃ ls, lex text = .ok ls ∧ ∃ e, Expr.ofLexemes ls text.utf8ByteSize = .error e ∧
          err = ⟨text, .parse e⟩ := by
  unfold ofText
  cases lex text with
  | error e => simp [eq_comm]
  | ok ls =>
    dsimp only
    cases he : Expr.ofLexemes ls text.utf8ByteSize <;> simp [he, eq_comm]

theorem inText_of_isFault {text : String} {ls : List Lexeme} (hls : lex text = .ok ls) {span : Span}
    (h : Expr.IsFault ls text.utf8ByteSize span) : span.InText text := by
  obtain ⟨-, rfl⟩ := lex_eq_ok_iff.1 hls
  cases h with
  | token hls | sign hls => exact Lexing.inText_of_mem (by simp [hls])
  | endOfText => exact .point_end text

/-- The error of a text that is no condition stands where the text cannot be cut into tokens, or
else at the fault of its tokens. It is a range of the text. -/
theorem ofText_faults (text : String) :
    (∀ span, (∃ err, ofText text = .error err ∧ err.span = span) ↔
      (∃ e, lex text = .error e ∧ span = e.span) ∨
        ∃ ls, lex text = .ok ls ∧ Expr.IsFault ls text.utf8ByteSize span) ∧
      ∀ err, ofText text = .error err → err.span.InText text := by
  constructor
  · intro span
    constructor
    · rintro ⟨err, herr, rfl⟩
      rcases ofText_eq_error_iff.1 herr with ⟨e, he, rfl⟩ | ⟨ls, hls, e, he, rfl⟩
      · exact .inl ⟨e, he, rfl⟩
      · exact .inr ⟨ls, hls, Expr.isFault_of_ofLexemes_eq_error he⟩
    · rintro (⟨e, he, rfl⟩ | ⟨ls, hls, hfault⟩)
      · exact ⟨_, ofText_eq_error_iff.2 (.inl ⟨e, he, rfl⟩), rfl⟩
      · obtain ⟨e, he, hspan⟩ := hfault.exists_ofLexemes_eq_error
        exact ⟨_, ofText_eq_error_iff.2 (.inr ⟨ls, hls, e, he, rfl⟩), hspan⟩
  · intro err herr
    rcases ofText_eq_error_iff.1 herr with ⟨e, he, rfl⟩ | ⟨ls, hls, e, he, rfl⟩
    · exact Lexing.inText_of_error (lex_eq_error_iff.1 he)
    · exact inText_of_isFault hls (Expr.isFault_of_ofLexemes_eq_error he)

/-- The sign before `b` takes the blame, since `-b` is no literal. -/
theorem ofText_faults_sign : ∃ err, ofText "a < -b" = .error err ∧ err.span = ⟨4, 5⟩ ∧
    err.span.InText "a < -b" := by
  let ls : List Lexeme :=
    [⟨.word "a", ⟨0, 1⟩⟩, ⟨.punct '<', ⟨2, 3⟩⟩, ⟨.punct '-', ⟨4, 5⟩⟩, ⟨.word "b", ⟨5, 6⟩⟩]
  have hlex : lex "a < -b" = .ok ls := rfl
  have hls : ls = ls.take 2 ++ ⟨.punct '-', ⟨4, 5⟩⟩ :: ls.drop 3 := rfl
  have hname : IsOperand "a" (.name "a") :=
    .name (fun h => absurd (h 'a' (by decide)) (by decide)) rfl rfl (by decide)
  have hbefore : BeforeOperand [.word "a", .punct '<'] := .operator .nil (.word hname) .lt
  have hliteral : ¬∃ e, IsAtom [.punct '-', .word "b"] e := by
    rintro ⟨e, hatom⟩
    generalize hts : [Token.punct '-', Token.word "b"] = ts at hatom
    cases hatom with
    | word | parens => cases hts
    | minus hne hdigits hn =>
      cases hts
      exact absurd (hdigits 'b' (by decide)) (by decide)
  have hfault : Expr.IsFault ls "a < -b".utf8ByteSize ⟨4, 5⟩ := .sign hls hbefore rfl fun l hl => by
    obtain rfl : (⟨.word "b", ⟨5, 6⟩⟩ : Lexeme) = l := Option.some.inj hl
    exact hliteral
  obtain ⟨herror, hinText⟩ := ofText_faults "a < -b"
  obtain ⟨err, herr, hspan⟩ := (herror ⟨4, 5⟩).2 (.inr ⟨_, hlex, hfault⟩)
  exact ⟨err, herr, hspan, hinText err herr⟩

end Condition

end StoryWorld
