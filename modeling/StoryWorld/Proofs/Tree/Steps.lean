import StoryWorld.Tree.Reader

/-! The steps of the tree reader, one rule for each thing that a token can do. Later proofs go by
cases on `TreeState.Step` and do not open `TreeState.step?`. -/

namespace StoryWorld

namespace Token

theorem text_of_fragment? {t : Token} {text : String} (h : t.fragment? = some text) :
    text = t.text := by
  unfold fragment? at h
  split at h
  · cases h
  · exact (Option.some.inj h).symm

theorem not_delimiter_of_fragment? {t : Token} {text : String} (h : t.fragment? = some text) :
    t ≠ openBrace ∧ t ≠ closeBrace ∧ t ≠ comma := by
  unfold fragment? at h
  split at h
  · cases h
  · next hd => simpa only [not_or] using hd

end Token

namespace TreeState

/-- What a token does in a state. -/
inductive Step : TreeState → Lexeme → TreeState → Prop
  | name {objects l text} : l.token.fragment? = some text →
    Step (top objects) l (named objects text l.span)
  | enter {objects name nameSpan l} : l.token = .openBrace →
    Step (named objects name nameSpan) l (inside objects ⟨name, nameSpan, []⟩ [] .start)
  | leave {objects inner outer l} : l.token = .closeBrace →
    Step (inside objects inner outer .start) l (close objects inner outer l.span)
  | head {objects inner outer l text} : l.token.fragment? = some text →
    Step (inside objects inner outer .start) l (inside objects inner outer (.headed text l.span))
  | nest {objects inner outer text first l} : l.token = .openBrace →
    Step (inside objects inner outer (.headed text first)) l
      (inside objects ⟨text, first, []⟩ (inner :: outer) .start)
  | assign {objects inner outer text first l} : l.token = .equals →
    Step (inside objects inner outer (.headed text first)) l
      (inside objects inner outer (.value text "" first))
  | endHead {objects inner outer text first l} : l.token = .comma →
    Step (inside objects inner outer (.headed text first)) l
      (inside objects (inner.add (.item text (first.through l.span))) outer .start)
  | moreHead {objects inner outer text first l more} : l.token ≠ .equals →
    l.token.fragment? = some more →
    Step (inside objects inner outer (.headed text first)) l
      (inside objects inner outer (.item (text ++ more) first))
  | endItem {objects inner outer text first l} : l.token = .comma →
    Step (inside objects inner outer (.item text first)) l
      (inside objects (inner.add (.item text (first.through l.span))) outer .start)
  | moreItem {objects inner outer text first l more} : l.token.fragment? = some more →
    Step (inside objects inner outer (.item text first)) l
      (inside objects inner outer (.item (text ++ more) first))
  | endValue {objects inner outer key text first l} : l.token = .comma →
    Step (inside objects inner outer (.value key text first)) l
      (inside objects (inner.add (.assignment key text (first.through l.span))) outer .start)
  | moreValue {objects inner outer key text first l more} : l.token.fragment? = some more →
    Step (inside objects inner outer (.value key text first)) l
      (inside objects inner outer (.value key (text ++ more) first))
  | endNested {objects inner outer l} : l.token = .comma →
    Step (inside objects inner outer .closed) l (inside objects inner outer .start)

private theorem step_of_step? {s s' : TreeState} {l : Lexeme} (h : s.step? l = some s') :
    Step s l s' := by
  cases s with
  | top objects =>
    obtain ⟨text, ht, rfl⟩ := Option.map_eq_some_iff.1 h
    exact .name ht
  | named objects name nameSpan =>
    simp only [step?] at h
    split at h
    · next ht => cases h; exact .enter ht
    · cases h
  | inside objects inner outer member =>
    cases member with
    | start =>
      simp only [step?] at h
      split at h
      · next ht => cases h; exact .leave ht
      · obtain ⟨text, ht, rfl⟩ := Option.map_eq_some_iff.1 h
        exact .head ht
    | headed text first =>
      simp only [step?] at h
      split at h
      · next ht => cases h; exact .nest ht
      · next ht => cases h; exact .assign ht
      · next ht => cases h; exact .endHead ht
      · next _ hne _ =>
        obtain ⟨more, ht, rfl⟩ := Option.map_eq_some_iff.1 h
        exact .moreHead hne ht
    | item text first =>
      simp only [step?] at h
      split at h
      · next ht => cases h; exact .endItem ht
      · obtain ⟨more, ht, rfl⟩ := Option.map_eq_some_iff.1 h
        exact .moreItem ht
    | value key text first =>
      simp only [step?] at h
      split at h
      · next ht => cases h; exact .endValue ht
      · obtain ⟨more, ht, rfl⟩ := Option.map_eq_some_iff.1 h
        exact .moreValue ht
    | closed =>
      simp only [step?] at h
      split at h
      · next ht => cases h; exact .endNested ht
      · cases h

private theorem step?_of_step {s s' : TreeState} {l : Lexeme} (h : Step s l s') :
    s.step? l = some s' := by
  cases h with
  | name ht => simp [step?, ht]
  | enter ht | leave ht | nest ht | assign ht | endHead ht | endItem ht | endValue ht
  | endNested ht => simp only [step?, ht]; rfl
  | head ht =>
    obtain ⟨-, hclose, -⟩ := Token.not_delimiter_of_fragment? ht
    simp only [step?]
    split
    · next hd => exact absurd hd hclose
    · simp [ht]
  | moreHead hne ht =>
    obtain ⟨hopen, -, hcomma⟩ := Token.not_delimiter_of_fragment? ht
    simp only [step?]
    split
    · next hd => exact absurd hd hopen
    · next hd => exact absurd hd hne
    · next hd => exact absurd hd hcomma
    · simp [ht]
  | moreItem ht | moreValue ht =>
    obtain ⟨-, -, hcomma⟩ := Token.not_delimiter_of_fragment? ht
    simp only [step?]
    split
    · next hd => exact absurd hd hcomma
    · simp [ht]

/-- The reader's steps are these and no others. -/
theorem step?_eq_some_iff {s s' : TreeState} {l : Lexeme} : s.step? l = some s' ↔ Step s l s' :=
  ⟨step_of_step?, step?_of_step⟩

/-! ## Runs -/

theorem run_cons_of_step {s s' : TreeState} {l : Lexeme} (h : Step s l s') (ls : List Lexeme) :
    s.run (l :: ls) = s'.run ls := by
  simp only [run, step?_eq_some_iff.2 h]

/-- What the steps preserve holds wherever a run ends. -/
theorem run_induction {motive : TreeState → Prop} {ls : List Lexeme} {s s' : TreeState}
    (step : ∀ {s s' : TreeState} {l : Lexeme}, l ∈ ls → Step s l s' → motive s → motive s')
    (h : s.run ls = .ok s') (hs : motive s) : motive s' := by
  induction ls generalizing s with
  | nil => cases h; exact hs
  | cons l ls ih =>
    simp only [run] at h
    split at h
    · next s₁ hstep =>
      exact ih (fun hl => step (List.mem_cons_of_mem _ hl)) h
        (step List.mem_cons_self (step?_eq_some_iff.1 hstep) hs)
    · cases h

end TreeState

namespace SourceTree

/-- A tree is read when the run over its tokens ends between objects. -/
theorem ofLexemes_eq_ok_iff {ls : List Lexeme} {t : SourceTree} :
    ofLexemes ls = .ok t ↔ (TreeState.top []).run ls = .ok (.top t.objects) := by
  unfold ofLexemes
  split
  · next hrun => simp [hrun]
  · next s hrun =>
    rw [hrun]
    cases s with
    | top objects =>
      cases t
      simp [TreeState.finish]
    | named | inside => simp [TreeState.finish]

theorem ofLexing_eq_ok_iff {x : Lexing} {t : SourceTree} :
    ofLexing x = .ok t ↔ ∃ ls, x.result = .ok ls ∧ ofLexemes ls = .ok t := by
  unfold ofLexing
  cases x.result with
  | error e => simp
  | ok ls =>
    dsimp only
    cases h : ofLexemes ls <;> simp [h]

theorem ofText_eq_ok_iff {text : String} {t : SourceTree} :
    ofText text = .ok t ↔
      (Lexing.ofText text).error = none ∧ ofLexemes (Lexing.ofText text).lexemes = .ok t := by
  unfold ofText ofLexing Lexing.result
  cases (Lexing.ofText text).error with
  | some e => simp
  | none =>
    dsimp only
    cases ofLexemes (Lexing.ofText text).lexemes <;> simp

end SourceTree

end StoryWorld
