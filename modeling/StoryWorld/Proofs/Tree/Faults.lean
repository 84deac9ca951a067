import Mathlib.Data.List.Basic
import StoryWorld.Proofs.Tree.Reading

/-!
# Where the tree reader stops

No state of the reader is a dead end (`TreeState.exists_run_eq_top`), so the reader runs over
lexemes exactly as long as they can be carried on to those of a tree, and the one error of a refused
list stands where that is over (`SourceTree.ofLexemes_faults`). What the error expects there depends
on the place, and a place is known by the grammar of what stands before it (`standsBefore_iff`).
-/

namespace StoryWorld

/-- Whether a token is among those that an expectation stands for in a tree. -/
def Expectation.Admits : Expectation → Token → Prop
  | text, t => t.IsFragment
  | openBrace, t => t = .openBrace
  | closeBrace, t => t = .closeBrace
  | equals, t => t = .equals
  | comma, t => t = .comma
  | endOfInput, _ | closeParen, _ | operand, _ | operator, _ => False

namespace TreeGrammar

/-! ## Places -/

/-- The places between the tokens of a tree, by what may come next. -/
inductive Place
  | object
  | opening
  | member
  | second
  | more
  | ending
  deriving DecidableEq, Repr

namespace Place

/-- What may come next. -/
def expected : Place → List Expectation
  | object => [.text, .endOfInput]
  | opening => [.openBrace]
  | member => [.text, .closeBrace]
  | second => [.openBrace, .equals, .text, .comma]
  | more => [.text, .comma]
  | ending => [.comma]

/-- How messages word it. -/
def wording : Place → String
  | object => "text, or end of input"
  | opening => "'\x7b'"
  | member => "text, or '\x7d'"
  | second => "'\x7b', '=', text, or ','"
  | more => "text, or ','"
  | ending => "','"

theorem listAlternatives_expected (place : Place) :
    listAlternatives (place.expected.map (·.shown)) = place.wording := by
  cases place <;> rfl

end Place

/-- Tokens behind which a member may start. -/
inductive IsInside : List Token → Prop
  | outermost (hfile : IsFile ts) (hname : name.IsFragment) (hbody : IsMembers us) :
    IsInside (ts ++ name :: .openBrace :: us)
  | nested (houter : IsInside ts) (hname : name.IsFragment) (hbody : IsMembers us) :
    IsInside (ts ++ name :: .openBrace :: us)

/-- Tokens that stand before a place: between objects, behind the name of one, and inside of
containers before a member, behind its first fragment, behind more fragments of it or behind a
container that is one. -/
inductive StandsBefore : List Token → Place → Prop
  | object (h : IsFile ts) : StandsBefore ts .object
  | opening (h : IsFile ts) (hname : name.IsFragment) : StandsBefore (ts ++ [name]) .opening
  | member (h : IsInside ts) : StandsBefore ts .member
  | second (h : IsInside ts) (hhead : head.IsFragment) : StandsBefore (ts ++ [head]) .second
  | more (h : IsInside ts) (hhead : head.IsFragment)
      (hrest : ∀ t ∈ another :: us, t.IsFragment) :
    StandsBefore (ts ++ head :: another :: us) .more
  | ending (h : IsInside ts) (hobject : IsObject us) : StandsBefore (ts ++ us) .ending

end TreeGrammar

open TreeGrammar

namespace TreeState

/-- The place of a state. -/
def place : TreeState → Place
  | top _ => .object
  | named .. => .opening
  | inside _ _ _ .start => .member
  | inside _ _ _ (.headed ..) => .second
  | inside _ _ _ (.item ..) => .more
  | inside _ _ _ (.value ..) => .more
  | inside _ _ _ .closed => .ending

theorem expected_eq (s : TreeState) : s.expected = s.place.expected := by
  cases s with
  | top | named => rfl
  | inside _ _ _ member => cases member <;> rfl

variable {s : TreeState} {l : Lexeme}

/-- What is expected in a state are the tokens that a step can be made on. -/
theorem exists_step_iff :
    (∃ s', Step s l s') ↔ ∃ x ∈ s.place.expected, x.Admits l.token := by
  constructor
  · rintro ⟨s', h⟩
    cases h with
    | name ht | head ht | moreHead _ ht | moreItem ht | moreValue ht =>
      exact ⟨.text, by simp [place, Place.expected], (Token.fragment?_eq_some_iff.1 ht).1⟩
    | enter hl | nest hl => exact ⟨.openBrace, by simp [place, Place.expected], hl⟩
    | leave hl => exact ⟨.closeBrace, by simp [place, Place.expected], hl⟩
    | assign hl => exact ⟨.equals, by simp [place, Place.expected], hl⟩
    | endHead hl | endItem hl | endValue hl | endNested hl =>
      exact ⟨.comma, by simp [place, Place.expected], hl⟩
  · rintro ⟨x, hx, hl⟩
    cases s with
    | top objects =>
      rcases List.mem_pair.1 hx with rfl | rfl
      · exact ⟨_, .name hl.fragment?_eq⟩
      · exact absurd hl id
    | named objects name nameSpan =>
      obtain rfl := List.mem_singleton.1 hx
      exact ⟨_, .enter hl⟩
    | inside objects inner outer member =>
      cases member with
      | start =>
        rcases List.mem_pair.1 hx with rfl | rfl
        · exact ⟨_, .head hl.fragment?_eq⟩
        · exact ⟨_, .leave hl⟩
      | headed text first =>
        -- an equals sign is a fragment too, but makes an assignment
        by_cases hequals : l.token = .equals
        · exact ⟨_, .assign hequals⟩
        simp only [place, Place.expected, List.mem_cons, List.not_mem_nil, or_false] at hx
        rcases hx with rfl | rfl | rfl | rfl
        · exact ⟨_, .nest hl⟩
        · exact absurd hl hequals
        · exact ⟨_, .moreHead hequals hl.fragment?_eq⟩
        · exact ⟨_, .endHead hl⟩
      | item text first =>
        rcases List.mem_pair.1 hx with rfl | rfl
        · exact ⟨_, .moreItem hl.fragment?_eq⟩
        · exact ⟨_, .endItem hl⟩
      | value key text first =>
        rcases List.mem_pair.1 hx with rfl | rfl
        · exact ⟨_, .moreValue hl.fragment?_eq⟩
        · exact ⟨_, .endValue hl⟩
      | closed =>
        obtain rfl := List.mem_singleton.1 hx
        exact ⟨_, .endNested hl⟩

theorem endOfInput_mem_expected_iff {s : TreeState} :
    .endOfInput ∈ s.place.expected ↔ ∃ objects, s = top objects := by
  cases s with
  | top | named => simp [place, Place.expected]
  | inside _ _ _ member => cases member <;> simp [place, Place.expected]

/-! ## Runs that go on -/

theorem run_append (s : TreeState) (ls ms : List Lexeme) :
    s.run (ls ++ ms) = (s.run ls).bind fun s' => s'.run ms := by
  induction ls generalizing s with
  | nil => rfl
  | cons l ls ih =>
    simp only [List.cons_append, run]
    cases s.step? l with
    | none => rfl
    | some s' => exact ih s'

theorem run_concat_eq_ok_iff {s s' : TreeState} {ls : List Lexeme} (h : s.run ls = .ok s')
    {l : Lexeme} : (∃ s'', s.run (ls ++ [l]) = .ok s'') ↔ ∃ s'', Step s' l s'' := by
  rw [run_append, h, Except.bind, run]
  simp only [← step?_eq_some_iff]
  cases s'.step? l <;> simp [run]

/-- A run fails at the first lexeme that no step is made on. -/
theorem run_eq_error_iff {s : TreeState} {ls : List Lexeme} {e : Unexpected} :
    s.run ls = .error e ↔ ∃ pre l post s', ls = pre ++ l :: post ∧ s.run pre = .ok s' ∧
      (¬ ∃ s'', Step s' l s'') ∧ e = .token l s'.expected := by
  constructor
  · intro h
    induction ls generalizing s with
    | nil => cases h
    | cons l ls ih =>
      simp only [run] at h
      split at h
      · next s₁ hstep =>
        obtain ⟨pre, l', post, s', rfl, hrun, hstuck, rfl⟩ := ih h
        refine ⟨l :: pre, l', post, s', rfl, ?_, hstuck, rfl⟩
        rw [run_cons_of_step (step?_eq_some_iff.1 hstep), hrun]
      · next hstep =>
        cases h
        refine ⟨[], l, ls, s, rfl, rfl, ?_, rfl⟩
        rintro ⟨s'', hs''⟩
        rw [step?_eq_some_iff.2 hs''] at hstep
        cases hstep
  · rintro ⟨pre, l, post, s', rfl, hrun, hstuck, rfl⟩
    have hstep : s'.step? l = none := by
      rw [Option.eq_none_iff_forall_ne_some]
      intro s'' hs''
      exact hstuck ⟨s'', step?_eq_some_iff.1 hs''⟩
    rw [run_append, hrun, Except.bind, run, hstep]

private def Completes (s : TreeState) : Prop := ∃ ls objects, s.run ls = .ok (top objects)

private theorem Completes.of_step {s s' : TreeState} {l : Lexeme} (h : s'.Completes)
    (hstep : Step s l s') : s.Completes := by
  obtain ⟨ls, objects, hrun⟩ := h
  exact ⟨l :: ls, objects, (run_cons_of_step hstep ls).trans hrun⟩

private theorem completes_start (objects : List Container) (inner : OpenContainer)
    (outer : List OpenContainer) : (inside objects inner outer .start).Completes := by
  have hleave : Step (inside objects inner outer .start) ⟨.closeBrace, .point 0⟩
      (close objects inner outer (.point 0)) := .leave rfl
  induction outer generalizing inner with
  | nil => exact Completes.of_step ⟨[], _, rfl⟩ hleave
  | cons next outer ih =>
    have hend : Step (close objects inner (next :: outer) (.point 0)) ⟨.comma, .point 0⟩ _ :=
      .endNested rfl
    exact ((ih _ (.leave rfl)).of_step hend).of_step hleave

/-- No state is a dead end. -/
theorem exists_run_eq_top (s : TreeState) : ∃ ls objects, s.run ls = .ok (top objects) := by
  show s.Completes
  cases s with
  | top objects => exact ⟨[], objects, rfl⟩
  | named objects name nameSpan =>
    exact (completes_start ..).of_step (l := ⟨.openBrace, .point 0⟩) (.enter rfl)
  | inside objects inner outer member =>
    cases member with
    | start => exact completes_start ..
    | headed text first =>
      exact (completes_start ..).of_step (l := ⟨.comma, .point 0⟩) (.endHead rfl)
    | item text first =>
      exact (completes_start ..).of_step (l := ⟨.comma, .point 0⟩) (.endItem rfl)
    | value key text first =>
      exact (completes_start ..).of_step (l := ⟨.comma, .point 0⟩) (.endValue rfl)
    | closed => exact (completes_start ..).of_step (l := ⟨.comma, .point 0⟩) (.endNested rfl)

end TreeState

/-! ## Places and states -/

namespace TreeGrammar

theorem OpensContainers.isInside {inner : OpenContainer} (hobjects : ReadsObjects ls objects)
    (houter : OpensContainers os outer) (hinner : OpensContainer is inner) :
    IsInside ((ls ++ os ++ is).map (·.token)) := by
  induction houter generalizing is inner with
  | nil =>
    cases hinner with | braces hname hopening hbody =>
    simpa [hopening] using IsInside.outermost hobjects.isFile hname hbody.isMembers
  | cons _ hnext ih =>
    cases hinner with | braces hname hopening hbody =>
    simpa [hopening] using (ih hnext).nested hname hbody.isMembers

theorem ReadsState.standsBefore (h : ReadsState ls s) :
    StandsBefore (ls.map (·.token)) s.place := by
  cases h with
  | top hobjects => exact .object hobjects.isFile
  | named hobjects hname =>
    rw [List.map_append]
    exact .opening hobjects.isFile hname
  | inside hobjects houter hinner hmember =>
    have hinside := houter.isInside hobjects hinner
    rw [List.map_append]
    cases hmember with
    | start =>
      rw [List.map_nil, List.append_nil]
      exact .member hinside
    | headed hhead => exact .second hinside hhead
    | item hhead _ hrest => exact .more hinside hhead (List.forall_mem_map.2 hrest)
    | value hkey hequals hvalue =>
      rw [List.map_cons, List.map_cons, hequals]
      exact .more hinside hkey
        (List.forall_mem_cons.2 ⟨Token.isFragment_equals, List.forall_mem_map.2 hvalue⟩)
  | closed hobjects houter hinner hnested =>
    have hinside := houter.isInside hobjects hinner
    rw [List.map_append]
    exact .ending hinside hnested.isObject

theorem IsFile.exists_run (h : IsFile ts) {ls : List Lexeme} (hls : ls.map (·.token) = ts) :
    ∃ objects, ∀ rest, (TreeState.top []).run (ls ++ rest) = (TreeState.top objects).run rest := by
  obtain ⟨objects, hreads⟩ := h.exists_reads hls
  exact ⟨objects, fun rest => TreeState.run_readsObjects hreads [] rest⟩

/-- A container may be opened where an object or a member starts. -/
theorem exists_run_opening {s : TreeState} (hs : s.place = .object ∨ s.place = .member)
    (hname : name.IsFragment) (hbody : IsMembers us) {ls : List Lexeme}
    (hls : ls.map (·.token) = name :: .openBrace :: us) :
    ∃ objects inner outer, ∀ rest,
      s.run (ls ++ rest) = (TreeState.inside objects inner outer .start).run rest := by
  obtain ⟨name, ls, rfl, rfl, htail⟩ := List.map_eq_cons_iff.1 hls
  obtain ⟨opening, body, rfl, hopening, hmap⟩ := List.map_eq_cons_iff.1 htail
  obtain ⟨members, hmembers⟩ := hbody.exists_reads body hmap
  cases s with
  | top objects =>
    refine ⟨objects, ⟨name.token.text, name.span, members⟩, [], fun rest => ?_⟩
    rw [List.cons_append, List.cons_append, TreeState.run_cons_of_step (.name hname.fragment?_eq),
      TreeState.run_cons_of_step (.enter hopening), TreeState.run_readsMembers hmembers]
    rfl
  | named => simp [TreeState.place] at hs
  | inside objects inner outer member =>
    cases member with
    | start =>
      refine ⟨objects, ⟨name.token.text, name.span, members⟩, inner :: outer, fun rest => ?_⟩
      rw [List.cons_append, List.cons_append, TreeState.run_cons_of_step (.head hname.fragment?_eq),
        TreeState.run_cons_of_step (.nest hopening), TreeState.run_readsMembers hmembers]
      rfl
    | headed | item | value | closed => simp [TreeState.place] at hs

theorem IsInside.exists_run (h : IsInside ts) {ls : List Lexeme} (hls : ls.map (·.token) = ts) :
    ∃ objects inner outer, ∀ rest, (TreeState.top []).run (ls ++ rest) =
      (TreeState.inside objects inner outer .start).run rest := by
  induction h generalizing ls with
  | outermost hfile hname hbody =>
    obtain ⟨file, container, rfl, hmap, hmap'⟩ := List.map_eq_append_iff.1 hls
    obtain ⟨objects, hrun⟩ := hfile.exists_run hmap
    obtain ⟨objects', inner, outer, hrun'⟩ := exists_run_opening
      (s := .top objects) (.inl rfl) hname hbody hmap'
    exact ⟨objects', inner, outer, fun rest => by rw [List.append_assoc, hrun, hrun']⟩
  | nested _ hname hbody ih =>
    obtain ⟨outside, container, rfl, hmap, hmap'⟩ := List.map_eq_append_iff.1 hls
    obtain ⟨objects, inner, outer, hrun⟩ := ih hmap
    obtain ⟨objects', inner', outer', hrun'⟩ := exists_run_opening
      (s := .inside objects inner outer .start) (.inr rfl) hname hbody hmap'
    exact ⟨objects', inner', outer', fun rest => by rw [List.append_assoc, hrun, hrun']⟩

theorem StandsBefore.exists_run (h : StandsBefore ts place) {ls : List Lexeme}
    (hls : ls.map (·.token) = ts) : ∃ s, (TreeState.top []).run ls = .ok s ∧ s.place = place := by
  rw [← List.append_nil ls]
  cases h with
  | object h =>
    obtain ⟨objects, hrun⟩ := h.exists_run hls
    exact ⟨_, hrun [], rfl⟩
  | opening h hname =>
    obtain ⟨file, ls, rfl, hmap, htail⟩ := List.map_eq_append_iff.1 hls
    obtain ⟨name, rfl, rfl⟩ := List.map_eq_singleton_iff.1 htail
    obtain ⟨objects, hrun⟩ := h.exists_run hmap
    rw [List.append_assoc, hrun, List.singleton_append,
      TreeState.run_cons_of_step (.name hname.fragment?_eq)]
    exact ⟨_, rfl, rfl⟩
  | member h =>
    obtain ⟨objects, inner, outer, hrun⟩ := h.exists_run hls
    exact ⟨_, hrun [], rfl⟩
  | second h hhead =>
    obtain ⟨outside, ls, rfl, hmap, htail⟩ := List.map_eq_append_iff.1 hls
    obtain ⟨head, rfl, rfl⟩ := List.map_eq_singleton_iff.1 htail
    obtain ⟨objects, inner, outer, hrun⟩ := h.exists_run hmap
    rw [List.append_assoc, hrun, List.singleton_append,
      TreeState.run_cons_of_step (.head hhead.fragment?_eq)]
    exact ⟨_, rfl, rfl⟩
  | more h hhead hrest =>
    obtain ⟨outside, ls, rfl, hmap, htail⟩ := List.map_eq_append_iff.1 hls
    obtain ⟨head, ls, rfl, rfl, hrest'⟩ := List.map_eq_cons_iff.1 htail
    obtain ⟨another, rest, rfl, rfl, rfl⟩ := List.map_eq_cons_iff.1 hrest'
    obtain ⟨objects, inner, outer, hrun⟩ := h.exists_run hmap
    obtain ⟨hanother, hrest⟩ := List.forall_mem_cons.1 hrest
    rw [List.append_assoc, hrun, List.cons_append, List.cons_append,
      TreeState.run_cons_of_step (.head hhead.fragment?_eq)]
    by_cases hequals : another.token = .equals
    · rw [TreeState.run_cons_of_step (.assign hequals),
        TreeState.run_value (List.forall_mem_map.1 hrest)]
      exact ⟨_, rfl, rfl⟩
    · rw [TreeState.run_cons_of_step
          (.moreHead hequals hanother.fragment?_eq),
        TreeState.run_item (List.forall_mem_map.1 hrest)]
      exact ⟨_, rfl, rfl⟩
  | ending h hobject =>
    obtain ⟨outside, object, rfl, hmap, hmap'⟩ := List.map_eq_append_iff.1 hls
    obtain ⟨objects, inner, outer, hrun⟩ := h.exists_run hmap
    obtain ⟨c, hc⟩ := hobject.exists_reads object hmap'
    rw [List.append_assoc, hrun, TreeState.run_readsObject hc]
    exact ⟨_, rfl, rfl⟩

/-- A place is where the reader is behind the tokens that stand before it. -/
theorem standsBefore_iff {ls : List Lexeme} :
    StandsBefore (ls.map (·.token)) place ↔
      ∃ s, (TreeState.top []).run ls = .ok s ∧ s.place = place := by
  constructor
  · intro h
    exact h.exists_run rfl
  · rintro ⟨s, hrun, rfl⟩
    have hstart : ReadsState [] (.top []) := .top .nil
    exact (hstart.run hrun).standsBefore

end TreeGrammar

namespace SourceTree

/-! ## Faults -/

/-- Whether lexemes can be carried on to those of a tree. -/
def Viable (ls : List Lexeme) : Prop := ∃ ms t, ofLexemes (ls ++ ms) = .ok t

theorem viable_iff {ls : List Lexeme} : Viable ls ↔ ∃ s, (TreeState.top []).run ls = .ok s := by
  constructor
  · rintro ⟨ms, t, h⟩
    rw [ofLexemes_eq_ok_iff, TreeState.run_append] at h
    cases hrun : (TreeState.top []).run ls with
    | error e =>
      rw [hrun] at h
      cases h
    | ok s => exact ⟨s, rfl⟩
  · rintro ⟨s, hrun⟩
    obtain ⟨ms, objects, hend⟩ := s.exists_run_eq_top
    refine ⟨ms, ⟨objects⟩, ?_⟩
    rw [ofLexemes_eq_ok_iff, TreeState.run_append, hrun]
    exact hend

/-- The errors of lexemes: there is one at the first lexeme that ends what can be carried on to a
tree, and one behind the last if there is no such lexeme and no tree either. -/
inductive IsFault (ls : List Lexeme) : Unexpected → Prop
  | token {pre post : List Lexeme} {l : Lexeme} {place : Place} (hls : ls = pre ++ l :: post)
      (hpre : Viable pre) (hl : ¬ Viable (pre ++ [l]))
      (hplace : StandsBefore (pre.map (·.token)) place) :
    IsFault ls ⟨l.span, some l.token, place.expected⟩
  | endOfInput {last : Lexeme} {place : Place} (hlast : ls.getLast? = some last)
      (hls : Viable ls) (hnone : ∀ t, ofLexemes ls ≠ .ok t)
      (hplace : StandsBefore (ls.map (·.token)) place) :
    IsFault ls ⟨⟨last.span.stop, last.span.stop⟩, none, place.expected⟩

theorem isFault_of_ofLexemes_eq_error {ls : List Lexeme} {e : Unexpected}
    (h : ofLexemes ls = .error e) : IsFault ls e := by
  have hnone : ∀ t, ofLexemes ls ≠ .ok t := by
    intro t ht
    rw [h] at ht
    cases ht
  unfold ofLexemes at h
  split at h
  · next hrun =>
    cases h
    obtain ⟨pre, l, post, s, rfl, hpre, hstuck, rfl⟩ := TreeState.run_eq_error_iff.1 hrun
    rw [s.expected_eq]
    refine .token rfl (viable_iff.2 ⟨s, hpre⟩) ?_ (standsBefore_iff.2 ⟨s, hpre, rfl⟩)
    rw [viable_iff, TreeState.run_concat_eq_ok_iff hpre]
    exact hstuck
  · next s hrun =>
    have hplace : StandsBefore (ls.map (·.token)) s.place := standsBefore_iff.2 ⟨s, hrun, rfl⟩
    cases hlast : ls.getLast? with
    | none =>
      -- no lexemes are a tree without objects
      rw [List.getLast?_eq_none_iff.1 hlast] at hrun
      cases hrun
      cases h
    | some last =>
      have he : e = ⟨⟨last.span.stop, last.span.stop⟩, none, s.place.expected⟩ := by
        rw [hlast] at h
        rw [← s.expected_eq]
        cases s with
        | top => cases h
        | named | inside => exact (Except.error.inj h).symm
      rw [he]
      exact .endOfInput hlast (viable_iff.2 ⟨s, hrun⟩) hnone hplace

theorem IsFault.ofLexemes_eq_error {ls : List Lexeme} {e : Unexpected} (h : IsFault ls e) :
    ofLexemes ls = .error e := by
  cases h with
  | @token pre post l place hls hpre hl hplace =>
    obtain ⟨s, hrun, rfl⟩ := standsBefore_iff.1 hplace
    rw [viable_iff, TreeState.run_concat_eq_ok_iff hrun] at hl
    have herror := TreeState.run_eq_error_iff.2 ⟨pre, l, post, s, hls, hrun, hl, rfl⟩
    rw [ofLexemes, herror, ← s.expected_eq]
    rfl
  | @endOfInput last place hlast hls hnone hplace =>
    obtain ⟨s, hrun, rfl⟩ := standsBefore_iff.1 hplace
    rw [ofLexemes, hrun, hlast, ← s.expected_eq]
    cases s with
    | top objects =>
      have hok : ofLexemes ls = .ok ⟨objects⟩ := ofLexemes_eq_ok_iff.2 hrun
      exact absurd hok (hnone _)
    | named | inside => rfl

/-- Lexemes that are no tree have one error, at the first of them that ends what can be carried on
to a tree, or else behind the last. What it expects there are the tokens, and the end of the input,
that may come at that place, and its wording is that of the place. -/
theorem ofLexemes_faults :
    (∀ ls e, ofLexemes ls = .error e ↔ IsFault ls e) ∧
      (∀ ls place, StandsBefore (ls.map (·.token)) place →
        (∀ l, (∃ x ∈ place.expected, x.Admits l.token) ↔ Viable (ls ++ [l])) ∧
          (.endOfInput ∈ place.expected ↔ ∃ t, ofLexemes ls = .ok t)) ∧
      ∀ (span : Span) (place : Place),
        (∀ t, (Unexpected.mk span (some t) place.expected).message =
          "found '" ++ t.shown ++ "' expected " ++ place.wording) ∧
        (Unexpected.mk span none place.expected).message =
          "found end of input expected " ++ place.wording := by
  refine ⟨fun ls e => ⟨isFault_of_ofLexemes_eq_error, IsFault.ofLexemes_eq_error⟩,
    fun ls place hplace => ?_, fun span place => ?_⟩
  · obtain ⟨s, hrun, rfl⟩ := standsBefore_iff.1 hplace
    constructor
    · intro l
      rw [viable_iff, TreeState.run_concat_eq_ok_iff hrun, TreeState.exists_step_iff]
    · rw [TreeState.endOfInput_mem_expected_iff]
      constructor
      · rintro ⟨objects, rfl⟩
        exact ⟨⟨objects⟩, ofLexemes_eq_ok_iff.2 hrun⟩
      · rintro ⟨t, ht⟩
        rw [ofLexemes_eq_ok_iff, hrun] at ht
        exact ⟨t.objects, Except.ok.inj ht⟩
  · simp only [Unexpected.message, place.listAlternatives_expected]
    constructor
    · intro t
      exact String.toList_inj.1 (by simp)
    · exact congrArg (· ++ place.wording) (by decide)

theorem ofLexemes_faults_second :
    let opened : List Lexeme :=
      [⟨.word "Inn", ⟨0, 3⟩⟩, ⟨.openBrace, ⟨3, 4⟩⟩, ⟨.word "a", ⟨4, 5⟩⟩]
    let closing : Lexeme := ⟨.closeBrace, ⟨5, 6⟩⟩
    StandsBefore (opened.map (·.token)) .second ∧ ¬ Viable (opened ++ [closing]) ∧
      IsFault (opened ++ [closing]) ⟨⟨5, 6⟩, some .closeBrace, Place.second.expected⟩ := by
  intro opened closing
  have hword (text : String) : (Token.word text).IsFragment := ⟨nofun, nofun, nofun⟩
  have hplace : StandsBefore (opened.map (·.token)) .second :=
    .second (.outermost .nil (hword "Inn") .nil) (hword "a")
  have hviable := (ofLexemes_faults.2.1 opened .second hplace).1 closing
  refine ⟨hplace, ?_, (ofLexemes_faults.1 _ _).1 rfl⟩
  rw [← hviable]
  have hdelimiters : Token.closeBrace ≠ .openBrace ∧ Token.closeBrace ≠ .equals ∧
      Token.closeBrace ≠ .comma := by decide
  simpa [Place.expected, Expectation.Admits, Token.IsFragment, closing] using hdelimiters

end SourceTree

end StoryWorld
