import Mathlib.Logic.ExistsUnique
import StoryWorld.Proofs.Tree.Grammar

/-!
# The tree reader and its grammar

The reader accepts the grammar and no more. Soundness is an invariant of its steps: a state holds
what the lexemes before it make (`ReadsState`). Completeness goes by the derivation: the reader
runs over the lexemes of a member and ends where it began, with the member added.
-/

namespace StoryWorld

namespace TreeGrammar

/-! ## What a state has read -/

/-- Lexemes that open a container, with the members that follow so far. -/
inductive OpensContainer : List Lexeme → OpenContainer → Prop
  | braces (hname : name.token.IsFragment) (hopening : opening.token = .openBrace)
      (hbody : ReadsMembers body members) :
    OpensContainer (name :: opening :: body) ⟨name.token.text, name.span, members⟩

/-- Lexemes that open containers, the innermost last. -/
inductive OpensContainers : List Lexeme → List OpenContainer → Prop
  | nil : OpensContainers [] []
  | cons {inner} (houter : OpensContainers ls outer) (hinner : OpensContainer ms inner) :
    OpensContainers (ls ++ ms) (inner :: outer)

/-- Lexemes that begin a member. -/
inductive BeginsMember : List Lexeme → MemberState → Prop
  | start : BeginsMember [] .start
  | headed (hhead : head.token.IsFragment) :
    BeginsMember [head] (.headed head.token.text head.span)
  | item (hhead : head.token.IsFragment) (hsecond : second.token ≠ .equals)
      (hrest : ∀ l ∈ second :: rest, l.token.IsFragment) :
    BeginsMember (head :: second :: rest)
      (.item (head.token.text ++ joinedText (second :: rest)) head.span)
  | value (hkey : key.token.IsFragment) (hequals : equals.token = .equals)
      (hvalue : ∀ l ∈ value, l.token.IsFragment) :
    BeginsMember (key :: equals :: value) (.value key.token.text (joinedText value) key.span)

/-- Lexemes that are read as far as a state says. -/
inductive ReadsState : List Lexeme → TreeState → Prop
  | top (hobjects : ReadsObjects ls objects) : ReadsState ls (.top objects)
  | named (hobjects : ReadsObjects ls objects) (hname : name.token.IsFragment) :
    ReadsState (ls ++ [name]) (.named objects name.token.text name.span)
  | inside {inner} (hobjects : ReadsObjects ls objects) (houter : OpensContainers os outer)
      (hinner : OpensContainer is inner) (hmember : BeginsMember ms member) :
    ReadsState (ls ++ os ++ is ++ ms) (.inside objects inner outer member)
  | closed {inner} (hobjects : ReadsObjects ls objects) (houter : OpensContainers os outer)
      (hinner : OpensContainer is inner) (hnested : ReadsObject ms c) :
    ReadsState (ls ++ os ++ is ++ ms) (.inside objects (inner.add (.ofContainer c)) outer .closed)

theorem OpensContainer.add (hc : OpensContainer ls c) (hm : ReadsMember ms m) :
    OpensContainer (ls ++ ms) (c.add m) := by
  cases hc with
  | braces hname hopening hbody => exact .braces hname hopening (.snoc hbody hm)

theorem OpensContainer.close (hc : OpensContainer ls c) (hl : l.token = .closeBrace) :
    ReadsObject (ls ++ [l]) (c.close l.span) := by
  cases hc with
  | braces hname hopening hbody => exact .braces hname hopening hbody hl

theorem forall_fragments_concat {ls : List Lexeme} (h : ∀ l ∈ ls, l.token.IsFragment)
    (hl : l.token.IsFragment) : ∀ m ∈ ls ++ [l], m.token.IsFragment :=
  List.forall_mem_append.2 ⟨h, List.forall_mem_singleton.2 hl⟩

section
variable {inner : OpenContainer} (hobjects : ReadsObjects ls objects)
  (houter : OpensContainers os outer) (hinner : OpensContainer is inner)
include hobjects houter hinner

theorem readsState_close (hl : l.token = .closeBrace) :
    ReadsState (ls ++ os ++ is ++ [l]) (.close objects inner outer l.span) := by
  have hc := hinner.close hl
  cases houter with
  | nil =>
    have h := ReadsState.top (.snoc hobjects hc)
    simpa [TreeState.close] using h
  | cons houter hnext =>
    have h := ReadsState.closed hobjects houter hnext hc
    simpa [TreeState.close] using h

theorem readsState_endMember (hm : ReadsMember ms m) :
    ReadsState (ls ++ os ++ is ++ ms) (.inside objects (inner.add m) outer .start) := by
  have h := ReadsState.inside hobjects houter (hinner.add hm) .start
  rwa [List.append_nil, ← List.append_assoc] at h

end

/-- A step reads the lexeme that it is made on. -/
theorem ReadsState.step (hs : ReadsState ls s) (hstep : TreeState.Step s l s') :
    ReadsState (ls ++ [l]) s' := by
  cases hstep with
  | name ht =>
    obtain ⟨hl, rfl⟩ := Token.fragment?_eq_some_iff.1 ht
    cases hs with | top hobjects =>
    exact .named hobjects hl
  | enter hl =>
    cases hs with | named hobjects hname =>
    have h := ReadsState.inside hobjects .nil (.braces hname hl .nil) .start
    simpa using h
  | leave hl =>
    cases hs with | inside hobjects houter hinner hmember =>
    cases hmember
    have h := readsState_close hobjects houter hinner hl
    simpa using h
  | head ht =>
    obtain ⟨hl, rfl⟩ := Token.fragment?_eq_some_iff.1 ht
    cases hs with | inside hobjects houter hinner hmember =>
    cases hmember
    have h := ReadsState.inside hobjects houter hinner (.headed hl)
    simpa using h
  | nest hl =>
    cases hs with | inside hobjects houter hinner hmember =>
    cases hmember with | headed hhead =>
    have h := ReadsState.inside hobjects (.cons houter hinner) (.braces hhead hl .nil) .start
    simpa using h
  | assign hl =>
    cases hs with | inside hobjects houter hinner hmember =>
    cases hmember with | headed hhead =>
    have hvalue : ∀ l ∈ ([] : List Lexeme), l.token.IsFragment := List.forall_mem_nil _
    have h := ReadsState.inside hobjects houter hinner (.value hhead hl hvalue)
    simpa using h
  | endHead hl =>
    cases hs with | inside hobjects houter hinner hmember =>
    cases hmember with | headed hhead =>
    have hrest : ∀ l ∈ ([] : List Lexeme), l.token.IsFragment := List.forall_mem_nil _
    have h := readsState_endMember hobjects houter hinner (.item hhead (by simp) hrest hl)
    simpa using h
  | moreHead hne ht =>
    obtain ⟨hl, rfl⟩ := Token.fragment?_eq_some_iff.1 ht
    cases hs with | inside hobjects houter hinner hmember =>
    cases hmember with | headed hhead =>
    have hrest : ∀ m ∈ [l], m.token.IsFragment := List.forall_mem_singleton.2 hl
    have h := ReadsState.inside hobjects houter hinner (.item hhead hne hrest)
    simpa using h
  | endItem hl =>
    cases hs with | inside hobjects houter hinner hmember =>
    cases hmember with | item hhead hsecond hrest =>
    have h := readsState_endMember hobjects houter hinner
      (.item hhead (by simpa using hsecond) hrest hl)
    simpa using h
  | moreItem ht =>
    obtain ⟨hl, rfl⟩ := Token.fragment?_eq_some_iff.1 ht
    cases hs with | inside hobjects houter hinner hmember =>
    cases hmember with | item hhead hsecond hrest =>
    have h := ReadsState.inside hobjects houter hinner
      (.item hhead hsecond (forall_fragments_concat hrest hl))
    rw [String.append_assoc, ← joinedText_concat]
    simpa using h
  | endValue hl =>
    cases hs with | inside hobjects houter hinner hmember =>
    cases hmember with | value hkey hequals hvalue =>
    have h := readsState_endMember hobjects houter hinner (.assignment hkey hequals hvalue hl)
    simpa using h
  | moreValue ht =>
    obtain ⟨hl, rfl⟩ := Token.fragment?_eq_some_iff.1 ht
    cases hs with | inside hobjects houter hinner hmember =>
    cases hmember with | value hkey hequals hvalue =>
    have h := ReadsState.inside hobjects houter hinner
      (.value hkey hequals (forall_fragments_concat hvalue hl))
    rw [← joinedText_concat]
    simpa using h
  | endNested hl =>
    cases hs with
    | inside _ _ _ hmember => cases hmember
    | closed hobjects houter hinner hnested =>
      have h := readsState_endMember hobjects houter hinner (.container hnested hl)
      simpa using h

theorem ReadsState.run (hs : ReadsState ls s) (h : TreeState.run s ms = .ok s') :
    ReadsState (ls ++ ms) s' := by
  induction ms generalizing ls s with
  | nil =>
    cases h
    rwa [List.append_nil]
  | cons l ms ih =>
    simp only [TreeState.run] at h
    split at h
    · next s₁ hstep =>
      have hs₁ := hs.step (TreeState.step?_eq_some_iff.1 hstep)
      rw [List.append_cons]
      exact ih hs₁ h
    · cases h

end TreeGrammar

open TreeGrammar

/-! ## Runs over what can be read -/

namespace TreeState

variable {objects : List Container} {outer : List OpenContainer}

theorem run_item (h : ∀ l ∈ ls, l.token.IsFragment) (inner : OpenContainer) (text : String)
    (first : Span) (rest : List Lexeme) :
    (inside objects inner outer (.item text first)).run (ls ++ rest) =
      (inside objects inner outer (.item (text ++ joinedText ls) first)).run rest := by
  induction ls generalizing text with
  | nil => simp
  | cons l ls ih =>
    rw [List.forall_mem_cons] at h
    rw [List.cons_append, run_cons_of_step (.moreItem h.1.fragment?_eq), ih h.2, joinedText_cons,
      String.append_assoc]

theorem run_value (h : ∀ l ∈ ls, l.token.IsFragment) (inner : OpenContainer) (key text : String)
    (first : Span) (rest : List Lexeme) :
    (inside objects inner outer (.value key text first)).run (ls ++ rest) =
      (inside objects inner outer (.value key (text ++ joinedText ls) first)).run rest := by
  induction ls generalizing text with
  | nil => simp
  | cons l ls ih =>
    rw [List.forall_mem_cons] at h
    rw [List.cons_append, run_cons_of_step (.moreValue h.1.fragment?_eq), ih h.2, joinedText_cons,
      String.append_assoc]

/-- After the head of an item come fragments, the first of which is no equals sign, and the
comma. -/
theorem run_headed (hsecond : ∀ l ∈ ls.head?, l.token ≠ .equals)
    (hrest : ∀ l ∈ ls, l.token.IsFragment) (hcomma : comma.token = .comma)
    (inner : OpenContainer) (text : String) (first : Span) (rest : List Lexeme) :
    (inside objects inner outer (.headed text first)).run (ls ++ comma :: rest) =
      (inside objects (inner.add (.item (text ++ joinedText ls) (first.through comma.span))) outer
        .start).run rest := by
  cases ls with
  | nil =>
    rw [List.nil_append, run_cons_of_step (.endHead hcomma), joinedText_nil, String.append_empty]
  | cons second ls =>
    rw [List.forall_mem_cons] at hrest
    have hne : second.token ≠ .equals := hsecond second rfl
    rw [List.cons_append, run_cons_of_step (.moreHead hne hrest.1.fragment?_eq), run_item hrest.2,
      run_cons_of_step (.endItem hcomma), joinedText_cons, String.append_assoc]

mutual
theorem run_readsObject : ReadsObject ls c → ∀ (objects : List Container) (inner : OpenContainer)
    (outer : List OpenContainer) (rest : List Lexeme),
    (inside objects inner outer .start).run (ls ++ rest) =
      (inside objects (inner.add (.ofContainer c)) outer .closed).run rest
  | .braces hname hopening hbody hclosing, objects, inner, outer, rest => by
    rw [List.cons_append, List.cons_append, List.append_assoc,
      run_cons_of_step (.head hname.fragment?_eq), run_cons_of_step (.nest hopening),
      run_readsMembers hbody, List.singleton_append, run_cons_of_step (.leave hclosing)]
    rfl

theorem run_readsMember : ReadsMember ls m → ∀ (objects : List Container) (inner : OpenContainer)
    (outer : List OpenContainer) (rest : List Lexeme),
    (inside objects inner outer .start).run (ls ++ rest) =
      (inside objects (inner.add m) outer .start).run rest
  | .container hobject hcomma, objects, inner, outer, rest => by
    rw [List.append_assoc, run_readsObject hobject, List.singleton_append,
      run_cons_of_step (.endNested hcomma)]
  | .assignment hkey hequals hvalue hcomma, objects, inner, outer, rest => by
    rw [List.cons_append, List.cons_append, List.append_assoc,
      run_cons_of_step (.head hkey.fragment?_eq), run_cons_of_step (.assign hequals),
      run_value hvalue, List.singleton_append, run_cons_of_step (.endValue hcomma),
      String.empty_append]
  | .item hhead hsecond hrest hcomma, objects, inner, outer, rest => by
    rw [List.cons_append, List.append_assoc, run_cons_of_step (.head hhead.fragment?_eq),
      List.singleton_append, run_headed hsecond hrest hcomma]

theorem run_readsMembers : ReadsMembers ls members → ∀ (objects : List Container)
    (inner : OpenContainer) (outer : List OpenContainer) (rest : List Lexeme),
    (inside objects inner outer .start).run (ls ++ rest) =
      (inside objects { inner with members := inner.members ++ members } outer .start).run rest
  | .nil, objects, inner, outer, rest => by simp
  | .snoc hinit hlast, objects, inner, outer, rest => by
    rw [List.append_assoc, run_readsMembers hinit, run_readsMember hlast, OpenContainer.add,
      List.append_assoc]
end

theorem run_readsObjects (h : ReadsObjects ls objects') (objects : List Container)
    (rest : List Lexeme) :
    (top objects).run (ls ++ rest) = (top (objects ++ objects')).run rest := by
  induction h generalizing rest with
  | nil => simp
  | snoc _ hlast ih =>
    cases hlast with
    | braces hname hopening hbody hclosing =>
      rw [List.append_assoc, ih, List.cons_append, List.cons_append, List.append_assoc,
        run_cons_of_step (.name hname.fragment?_eq), run_cons_of_step (.enter hopening),
        run_readsMembers hbody, List.singleton_append, run_cons_of_step (.leave hclosing),
        ← List.append_assoc]
      rfl

end TreeState

namespace SourceTree

theorem ofLexemes_eq_ok_iff_reads {ls : List Lexeme} {t : SourceTree} :
    ofLexemes ls = .ok t ↔ ReadsObjects ls t.objects := by
  rw [ofLexemes_eq_ok_iff]
  constructor
  · intro hrun
    have hstart : ReadsState [] (.top []) := .top .nil
    have hend := hstart.run hrun
    rw [List.nil_append] at hend
    cases hend with
    | top hobjects => exact hobjects
  · intro hreads
    have hrun := TreeState.run_readsObjects hreads [] []
    rwa [List.append_nil, List.nil_append] at hrun

theorem ofLexemes_append {ls ms : List Lexeme} {t u : SourceTree} (ht : ofLexemes ls = .ok t)
    (hu : ofLexemes ms = .ok u) : ofLexemes (ls ++ ms) = .ok ⟨t.objects ++ u.objects⟩ := by
  have hls := TreeState.run_readsObjects (ofLexemes_eq_ok_iff_reads.1 ht) [] ms
  have hms := TreeState.run_readsObjects (ofLexemes_eq_ok_iff_reads.1 hu) t.objects []
  rw [List.append_nil] at hms
  rw [ofLexemes_eq_ok_iff, hls, List.nil_append, hms]
  rfl

/-- Tokens are read as a tree exactly when they are derivable, and then as the one tree that the
second tokens of the members decide. -/
theorem ofLexemes_grammar (ls : List Lexeme) :
    ((∃ t, ofLexemes ls = .ok t) ↔ IsFile (ls.map (·.token))) ∧
      (IsFile (ls.map (·.token)) ↔ ∃! t : SourceTree, ReadsObjects ls t.objects) ∧
      ∀ t, ofLexemes ls = .ok t ↔ ReadsObjects ls t.objects := by
  have hfile : (∃ t, ofLexemes ls = .ok t) ↔ IsFile (ls.map (·.token)) := by
    rw [isFile_iff]
    constructor
    · rintro ⟨t, ht⟩
      exact ⟨t.objects, ofLexemes_eq_ok_iff_reads.1 ht⟩
    · rintro ⟨objects, hobjects⟩
      exact ⟨⟨objects⟩, ofLexemes_eq_ok_iff_reads.2 hobjects⟩
  refine ⟨hfile, ?_, fun t => ofLexemes_eq_ok_iff_reads⟩
  rw [← hfile]
  constructor
  · rintro ⟨t, ht⟩
    refine ⟨t, ofLexemes_eq_ok_iff_reads.1 ht, fun u hu => ?_⟩
    have hu' := ofLexemes_eq_ok_iff_reads.2 hu
    rw [ht] at hu'
    exact (Except.ok.inj hu').symm
  · rintro ⟨t, ht, -⟩
    exact ⟨t, ofLexemes_eq_ok_iff_reads.2 ht⟩

end SourceTree

end StoryWorld
