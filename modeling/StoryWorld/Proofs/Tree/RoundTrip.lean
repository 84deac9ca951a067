import StoryWorld.Proofs.Tree.Positions
import StoryWorld.Proofs.Tree.Texts
import StoryWorld.Tree.Printer

/-! Writing a tree and reading it back. `Member.tokens` are the tokens of a written tree: the
written text spells them if no text holds a double quote (`SourceTree.spells_write`), and reading
them gives the tree back but for its spans (`SourceTree.ofLexemes_tokens`). -/

namespace StoryWorld

/-- The token that a text is written as. -/
def writtenToken (s : String) : Token :=
  if s ≠ "" ∧ s.toList.all Text.isWordChar then .word s else .quoted s

mutual
/-- The tokens of a written member, without its comma. -/
def Member.tokens : Member → List Token
  | container name members _ _ =>
    writtenToken name :: .openBrace :: (allTokens members ++ [.closeBrace])
  | assignment key value _ => [writtenToken key, .equals, writtenToken value]
  | item text _ => [writtenToken text]

def Member.allTokens : List Member → List Token
  | [] => []
  | m :: ms => m.tokens ++ .comma :: allTokens ms
end

/-- The tokens of a written tree. -/
def SourceTree.tokens (t : SourceTree) : List Token :=
  t.objects.flatMap fun c => (Member.ofContainer c).tokens

theorem fragment?_writtenToken (s : String) : (writtenToken s).fragment? = some s := by
  unfold writtenToken
  split <;> simp [Token.fragment?, Token.openBrace, Token.closeBrace, Token.comma, Token.text]

/-! ## Spelling -/

theorem spells_writeText {s : String} (h : '"' ∉ s.toList) {c : Char} {cs : List Char}
    {ts : List Token} (hc : Text.isWordChar c = false) (hcs : Spells (c :: cs) ts) :
    Spells ((writeText s).toList ++ c :: cs) (writtenToken s :: ts) := by
  unfold writeText writtenToken
  split
  · next hword =>
    have hne : s.toList ≠ [] := fun hnil => hword.1 (String.toList_eq_nil_iff.1 hnil)
    simpa using Spells.word hne (List.all_eq_true.1 hword.2) hc hcs
  · simpa [String.toList_append] using (Spells.quoted h).append hcs

theorem isBlank_of_mem_indentation {depth : Nat} {c : Char}
    (h : c ∈ (indentation depth).toList) : Text.isBlank c = true := by
  rw [indentation, String.toList_ofList] at h
  rw [List.eq_of_mem_replicate h]
  rfl

mutual
/-- A written member is cut into its tokens if what follows cannot go on a word. -/
theorem Member.spells_write : (m : Member) → (∀ s ∈ m.texts, '"' ∉ s.toList) → (depth : Nat) →
    ∀ {c : Char} {cs : List Char} {ts : List Token}, Text.isWordChar c = false →
      Spells (c :: cs) ts → Spells ((m.write depth).toList ++ c :: cs) (m.tokens ++ ts)
  | .container name members _ _, h, depth, c, cs, ts, hc, hcs => by
    rw [texts, List.forall_mem_cons] at h
    -- from the end on, since a word is only cut off by what follows it
    have hclose : Spells ((indentation depth).toList ++ '\x7d' :: c :: cs) (.closeBrace :: ts) :=
      .append_blanks (fun _ => isBlank_of_mem_indentation) (.cons_punct (by decide) hcs)
    have hbody := (spells_writeAll members h.2 (depth + 1)).append hclose
    have hopen : Spells (' ' :: '\x7b' :: '\n' :: _) (.openBrace :: _) :=
      .cons_blank (by decide) (.cons_punct (by decide) (.cons_blank (by decide) hbody))
    simpa [write, tokens] using spells_writeText h.1 (by decide) hopen
  | .assignment key value _, h, depth, c, cs, ts, hc, hcs => by
    simp only [texts, List.forall_mem_cons] at h
    have hvalue := spells_writeText h.2.1 hc hcs
    have hequals : Spells (' ' :: '=' :: ' ' :: _) (.equals :: _) :=
      .cons_blank (by decide) (.cons_punct (by decide) (.cons_blank (by decide) hvalue))
    simpa [write, tokens] using spells_writeText h.1 (by decide) hequals
  | .item text _, h, depth, c, cs, ts, hc, hcs => by
    rw [texts, List.forall_mem_cons] at h
    exact spells_writeText h.1 hc hcs

theorem Member.spells_writeAll : (ms : List Member) → (∀ s ∈ allTexts ms, '"' ∉ s.toList) →
    (depth : Nat) → Spells (writeAll depth ms).toList (allTokens ms)
  | [], _, _ => .nil
  | m :: ms, h, depth => by
    rw [allTexts, List.forall_mem_append] at h
    have hrest : Spells (',' :: '\n' :: _) (.comma :: _) :=
      .cons_punct (by decide) (.cons_blank (by decide) (spells_writeAll ms h.2 depth))
    have hm := spells_write m h.1 depth (by decide) hrest
    simpa [writeAll, allTokens] using hm.append_blanks fun _ => isBlank_of_mem_indentation
end

theorem SourceTree.spells_write {t : SourceTree} (h : t.QuoteFree) :
    Spells t.write.toList t.tokens := by
  obtain ⟨objects⟩ := t
  induction objects with
  | nil => exact .nil
  | cons c cs ih =>
    have h' : (∀ s ∈ (Member.ofContainer c).texts, '"' ∉ s.toList) ∧
        QuoteFree ⟨cs⟩ := by
      simpa only [QuoteFree, texts, List.map_cons, Member.allTexts, List.forall_mem_append] using h
    have hrest := (ih h'.2).cons_blank (c := '\n') (by decide)
    have hc := (Member.ofContainer c).spells_write h'.1 0 (by decide) hrest
    simpa [write, tokens, Container.write] using hc

/-! ## Reading -/

/-- A token at the forgotten span. -/
def Lexeme.bare (t : Token) : Lexeme := ⟨t, ⟨0, 0⟩⟩

namespace TreeState

mutual
theorem run_tokens : (m : Member) → (objects : List Container) → (inner : OpenContainer) →
    (outer : List OpenContainer) → (ls : List Lexeme) →
    (inside objects inner outer .start).run (m.tokens.map .bare ++ .bare .comma :: ls) =
      (inside objects (inner.add (m.mapSpans Span.forget)) outer .start).run ls
  | .container name members _ _, objects, inner, outer, ls => by
    simp only [Member.tokens, List.map_cons, List.map_append, List.map_nil, List.cons_append,
      List.append_assoc, List.nil_append]
    rw [run_cons_of_step (.head (fragment?_writtenToken name)), run_cons_of_step (.nest rfl),
      run_allTokens members objects _ _ _, run_cons_of_step (.leave rfl)]
    exact run_cons_of_step (.endNested rfl) ls
  | .assignment key value _, objects, inner, outer, ls => by
    simp only [Member.tokens, List.map_cons, List.map_nil, List.cons_append, List.nil_append]
    rw [run_cons_of_step (.head (fragment?_writtenToken key)), run_cons_of_step (.assign rfl),
      run_cons_of_step (.moreValue (fragment?_writtenToken value)),
      run_cons_of_step (.endValue rfl), String.empty_append]
    rfl
  | .item text _, objects, inner, outer, ls => by
    simp only [Member.tokens, List.map_cons, List.map_nil, List.cons_append, List.nil_append]
    rw [run_cons_of_step (.head (fragment?_writtenToken text)), run_cons_of_step (.endHead rfl)]
    rfl

theorem run_allTokens : (ms : List Member) → (objects : List Container) →
    (inner : OpenContainer) → (outer : List OpenContainer) → (ls : List Lexeme) →
    (inside objects inner outer .start).run ((Member.allTokens ms).map .bare ++ ls) =
      (inside objects
        { inner with members := inner.members ++ Member.allMapSpans Span.forget ms }
        outer .start).run ls
  | [], objects, inner, outer, ls => by
    simp [Member.allTokens, Member.allMapSpans]
  | m :: ms, objects, inner, outer, ls => by
    simp only [Member.allTokens, List.map_append, List.map_cons, List.append_assoc,
      List.cons_append]
    rw [run_tokens m objects inner outer _, run_allTokens ms objects _ outer ls]
    simp [OpenContainer.add, Member.allMapSpans]
end

theorem run_container_tokens (c : Container) (objects : List Container) (ls : List Lexeme) :
    (top objects).run ((Member.ofContainer c).tokens.map .bare ++ ls) =
      (top (objects ++ [c.mapSpans Span.forget])).run ls := by
  simp only [Member.ofContainer, Member.tokens, List.map_cons, List.map_append, List.map_nil,
    List.cons_append, List.append_assoc, List.nil_append]
  rw [run_cons_of_step (.name (fragment?_writtenToken c.name)), run_cons_of_step (.enter rfl),
    run_allTokens c.members objects _ _ _]
  exact run_cons_of_step (.leave rfl) ls

theorem run_tree_tokens (cs objects : List Container) :
    (top objects).run ((cs.flatMap fun c => (Member.ofContainer c).tokens).map .bare) =
      .ok (top (objects ++ cs.map (·.mapSpans Span.forget))) := by
  induction cs generalizing objects with
  | nil => simp [run]
  | cons c cs ih =>
    rw [List.flatMap_cons, List.map_append, run_container_tokens, ih]
    simp

end TreeState

namespace SourceTree

/-- The tokens of a written tree, wherever they stand, are read as the tree but for its spans. -/
theorem ofLexemes_tokens {t : SourceTree} {ls : List Lexeme} (h : ls.map (·.token) = t.tokens) :
    ∃ u, ofLexemes ls = .ok u ∧ u.sameShape t = true := by
  have hbare : ls.map (·.mapSpan Span.forget) = t.tokens.map .bare := by
    rw [← h, List.map_map]; rfl
  have hread : ofLexemes (t.tokens.map .bare) = .ok (t.mapSpans Span.forget) :=
    ofLexemes_eq_ok_iff.2 (TreeState.run_tree_tokens t.objects [])
  have hmoved := ofLexemes_mapSpans (f := Span.forget) rfl ls
  rw [hbare, hread] at hmoved
  cases hu : ofLexemes ls with
  | error e => rw [hu] at hmoved; cases hmoved
  | ok u =>
    rw [hu] at hmoved
    exact ⟨u, rfl, (sameShape_iff u t).2 (Except.ok.inj hmoved).symm⟩

theorem ofText_write {t : SourceTree} (h : t.QuoteFree) :
    ∃ u, ofText t.write = .ok u ∧ u.sameShape t = true := by
  obtain ⟨htokens, herror⟩ := (spells_write h).ofText
  obtain ⟨u, hread, hshape⟩ := ofLexemes_tokens htokens
  exact ⟨u, ofText_eq_ok_iff.2 ⟨herror, hread⟩, hshape⟩

/-- A container that is written alone, without a newline behind it, is read as the one of a tree. -/
theorem ofText_write_container {c : Container} (h : QuoteFree ⟨[c]⟩) :
    ∃ o, ofText c.write = .ok ⟨[o]⟩ ∧ o.mapSpans Span.forget = c.mapSpans Span.forget := by
  have hspells := spells_write h
  have hwrite : (write ⟨[c]⟩).toList = c.write.toList ++ ['\n'] := by
    simp [write, String.join]
  rw [hwrite] at hspells
  obtain ⟨htokens, herror⟩ := hspells.ofText_of_newline
  obtain ⟨⟨objects⟩, hread, hshape⟩ := ofLexemes_tokens htokens
  have hforget : objects.map (·.mapSpans Span.forget) = [c.mapSpans Span.forget] :=
    congrArg SourceTree.objects ((sameShape_iff ..).1 hshape)
  obtain ⟨o, rfl, ho⟩ := List.map_eq_singleton_iff.1 hforget
  exact ⟨o, ofText_eq_ok_iff.2 ⟨herror, hread⟩, ho⟩

end SourceTree

mutual
theorem Member.texts_mapSpans (f : Nat → Nat) : (m : Member) → (m.mapSpans f).texts = m.texts
  | .container _ members _ _ => by rw [mapSpans, texts, texts, allTexts_allMapSpans f members]
  | .assignment .. => rfl
  | .item .. => rfl

theorem Member.allTexts_allMapSpans (f : Nat → Nat) :
    (ms : List Member) → allTexts (allMapSpans f ms) = allTexts ms
  | [] => rfl
  | m :: ms => by
    rw [allMapSpans, allTexts, allTexts, texts_mapSpans f m, allTexts_allMapSpans f ms]
end

namespace SourceTree

theorem texts_mapSpans (f : Nat → Nat) (t : SourceTree) : (t.mapSpans f).texts = t.texts := by
  have hmap : (t.mapSpans f).objects.map Member.ofContainer =
      Member.allMapSpans f (t.objects.map .ofContainer) := by
    simp [mapSpans, Member.allMapSpans_eq_map, Member.mapSpans_ofContainer]
  rw [texts, hmap, Member.allTexts_allMapSpans]
  rfl

theorem texts_eq_of_sameShape {t u : SourceTree} (h : t.sameShape u = true) :
    t.texts = u.texts := by
  rw [← texts_mapSpans Span.forget t, (sameShape_iff t u).1 h, texts_mapSpans]

/-- Writing a tree and reading the text gives the tree back, but for its spans, exactly when no
text of the tree contains a double quote. A tree that was read never does, so that writing it and
reading it again changes nothing but spans. -/
theorem ofText_write_iff :
    (∀ t : SourceTree, (∃ u, ofText t.write = .ok u ∧ u.sameShape t = true) ↔ t.QuoteFree) ∧
      ∀ (text : String) (t : SourceTree), ofText text = .ok t →
        t.QuoteFree ∧ ∃ u, ofText t.write = .ok u ∧ u.sameShape t = true := by
  refine ⟨fun t => ⟨?_, ofText_write⟩, fun text t h => ?_⟩
  · rintro ⟨u, hread, hshape⟩
    have hu : u.QuoteFree := quoteFree_of_ofText hread
    rwa [QuoteFree, texts_eq_of_sameShape hshape] at hu
  · have ht := quoteFree_of_ofText h
    exact ⟨ht, ofText_write ht⟩

theorem ofText_write_of_read :
    ∃ t u, ofText "a\x7bb=\"x y\",\x7d" = .ok t ∧ ofText t.write = .ok u ∧ u.sameShape t = true := by
  have hread : ofText "a\x7bb=\"x y\",\x7d" =
      .ok ⟨[⟨"a", [.assignment "b" "x y" ⟨2, 10⟩], ⟨0, 11⟩, ⟨0, 1⟩⟩]⟩ := by rfl
  obtain ⟨-, u, hu, hshape⟩ := ofText_write_iff.2 _ _ hread
  exact ⟨_, u, hread, hu, hshape⟩

end SourceTree

end StoryWorld
