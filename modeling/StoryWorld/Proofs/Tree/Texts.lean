import StoryWorld.Proofs.Token.Spelling
import StoryWorld.Proofs.Tree.Steps

/-! The texts of a tree come from its tokens. What holds of the text of every token, and is kept by
joining texts, holds of every text in the tree that is read (`SourceTree.forall_texts_ofLexemes`);
so no tree that a source text gives holds a double quote. -/

namespace StoryWorld

mutual
/-- The texts of a member in order: names, keys, values and items. -/
def Member.texts : Member → List String
  | container name members _ _ => name :: allTexts members
  | assignment key value _ => [key, value]
  | item text _ => [text]

def Member.allTexts : List Member → List String
  | [] => []
  | m :: ms => m.texts ++ allTexts ms
end

/-- The texts of a tree in order. -/
def SourceTree.texts (t : SourceTree) : List String :=
  Member.allTexts (t.objects.map .ofContainer)

/-- Whether no text of a tree contains a double quote. -/
def SourceTree.QuoteFree (t : SourceTree) : Prop := ∀ s ∈ t.texts, '"' ∉ s.toList

def OpenContainer.texts (c : OpenContainer) : List String := c.name :: Member.allTexts c.members

def MemberState.texts : MemberState → List String
  | start => []
  | headed text _ => [text]
  | item text _ => [text]
  | value key text _ => [key, text]
  | closed => []

/-- The texts that a state holds. -/
def TreeState.texts : TreeState → List String
  | top objects => Member.allTexts (objects.map .ofContainer)
  | named objects name _ => name :: Member.allTexts (objects.map .ofContainer)
  | inside objects inner outer member =>
    Member.allTexts (objects.map .ofContainer) ++ inner.texts ++ outer.flatMap (·.texts) ++
      member.texts

@[simp] theorem Member.allTexts_append (ms ms' : List Member) :
    allTexts (ms ++ ms') = allTexts ms ++ allTexts ms' := by
  induction ms with
  | nil => rfl
  | cons m ms ih => simp [allTexts, ih]

@[simp] theorem Member.allTexts_singleton (m : Member) : allTexts [m] = m.texts := by
  simp [allTexts]

theorem Member.texts_ofContainer (c : Container) :
    (ofContainer c).texts = c.name :: allTexts c.members := by
  rw [ofContainer, texts]

@[simp] theorem OpenContainer.texts_add (c : OpenContainer) (m : Member) :
    (c.add m).texts = c.texts ++ m.texts := by
  simp [add, texts]

@[simp] theorem OpenContainer.texts_close (c : OpenContainer) (last : Span) :
    (Member.ofContainer (c.close last)).texts = c.texts := by
  rw [Member.texts_ofContainer]; rfl

theorem OpenContainer.texts_opened (name : String) (nameSpan : Span) :
    texts ⟨name, nameSpan, []⟩ = [name] := rfl

namespace TreeState

section
variable {P : String → Prop}

theorem forall_texts_close {objects : List Container} {inner : OpenContainer}
    {outer : List OpenContainer} (last : Span)
    (h : ∀ t ∈ (inside objects inner outer .start).texts, P t) :
    ∀ t ∈ (close objects inner outer last).texts, P t := by
  cases outer with
  | nil => simpa [close, texts, MemberState.texts, or_imp, forall_and] using h
  | cons next outer =>
    simp only [close, texts, MemberState.texts, OpenContainer.texts_add,
      OpenContainer.texts_close, List.flatMap_cons, List.forall_mem_append] at h ⊢
    obtain ⟨⟨⟨hobjects, hinner⟩, hnext, houter⟩, hmember⟩ := h
    exact ⟨⟨⟨hobjects, hnext, hinner⟩, houter⟩, hmember⟩

/-- A step adds no text but the token's, or the text before joined with it. -/
theorem forall_texts_step (happend : ∀ s t, P s → P t → P (s ++ t)) (hempty : P "")
    {s s' : TreeState} {l : Lexeme} (hl : P l.token.text) (hs : Step s l s')
    (h : ∀ t ∈ s.texts, P t) : ∀ t ∈ s'.texts, P t := by
  have hfragment : ∀ {text}, l.token.fragment? = some text → P text :=
    fun ht => Token.text_of_fragment? ht ▸ hl
  cases hs with
  | leave => exact forall_texts_close _ h
  | name ht =>
    simp only [texts, List.forall_mem_cons] at h ⊢
    exact ⟨hfragment ht, h⟩
  | enter =>
    simp only [texts, MemberState.texts, OpenContainer.texts_opened, List.forall_mem_append,
      List.forall_mem_cons] at h ⊢
    exact ⟨⟨⟨h.2, h.1, by simp⟩, by simp⟩, by simp⟩
  | head ht =>
    simp only [texts, MemberState.texts, List.forall_mem_append, List.forall_mem_cons] at h ⊢
    exact ⟨h.1, hfragment ht, h.2⟩
  | nest =>
    simp only [texts, MemberState.texts, OpenContainer.texts_opened, List.flatMap_cons,
      List.forall_mem_append, List.forall_mem_cons] at h ⊢
    obtain ⟨⟨⟨hobjects, hinner⟩, houter⟩, htext, hnil⟩ := h
    exact ⟨⟨⟨hobjects, htext, hnil⟩, hinner, houter⟩, hnil⟩
  | assign =>
    simp only [texts, MemberState.texts, List.forall_mem_append, List.forall_mem_cons] at h ⊢
    exact ⟨h.1, h.2.1, hempty, h.2.2⟩
  | endHead | endItem | endValue =>
    simp only [texts, MemberState.texts, OpenContainer.texts_add, Member.texts,
      List.forall_mem_append, List.forall_mem_cons] at h ⊢
    obtain ⟨⟨⟨hobjects, hinner⟩, houter⟩, hmember⟩ := h
    exact ⟨⟨⟨hobjects, hinner, hmember⟩, houter⟩, by simp⟩
  | moreHead _ ht | moreItem ht =>
    simp only [texts, MemberState.texts, List.forall_mem_append, List.forall_mem_cons] at h ⊢
    exact ⟨h.1, happend _ _ h.2.1 (hfragment ht), h.2.2⟩
  | moreValue ht =>
    simp only [texts, MemberState.texts, List.forall_mem_append, List.forall_mem_cons] at h ⊢
    exact ⟨h.1, h.2.1, happend _ _ h.2.2.1 (hfragment ht), h.2.2.2⟩
  | endNested => exact h

end

end TreeState

/-- What holds of the text of every token, and is kept by joining texts, holds of every text of
the tree. -/
theorem SourceTree.forall_texts_ofLexemes {P : String → Prop}
    (happend : ∀ s t, P s → P t → P (s ++ t)) (hempty : P "") {ls : List Lexeme} {t : SourceTree}
    (hls : ∀ l ∈ ls, P l.token.text) (h : ofLexemes ls = .ok t) : ∀ s ∈ t.texts, P s := by
  have hrun := ofLexemes_eq_ok_iff.1 h
  exact TreeState.run_induction (motive := fun s => ∀ t ∈ s.texts, P t)
    (fun hl hstep => TreeState.forall_texts_step happend hempty (hls _ hl) hstep) hrun
    (by simp [TreeState.texts, Member.allTexts])

/-- No tree that a text gives contains a double quote. -/
theorem SourceTree.quoteFree_of_ofText {text : String} {t : SourceTree} (h : ofText text = .ok t) :
    t.QuoteFree := by
  obtain ⟨-, hread⟩ := ofText_eq_ok_iff.1 h
  refine forall_texts_ofLexemes (fun s t hs ht => ?_) (by simp) (fun l hl => ?_) hread
  · rw [String.toList_append, List.mem_append, not_or]
    exact ⟨hs, ht⟩
  · exact (Lexing.spellable_of_mem hl).quote_not_mem

end StoryWorld
