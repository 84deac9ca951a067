import Mathlib.Data.List.Forall2
import StoryWorld.Loader

/-!
# Headings

What a conversion makes of a container bears the container's name, so what a tree declares has the
headings of the tree's objects, one for one and in order (`Declared.headings_of_ofTree`).
-/

namespace StoryWorld

variable {α β σ : Type}

/-! ## Results that are given -/

namespace Checked

theorem result_bind_eq_ok_iff {x : Checked α} {f : α → Checked β} {b : β} :
    (x >>= f).result = .ok b ↔ ∃ a, x.result = .ok a ∧ (f a).result = .ok b := by
  obtain ⟨ns, e | a⟩ := x
  · simp [bind, Checked.bind]
  · simp [bind, Checked.bind]

theorem forall₂_of_result_mapM {f : α → Checked β} {as : List α} {bs : List β}
    (h : (as.mapM f).result = .ok bs) : List.Forall₂ (fun a b => (f a).result = .ok b) as bs := by
  induction as generalizing bs with
  | nil =>
    obtain rfl := Except.ok.inj h
    exact .nil
  | cons a as ih =>
    rw [List.mapM_cons] at h
    obtain ⟨b, hb, hrest⟩ := result_bind_eq_ok_iff.1 h
    obtain ⟨bs', hbs, hpure⟩ := result_bind_eq_ok_iff.1 hrest
    obtain rfl := Except.ok.inj hpure
    exact .cons hb (ih hbs)

theorem exists_of_mem_result_mapM {f : α → Checked β} {as : List α} {bs : List β}
    (h : (as.mapM f).result = .ok bs) {b : β} (hb : b ∈ bs) : ∃ a, (f a).result = .ok b := by
  have hall := forall₂_of_result_mapM h
  clear h
  induction hall with
  | nil => cases hb
  | @cons a _ _ _ ha _ ih =>
    rcases List.mem_cons.1 hb with rfl | hb
    · exact ⟨a, ha⟩
    · exact ih hb

/-- What each step of a fold preserves holds of the result. -/
theorem foldlM_induction {motive : σ → Prop} {f : σ → α → Checked σ} {as : List α} {s s' : σ}
    (step : ∀ {s a s'}, (f s a).result = .ok s' → motive s → motive s')
    (h : (as.foldlM f s).result = .ok s') (hs : motive s) : motive s' := by
  induction as generalizing s with
  | nil =>
    obtain rfl := Except.ok.inj h
    exact hs
  | cons a as ih =>
    rw [List.foldlM_cons] at h
    obtain ⟨s₁, hs₁, hrest⟩ := result_bind_eq_ok_iff.1 h
    exact ih hrest (step hs₁ hs)

end Checked

/-! ## Names -/

namespace Node

theorem name_readExit (n : Node) (m : Member) : (readExit n m).1.name = n.name := by
  cases m with
  | container | assignment | item => rfl

theorem name_gather {f : Node → Member → Node × List Notice}
    (hf : ∀ n m, (f n m).1.name = n.name) (ms : List Member) (n : Node) :
    (gather f n ms).1.name = n.name := by
  induction ms generalizing n with
  | nil => rfl
  | cons m ms ih => exact (ih (f n m).1).trans (hf n m)

theorem name_readMember (n : Node) (m : Member) : (readMember n m).1.name = n.name := by
  cases m with
  | item | assignment => rfl
  | container name members span nameSpan =>
    simp only [readMember]
    split
    · exact name_gather name_readExit members n
    · rfl

theorem name_ofContainer (c : Container) : (ofContainer c).1.name = c.name :=
  name_gather name_readMember c.members _

end Node

namespace Character

theorem name_of_readMember {c c' : Character} {m : Member}
    (h : (readMember c m).result = .ok c') : c'.name = c.name := by
  cases m with
  | container name members span nameSpan =>
    obtain ⟨rule, -, hrule⟩ := Checked.result_bind_eq_ok_iff.1 h
    obtain rfl := Except.ok.inj hrule
    rfl
  | assignment | item =>
    obtain rfl := Except.ok.inj h
    rfl

theorem name_of_ofContainer {o : Container} {c : Character}
    (h : (ofContainer o).result = .ok c) : c.name = o.name :=
  Checked.foldlM_induction (motive := fun c => c.name = o.name)
    (fun hstep hs => (name_of_readMember hstep).trans hs) h rfl

end Character

namespace QuestLine

theorem readMember_eq_ok {q q' : QuestLine} {m : Member} (h : (readMember q m).result = .ok q') :
    q' = q ∨ ∃ node, q' = (q.addNode node).1 := by
  cases m with
  | container name members span nameSpan =>
    simp only [readMember] at h
    split at h
    · cases h
    · obtain ⟨node, -, hnode⟩ := Checked.result_bind_eq_ok_iff.1 h
      obtain rfl := Except.ok.inj hnode
      exact .inr ⟨node, rfl⟩
  | assignment | item =>
    obtain rfl := Except.ok.inj h
    exact .inl rfl

theorem name_of_ofContainer {o : Container} {q : QuestLine}
    (h : (ofContainer o).result = .ok q) : q.name = o.name := by
  refine Checked.foldlM_induction (motive := fun q => q.name = o.name) (fun hstep hs => ?_) h rfl
  rcases readMember_eq_ok hstep with rfl | ⟨node, rfl⟩
  · exact hs
  · exact hs

end QuestLine

/-! ## What a tree declares -/

namespace Declared

/-- The names of what is declared, with their places. -/
def headings : Declared → List (Span × String)
  | nodes ns => ns.map fun (span, n) => (span, n.name)
  | characters cs => cs.map fun (span, c) => (span, c.name)
  | quests qs => qs.map fun (span, q) => (span, q.name)

theorem headings_of_mapM {f : Container → Checked β} {name : β → String} {cs : List Container}
    {bs : List (Span × β)} (hname : ∀ {c b}, (f c).result = .ok b → name b = c.name)
    (h : (cs.mapM fun c => do let b ← f c; return (c.nameSpan, b)).result = .ok bs) :
    bs.map (fun (span, b) => (span, name b)) = cs.map fun c => (c.nameSpan, c.name) := by
  have hall := Checked.forall₂_of_result_mapM h
  clear h
  induction hall with
  | nil => rfl
  | cons hb _ ih =>
    obtain ⟨b, hf, hpure⟩ := Checked.result_bind_eq_ok_iff.1 hb
    obtain rfl := Except.ok.inj hpure
    rw [List.map_cons, List.map_cons, ih, ← hname hf]

theorem headings_of_ofTree {k : Kind} {t : SourceTree} {d : Declared}
    (h : (ofTree k t).result = .ok d) :
    d.headings = t.objects.map fun c => (c.nameSpan, c.name) := by
  cases k with
  | node =>
    obtain ⟨ns, hns, hpure⟩ := Checked.result_bind_eq_ok_iff.1 h
    obtain rfl := Except.ok.inj hpure
    refine headings_of_mapM (f := fun c => ⟨(Node.ofContainer c).2, .ok (Node.ofContainer c).1⟩)
      (fun hc => ?_) hns
    obtain rfl := Except.ok.inj hc
    exact Node.name_ofContainer _
  | character =>
    obtain ⟨cs, hcs, hpure⟩ := Checked.result_bind_eq_ok_iff.1 h
    obtain rfl := Except.ok.inj hpure
    exact headings_of_mapM Character.name_of_ofContainer hcs
  | quest =>
    obtain ⟨qs, hqs, hpure⟩ := Checked.result_bind_eq_ok_iff.1 h
    obtain rfl := Except.ok.inj hpure
    exact headings_of_mapM QuestLine.name_of_ofContainer hqs

end Declared

end StoryWorld
