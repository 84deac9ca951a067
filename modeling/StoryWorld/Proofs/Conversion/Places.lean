import StoryWorld.Proofs.Conversion.Headings
import StoryWorld.Proofs.Tree.Spans

/-!
# Where conversions point

A conversion gives notices and refusals only at spans of the tree that it reads. What holds of all
spans of a tree (`P` throughout) therefore holds of every place that its conversion points at
(`Declared.pointsTo_ofTree`), and of those that registering what it declares points at
(`World.forall_notices_register`).
-/

namespace StoryWorld

variable {α β σ : Type} {P : Span → Prop}

/-! ## Results and passes that point only where `P` holds -/

/-- Whether the notices of a result, and its refusal, stand only at spans with `P`. -/
structure Checked.PointsTo (P : Span → Prop) (x : Checked α) : Prop where
  notices : ∀ n ∈ x.notices, P n.span
  refusal : ∀ e, x.result = .error e → P e.span

theorem Notice.forall_ofWarning? {span : Span} (h : P span) (w : Option WorldWarning) :
    ∀ n ∈ ofWarning? span w, P n.span := by
  intro n hn
  cases w with
  | none => cases hn
  | some w =>
    obtain rfl := List.mem_singleton.1 hn
    exact h

namespace Checked.PointsTo

theorem pure (a : α) : PointsTo P (Pure.pure a) where
  notices := fun _ hn => nomatch hn
  refusal := fun _ he => nomatch he

theorem note {ns : List Notice} (h : ∀ n ∈ ns, P n.span) : PointsTo P (note ns) where
  notices := h
  refusal := fun _ he => nomatch he

theorem refuse {e : ConvertError} (h : P e.span) : PointsTo P (refuse e : Checked α) where
  notices := fun _ hn => nomatch hn
  refusal := fun _ he => Except.error.inj he ▸ h

theorem bind {x : Checked α} {f : α → Checked β} (hx : PointsTo P x)
    (hf : ∀ a, PointsTo P (f a)) : PointsTo P (x >>= f) := by
  obtain ⟨ns, e | a⟩ := x
  · exact ⟨hx.notices, fun e' he => hx.refusal e' (congrArg Except.error (Except.error.inj he))⟩
  · exact ⟨List.forall_mem_append.2 ⟨hx.notices, (hf a).notices⟩, (hf a).refusal⟩

theorem mapM {f : α → Checked β} {as : List α} (h : ∀ a ∈ as, PointsTo P (f a)) :
    PointsTo P (as.mapM f) := by
  induction as with
  | nil => exact .pure []
  | cons a as ih =>
    rw [List.forall_mem_cons] at h
    rw [List.mapM_cons]
    exact h.1.bind fun b => (ih h.2).bind fun bs => .pure (b :: bs)

theorem foldlM {f : σ → α → Checked σ} {as : List α} (h : ∀ a ∈ as, ∀ s, PointsTo P (f s a))
    (s : σ) : PointsTo P (as.foldlM f s) := by
  induction as generalizing s with
  | nil => exact .pure s
  | cons a as ih =>
    rw [List.forall_mem_cons] at h
    rw [List.foldlM_cons]
    exact (h.1 s).bind (ih h.2)

end Checked.PointsTo

theorem forall_notices_gather {f : σ → α → σ × List Notice} {as : List α}
    (h : ∀ a ∈ as, ∀ s, ∀ n ∈ (f s a).2, P n.span) (s : σ) :
    ∀ n ∈ (gather f s as).2, P n.span := by
  induction as generalizing s with
  | nil => simp [gather]
  | cons a as ih =>
    rw [List.forall_mem_cons] at h
    exact List.forall_mem_append.2 ⟨h.1 s, ih h.2 (f s a).1⟩

theorem Member.forall_spans_container {name : String} {members : List Member}
    {span nameSpan : Span} :
    (∀ s ∈ (container name members span nameSpan).spans, P s) ↔
      P span ∧ P nameSpan ∧ ∀ m ∈ members, ∀ s ∈ m.spans, P s := by
  rw [spans, allSpans_eq_flatMap, List.forall_mem_cons, List.forall_mem_cons,
    List.forall_mem_flatMap]

theorem Member.span_of_forall_spans {m : Member} (h : ∀ s ∈ m.spans, P s) : P m.span :=
  h m.span m.span_mem_spans

/-! ## Nodes -/

namespace Node

theorem forall_notices_readExit (n : Node) {m : Member} (h : ∀ s ∈ m.spans, P s) :
    ∀ notice ∈ (readExit n m).2, P notice.span := by
  have hspan := Member.span_of_forall_spans h
  cases m with
  | assignment direction target span => exact Notice.forall_ofWarning? hspan _
  | container | item => simpa [readExit] using hspan

theorem forall_notices_readMember (n : Node) {m : Member} (h : ∀ s ∈ m.spans, P s) :
    ∀ notice ∈ (readMember n m).2, P notice.span := by
  cases m with
  | item => simp [readMember]
  | container name members span nameSpan =>
    obtain ⟨-, hname, hmembers⟩ := Member.forall_spans_container.1 h
    simp only [readMember]
    split
    · exact forall_notices_gather (fun m hm n => forall_notices_readExit n (hmembers m hm)) n
    · simpa using hname
  | assignment => exact List.forall_mem_singleton.2 (Member.span_of_forall_spans h)

theorem forall_notices_ofContainer {c : Container} (h : ∀ m ∈ c.members, ∀ s ∈ m.spans, P s) :
    ∀ notice ∈ (ofContainer c).2, P notice.span :=
  forall_notices_gather (fun m hm n => forall_notices_readMember n (h m hm)) _

end Node

/-! ## Characters -/

theorem Checked.pointsTo_condition (name : String) {nameSpan : Span} (h : P nameSpan) :
    PointsTo P (condition name nameSpan) := by
  unfold condition
  split
  · exact .pure _
  · exact .refuse h

mutual
theorem Effect.pointsTo_ofMember (rule : String) :
    (m : Member) → (∀ s ∈ m.spans, P s) → (ofMember rule m).PointsTo P
  | .container name members _ _, h => by
    obtain ⟨-, hname, hmembers⟩ := Member.forall_spans_container.1 h
    rw [ofMember]
    exact (Checked.pointsTo_condition name hname).bind fun _ =>
      (pointsTo_ofMembers name members hmembers).bind fun _ => .pure _
  | .assignment .., _ => .pure _
  | .item .., h => by
    rw [ofMember]
    split
    · exact .pure _
    · refine Checked.PointsTo.bind (.note ?_) fun _ => .pure _
      simpa [Member.spans] using h

theorem Effect.pointsTo_ofMembers (rule : String) :
    (ms : List Member) → (∀ m ∈ ms, ∀ s ∈ m.spans, P s) → (ofMembers rule ms).PointsTo P
  | [], _ => .pure _
  | m :: ms, h => by
    rw [List.forall_mem_cons] at h
    rw [ofMembers]
    exact (pointsTo_ofMember rule m h.1).bind fun _ =>
      (pointsTo_ofMembers rule ms h.2).bind fun _ => .pure _
end

theorem Rule.pointsTo_ofMembers (name : String) {nameSpan : Span} {members : List Member}
    (hname : P nameSpan) (hmembers : ∀ m ∈ members, ∀ s ∈ m.spans, P s) :
    (ofMembers name nameSpan members).PointsTo P :=
  (Checked.pointsTo_condition name hname).bind fun _ =>
    (Effect.pointsTo_ofMembers name members hmembers).bind fun _ => .pure _

namespace Character

theorem pointsTo_readMember (c : Character) {m : Member} (h : ∀ s ∈ m.spans, P s) :
    (readMember c m).PointsTo P := by
  cases m with
  | container name members span nameSpan =>
    obtain ⟨-, hname, hmembers⟩ := Member.forall_spans_container.1 h
    exact (Rule.pointsTo_ofMembers name hname hmembers).bind fun _ => .pure _
  | assignment key value span =>
    have hspan := Member.span_of_forall_spans h
    exact Checked.PointsTo.bind (.note (Notice.forall_ofWarning? hspan _)) fun _ => .pure _
  | item text span =>
    refine Checked.PointsTo.bind (.note ?_) fun _ => .pure _
    simpa [Member.spans] using h

theorem pointsTo_ofContainer {c : Container} (h : ∀ m ∈ c.members, ∀ s ∈ m.spans, P s) :
    (ofContainer c).PointsTo P :=
  .foldlM (fun m hm c => pointsTo_readMember c (h m hm)) _

end Character

/-! ## Quest lines -/

namespace QuestNode

theorem forall_items {ms : List Member} (h : ∀ m ∈ ms, ∀ s ∈ m.spans, P s) :
    ∀ i ∈ items ms, P i.2 := by
  intro i hi
  obtain ⟨m, hm, hitem⟩ := List.mem_filterMap.1 hi
  cases m with
  | container | assignment => cases hitem
  | item text span =>
    cases hitem
    exact Member.span_of_forall_spans (h _ hm)

theorem forall_strayMembers (quest : String) (value : Integer) {ms : List Member}
    (h : ∀ m ∈ ms, ∀ s ∈ m.spans, P s) : ∀ n ∈ strayMembers quest value ms, P n.span := by
  intro n hn
  obtain ⟨m, hm, hnotice⟩ := List.mem_filterMap.1 hn
  have hspan := Member.span_of_forall_spans (h m hm)
  cases m with
  | item => cases hnotice
  | container | assignment =>
    cases hnotice
    exact hspan

theorem pointsTo_readItem (quest : String) (n : QuestNode) {i : String × Span} (h : P i.2) :
    (readItem quest n i).PointsTo P := by
  unfold readItem
  split
  · exact .refuse h
  · exact Checked.PointsTo.bind (.note (Notice.forall_ofWarning? h _)) fun _ => .pure _

theorem pointsTo_ofMembers (quest : String) (value : Integer) {ms : List Member}
    (h : ∀ m ∈ ms, ∀ s ∈ m.spans, P s) : (ofMembers quest value ms).PointsTo P := by
  refine Checked.PointsTo.bind (.note (forall_strayMembers quest value h)) fun _ => ?_
  have hitems := forall_items h
  cases hms : items ms with
  | nil => exact .pure _
  | cons first transitions =>
    rw [hms, List.forall_mem_cons] at hitems
    exact .foldlM (fun i hi n => pointsTo_readItem quest n (hitems.2 i hi)) _

end QuestNode

namespace QuestLine

theorem pointsTo_readMember (q : QuestLine) {m : Member} (h : ∀ s ∈ m.spans, P s) :
    (readMember q m).PointsTo P := by
  have hspan := Member.span_of_forall_spans h
  cases m with
  | container name members span nameSpan =>
    obtain ⟨-, hname, hmembers⟩ := Member.forall_spans_container.1 h
    simp only [readMember]
    split
    · exact .refuse hname
    · refine (QuestNode.pointsTo_ofMembers q.name _ hmembers).bind fun _ => ?_
      exact Checked.PointsTo.bind (.note (Notice.forall_ofWarning? hname _)) fun _ => .pure _
  | assignment | item =>
    refine Checked.PointsTo.bind (.note ?_) fun _ => .pure _
    simpa using hspan

theorem pointsTo_ofContainer {c : Container} (h : ∀ m ∈ c.members, ∀ s ∈ m.spans, P s) :
    (ofContainer c).PointsTo P :=
  .foldlM (fun m hm q => pointsTo_readMember q (h m hm)) _

end QuestLine

/-! ## What a tree declares -/

namespace Declared

theorem pointsTo_ofTree (k : Kind) {t : SourceTree} (h : ∀ s ∈ t.spans, P s) :
    (ofTree k t).PointsTo P := by
  have hmembers : ∀ c ∈ t.objects, ∀ m ∈ c.members, ∀ s ∈ m.spans, P s := by
    intro c hc
    have hspans : ∀ s ∈ (Member.ofContainer c).spans, P s :=
      fun s hs => h s (List.mem_flatMap.2 ⟨c, hc, hs⟩)
    exact (Member.forall_spans_container.1 hspans).2.2
  cases k with
  | node =>
    refine Checked.PointsTo.bind (.mapM fun c hc => ?_) fun _ => .pure _
    exact Checked.PointsTo.bind (.note (Node.forall_notices_ofContainer (hmembers c hc))) fun _ =>
      .pure _
  | character =>
    refine Checked.PointsTo.bind (.mapM fun c hc => ?_) fun _ => .pure _
    exact (Character.pointsTo_ofContainer (hmembers c hc)).bind fun _ => .pure _
  | quest =>
    refine Checked.PointsTo.bind (.mapM fun c hc => ?_) fun _ => .pure _
    exact (QuestLine.pointsTo_ofContainer (hmembers c hc)).bind fun _ => .pure _

end Declared

/-- Registration points at the names of what is registered. -/
theorem World.forall_notices_register (w : World) {d : Declared} (h : ∀ p ∈ d.headings, P p.1) :
    ∀ n ∈ (w.register d).2, P n.span := by
  cases d with
  | nodes ns | characters ns | quests ns =>
    rw [Declared.headings, List.forall_mem_map] at h
    exact forall_notices_gather (fun p hp w => Notice.forall_ofWarning? (h p hp) _) w

end StoryWorld
