import StoryWorld.Proofs.Condition.RoundTrip
import StoryWorld.Proofs.Conversion.Positions
import StoryWorld.Proofs.Key

/-!
# Writing a rule and reading it back

A rule as a container is named by its condition as that is shown, with one member for each effect.
Its text is one container, and the rule of that container is the rule again, where only the source
text that each condition carries is replaced by the shown one (`Rule.restated`).
-/

namespace StoryWorld

/-! ## Texts without quotes -/

theorem Operator.quote_not_mem_symbol (op : Operator) : '"' ∉ op.symbol.toList := by
  cases op <;> decide

theorem Expr.Writable.quote_not_mem_shown {e : Expr} (h : e.Writable) : '"' ∉ e.shown.toList := by
  induction e with
  | literal v =>
    cases v with
    | int n => exact n.notMem_text (by decide) (by decide)
    | bool b => cases b <;> decide
    | text s => exact absurd h id
  | name ident => exact fun hmem => absurd (h.word _ hmem) (by decide)
  | binary op left right ihl ihr =>
    simp only [shown, String.toList_append, List.mem_append, not_or]
    exact ⟨⟨⟨⟨⟨⟨by decide, ihl h.1⟩, by decide⟩, op.quote_not_mem_symbol⟩, by decide⟩, ihr h.2⟩,
      by decide⟩

/-! ## Rules as containers -/

/-- The condition with its expression as the text that it carries. -/
def Condition.restated (c : Condition) : Condition := ⟨c.expr.shown, c.expr⟩

namespace Effect

/-- Effects that can be made: an assignment takes its key through `Key.canonical`. -/
inductive Built : Effect → Prop
  | assigning (key : String) (v : Value) : Built (.assigning key v)
  | nest {condition : Condition} {effects : List Effect} (h : ∀ e ∈ effects, Built e) :
    Built (.nest condition effects)
  | rerun : Built .rerun

mutual
/-- Whether conditions can be written, keys and values have no double quote, and each value is the
one that its text stands for. -/
def Writable : Effect → Prop
  | assign key v => '"' ∉ key.toList ∧ '"' ∉ v.shown.toList ∧ Value.ofText v.shown = v
  | nest condition effects => condition.expr.Writable ∧ allWritable effects
  | rerun => True

def allWritable : List Effect → Prop
  | [] => True
  | e :: es => e.Writable ∧ allWritable es
end

mutual
/-- The member that an effect is written as. -/
def member : Effect → Member
  | assign key v => .assignment key v.shown (.point 0)
  | nest condition effects =>
    .container condition.expr.shown (members effects) (.point 0) (.point 0)
  | rerun => .item rerunText (.point 0)

def members : List Effect → List Member
  | [] => []
  | e :: es => e.member :: members es
end

mutual
/-- The effect with all conditions in it restated. -/
def restated : Effect → Effect
  | assign key v => .assign key v
  | nest condition effects => .nest condition.restated (allRestated effects)
  | rerun => .rerun

def allRestated : List Effect → List Effect
  | [] => []
  | e :: es => e.restated :: allRestated es
end

end Effect

namespace Rule

/-- Rules that can be made. -/
def Built (r : Rule) : Prop := ∀ e ∈ r.effects, e.Built

/-- Whether conditions can be written, keys and values have no double quote, and each value is the
one that its text stands for, at every depth. -/
def Writable (r : Rule) : Prop := r.condition.expr.Writable ∧ Effect.allWritable r.effects

/-- The container that a rule is written as. -/
def container (r : Rule) : Container :=
  ⟨r.condition.expr.shown, Effect.members r.effects, .point 0, .point 0⟩

/-- The rule with all conditions in it restated. -/
def restated (r : Rule) : Rule := ⟨r.condition.restated, Effect.allRestated r.effects⟩

end Rule

theorem Condition.holds_restated (c : Condition) : c.restated.holds = c.holds := rfl

mutual
theorem Effect.run_restated : (e : Effect) → (s : Scope) → e.restated.run s = e.run s
  | .assign .., _ => by rw [restated]
  | .nest condition effects, s => by
    rw [restated, run, run, Condition.holds_restated, runAll_allRestated effects]
  | .rerun, _ => by rw [restated]

theorem Effect.runAll_allRestated :
    (es : List Effect) → (s : Scope) → runAll s (allRestated es) = runAll s es
  | [], _ => rfl
  | e :: es, s => by
    rw [allRestated, runAll, runAll, run_restated e]
    split
    · exact runAll_allRestated es _
    · rfl
end

/-- A restated rule does the same. -/
theorem Rule.apply_restated (r : Rule) (s : Scope) : r.restated.apply s = r.apply s :=
  Effect.run_restated (.nesting r) s

/-! ## Writing -/

mutual
theorem Effect.quote_not_mem_texts : (e : Effect) → e.Writable →
    ∀ s ∈ e.member.texts, '"' ∉ s.toList
  | .assign key v, h => by
    rw [Writable] at h
    simpa [member, Member.texts] using ⟨h.1, h.2.1⟩
  | .nest condition effects, h => by
    rw [Writable] at h
    rw [member, Member.texts, List.forall_mem_cons]
    exact ⟨h.1.quote_not_mem_shown, quote_not_mem_allTexts effects h.2⟩
  | .rerun, _ => by decide

theorem Effect.quote_not_mem_allTexts : (es : List Effect) → allWritable es →
    ∀ s ∈ Member.allTexts (members es), '"' ∉ s.toList
  | [], _ => List.forall_mem_nil _
  | e :: es, h => by
    rw [allWritable] at h
    rw [members, Member.allTexts, List.forall_mem_append]
    exact ⟨quote_not_mem_texts e h.1, quote_not_mem_allTexts es h.2⟩
end

theorem Rule.Writable.quoteFree {r : Rule} (h : r.Writable) :
    SourceTree.QuoteFree ⟨[r.container]⟩ := by
  have htexts : SourceTree.texts ⟨[r.container]⟩ =
      r.condition.expr.shown :: Member.allTexts (Effect.members r.effects) := by
    rw [SourceTree.texts, List.map_singleton, Member.allTexts_singleton,
      Member.texts_ofContainer]
    rfl
  rw [SourceTree.QuoteFree, htexts, List.forall_mem_cons]
  exact ⟨h.1.quote_not_mem_shown, Effect.quote_not_mem_allTexts _ h.2⟩

/-! ## Reading -/

theorem Checked.condition_shown {c : Condition} (h : c.expr.Writable) (nameSpan : Span) :
    condition c.expr.shown nameSpan = pure c.restated := by
  rw [condition, Condition.ofText_shown h]
  rfl

theorem Checked.eq_pure_of_mapSpans {α : Type} {f : Nat → Nat} {x : Checked α} {a : α}
    (h : x.mapSpans f id = pure a) : x = pure a := by
  obtain ⟨notices, e | b⟩ := x
  · cases congrArg Checked.result h
  · have hnotices : notices = [] := List.map_eq_nil_iff.1 (congrArg Checked.notices h)
    have hb : b = a := Except.ok.inj (congrArg Checked.result h)
    rw [hnotices, hb]
    rfl

mutual
theorem Effect.ofMember_member (rule : String) : (e : Effect) → e.Built → e.Writable →
    ofMember rule e.member = pure [e.restated]
  | .assign _ _, .assigning key v, h => by
    rw [Writable] at h
    rw [member, ofMember, h.2.2, assigning, Key.canonical_canonical]
    rfl
  | .nest condition effects, .nest hbuilt, h => by
    rw [Writable] at h
    rw [member, ofMember, Checked.condition_shown h.1, pure_bind,
      ofMembers_members _ effects hbuilt h.2, pure_bind]
    rfl
  | .rerun, _, _ => by
    have hrerun : Text.sameFolded rerunText rerunText = true := by decide
    rw [member, ofMember, if_pos hrerun]
    rfl

theorem Effect.ofMembers_members (rule : String) : (es : List Effect) → (∀ e ∈ es, e.Built) →
    allWritable es → ofMembers rule (members es) = pure (allRestated es)
  | [], _, _ => rfl
  | e :: es, hbuilt, h => by
    rw [List.forall_mem_cons] at hbuilt
    rw [allWritable] at h
    rw [members, ofMembers, ofMember_member rule e hbuilt.1 h.1, pure_bind,
      ofMembers_members rule es hbuilt.2 h.2, pure_bind]
    rfl
end

namespace Rule

theorem ofContainer_container {r : Rule} (hbuilt : r.Built) (h : r.Writable) :
    ofContainer r.container = pure r.restated := by
  rw [container, ofContainer, ofMembers, Checked.condition_shown h.1, pure_bind,
    Effect.ofMembers_members _ _ hbuilt h.2, pure_bind]
  rfl

theorem ofContainer_mapSpans (f : Nat → Nat) (c : Container) :
    (ofContainer c).mapSpans f id = ofContainer (c.mapSpans f) :=
  ofMembers_mapSpans ..

/-- A rule that is read without notices is the same wherever its container stands. -/
theorem ofContainer_eq_pure {c o : Container} {r : Rule} (hc : ofContainer c = pure r)
    (ho : o.mapSpans Span.forget = c.mapSpans Span.forget) : ofContainer o = pure r := by
  refine Checked.eq_pure_of_mapSpans (f := Span.forget) ?_
  rw [ofContainer_mapSpans, ho, ← ofContainer_mapSpans, hc]
  rfl

/-- The text of a rule is one container, which is read without notices as the same expressions and
effects, in the same order and at every depth. -/
theorem ofContainer_of_write {r : Rule} (hbuilt : r.Built) (h : r.Writable) :
    ∃ o, SourceTree.ofText r.container.write = .ok ⟨[o]⟩ ∧ ofContainer o = ⟨[], .ok r.restated⟩ := by
  obtain ⟨o, hread, ho⟩ := SourceTree.ofText_write_container h.quoteFree
  exact ⟨o, hread, ofContainer_eq_pure (ofContainer_container hbuilt h) ho⟩

/-- A watch that goes home at night, with two words as a key, a negative number in the condition
and another as a value, and a nested rule. -/
def nightWatch : Rule where
  condition := ⟨"(hour - -5) > LATE", .binary .gt
    (.binary .sub (.name "hour") (.literal (.int (-5)))) (.name "LATE")⟩
  effects := [.assigning "Node" (.text "dark cave"), .assigning "hit points" (.int (-3)),
    .nest ⟨"asleep", .name "asleep"⟩ [.assigning "awake" (.bool false), .rerun]]

theorem ofContainer_of_write_nightWatch :
    nightWatch.container.write = "\"((hour - -5) > LATE)\" \x7b\n  NODE = \"dark cave\",\n" ++
      "  \"hit points\" = \"-3\",\n  asleep \x7b\n    awake = false,\n    RERUN,\n  \x7d,\n\x7d" ∧
    ∃ o, SourceTree.ofText nightWatch.container.write = .ok ⟨[o]⟩ ∧
      ofContainer o = ⟨[], .ok nightWatch.restated⟩ := by
  have hlate : Condition.ofText "(hour - -5) > LATE" = .ok nightWatch.condition := by rfl
  have hasleep : Condition.ofText "asleep" = .ok ⟨"asleep", .name "asleep"⟩ := by rfl
  have hbuilt : nightWatch.Built := by
    simp only [Built, nightWatch, List.forall_mem_cons]
    refine ⟨.assigning .., .assigning .., .nest ?_, List.forall_mem_nil _⟩
    simp only [List.forall_mem_cons]
    exact ⟨.assigning .., .rerun, List.forall_mem_nil _⟩
  have hwritable : nightWatch.Writable := by
    refine ⟨Condition.writable_of_ofText hlate, ?_⟩
    simp only [nightWatch, Effect.allWritable, Effect.Writable, Effect.assigning, and_true]
    exact ⟨by decide, by decide, Condition.writable_of_ofText hasleep, by decide⟩
  exact ⟨by rfl, ofContainer_of_write hbuilt hwritable⟩

end Rule

end StoryWorld
