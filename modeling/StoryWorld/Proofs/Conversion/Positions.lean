import StoryWorld.Loader
import StoryWorld.Proofs.Tree.RoundTrip

/-!
# What a tree declares does not depend on where it stands

Moving the bytes of all spans by one function commutes with every conversion, and so with all that
a tree declares (`Declared.ofTree_mapSpans`). A world keeps no spans, so a tree that is written and
loaded changes it as the tree itself says (`Loader.addText_write`).
-/

namespace StoryWorld

variable {α α' β β' σ : Type} {f : Nat → Nat}

/-! ## Moving spans -/

def Notice.mapSpan (f : Nat → Nat) (n : Notice) : Notice := ⟨n.span.map f, n.oddity⟩

def ConvertError.mapSpan (f : Nat → Nat) : ConvertError → ConvertError
  | condition e span => condition e (span.map f)
  | invalidQuestValue quest value span => invalidQuestValue quest value (span.map f)
  | invalidTransition quest node text span => invalidTransition quest node text (span.map f)

/-- A result with notices, where the result is changed by `g` and all spans are moved. -/
def Checked.mapSpans (f : Nat → Nat) (g : α → β) (x : Checked α) : Checked β where
  notices := x.notices.map (·.mapSpan f)
  result := match x.result with
    | .ok a => .ok (g a)
    | .error e => .error (e.mapSpan f)

/-- A state with notices, of which the spans are moved. -/
def Notice.mapSpans (f : Nat → Nat) (x : σ × List Notice) : σ × List Notice :=
  (x.1, x.2.map (·.mapSpan f))

@[simp] theorem Notice.ofWarning?_map (f : Nat → Nat) (span : Span) (w : Option WorldWarning) :
    ofWarning? (span.map f) w = (ofWarning? span w).map (·.mapSpan f) := by
  cases w <;> rfl

namespace Checked

@[simp] theorem mapSpans_note (f : Nat → Nat) (ns : List Notice) :
    (note ns).mapSpans f id = note (ns.map (·.mapSpan f)) := rfl

@[simp] theorem mapSpans_refuse (f : Nat → Nat) (g : α → β) (e : ConvertError) :
    (refuse e : Checked α).mapSpans f g = refuse (e.mapSpan f) := rfl

theorem mapSpans_bind {g : α → α'} {h : β → β'} (x : Checked α) {k : α → Checked β}
    {k' : α' → Checked β'} (hk : ∀ a, (k a).mapSpans f h = k' (g a)) :
    (x >>= k).mapSpans f h = x.mapSpans f g >>= k' := by
  obtain ⟨ns, e | a⟩ := x
  · rfl
  · simp only [bind, Checked.bind, mapSpans, List.map_append, ← hk]

theorem mapSpans_mapM {g : α → α'} {h : β → β'} {k : α → Checked β} {k' : α' → Checked β'}
    (hk : ∀ a, (k a).mapSpans f h = k' (g a)) (as : List α) :
    (as.mapM k).mapSpans f (List.map h) = (as.map g).mapM k' := by
  induction as with
  | nil => rfl
  | cons a as ih =>
    rw [List.map_cons, List.mapM_cons, List.mapM_cons, ← hk, ← ih]
    exact mapSpans_bind _ fun b => mapSpans_bind _ fun bs => rfl

theorem mapSpans_foldlM {g : α → α'} {k : σ → α → Checked σ} {k' : σ → α' → Checked σ}
    (hk : ∀ s a, (k s a).mapSpans f id = k' s (g a)) (as : List α) (s : σ) :
    (as.foldlM k s).mapSpans f id = (as.map g).foldlM k' s := by
  induction as generalizing s with
  | nil => rfl
  | cons a as ih =>
    rw [List.map_cons, List.foldlM_cons, List.foldlM_cons, ← hk]
    exact mapSpans_bind _ fun s => ih s

end Checked

theorem gather_mapSpans {g : α → α'} {k : σ → α → σ × List Notice}
    {k' : σ → α' → σ × List Notice} (hk : ∀ s a, k' s (g a) = Notice.mapSpans f (k s a))
    (as : List α) (s : σ) : gather k' s (as.map g) = Notice.mapSpans f (gather k s as) := by
  induction as generalizing s with
  | nil => rfl
  | cons a as ih => simp [gather, hk, ih, Notice.mapSpans]

/-! ## Nodes -/

namespace Node

theorem readExit_mapSpans (f : Nat → Nat) (n : Node) (m : Member) :
    readExit n (m.mapSpans f) = Notice.mapSpans f (readExit n m) := by
  cases m with
  | assignment direction target span =>
    simp [Member.mapSpans, readExit, Notice.mapSpans]
  | container | item => rfl

theorem readMember_mapSpans (f : Nat → Nat) (n : Node) (m : Member) :
    readMember n (m.mapSpans f) = Notice.mapSpans f (readMember n m) := by
  cases m with
  | container name members span nameSpan =>
    simp only [Member.mapSpans, Member.allMapSpans_eq_map, readMember,
      gather_mapSpans (readExit_mapSpans f)]
    split <;> rfl
  | assignment | item => rfl

theorem ofContainer_mapSpans (f : Nat → Nat) (c : Container) :
    ofContainer (c.mapSpans f) = Notice.mapSpans f (ofContainer c) := by
  simp only [ofContainer, Container.mapSpans, Member.allMapSpans_eq_map,
    gather_mapSpans (readMember_mapSpans f)]

end Node

/-! ## Characters -/

theorem Checked.condition_mapSpans (f : Nat → Nat) (name : String) (nameSpan : Span) :
    condition name (nameSpan.map f) = (condition name nameSpan).mapSpans f id := by
  unfold condition
  cases Condition.ofText name <;> rfl

mutual
theorem Effect.ofMember_mapSpans (f : Nat → Nat) (rule : String) : (m : Member) →
    (ofMember rule m).mapSpans f id = ofMember rule (m.mapSpans f)
  | .container name members _ nameSpan => by
    rw [Member.mapSpans, ofMember, ofMember, Checked.condition_mapSpans]
    refine Checked.mapSpans_bind _ fun condition => ?_
    rw [id_eq, ← ofMembers_mapSpans f name members]
    exact Checked.mapSpans_bind _ fun effects => rfl
  | .assignment .. => rfl
  | .item text span => by
    simp only [Member.mapSpans, ofMember]
    split <;> rfl

theorem Effect.ofMembers_mapSpans (f : Nat → Nat) (rule : String) : (ms : List Member) →
    (ofMembers rule ms).mapSpans f id = ofMembers rule (Member.allMapSpans f ms)
  | [] => rfl
  | m :: ms => by
    rw [Member.allMapSpans, ofMembers, ofMembers, ← ofMember_mapSpans f rule m,
      ← ofMembers_mapSpans f rule ms]
    exact Checked.mapSpans_bind _ fun first => Checked.mapSpans_bind _ fun rest => rfl
end

theorem Rule.ofMembers_mapSpans (f : Nat → Nat) (name : String) (nameSpan : Span)
    (members : List Member) : (ofMembers name nameSpan members).mapSpans f id =
      ofMembers name (nameSpan.map f) (Member.allMapSpans f members) := by
  rw [ofMembers, ofMembers, Checked.condition_mapSpans, ← Effect.ofMembers_mapSpans]
  exact Checked.mapSpans_bind _ fun condition => Checked.mapSpans_bind _ fun effects => rfl

namespace Character

theorem readMember_mapSpans (f : Nat → Nat) (c : Character) (m : Member) :
    (readMember c m).mapSpans f id = readMember c (m.mapSpans f) := by
  cases m with
  | container name members span nameSpan =>
    rw [Member.mapSpans, readMember, readMember, ← Rule.ofMembers_mapSpans]
    exact Checked.mapSpans_bind _ fun rule => rfl
  | assignment key value span =>
    simp only [Member.mapSpans, readMember, Notice.ofWarning?_map, ← Checked.mapSpans_note]
    exact Checked.mapSpans_bind _ fun _ => rfl
  | item text span => rfl

theorem ofContainer_mapSpans (f : Nat → Nat) (c : Container) :
    (ofContainer c).mapSpans f id = ofContainer (c.mapSpans f) := by
  simp only [ofContainer, Container.mapSpans, Member.allMapSpans_eq_map]
  exact Checked.mapSpans_foldlM (readMember_mapSpans f) _ _

end Character

/-! ## Quest lines -/

namespace QuestNode

theorem items_mapSpans (f : Nat → Nat) (ms : List Member) :
    items (ms.map (·.mapSpans f)) = (items ms).map fun item => (item.1, item.2.map f) := by
  rw [items, items, List.filterMap_map, List.map_filterMap]
  refine congrArg (List.filterMap · ms) (funext fun m => ?_)
  cases m <;> rfl

theorem strayMembers_mapSpans (f : Nat → Nat) (quest : String) (value : Integer)
    (ms : List Member) : strayMembers quest value (ms.map (·.mapSpans f)) =
      (strayMembers quest value ms).map (·.mapSpan f) := by
  rw [strayMembers, strayMembers, List.filterMap_map, List.map_filterMap]
  refine congrArg (List.filterMap · ms) (funext fun m => ?_)
  cases m <;> rfl

theorem readItem_mapSpans (f : Nat → Nat) (quest : String) (n : QuestNode)
    (item : String × Span) : (readItem quest n item).mapSpans f id =
      readItem quest n (item.1, item.2.map f) := by
  unfold readItem
  rcases readTransition? item.1 with _ | ⟨target, description⟩
  · exact Checked.mapSpans_refuse ..
  · simp only [Notice.ofWarning?_map, ← Checked.mapSpans_note]
    exact Checked.mapSpans_bind _ fun _ => rfl

theorem ofMembers_mapSpans (f : Nat → Nat) (quest : String) (value : Integer)
    (ms : List Member) : (ofMembers quest value ms).mapSpans f id =
      ofMembers quest value (ms.map (·.mapSpans f)) := by
  rw [ofMembers, ofMembers, items_mapSpans, strayMembers_mapSpans, ← Checked.mapSpans_note]
  refine Checked.mapSpans_bind _ fun _ => ?_
  cases items ms with
  | nil => rfl
  | cons details transitions => exact Checked.mapSpans_foldlM (readItem_mapSpans f quest) _ _

end QuestNode

namespace QuestLine

theorem readMember_mapSpans (f : Nat → Nat) (q : QuestLine) (m : Member) :
    (readMember q m).mapSpans f id = readMember q (m.mapSpans f) := by
  cases m with
  | container name members span nameSpan =>
    simp only [Member.mapSpans, readMember, Member.allMapSpans_eq_map]
    split
    · rfl
    · rw [← QuestNode.ofMembers_mapSpans]
      refine Checked.mapSpans_bind _ fun node => ?_
      simp only [Notice.ofWarning?_map, ← Checked.mapSpans_note]
      exact Checked.mapSpans_bind _ fun _ => rfl
  | assignment | item => rfl

theorem ofContainer_mapSpans (f : Nat → Nat) (c : Container) :
    (ofContainer c).mapSpans f id = ofContainer (c.mapSpans f) := by
  simp only [ofContainer, Container.mapSpans, Member.allMapSpans_eq_map]
  exact Checked.mapSpans_foldlM (readMember_mapSpans f) _ _

end QuestLine

/-! ## Trees -/

/-- Things with the places of their names, of which the places are moved. -/
def Span.mapPlaced (f : Nat → Nat) (as : List (Span × α)) : List (Span × α) :=
  as.map fun p => (p.1.map f, p.2)

def Declared.mapSpans (f : Nat → Nat) : Declared → Declared
  | nodes ns => nodes (Span.mapPlaced f ns)
  | characters cs => characters (Span.mapPlaced f cs)
  | quests qs => quests (Span.mapPlaced f qs)

theorem Checked.mapSpans_mapM_placed {k : Container → Checked α}
    (hk : ∀ c, (k c).mapSpans f id = k (c.mapSpans f)) (cs : List Container) :
    (cs.mapM fun c => do let a ← k c; return (c.nameSpan, a)).mapSpans f (Span.mapPlaced f) =
      (cs.map (·.mapSpans f)).mapM fun c => do let a ← k c; return (c.nameSpan, a) := by
  refine mapSpans_mapM (fun c => ?_) cs
  rw [← hk]
  exact mapSpans_bind _ fun _ => rfl

theorem Declared.ofTree_mapSpans (f : Nat → Nat) (k : Kind) (t : SourceTree) :
    (ofTree k t).mapSpans f (·.mapSpans f) = ofTree k (t.mapSpans f) := by
  cases k with
  | node =>
    -- the notices come beside the node, so the law for results with notices does not apply
    have hnode (c : Container) : (do
        Checked.note (Node.ofContainer c).2
        return (c.nameSpan, (Node.ofContainer c).1) : Checked _).mapSpans f
          (fun p => (p.1.map f, p.2)) = do
        Checked.note (Node.ofContainer (c.mapSpans f)).2
        return ((c.mapSpans f).nameSpan, (Node.ofContainer (c.mapSpans f)).1) := by
      rw [Node.ofContainer_mapSpans]
      exact Checked.mapSpans_bind (g := id) _ fun _ => rfl
    rw [ofTree, ofTree, SourceTree.mapSpans, ← Checked.mapSpans_mapM hnode]
    exact Checked.mapSpans_bind _ fun ns => rfl
  | character =>
    rw [ofTree, ofTree, SourceTree.mapSpans,
      ← Checked.mapSpans_mapM_placed (Character.ofContainer_mapSpans f)]
    exact Checked.mapSpans_bind _ fun cs => rfl
  | quest =>
    rw [ofTree, ofTree, SourceTree.mapSpans,
      ← Checked.mapSpans_mapM_placed (QuestLine.ofContainer_mapSpans f)]
    exact Checked.mapSpans_bind _ fun qs => rfl

/-! ## Worlds -/

theorem World.register_mapSpans (f : Nat → Nat) (w : World) (d : Declared) :
    w.register (d.mapSpans f) = Notice.mapSpans f (w.register d) := by
  cases d with
  | nodes ns | characters cs | quests qs =>
    refine gather_mapSpans (fun w placed => ?_) _ w
    exact Prod.ext rfl (Notice.ofWarning?_map ..)

/-- A tree that is written and loaded is accepted if it can be converted, and registers what it
declares. -/
theorem Loader.addText_write {k : Kind} {t : SourceTree} {d : Declared} (ht : t.QuoteFree)
    (hd : (Declared.ofTree k t).result = .ok d) (l : Loader) (file : String) :
    (l.addText k file t.write).2 = true ∧
      (l.addText k file t.write).1.world = (l.world.register d).1 := by
  obtain ⟨u, hu, hshape⟩ := SourceTree.ofText_write ht
  have hsame : (Declared.ofTree k u).mapSpans Span.forget (·.mapSpans Span.forget) =
      (Declared.ofTree k t).mapSpans Span.forget (·.mapSpans Span.forget) := by
    rw [Declared.ofTree_mapSpans, Declared.ofTree_mapSpans, (SourceTree.sameShape_iff u t).1 hshape]
  have hresult := congrArg Checked.result hsame
  simp only [Checked.mapSpans, hd] at hresult
  rcases hread : Declared.ofTree k u with ⟨notices, e | d'⟩
  · rw [hread] at hresult
    cases hresult
  · rw [hread] at hresult
    have hd' : d'.mapSpans Span.forget = d.mapSpans Span.forget := Except.ok.inj hresult
    have hworld : (l.world.register d').1 = (l.world.register d).1 := by
      have hregister := congrArg Prod.fst (World.register_mapSpans Span.forget l.world d')
      rw [hd', World.register_mapSpans] at hregister
      exact hregister.symm
    have hdeclared : declared k file (.ofText t.write) = .ok (d', notices) := by
      rw [SourceTree.ofText] at hu
      simp only [declared, hu, hread]
    simp only [addText, accept, hdeclared]
    exact ⟨trivial, hworld⟩

end StoryWorld
