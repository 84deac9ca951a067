import StoryWorld.Proofs.Loader.Layout
import StoryWorld.Proofs.Tree.Reading

/-!
# Sources in one text or in several

A text that is read as a tree may be followed by a newline and another: the objects of both are
read, the later ones at moved spans. Conversions take one object after another, and so does
registration, so one text does what the two do in turn. Only the order of the diagnostics differs,
since all conversions of a text come before its registrations.
-/

namespace StoryWorld

/-! ## Passes over lists that are joined -/

section
variable {α β γ σ : Type}

theorem gather_append (f : σ → α → σ × List Notice) (s : σ) (as bs : List α) :
    gather f s (as ++ bs) = ((gather f (gather f s as).1 bs).1,
      (gather f s as).2 ++ (gather f (gather f s as).1 bs).2) := by
  induction as generalizing s with
  | nil => rfl
  | cons a as ih =>
    rw [List.cons_append]
    simp only [gather, ih, List.append_assoc]

namespace Checked

theorem bind_pure_eq_ok {x : Checked α} {g : α → β}
    (h : (do let a ← x; return g a) = (⟨ns, .ok b⟩ : Checked β)) :
    ∃ a, x = ⟨ns, .ok a⟩ ∧ b = g a := by
  obtain ⟨ms, e | a⟩ := x
  · cases h
  · simp only [bind, pure, Checked.bind, Checked.pure, List.append_nil] at h
    cases h
    exact ⟨a, rfl, rfl⟩

theorem mapM_append_of_ok {k : α → Checked β} {g : List β → γ} {as bs : List α}
    (ha : (do let xs ← as.mapM k; return g xs) = (⟨ns, .ok c⟩ : Checked γ))
    (hb : (do let ys ← bs.mapM k; return g ys) = (⟨ms, .ok d⟩ : Checked γ)) :
    ∃ xs ys, c = g xs ∧ d = g ys ∧ (do let zs ← (as ++ bs).mapM k; return g zs) =
      (⟨ns ++ ms, .ok (g (xs ++ ys))⟩ : Checked γ) := by
  obtain ⟨xs, hxs, rfl⟩ := bind_pure_eq_ok ha
  obtain ⟨ys, hys, rfl⟩ := bind_pure_eq_ok hb
  refine ⟨xs, ys, rfl, rfl, ?_⟩
  rw [List.mapM_append, hxs, hys]
  simp [bind, pure, Checked.bind, Checked.pure]

end Checked
end

/-! ## Trees -/

namespace SourceTree

variable {t u : SourceTree}

theorem ofText_append_newline {a b : String} (ha : ofText a = .ok t) (hb : ofText b = .ok u) :
    ofText (a ++ "\n" ++ b) = .ok ⟨t.objects ++ (u.mapSpans (Span.behind a)).objects⟩ := by
  obtain ⟨haerror, hat⟩ := ofText_eq_ok_iff.1 ha
  obtain ⟨hberror, hbu⟩ := ofText_eq_ok_iff.1 hb
  rw [ofText_eq_ok_iff, Lexing.ofText_append_newline haerror]
  refine ⟨?_, ofLexemes_append hat (ofLexemes_mapSpans_of_ok hbu _)⟩
  rw [Lexing.mapSpans, hberror]
  rfl

end SourceTree

/-! ## Declarations -/

namespace Declared

/-- What two sources of one kind declare, together. -/
inductive Joins : Declared → Declared → Declared → Prop
  | nodes : Joins (.nodes ns) (.nodes ns') (.nodes (ns ++ ns'))
  | characters : Joins (.characters cs) (.characters cs') (.characters (cs ++ cs'))
  | quests : Joins (.quests qs) (.quests qs') (.quests (qs ++ qs'))

theorem ofTree_append {k : Kind} {t u : SourceTree} {d e : Declared}
    (ht : ofTree k t = ⟨ns, .ok d⟩) (hu : ofTree k u = ⟨ms, .ok e⟩) :
    ∃ j, Joins d e j ∧ ofTree k ⟨t.objects ++ u.objects⟩ = ⟨ns ++ ms, .ok j⟩ := by
  cases k with
  | node =>
    obtain ⟨as, bs, rfl, rfl, hjoined⟩ := Checked.mapM_append_of_ok ht hu
    exact ⟨_, .nodes, hjoined⟩
  | character =>
    obtain ⟨as, bs, rfl, rfl, hjoined⟩ := Checked.mapM_append_of_ok ht hu
    exact ⟨_, .characters, hjoined⟩
  | quest =>
    obtain ⟨as, bs, rfl, rfl, hjoined⟩ := Checked.mapM_append_of_ok ht hu
    exact ⟨_, .quests, hjoined⟩

theorem Joins.register (h : Joins d e j) (w : World) :
    w.register j = (((w.register d).1.register e).1,
      (w.register d).2 ++ ((w.register d).1.register e).2) := by
  cases h with
  | nodes | characters | quests => exact gather_append ..

end Declared

/-! ## Loads -/

/-- What a diagnostic says, wherever it points to. -/
def Diagnostic.wording (d : Diagnostic) : Severity × String := (d.severity, d.message)

namespace Loader

theorem declared_eq_ok_iff : declared k file tokens = .ok (d, ns) ↔
    ∃ t, SourceTree.ofLexing tokens = .ok t ∧ Declared.ofTree k t = ⟨ns, .ok d⟩ := by
  unfold declared
  rcases SourceTree.ofLexing tokens with e | t
  · simp
  · rcases h : Declared.ofTree k t with ⟨ms, e | d'⟩
    · simp [h]
    · simp [h, and_comm]

/-- A text is read as a tree that declares `d`, with notices. -/
def Declares (k : Kind) (text : String) (d : Declared) (ns : List Notice) : Prop :=
  ∃ t, SourceTree.ofText text = .ok t ∧ Declared.ofTree k t = ⟨ns, .ok d⟩

theorem exists_declares_of_accepted (h : (addText l k file text).2 = true) :
    ∃ d ns, Declares k text d ns := by
  rw [addText, accept_eq, outcome] at h
  rcases hdeclared : declared k file (.ofText text) with e | ⟨d, ns⟩
  · rw [hdeclared] at h
    cases h
  · exact ⟨d, ns, declared_eq_ok_iff.1 hdeclared⟩

theorem Declares.addText_eq (h : Declares k text d ns) (l : Loader) (file : String) :
    l.addText k file text = ({
      world := (l.world.register d).1
      diagnostics := l.diagnostics ++ (ns ++ (l.world.register d).2).map (·.toDiagnostic file)
      sources := l.sources.set file text }, true) := by
  rw [addText, accept_eq, outcome, declared_eq_ok_iff.2 h]

theorem Declares.append_newline {a b : String} (ha : Declares k a d ns) (hb : Declares k b e ms) :
    ∃ j, Declared.Joins d (e.mapSpans (Span.behind a)) j ∧
      Declares k (a ++ "\n" ++ b) j (ns ++ ms.map (·.mapSpan (Span.behind a))) := by
  obtain ⟨t, ht, hd⟩ := ha
  obtain ⟨u, hu, he⟩ := hb
  have hmoved : Declared.ofTree k (u.mapSpans (Span.behind a)) =
      ⟨ms.map (·.mapSpan (Span.behind a)), .ok (e.mapSpans (Span.behind a))⟩ := by
    rw [← Declared.ofTree_mapSpans, he]
    rfl
  obtain ⟨j, hjoins, hj⟩ := Declared.ofTree_append hd hmoved
  exact ⟨j, hjoins, _, SourceTree.ofText_append_newline ht hu, hj⟩

/-- The notices of two sources, in turn or those of conversion before those of registration. -/
theorem perm_wordings (f : Nat → Nat) (fileA fileB file : String) (ns ms rs ss : List Notice) :
    (((ns ++ rs).map (·.toDiagnostic fileA) ++
        (ms ++ ss).map (·.toDiagnostic fileB)).map (·.wording)).Perm
      (((ns ++ ms.map (·.mapSpan f) ++ (rs ++ ss.map (·.mapSpan f))).map
        (·.toDiagnostic file)).map (·.wording)) := by
  have hwording (file : String) (ns : List Notice) :
      (ns.map (·.toDiagnostic file)).map (·.wording) =
        ns.map fun n => (Severity.warning, n.oddity.message) := List.map_map
  have hmoved (ns : List Notice) :
      (ns.map (·.mapSpan f)).map (fun n => (Severity.warning, n.oddity.message)) =
        ns.map fun n => (Severity.warning, n.oddity.message) := List.map_map
  simp only [List.map_append, hwording, hmoved, List.append_assoc]
  exact (List.perm_append_comm_assoc _ _ _).append_left _

theorem perm_wordings_finish {l l' : Loader} (hworld : l.world = l'.world)
    (hperm : (l.diagnostics.map (·.wording)).Perm (l'.diagnostics.map (·.wording))) :
    (l.finish.diagnostics.map (·.wording)).Perm (l'.finish.diagnostics.map (·.wording)) := by
  rw [finish, finish, hworld, List.map_append, List.map_append]
  exact hperm.append_right _

/-- Two texts may be added one after the other or, with a newline between them, as one: all are
accepted, the worlds are equal, linked or not, and the diagnostics say the same. -/
theorem addText_append_newline (l : Loader) (k : Kind) {a b fileA fileB : String}
    (ha : (l.addText k fileA a).2 = true) (hb : (l.addText k fileB b).2 = true) (file : String) :
    let two := (l.addText k fileA a).1.addText k fileB b
    let one := l.addText k file (a ++ "\n" ++ b)
    two.2 = true ∧ one.2 = true ∧ two.1.world = one.1.world ∧
      two.1.finish.world = one.1.finish.world ∧
      (∃ ds es, two.1.diagnostics = l.diagnostics ++ ds ∧ one.1.diagnostics = l.diagnostics ++ es ∧
        (ds.map (·.wording)).Perm (es.map (·.wording))) ∧
      (two.1.finish.diagnostics.map (·.wording)).Perm
        (one.1.finish.diagnostics.map (·.wording)) := by
  intro two one
  obtain ⟨d, ns, hd⟩ := exists_declares_of_accepted ha
  obtain ⟨e, ms, he⟩ := exists_declares_of_accepted hb
  obtain ⟨j, hjoins, hj⟩ := hd.append_newline he
  have htwo : two = _ := he.addText_eq (l.addText k fileA a).1 fileB
  have hone : one = _ := hj.addText_eq l file
  rw [hd.addText_eq] at htwo
  rw [hjoins.register, World.register_mapSpans] at hone
  have hworld : two.1.world = one.1.world := by rw [htwo, hone, Notice.mapSpans]
  have hdiagnostics : ∃ ds es, two.1.diagnostics = l.diagnostics ++ ds ∧
      one.1.diagnostics = l.diagnostics ++ es ∧
      (ds.map (·.wording)).Perm (es.map (·.wording)) := by
    rw [htwo, hone]
    refine ⟨_, _, List.append_assoc .., rfl, ?_⟩
    exact perm_wordings (Span.behind a) fileA fileB file ..
  have hall : (two.1.diagnostics.map (·.wording)).Perm (one.1.diagnostics.map (·.wording)) := by
    obtain ⟨ds, es, hds, hes, hperm⟩ := hdiagnostics
    rw [hds, hes, List.map_append, List.map_append]
    exact hperm.append_left _
  refine ⟨by rw [htwo], by rw [hone], hworld, ?_, hdiagnostics, perm_wordings_finish hworld hall⟩
  rw [finish, finish, hworld]

/-- The inn, with a comment that the text ends in. -/
def cosyInn : String := "Inn\x7bcosy,\x7d # by the road"

/-- Another node of the same name, with an exit to itself. -/
def darkInn : String := "Inn\x7bdark,TRANS\x7bout=Inn,\x7d,\x7d"

theorem addText_append_newline_inns :
    ((start {}).addText .node "cosy" cosyInn).2 = true ∧
      ((start {}).addText .node "dark" darkInn).2 = true ∧
      (((start {}).addText .node "cosy" cosyInn).1.addText .node "dark" darkInn).1.finish.world =
        ((start {}).addText .node "inns" (cosyInn ++ "\n" ++ darkInn)).1.finish.world := by
  have hcosy : ((start {}).addText .node "cosy" cosyInn).2 = true := by decide +kernel
  have hdark : ((start {}).addText .node "dark" darkInn).2 = true := by decide +kernel
  exact ⟨hcosy, hdark, (addText_append_newline (start {}) .node hcosy hdark "inns").2.2.2.1⟩

end Loader

end StoryWorld
