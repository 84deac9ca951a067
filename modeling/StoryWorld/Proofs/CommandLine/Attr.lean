import StoryWorld.CommandLine.Run
import StoryWorld.Proofs.CommandLine.Arguments
import StoryWorld.Proofs.Loader.Directory
import StoryWorld.Proofs.World.QuestSteps

/-!
# Attributes after steps

A loaded world has its quest lines at their first states. Asking it for an attribute takes steps
first, in the order of the line, and answers with one number if each of them is allowed
(`CommandLine.attr_answersAfter`).
-/

namespace StoryWorld

/-! ## Loaded quest lines -/

theorem QuestLine.atStart_of_ofContainer {o : Container} {q : QuestLine}
    (h : (ofContainer o).result = .ok q) : q.AtStart := by
  refine Checked.foldlM_induction (motive := AtStart) (fun hstep hs => ?_) h rfl
  rcases readMember_eq_ok hstep with rfl | ⟨node, rfl⟩
  · exact hs
  · exact hs.addNode node

theorem Declared.atStart_of_mem_entities {k : Kind} {t : SourceTree} {d : Declared}
    (h : (ofTree k t).result = .ok d) {q : QuestLine} (hq : .quest q ∈ d.entities) : q.AtStart := by
  cases k with
  | node | character =>
    obtain ⟨xs, -, hpure⟩ := Checked.result_bind_eq_ok_iff.1 h
    obtain rfl := Except.ok.inj hpure
    obtain ⟨x, -, hx⟩ := List.mem_map.1 hq
    cases hx
  | quest =>
    obtain ⟨qs, hqs, hpure⟩ := Checked.result_bind_eq_ok_iff.1 h
    obtain rfl := Except.ok.inj hpure
    obtain ⟨⟨span, q'⟩, hmem, hq'⟩ := List.mem_map.1 hq
    cases hq'
    obtain ⟨c, hc⟩ := Checked.exists_of_mem_result_mapM hqs hmem
    obtain ⟨q', hconverted, hpure⟩ := Checked.result_bind_eq_ok_iff.1 hc
    cases hpure
    exact QuestLine.atStart_of_ofContainer hconverted

theorem SourceFile.atStart_of_mem_entities {f : SourceFile} {q : QuestLine}
    (hq : .quest q ∈ f.entities) : q.AtStart := by
  unfold entities at hq
  split at hq
  · next d notices hd =>
    obtain ⟨tokens, -, hdeclared⟩ := declaration_eq_some_iff.1 hd
    obtain ⟨t, -, htree⟩ := Loader.declared_eq_ok_iff.1 hdeclared
    exact Declared.atStart_of_mem_entities (by rw [htree]) hq
  · cases hq

/-- What loads is a directory. Names lead to its things, and its quest lines are at their first
states. -/
theorem atStart_of_loadWorld {path : String} {opened : Except SystemError Opened}
    {settings : Settings} {depth : Nat} {r : LoadReport}
    (h : loadWorld path opened settings depth = .ok r) :
    r.world.Indexed ∧ ∀ q ∈ r.world.quests.items, q.AtStart := by
  obtain ⟨root, rfl, hroot⟩ : ∃ root, opened = .ok root ∧ root.isDirectory = true := by
    unfold loadWorld at h
    split at h
    · cases h
    · next root =>
      split at h
      · next hroot => exact ⟨root, rfl, hroot⟩
      · cases h
  obtain ⟨r', hload, hworld, -⟩ := loadWorld_directory path root hroot settings depth
  obtain rfl : r' = r := Except.ok.inj (hload.symm.trans h)
  rw [hworld]
  refine ⟨(World.indexed_settled ..).link, fun q hq => ?_⟩
  have hitem : q ∈ (World.settled settings
      ((SourceFile.discovered path root depth).flatMap (·.entities))).quests.items := hq
  rw [World.settled, World.foldl_enroll] at hitem
  rcases Registry.mem_items_insertAll hitem with hempty | hmem
  · cases hempty
  · obtain ⟨e, he, hquest⟩ := List.mem_filterMap.1 hmem
    obtain ⟨f, -, hf⟩ := List.mem_flatMap.1 he
    cases e with
    | node | character => cases hquest
    | quest q' =>
      cases hquest
      exact SourceFile.atStart_of_mem_entities hf

namespace CommandLine

/-! ## Answers -/

/-- What is printed for an attribute of a world after steps: a number if the steps lead to a world
in which the name has one, and else nothing. For names other than the clock's, the number is that of
the last step that names the quest line, or else its first state. -/
structure Outcome.AnswersAfter (out : Outcome) (w : World) (steps : List (String × Integer))
    (name : String) : Prop where
  code_eq_zero_iff : out.code = 0 ↔ ∃ w' value, w.Moves steps w' ∧ w'.Resolves name value
  stdout : ∀ w' value, w.Moves steps w' → w'.Resolves name value → out.stdout = value.text ++ "\n"
  refused : out.code ≠ 0 → out.code = 1 ∧ out.stdout = ""
  resolves_iff : name ∉ World.clockNames → ∀ w' value, w.Moves steps w' →
    (w'.Resolves name value ↔ ∃ q, w.quests.find? name = some q ∧ q.nodes ≠ [] ∧
      (lastStep name steps).or q.nodes.keys.head? = some value)

section

variable {r : LoadReport} {o : WorldOptions} {f : World → String → Outcome}

theorem withWorld_of_refused {e : QuestError} {w : World} (herrors : r.hasErrors = false)
    (h : r.world.takeSteps o.quests = (.error e, w)) :
    withWorld r o f = .failure (diagnosticsText r) e.message := by
  rw [withWorld, herrors, if_neg Bool.false_ne_true, h]

theorem withWorld_of_taken {w : World} (herrors : r.hasErrors = false)
    (h : r.world.takeSteps o.quests = (.ok (), w)) :
    withWorld r o f = f w (diagnosticsText r) := by
  rw [withWorld, herrors, if_neg Bool.false_ne_true, h]

end

theorem attr_of_none {w : World} {name : String} (h : w.attributes name = none) (stderr : String) :
    attr w stderr name = .failure stderr ("unknown attribute: \"" ++ name ++ "\"") := by
  rw [attr, h]

theorem attr_of_resolves {w : World} {name : String} {value : Integer}
    (h : w.Resolves name value) (stderr : String) :
    attr w stderr name = ⟨0, value.text ++ "\n", stderr⟩ := by
  have hlines : Outcome.lines stderr [value.text] = ⟨0, value.text ++ "\n", stderr⟩ := by
    rw [Outcome.lines, List.map_cons, List.map_nil, String.join_cons, String.join_nil,
      String.append_empty]
  rw [attr, World.attributes_eq_some_iff.2 ⟨value, h, rfl⟩, ← hlines]
  rfl

theorem Outcome.answersAfter_failure {w : World} {steps : List (String × Integer)} {name : String}
    (hw : w.Indexed) (hstart : ∀ q ∈ w.quests.items, q.AtStart)
    (h : ∀ w' value, w.Moves steps w' → ¬w'.Resolves name value) (stderr message : String) :
    (failure stderr message).AnswersAfter w steps name where
  code_eq_zero_iff := by
    refine iff_of_false Nat.one_ne_zero ?_
    rintro ⟨w', value, hmoves, hvalue⟩
    exact h w' value hmoves hvalue
  stdout w' value hmoves hvalue := absurd hvalue (h w' value hmoves)
  refused _ := ⟨rfl, rfl⟩
  resolves_iff hname w' value hmoves := hmoves.resolves_iff hw hstart hname

theorem answersAfter_withWorld {r : LoadReport} (hw : r.world.Indexed)
    (hstart : ∀ q ∈ r.world.quests.items, q.AtStart) (herrors : r.hasErrors = false)
    (name : String) (o : WorldOptions) :
    (withWorld r o fun w stderr => attr w stderr name).AnswersAfter r.world o.quests name := by
  rcases hsteps : r.world.takeSteps o.quests with ⟨answer, w⟩
  rcases answer with e | ⟨⟨⟩⟩
  · rw [withWorld_of_refused herrors hsteps]
    refine Outcome.answersAfter_failure hw hstart (fun w' value hmoves => ?_) _ _
    rw [hw.takeSteps_eq_ok_iff.2 hmoves] at hsteps
    cases hsteps
  · have hmoves := hw.takeSteps_eq_ok_iff.1 hsteps
    have hunique {w' : World} (hmoves' : r.world.Moves o.quests w') : w' = w := by
      rw [hw.takeSteps_eq_ok_iff.2 hmoves'] at hsteps
      exact congrArg Prod.snd hsteps
    rw [withWorld_of_taken herrors hsteps]
    rcases hattribute : w.attributes name with _ | v
    · rw [attr_of_none hattribute]
      refine Outcome.answersAfter_failure hw hstart (fun w' value hmoves' hvalue => ?_) _ _
      rw [hunique hmoves'] at hvalue
      rw [World.attributes_eq_some_iff.2 ⟨value, hvalue, rfl⟩] at hattribute
      cases hattribute
    · obtain ⟨value, hvalue, rfl⟩ := World.attributes_eq_some_iff.1 hattribute
      rw [attr_of_resolves hvalue]
      constructor
      · exact iff_of_true rfl ⟨w, value, hmoves, hvalue⟩
      · intro w' value' hmoves' hvalue'
        obtain rfl := hunique hmoves'
        rw [World.attributes_eq_some_iff.2 ⟨value', hvalue', rfl⟩] at hattribute
        cases hattribute
        rfl
      · intro hne
        exact absurd rfl hne
      · intro hname w' value' hmoves'
        exact hmoves'.resolves_iff hw hstart hname

/-- A line that asks for an attribute is answered from the world that loads, after the line's steps.
Where nothing looks like an option that is none, a line is accepted if its hour is an integer and
its steps are well-formed, and then has just these steps. -/
theorem attr_answersAfter (resolve : String → Except SystemError Opened) :
    (∀ args name o r, readCommand false args = .ok (.attr name o) →
      loadWorld o.dir (resolve o.dir) o.settings o.depth = .ok r → r.hasErrors = false →
        (run resolve args).AnswersAfter r.world o.quests name) ∧
    ∀ name dir hour steps, ¬LooksLikeOption name → ¬LooksLikeOption dir → dir ≠ "" →
      (∀ step ∈ steps, ¬LooksLikeOption step) →
        ∀ c, readCommand false (attrLine name dir hour steps) = .ok c ↔
          ∃ n moves, Integer.Numeral n hour.toList ∧ List.Forall₂ IsStep steps moves ∧
            c = .attr name { dir := dir, settings := { startHour := n }, quests := moves } := by
  refine ⟨fun args name o r hargs hload herrors => ?_, fun name dir hour steps hname hdir hne
    hsteps c => readCommand_attrLine hname hdir hsteps hne⟩
  obtain ⟨hw, hstart⟩ := atStart_of_loadWorld hload
  have hrun : run resolve args = withWorld r o fun w stderr => attr w stderr name := by
    rw [run, hargs]
    change loading o (resolve o.dir) _ = _
    rw [loading, hload]
  rw [hrun]
  exact answersAfter_withWorld hw hstart herrors name o

/-- A ferry that crosses once. -/
def ferryText : String := "ferry \x7b 0 \x7b here, 1: across, \x7d, 1 \x7b there, \x7d, \x7d"

/-- The source file of the ferry. -/
def ferryFile : SourceFile := ⟨.quest, ["quests.txt"], .ok ferryText.toUTF8.toList⟩

/-- The quest line of the ferry. -/
def ferryLine : QuestLine where
  name := "ferry"
  nodes := [(0, ⟨0, "here", [(1, "across")]⟩), (1, ⟨1, "there", []⟩)]
  current := some 0

theorem ferryFile_accepted : ferryFile.Accepted :=
  SourceFile.accepted_ofText.2 (by decide +kernel)

theorem entities_ferryFile : ferryFile.entities = [.quest ferryLine] := by
  obtain ⟨d, ns, hdeclared, hentities⟩ : ∃ d ns,
      Loader.declared .quest "quests.txt" (.ofText ferryText) = .ok (d, ns) ∧
        d.entities = [.quest ferryLine] := ⟨_, _, rfl, rfl⟩
  have hsome : ferryFile.declaration = some (d, ns) :=
    SourceFile.declaration_eq_some_iff.2 ⟨_, SourceFile.lexing_ofText .., hdeclared⟩
  rw [SourceFile.entities, hsome]
  exact hentities

/-- A directory that holds the ferry. -/
def ferryDirectory : Opened := .dir [.file "quests.txt" ferryFile.bytes]

theorem discovered_ferryDirectory :
    SourceFile.discovered "." ferryDirectory defaultDepth = [ferryFile] := by
  with_unfolding_all rfl

/-- The ferry is across once it has crossed. -/
theorem attr_answersAfter_ferry :
    readCommand false (attrLine "ferry" "." "-5" ["ferry= 1"]) =
        .ok (.attr "ferry" { settings := { startHour := -5 }, quests := [("ferry", 1)] }) ∧
      ∃ r, loadWorld "." (.ok ferryDirectory) { startHour := -5 } defaultDepth = .ok r ∧
        r.hasErrors = false ∧
        (run (fun _ => .ok ferryDirectory)
          (attrLine "ferry" "." "-5" ["ferry= 1"])).stdout = "1\n" := by
  have hname : ¬LooksLikeOption "ferry" := not_looksLikeOption (by decide)
  have hdir : ¬LooksLikeOption "." := not_looksLikeOption (by decide)
  obtain ⟨hanswers, hline⟩ := attr_answersAfter fun _ => .ok ferryDirectory
  have hargs := (hline "ferry" "." "-5" ["ferry= 1"] hname hdir (by decide)
    (List.forall_mem_singleton.2 (not_looksLikeOption (by decide))) _).2
    ⟨-5, [("ferry", 1)], Integer.numeral_text (-5),
      .cons (readQuestStep_eq_ok_iff.1 rfl) .nil, rfl⟩
  obtain ⟨r, hload, hworld, herrors⟩ :=
    loadWorld_directory "." ferryDirectory rfl { startHour := -5 } defaultDepth
  have hbarred : Kind.loadOrder.countP
      (SourceFile.barred "." ferryDirectory defaultDepth) = 0 := by with_unfolding_all rfl
  rw [discovered_ferryDirectory, hbarred] at herrors
  have hnone : r.hasErrors = false := by
    rw [Bool.eq_false_iff, Ne, LoadReport.hasErrors_iff, herrors]
    simp [ferryFile_accepted]
  rw [discovered_ferryDirectory, List.flatMap_singleton, entities_ferryFile] at hworld
  refine ⟨hargs, r, hload, hnone, ?_⟩
  have hanswer := hanswers _ _ _ r hargs hload hnone
  refine hanswer.stdout (r.world.withQuest { ferryLine with current := some 1 }) 1 ?_ ?_
  · rw [hworld]
    exact .cons rfl rfl .nil
  · rw [hworld]
    exact .quest (by decide) rfl rfl

end CommandLine

end StoryWorld
