import StoryWorld.CommandLine.Run
import StoryWorld.Proofs.DecimalText
import StoryWorld.Proofs.Loader.Directory

/-!
# Which worlds are valid

A directory is valid if each of its sources can be searched and each of its source files is
accepted. Checking it says so and counts its things, or counts the files that are rejected and the
sources that cannot be searched. A command that asks something of a world refuses to load the same
directories (`CommandLine.check_decides`).
-/

namespace StoryWorld

/-! ## How messages end -/

/-- Whether a text is not empty and its last character is not `c`. -/
def Text.EndsOtherThan (c : Char) (s : String) : Prop := ∃ cs d, s.toList = cs ++ [d] ∧ d ≠ c

namespace Text.EndsOtherThan

theorem append {c : Char} {t : String} (h : EndsOtherThan c t) (s : String) :
    EndsOtherThan c (s ++ t) := by
  obtain ⟨cs, d, ht, hd⟩ := h
  exact ⟨s.toList ++ cs, d, by rw [String.toList_append, ht, List.append_assoc], hd⟩

theorem ne_append {c : Char} {t : String} (h : EndsOtherThan c t) (cs : List Char) :
    t.toList ≠ cs ++ [c] := by
  obtain ⟨ds, d, ht, hd⟩ := h
  intro heq
  rw [ht] at heq
  exact hd (List.singleton_inj.1 (List.append_inj_right' heq rfl))

theorem quote {c : Char} (hc : '"' ≠ c) (s : String) : EndsOtherThan c (s ++ "\"") :=
  append ⟨[], '"', rfl, hc⟩ s

end Text.EndsOtherThan

theorem Integer.text_endsOtherThan {c : Char} (hc : c.isDigit = false) (n : Integer) :
    Text.EndsOtherThan c n.text := by
  have hrepr (k : Nat) : Text.EndsOtherThan c k.repr := by
    have hne : k.repr.toList ≠ [] := fun h => repr_ne_empty k (String.toList_eq_nil_iff.1 h)
    refine ⟨_, _, (List.dropLast_append_getLast hne).symm, ?_⟩
    rintro rfl
    have hdigit := isDigit_of_mem_repr (List.getLast_mem hne)
    rw [hc] at hdigit
    cases hdigit
  rcases n.text_eq with ⟨k, -, htext⟩ | ⟨k, -, htext⟩
  · rw [htext]
    exact hrepr k
  · rw [htext]
    exact (hrepr k).append "-"

theorem QuestError.message_endsOtherThan (e : QuestError) : Text.EndsOtherThan 'd' e.message := by
  cases e with
  | invalidTransition quest source target => exact (source.text_endsOtherThan rfl).append _
  | unknownValue quest value => exact (value.text_endsOtherThan rfl).append _
  | noNodes quest => exact .append ⟨"\" has no node".toList, 's', rfl, by decide⟩ _
  | unknownQuest quest => exact .quote (by decide) _

namespace CommandLine

/-! ## Refusals -/

/-- Whether a run ends with exit code 1, nothing on standard output and a message as the last thing
on standard error. -/
def Outcome.Refuses (out : Outcome) (message : String) : Prop :=
  out.code = 1 ∧ out.stdout = "" ∧ ∃ before, out.stderr = before ++ "error: " ++ message ++ "\n"

theorem Outcome.refuses_failure (stderr message : String) :
    (failure stderr message).Refuses message :=
  ⟨rfl, rfl, stderr, rfl⟩

/-- What is said of a world that does not load. -/
def notLoaded : String := "world failed to load"

theorem Outcome.not_refuses_lines (stderr : String) (ls : List String) (message : String) :
    ¬(lines stderr ls).Refuses message := by
  rintro ⟨hcode, -⟩
  cases hcode

theorem Outcome.lines_pair (stderr a b : String) :
    lines stderr [a, b] = ⟨0, a ++ "\n" ++ (b ++ "\n"), stderr⟩ := by
  rw [lines, List.map_cons, List.map_cons, List.map_nil, String.join_cons, String.join_cons,
    String.join_nil, String.append_empty]

theorem Outcome.not_refuses_failure {message : String} (h : Text.EndsOtherThan 'd' message)
    (stderr : String) : ¬(failure stderr message).Refuses notLoaded := by
  rintro ⟨-, -, before, hstderr⟩
  have htext : stderr ++ "error: " ++ message = before ++ "error: " ++ notLoaded :=
    (String.append_left_inj "\n").1 hstderr
  have hlast := (h.append (stderr ++ "error: ")).ne_append
    ((before ++ "error: ").toList ++ "world failed to loa".toList)
  rw [htext, String.toList_append, List.append_assoc] at hlast
  exact hlast rfl

/-! ## Commands that ask something of a world -/

/-- The commands that ask something of a world, with the options that they load it with. -/
inductive Command.Asks : Command → WorldOptions → Prop
  | look {node : String} {o : WorldOptions} : Asks (.look node o) o
  | quests {o : WorldOptions} : Asks (.quests o) o
  | attr {name : String} {o : WorldOptions} : Asks (.attr name o) o

theorem Command.Asks.path_eq {c : Command} {o : WorldOptions} (h : c.Asks o) : c.path = o.dir := by
  cases h with
  | look | quests | attr => rfl

theorem loading_eq {o : WorldOptions} {opened : Except SystemError Opened} {r : LoadReport}
    (h : loadWorld o.dir opened o.settings o.depth = .ok r) (f : LoadReport → Outcome) :
    loading o opened f = f r := by
  rw [loading, h]

/-- A world that loads is not refused as one that does not, whatever is asked of it. -/
theorem withWorld_refuses_iff {r : LoadReport} {o : WorldOptions} {f : World → String → Outcome}
    (hf : ∀ w stderr, ¬(f w stderr).Refuses notLoaded) :
    (withWorld r o f).Refuses notLoaded ↔ 0 < r.errorCount := by
  unfold withWorld
  rw [← LoadReport.hasErrors_iff]
  split
  · next herrors => exact iff_of_true (Outcome.refuses_failure ..) herrors
  · next herrors =>
    refine iff_of_false ?_ herrors
    split
    · next e _ _ => exact Outcome.not_refuses_failure e.message_endsOtherThan _
    · exact hf _ _

theorem not_refuses_look (w : World) (stderr node : String) :
    ¬(look w stderr node).Refuses notLoaded := by
  unfold look
  split
  · exact Outcome.not_refuses_failure (.quote (by decide) _) stderr
  · split
    · exact Outcome.not_refuses_failure (.quote (by decide) _) stderr
    · exact Outcome.not_refuses_lines _ _ _

theorem not_refuses_questTable (w : World) (stderr : String) :
    ¬(questTable w stderr).Refuses notLoaded := by
  unfold questTable
  split
  · exact Outcome.not_refuses_lines _ _ _
  · exact Outcome.not_refuses_lines _ _ _

theorem not_refuses_attr (w : World) (stderr name : String) :
    ¬(attr w stderr name).Refuses notLoaded := by
  unfold attr
  split
  · exact Outcome.not_refuses_failure (.quote (by decide) _) stderr
  · exact Outcome.not_refuses_lines _ _ _

/-- The number of source files in a directory that are rejected. -/
def rejectedCount (o : WorldOptions) (root : Opened) : Nat :=
  (SourceFile.discovered o.dir root o.depth).countP fun f => ¬f.Accepted

/-- The number of sources in a directory that are there and cannot be searched. -/
def barredCount (o : WorldOptions) (root : Opened) : Nat :=
  Kind.loadOrder.countP (SourceFile.barred o.dir root o.depth)

/-- Asking something of a directory is refused for its sources if a file is rejected or a source
cannot be searched. -/
theorem Command.Asks.refuses_iff {c : Command} {o : WorldOptions} (h : c.Asks o) {root : Opened}
    (hroot : root.isDirectory = true) :
    (c.run (.ok root)).Refuses notLoaded ↔ 0 < rejectedCount o root + barredCount o root := by
  obtain ⟨r, hload, -, herrors⟩ := loadWorld_directory o.dir root hroot o.settings o.depth
  have hcount : rejectedCount o root + barredCount o root = r.errorCount := herrors.symm
  rw [hcount]
  cases h with
  | look =>
    rw [Command.run, loading_eq hload]
    exact withWorld_refuses_iff fun w stderr => not_refuses_look w stderr _
  | quests =>
    rw [Command.run, loading_eq hload]
    exact withWorld_refuses_iff not_refuses_questTable
  | attr =>
    rw [Command.run, loading_eq hload]
    exact withWorld_refuses_iff fun w stderr => not_refuses_attr w stderr _

/-! ## Checking -/

/-- Whether every source of a directory can be searched and every file in them is accepted. -/
def Valid (o : WorldOptions) (root : Opened) : Prop :=
  (∀ f ∈ SourceFile.discovered o.dir root o.depth, f.Accepted) ∧
    ∀ k, SourceFile.barred o.dir root o.depth k = false

theorem valid_iff {o : WorldOptions} {root : Opened} :
    Valid o root ↔ rejectedCount o root + barredCount o root = 0 := by
  have hkinds : (∀ k ∈ Kind.loadOrder, SourceFile.barred o.dir root o.depth k = false) ↔
      ∀ k, SourceFile.barred o.dir root o.depth k = false :=
    ⟨fun h k => h k (by cases k <;> decide), fun h k _ => h k⟩
  rw [Valid, ← hkinds, rejectedCount, barredCount, Nat.add_eq_zero_iff, List.countP_eq_zero,
    List.countP_eq_zero]
  simp only [decide_eq_true_eq, not_not, Bool.not_eq_true]

/-- The report on a directory that is valid, where `count` says how many things of each kind there
are. -/
def passedText (dir : String) (count : Kind → Nat) : String :=
  "  All checks passed for '" ++ dir ++ "'." ++ "\n" ++
    ("  " ++ (count .node).repr ++ " nodes, " ++ (count .character).repr ++ " characters, " ++
      (count .quest).repr ++ " quests" ++ "\n")

theorem check_eq_of_not_hasErrors {r : LoadReport} (h : r.hasErrors = false) (o : WorldOptions) :
    check r o = ⟨0, passedText o.dir r.world.count, diagnosticsText r⟩ := by
  unfold check passedText
  rw [h]
  exact Outcome.lines_pair _ _ _

theorem check_of_valid {o : WorldOptions} {root : Opened} (hroot : root.isDirectory = true)
    (h : Valid o root) : ((Command.check o).run (.ok root)).code = 0 ∧
      ((Command.check o).run (.ok root)).stdout =
        passedText o.dir (SourceFile.nameCount o.dir root o.depth) := by
  obtain ⟨r, hload, hworld, herrors⟩ := loadWorld_directory o.dir root hroot o.settings o.depth
  have hnone : r.hasErrors = false := by
    rw [Bool.eq_false_iff, Ne, LoadReport.hasErrors_iff, herrors, Nat.not_lt, Nat.le_zero]
    exact valid_iff.1 h
  have hrun : (Command.check o).run (.ok root) = check r o := by
    rw [Command.run, loading_eq hload]
  have hcount : r.world.count = SourceFile.nameCount o.dir root o.depth := by
    funext k
    rw [hworld, SourceFile.count_entities h.1]
  rw [hrun, check_eq_of_not_hasErrors hnone, hcount]
  exact ⟨rfl, rfl⟩

/-- The message that a number of source units failed. -/
def failedText (n : Nat) : String := n.repr ++ " source unit" ++ plural n ++ " failed to load"

theorem check_of_not_valid {o : WorldOptions} {root : Opened} (hroot : root.isDirectory = true)
    (h : ¬Valid o root) : ((Command.check o).run (.ok root)).Refuses
      (failedText (rejectedCount o root + barredCount o root)) := by
  obtain ⟨r, hload, -, herrors⟩ := loadWorld_directory o.dir root hroot o.settings o.depth
  have hcount : r.errorCount = rejectedCount o root + barredCount o root := herrors
  have hsome : r.hasErrors = true := by
    rw [LoadReport.hasErrors_iff, hcount]
    exact Nat.pos_of_ne_zero fun hzero => h (valid_iff.2 hzero)
  have hrun : (Command.check o).run (.ok root) = check r o := by
    rw [Command.run, loading_eq hload]
  rw [hrun, check, hsome, hcount]
  exact Outcome.refuses_failure _ _

/-- Checking a directory succeeds if every source in it can be searched and every file in these is
accepted, and then counts the names in the files. Else it counts the files that are rejected and the
sources that cannot be searched. Whatever is asked of a world, with whatever steps, is refused for
its sources if checking fails. -/
theorem check_decides {resolve : String → Except SystemError Opened} {args : List String}
    {o : WorldOptions} {root : Opened} (hargs : readCommand false args = .ok (.check o))
    (hopened : resolve o.dir = .ok root) (hroot : root.isDirectory = true) :
    ((run resolve args).code = 0 ↔ Valid o root) ∧
    ((run resolve args).code = 0 → (run resolve args).stdout =
      passedText o.dir (SourceFile.nameCount o.dir root o.depth)) ∧
    ((run resolve args).code ≠ 0 → (run resolve args).Refuses
      (failedText (rejectedCount o root + barredCount o root))) ∧
    ∀ args' c o', readCommand false args' = .ok c → c.Asks o' → o'.dir = o.dir →
      o'.depth = o.depth →
        ((run resolve args').Refuses notLoaded ↔ (run resolve args).code = 1) := by
  have hrun {args : List String} {c : Command} (hargs : readCommand false args = .ok c)
      (hpath : c.path = o.dir) : run resolve args = c.run (.ok root) := by
    rw [run, hargs, ← hopened, ← hpath]
  have hasked : ∀ args' c o', readCommand false args' = .ok c → c.Asks o' → o'.dir = o.dir →
      o'.depth = o.depth → ((run resolve args').Refuses notLoaded ↔ ¬Valid o root) := by
    intro args' c o' hargs' hc hdir hdepth
    have hvalid : Valid o root ↔ Valid o' root := by rw [Valid, Valid, hdir, hdepth]
    rw [hrun hargs' (hc.path_eq.trans hdir), hc.refuses_iff hroot, hvalid, valid_iff,
      Nat.pos_iff_ne_zero]
  rw [hrun hargs rfl]
  by_cases hvalid : Valid o root
  · obtain ⟨hcode, hstdout⟩ := check_of_valid hroot hvalid
    refine ⟨iff_of_true hcode hvalid, fun _ => hstdout, fun hne => absurd hcode hne, ?_⟩
    intro args' c o' hargs' hc hdir hdepth
    rw [hasked args' c o' hargs' hc hdir hdepth, hcode]
    exact iff_of_false (not_not.2 hvalid) (by decide)
  · have hrefused := check_of_not_valid hroot hvalid
    have hcode := hrefused.1
    refine ⟨iff_of_false (by rw [hcode]; decide) hvalid, fun hzero => ?_, fun _ => hrefused, ?_⟩
    · rw [hcode] at hzero
      cases hzero
    · intro args' c o' hargs' hc hdir hdepth
      rw [hasked args' c o' hargs' hc hdir hdepth]
      exact iff_of_true hvalid hcode

/-- A directory of two sources, of which one ends inside an object. -/
def halfWritten : Opened :=
  .dir [.file "world.txt" (.ok "inn \x7b\x7d".toUTF8.toList),
    .file "quests.txt" (.ok "ring \x7b".toUTF8.toList)]

theorem check_decides_halfWritten :
    readCommand false ["check"] = .ok (.check {}) ∧
      readCommand false ["attr", "hour", "-q", "ring=2"] =
        .ok (.attr "hour" { quests := [("ring", 2)] }) ∧
      ((run (fun _ => .ok halfWritten) ["check"]).code = 0 ↔ Valid {} halfWritten) ∧
      ((run (fun _ => .ok halfWritten) ["attr", "hour", "-q", "ring=2"]).Refuses notLoaded ↔
        (run (fun _ => .ok halfWritten) ["check"]).code = 1) := by
  have hargs : readCommand false ["check"] = .ok (.check {}) := rfl
  let resolve : String → Except SystemError Opened := fun _ => .ok halfWritten
  have hopened : resolve "." = .ok halfWritten := rfl
  obtain ⟨hcode, -, -, hasked⟩ := check_decides hargs hopened rfl
  exact ⟨rfl, rfl, hcode, hasked _ _ _ rfl .attr rfl rfl⟩

/-- The source file of an inn. -/
def innFile : SourceFile := ⟨.node, ["world.txt"], .ok "inn \x7b\x7d".toUTF8.toList⟩

/-- A directory that holds the inn, and quest lines that nobody may list. -/
def closedQuests : Opened :=
  .dir [.file "world.txt" innFile.bytes, .closed "quests" .permissionDenied]

/-- Every source file that is found is accepted, and still checking counts a failure. A line that is
read as the wish for a version number is not refused though checking is. -/
theorem check_closedQuests :
    (∀ f ∈ SourceFile.discovered "." closedQuests defaultDepth, f.Accepted) ∧
      rejectedCount {} closedQuests = 0 ∧
      (run (fun _ => .ok closedQuests) ["check"]).Refuses "1 source unit failed to load" ∧
      (run (fun _ => .ok closedQuests) ["attr", "hour", "--version"]).code = 0 := by
  have hdiscovered : SourceFile.discovered "." closedQuests defaultDepth = [innFile] := by
    with_unfolding_all rfl
  have haccepted : innFile.Accepted := SourceFile.accepted_ofText.2 (by decide +kernel)
  have hrejected : rejectedCount {} closedQuests = 0 := by
    rw [rejectedCount, hdiscovered]
    simp [haccepted]
  have hbarred : barredCount {} closedQuests = 1 := by with_unfolding_all rfl
  have hinvalid : ¬Valid {} closedQuests := by
    rw [valid_iff, hrejected, hbarred]
    decide
  have hrefused := check_of_not_valid (rfl : closedQuests.isDirectory = true) hinvalid
  rw [hrejected, hbarred] at hrefused
  refine ⟨?_, hrejected, hrefused, rfl⟩
  rw [hdiscovered]
  exact List.forall_mem_singleton.2 haccepted

end CommandLine

end StoryWorld
