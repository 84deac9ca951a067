import Mathlib.Data.List.Forall2
import StoryWorld.CommandLine.Usage
import StoryWorld.Proofs.DecimalText

/-!
# What a line asks for

Options that take values are read in pairs, and each pair fills a slot, so a line is read as if its
slots were filled one after the other (`CommandLine.Progress.settle_foldlM_step`). A line that asks
for an attribute after steps is accepted if each of its steps is well-formed, and then asks for just
that (`CommandLine.readCommand_attrLine`).
-/

namespace StoryWorld

/-! ## Results -/

section

variable {ε ε' α β : Type} {x : Except ε α}

theorem bind_eq_ok_iff {f : α → Except ε β} {b : β} :
    x.bind f = .ok b ↔ ∃ a, x = .ok a ∧ f a = .ok b := by
  cases x with
  | error e => simp [Except.bind]
  | ok a => simp [Except.bind]

theorem map_eq_ok_iff {f : α → β} {b : β} : x.map f = .ok b ↔ ∃ a, x = .ok a ∧ b = f a := by
  cases x with
  | error e => simp [Except.map]
  | ok a => simp [Except.map, eq_comm]

theorem mapError_eq_ok_iff {f : ε → ε'} {a : α} : x.mapError f = .ok a ↔ x = .ok a := by
  cases x with
  | error e => simp [Except.mapError]
  | ok a => simp [Except.mapError]

end

/-! ## Numbers -/

namespace CommandLine

theorem le_ofDigitChars (digits : List Char) (k : Nat) : k ≤ Nat.ofDigitChars 10 digits k := by
  induction digits generalizing k with
  | nil => exact Nat.le_refl k
  | cons c digits ih =>
    rw [Nat.ofDigitChars_cons]
    exact Nat.le_trans (by omega) (ih _)

theorem readDigit_eq_ok_iff {low high sign acc v : Int} {c : Char} :
    readDigit low high sign acc c = .ok v ↔ c.isDigit = true ∧
      v = 10 * acc + sign * (c.toNat - '0'.toNat : Nat) ∧ low ≤ v ∧ v ≤ high := by
  unfold readDigit
  by_cases hc : c.isDigit = true
  · simp only [hc, if_true, true_and]
    generalize 10 * acc + sign * ((c.toNat - '0'.toNat : Nat) : Int) = next
    constructor
    · intro h
      split at h
      · cases h
      · split at h
        · cases h
        · cases h
          omega
    · rintro ⟨rfl, hlow, hhigh⟩
      rw [if_neg (Int.not_lt.2 hhigh), if_neg (Int.not_lt.2 hlow)]
  · simp [hc]

/-- Digits are read to their value if that is in range. What is read on the way to it is nearer to
zero, so it is in range as well. -/
theorem foldlM_readDigit_eq_ok_iff {low high sign : Int} (hsign : sign = 1 ∨ sign = -1)
    {cs : List Char} {k : Nat} {v : Int} (hk : low ≤ sign * k ∧ sign * k ≤ high) :
    cs.foldlM (readDigit low high sign) (sign * k) = .ok v ↔ (∀ c ∈ cs, c.isDigit = true) ∧
      v = sign * Nat.ofDigitChars 10 cs k ∧ low ≤ v ∧ v ≤ high := by
  induction cs generalizing k with
  | nil =>
    have hnil : List.foldlM (readDigit low high sign) (sign * k) [] = .ok (sign * k) := rfl
    rw [hnil, Except.ok.injEq, Nat.ofDigitChars_nil]
    constructor
    · rintro rfl
      exact ⟨fun c hc => (nomatch hc), rfl, hk⟩
    · rintro ⟨-, rfl, -⟩
      rfl
  | cons c cs ih =>
    have hcons : (c :: cs).foldlM (readDigit low high sign) (sign * k) =
        (readDigit low high sign (sign * k) c).bind (cs.foldlM (readDigit low high sign)) := rfl
    have hnext : 10 * (sign * (k : Int)) + sign * ((c.toNat - '0'.toNat : Nat) : Int) =
        sign * ((10 * k + (c.toNat - '0'.toNat) : Nat) : Int) := by
      rcases hsign with rfl | rfl <;> omega
    rw [hcons, bind_eq_ok_iff, List.forall_mem_cons, Nat.ofDigitChars_cons]
    simp only [readDigit_eq_ok_iff, hnext]
    constructor
    · rintro ⟨_, ⟨hc, rfl, hrange⟩, hrest⟩
      obtain ⟨hcs, hv⟩ := (ih hrange).1 hrest
      exact ⟨⟨hc, hcs⟩, hv⟩
    · rintro ⟨⟨hc, hcs⟩, rfl, hrange⟩
      have hle := le_ofDigitChars cs (10 * k + (c.toNat - '0'.toNat))
      have hstep : low ≤ sign * ((10 * k + (c.toNat - '0'.toNat) : Nat) : Int) ∧
          sign * ((10 * k + (c.toNat - '0'.toNat) : Nat) : Int) ≤ high := by
        rcases hsign with rfl | rfl <;> omega
      exact ⟨_, ⟨hc, rfl, hstep⟩, (ih hstep).2 ⟨hcs, rfl, hrange⟩⟩

theorem map_foldlM_readDigit_eq_ok_iff {sign : Int} (hsign : sign = 1 ∨ sign = -1)
    {cs : List Char} {n : Integer} :
    (cs.foldlM (readDigit Integer.least Integer.greatest sign) 0).map Int64.ofInt = .ok n ↔
      (∀ c ∈ cs, c.isDigit = true) ∧ n.toInt = sign * Nat.ofDigitChars 10 cs 0 := by
  have hzero : Integer.least ≤ sign * (0 : Nat) ∧ sign * (0 : Nat) ≤ Integer.greatest := by
    rw [Int.natCast_zero, Int.mul_zero]
    decide
  have hfold (v : Int) : cs.foldlM (readDigit _ _ sign) (sign * (0 : Nat)) = .ok v ↔ _ :=
    foldlM_readDigit_eq_ok_iff (v := v) hsign hzero
  simp only [Int.natCast_zero, Int.mul_zero] at hfold
  rw [map_eq_ok_iff]
  constructor
  · rintro ⟨v, hv, rfl⟩
    obtain ⟨hdigits, hvalue, hlow, hhigh⟩ := (hfold v).1 hv
    rw [Int64.toInt_ofInt_of_le hlow (Int.lt_add_one_of_le hhigh)]
    exact ⟨hdigits, hvalue⟩
  · rintro ⟨hdigits, hvalue⟩
    have hread := (hfold n.toInt).2 ⟨hdigits, hvalue, n.least_le_toInt, n.toInt_le_greatest⟩
    exact ⟨n.toInt, hread, (Int64.ofInt_toInt n).symm⟩

theorem readInteger_eq_ok_iff {text : String} {n : Integer} :
    readInteger text = .ok n ↔ n.Numeral text.toList := by
  unfold readInteger readNumber
  generalize text.toList = cs
  have hdigits {cs : List Char} (hne : cs ≠ []) :
      Integer.IsDigits cs ↔ ∀ c ∈ cs, c.isDigit = true := and_iff_right hne
  split
  · refine iff_of_false (fun h => nomatch h) fun h => ?_
    cases h with
    | plain h => exact h.1 rfl
  · refine iff_of_false (fun h => nomatch h) fun h => ?_
    exact (Integer.numeral_plus_iff.1 h).1.1 rfl
  · refine iff_of_false (fun h => nomatch h) fun h => ?_
    exact (Integer.numeral_minus_iff.1 h).1.1 rfl
  · next hne =>
    rw [map_foldlM_readDigit_eq_ok_iff (.inl rfl), Integer.numeral_plus_iff, hdigits hne,
      Int.one_mul]
  · next hne =>
    rw [if_pos (by decide), map_foldlM_readDigit_eq_ok_iff (.inr rfl), Integer.numeral_minus_iff,
      hdigits hne, Int.neg_one_mul]
  · next hne _ _ hplus hminus =>
    rw [map_foldlM_readDigit_eq_ok_iff (.inl rfl), Integer.numeral_iff_of_unsigned hplus hminus,
      hdigits hne, Int.one_mul]

/-! ## Steps -/

/-- The steps that are well-formed: a quest and an integer around the first equals sign, with
blanks around them or none. -/
inductive IsStep : String → String × Integer → Prop
  | intro {name value : String} {n : Integer} (hname : '=' ∉ name.toList)
    (hvalue : n.Numeral (Text.trim value).toList) :
    IsStep (name ++ "=" ++ value) (Text.trim name, n)

theorem readQuestStep_eq_ok_iff {step : String} {move : String × Integer} :
    readQuestStep step = .ok move ↔ IsStep step move := by
  unfold readQuestStep
  constructor
  · intro h
    split at h
    · cases h
    · next name value hsplit =>
      obtain ⟨hstep, hname⟩ := Text.splitOnce_eq_some_iff.1 hsplit
      obtain rfl : step = name ++ "=" ++ value := by
        rw [← String.toList_inj, hstep, String.toList_append, String.toList_append]
        simp
      split at h
      · cases h
      · next n hn =>
        cases h
        exact .intro hname (Integer.read?_eq_some_iff.1 hn)
  · intro h
    cases h with
    | @intro name value n hname hvalue =>
      have hsplit : Text.splitOnce '=' (name ++ "=" ++ value) = some (name, value) := by
        refine Text.splitOnce_eq_some_iff.2 ⟨?_, hname⟩
        rw [String.toList_append, String.toList_append]
        simp
      simp only [hsplit, Integer.read?_eq_some_iff.2 hvalue]

/-! ## Options -/

/-- Whether an argument is taken for options where these may stand. -/
def LooksLikeOption (arg : String) : Prop := ∃ c cs, arg.toList = '-' :: c :: cs

theorem not_looksLikeOption {arg : String} (h : arg.toList.head? ≠ some '-') :
    ¬LooksLikeOption arg := by
  rintro ⟨c, cs, harg⟩
  rw [harg] at h
  exact h rfl

/-- The long spelling of an option, as it is written. -/
def Slot.flag (s : Slot) : String := "--" ++ s.long?.getD ""

/-- Options with their values, as they are written. -/
def spelled (options : List (Slot × String)) : List String :=
  options.flatMap fun (s, value) => [s.flag, value]

/-- Whether a value can follow an option. -/
def Slot.CanTake (s : Slot) (value : String) : Prop :=
  s.takesValue = true ∧ (LooksLikeOption value → s.takesHyphens = true)

/-- The arguments given once options are filled, in order. -/
def Given.fillAll (g : Given) (options : List (Slot × String)) : Except UsageError Given :=
  options.foldlM (fun g (s, value) => g.fill s value) g

theorem Given.fillAll_cons (g : Given) (s : Slot) (value : String)
    (options : List (Slot × String)) :
    g.fillAll ((s, value) :: options) = (g.fill s value).bind (·.fillAll options) := rfl

namespace Progress

variable {v : Verb} {p : Progress} {s : Slot} {value : String}

theorem pending_of_settle {p' : Progress} (h : p.settle = .ok p') :
    p'.pending = none ∧ p'.literal = p.literal := by
  unfold settle at h
  split at h
  · next hnone =>
    cases h
    exact ⟨hnone, rfl⟩
  · cases h
  · split at h
    · cases h
      exact ⟨rfl, rfl⟩
    · cases h

theorem settle_eq_of_pending (h : p.pending = some (s, some value)) :
    p.settle = ((p.given.fill s value).map fun g =>
      { p with given := g, pending := none }).mapError .usage := by
  unfold settle
  rw [h]
  dsimp only
  cases p.given.fill s value <;> rfl

theorem step_flag (hv : v.slots = worldSlots) (hs : s.takesValue = true)
    (hliteral : p.literal = false) (hwaiting : p.waiting? = none) :
    p.step v s.flag = p.openSlot s none := by
  unfold step
  rw [hliteral, hwaiting]
  unfold step.readOption readLong
  rw [hv]
  cases s with
  | dir | depth | passes | hour | quest => rfl
  | node | file | name | json | verbose | help | version => cases hs

theorem step_value (h : s.CanTake value) (hliteral : p.literal = false)
    (hwaiting : p.waiting? = some s) :
    p.step v value = .ok { p with pending := some (s, some value) } := by
  unfold step
  rw [hliteral, hwaiting]
  simp only [Bool.false_eq_true, if_false, Option.map_some, Option.getD_some]
  split
  · next c cs t hvalue ht =>
    cases ht
    rw [h.2 ⟨c, cs, hvalue⟩, if_pos rfl]
  · next hnone => cases hnone
  · next hs _ =>
    cases hs
    rfl
  · next hnone _ => cases hnone

/-- An option and its value leave a slot open, after the one that was open before. -/
theorem foldlM_step_pair (hv : v.slots = worldSlots) (h : s.CanTake value)
    (hliteral : p.literal = false) (hwaiting : p.waiting? = none) :
    [s.flag, value].foldlM (step v) p =
      p.settle.map fun p => { p with pending := some (s, some value) } := by
  have hopen : p.openSlot s none = p.settle.map fun p => { p with pending := some (s, none) } := by
    unfold openSlot
    cases p.settle <;> rfl
  rw [List.foldlM_cons, step_flag hv h.1 hliteral hwaiting, hopen]
  rcases hsettle : p.settle with e | p'
  · rfl
  · obtain ⟨-, hliteral'⟩ := pending_of_settle hsettle
    rw [hliteral] at hliteral'
    change [value].foldlM (step v) { p' with pending := some (s, none) } = _
    rw [List.foldlM_cons, step_value (p := { p' with pending := some (s, none) }) h hliteral' rfl]
    rfl

/-- Options with values fill their slots, one after the other. -/
theorem settle_foldlM_step (hv : v.slots = worldSlots) {options : List (Slot × String)}
    (hoptions : ∀ o ∈ options, o.1.CanTake o.2) (hliteral : p.literal = false)
    (hwaiting : p.waiting? = none) : ((spelled options).foldlM (step v) p).bind settle =
      p.settle.bind fun p => ((p.given.fillAll options).map fun g =>
        { p with given := g }).mapError .usage := by
  induction options generalizing p with
  | nil =>
    change p.settle = p.settle.bind fun p => .ok p
    cases p.settle <;> rfl
  | cons o options ih =>
    obtain ⟨s, value⟩ := o
    rw [List.forall_mem_cons] at hoptions
    have hspelled : spelled ((s, value) :: options) = [s.flag, value] ++ spelled options := rfl
    rw [hspelled, List.foldlM_append, foldlM_step_pair hv hoptions.1 hliteral hwaiting]
    rcases hsettle : p.settle with e | p'
    · rfl
    · obtain ⟨hpending, hliteral'⟩ := pending_of_settle hsettle
      rw [hliteral] at hliteral'
      have hrest := ih (p := { p' with pending := some (s, some value) }) hoptions.2 hliteral' rfl
      refine hrest.trans ?_
      rw [settle_eq_of_pending rfl, Except.bind, Given.fillAll_cons]
      rcases p'.given.fill s value with e | g
      · rfl
      · obtain ⟨given, _, seen, literal⟩ := p'
        obtain rfl := hpending
        rfl

/-- What is no option is taken for the operand. -/
theorem step_operand {arg : String} (hs : v.operand? = some s) (harg : ¬LooksLikeOption arg) :
    step v {} arg = .ok { pending := some (s, some arg), operandSeen := true } := by
  unfold step
  split
  · next hliteral => cases hliteral
  · dsimp only [waiting?]
    split
    · next hwaiting => cases hwaiting
    · next c cs hoption _ => exact absurd ⟨c, cs, hoption⟩ harg
    · next hwaiting _ => cases hwaiting
    · rw [readOperand, hs]
      rfl

end Progress

theorem readVerb_eq (v : Verb) (args : List String) : readVerb v args =
    ((args.foldlM (Progress.step v) {}).bind Progress.settle).bind fun p =>
      (p.given.command v).mapError .usage := by
  unfold readVerb
  rcases args.foldlM (Progress.step v) {} with e | p
  · rfl
  · change (p.settle.bind fun p => _) = p.settle.bind fun p => _
    rcases p.settle with e | p
    · rfl
    · simp only [Except.bind]
      cases p.given.command v <;> rfl

/-! ## Lines -/

/-- After its name, a question for an attribute is read as the arguments that its options give. -/
theorem readCommand_attr {name : String} {options : List (Slot × String)}
    (hname : ¬LooksLikeOption name) (hoptions : ∀ o ∈ options, o.1.CanTake o.2) :
    readCommand false ("attr" :: name :: spelled options) =
      ((({ operand := some name } : Given).fillAll options).bind (·.command .attr)).mapError
        .usage := by
  have hcommand (args : List String) : readCommand false ("attr" :: args) = readVerb .attr args :=
    rfl
  rw [hcommand, readVerb_eq, List.foldlM_cons, Progress.step_operand rfl hname]
  change (((spelled options).foldlM (Progress.step .attr) _).bind Progress.settle).bind _ = _
  rw [Progress.settle_foldlM_step rfl hoptions rfl rfl, Progress.settle_eq_of_pending rfl]
  change ((((({ operand := some name } : Given).fillAll options).map _).mapError _).bind _) = _
  cases ({ operand := some name } : Given).fillAll options <;> rfl

theorem fill_hour_eq_ok_iff {g g' : Given} {hour : String} (hnew : g.hour = none) :
    g.fill .hour hour = .ok g' ↔
      ∃ n, Integer.Numeral n hour.toList ∧ g' = { g with hour := some n } := by
  have hfill : g.fill .hour hour = (Given.reading .hour hour (readInteger hour)).map fun n =>
      { g with hour := some n } := if_neg (by simp [Given.has, hnew])
  rw [hfill]
  simp only [map_eq_ok_iff, Given.reading, mapError_eq_ok_iff, readInteger_eq_ok_iff]

theorem fill_quest_eq_ok_iff {g g' : Given} {step : String} : g.fill .quest step = .ok g' ↔
    ∃ move, IsStep step move ∧ g' = { g with quests := g.quests ++ [move] } := by
  simp only [← readQuestStep_eq_ok_iff]
  change g.put .quest step = .ok g' ↔ _
  unfold Given.put
  rcases readQuestStep step with reason | move
  · simp
  · simp [eq_comm]

theorem fillAll_quests {steps : List String} {g g' : Given} :
    g.fillAll (steps.map fun step => (.quest, step)) = .ok g' ↔
      ∃ moves, List.Forall₂ IsStep steps moves ∧ g' = { g with quests := g.quests ++ moves } := by
  induction steps generalizing g with
  | nil =>
    constructor
    · intro h
      cases h
      exact ⟨[], .nil, by rw [List.append_nil]⟩
    · rintro ⟨moves, hmoves, rfl⟩
      cases hmoves
      rw [List.append_nil]
      rfl
  | cons step steps ih =>
    rw [List.map_cons, Given.fillAll_cons, bind_eq_ok_iff]
    constructor
    · rintro ⟨g₁, hfill, hrest⟩
      obtain ⟨move, hstep, rfl⟩ := fill_quest_eq_ok_iff.1 hfill
      obtain ⟨moves, hmoves, rfl⟩ := ih.1 hrest
      refine ⟨move :: moves, .cons hstep hmoves, ?_⟩
      rw [List.append_assoc]
      rfl
    · rintro ⟨moves, hmoves, rfl⟩
      cases hmoves with
      | @cons _ move _ moves hstep hmoves =>
        refine ⟨_, fill_quest_eq_ok_iff.2 ⟨move, hstep, rfl⟩, ih.2 ⟨moves, hmoves, ?_⟩⟩
        rw [List.append_assoc]
        rfl

/-- The line that asks for an attribute of a world, at an hour and after steps. -/
def attrLine (name dir hour : String) (steps : List String) : List String :=
  ["attr", name, "--dir", dir, "--hour", hour] ++ steps.flatMap fun step => ["--quest", step]

/-- A line whose operands do not look like options is accepted if its hour is an integer and its
steps are well-formed. -/
theorem readCommand_attrLine {name dir hour : String} {steps : List String} {c : Command}
    (hname : ¬LooksLikeOption name) (hdir : ¬LooksLikeOption dir)
    (hsteps : ∀ step ∈ steps, ¬LooksLikeOption step) (hne : dir ≠ "") :
    readCommand false (attrLine name dir hour steps) = .ok c ↔
      ∃ n moves, Integer.Numeral n hour.toList ∧ List.Forall₂ IsStep steps moves ∧
        c = .attr name { dir := dir, settings := { startHour := n }, quests := moves } := by
  have hline : attrLine name dir hour steps = "attr" :: name ::
      spelled ((.dir, dir) :: (.hour, hour) :: steps.map fun step => (.quest, step)) := by
    rw [spelled, List.flatMap_cons, List.flatMap_cons, List.flatMap_map]
    rfl
  have htakes : ∀ o ∈ (Slot.dir, dir) :: (.hour, hour) :: steps.map fun step => (.quest, step),
      o.1.CanTake o.2 := by
    refine List.forall_mem_cons.2 ⟨?_, List.forall_mem_cons.2 ⟨?_,
      List.forall_mem_map.2 fun step hstep => ?_⟩⟩
    · exact ⟨rfl, fun h => absurd h hdir⟩
    · exact ⟨rfl, fun _ => rfl⟩
    · exact ⟨rfl, fun h => absurd h (hsteps step hstep)⟩
  have hfill : ({ operand := some name } : Given).fillAll
      ((.dir, dir) :: (.hour, hour) :: steps.map fun step => (.quest, step)) =
        (({ operand := some name, dir := some dir } : Given).fill .hour hour).bind
          (·.fillAll (steps.map fun step => (.quest, step))) := by
    have hfirst : ({ operand := some name } : Given).fill .dir dir =
        .ok { operand := some name, dir := some dir } := if_neg hne
    rw [Given.fillAll_cons, hfirst]
    exact Given.fillAll_cons ..
  rw [hline, readCommand_attr hname htakes, mapError_eq_ok_iff, bind_eq_ok_iff, hfill]
  constructor
  · rintro ⟨g, hg, hcommand⟩
    obtain ⟨g₁, hhour, hquests⟩ := bind_eq_ok_iff.1 hg
    obtain ⟨n, hn, rfl⟩ := (fill_hour_eq_ok_iff rfl).1 hhour
    obtain ⟨moves, hmoves, rfl⟩ := fillAll_quests.1 hquests
    cases hcommand
    exact ⟨n, moves, hn, hmoves, rfl⟩
  · rintro ⟨n, moves, hn, hmoves, rfl⟩
    exact ⟨_, bind_eq_ok_iff.2 ⟨_, (fill_hour_eq_ok_iff rfl).2 ⟨n, hn, rfl⟩,
      fillAll_quests.2 ⟨moves, hmoves, rfl⟩⟩, rfl⟩

end CommandLine

end StoryWorld
