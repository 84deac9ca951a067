import Mathlib.Data.List.Forall2
import StoryWorld.Conversion.QuestLine
import StoryWorld.Proofs.Conversion.Offences
import StoryWorld.Proofs.Value.Typing

/-!
# Quest lines as containers

A container is a quest line if the containers in it are states: their names spell integers, and so
does each of their items but the first up to the colon. The quest line is then made of those states
in order (`QuestLine.ofContainer_states`).
-/

namespace StoryWorld

/-! ## Transitions -/

/-- The items that are transitions, with the target and the description of each: a target, or a
target before the first colon and the description after it. -/
inductive IsTransition : String → Integer × String → Prop
  | bare {text : String} {n : Integer} (hcolon : ':' ∉ text.toList)
    (htarget : n.Numeral (Text.trim text).toList) : IsTransition text (n, "")
  | described {target description : String} {n : Integer} (hcolon : ':' ∉ target.toList)
    (htarget : n.Numeral (Text.trim target).toList) :
    IsTransition (target ++ ":" ++ description) (n, description)

theorem readTransition?_eq_some_iff {text : String} {t : Integer × String} :
    readTransition? text = some t ↔ IsTransition text t := by
  unfold readTransition?
  constructor
  · intro h
    obtain ⟨n, hn, rfl⟩ := Option.map_eq_some_iff.1 h
    rw [Integer.read?_eq_some_iff] at hn
    cases hsplit : Text.splitOnce ':' text with
    | none =>
      rw [hsplit] at hn
      exact .bare (Text.splitOnce_eq_none_iff.1 hsplit) hn
    | some parts =>
      obtain ⟨target, description⟩ := parts
      rw [hsplit] at hn
      obtain ⟨htext, hcolon⟩ := Text.splitOnce_eq_some_iff.1 hsplit
      obtain rfl : text = target ++ ":" ++ description := by
        rw [← String.toList_inj, htext, String.toList_append, String.toList_append]
        simp
      exact .described hcolon hn
  · intro h
    cases h with
    | bare hcolon htarget =>
      rw [Text.splitOnce_eq_none_iff.2 hcolon]
      exact Option.map_eq_some_iff.2 ⟨_, Integer.read?_eq_some_iff.2 htarget, rfl⟩
    | @described target description n hcolon htarget =>
      have hsplit : Text.splitOnce ':' (target ++ ":" ++ description) =
          some (target, description) := by
        refine Text.splitOnce_eq_some_iff.2 ⟨?_, hcolon⟩
        rw [String.toList_append, String.toList_append]
        simp
      rw [hsplit]
      exact Option.map_eq_some_iff.2 ⟨n, Integer.read?_eq_some_iff.2 htarget, rfl⟩

theorem readTransition?_eq_none_iff {text : String} :
    readTransition? text = none ↔ ∀ t, ¬ IsTransition text t := by
  simp only [Option.eq_none_iff_forall_ne_some, ne_eq, readTransition?_eq_some_iff]

/-- What is written with a target, a colon and a description is read as these. -/
theorem readTransition?_text_append (target : Integer) (description : String) :
    readTransition? (target.text ++ ":" ++ description) = some (target, description) := by
  have hblank : ∀ c ∈ target.text.toList, Text.isBlank c = false :=
    fun _ => Integer.isBlank_of_mem_text
  have hcolon : ':' ∉ target.text.toList := target.notMem_text (by decide) (by decide)
  refine readTransition?_eq_some_iff.2 (.described hcolon ?_)
  rw [Text.trim_eq_self hblank]
  exact target.numeral_text

/-! ## States -/

namespace QuestNode

/-- A state with transitions added in order. -/
def addTransitions (n : QuestNode) (ts : List (Integer × String)) : QuestNode :=
  ts.foldl (fun n t => (n.addTransition t.1 t.2).1) n

/-- A state as a container: the name spells the value, the first item is the details, and the later
ones are the transitions. -/
inductive Written (c : Container) : QuestNode → Prop
  | intro {value : Integer} {ts : List (Integer × String)}
    (hvalue : value.Numeral (Text.trim c.name).toList)
    (htransitions : List.Forall₂ (fun item t => IsTransition item.1 t) (items c.members).tail ts) :
    Written c (addTransitions
      { value := value, details := ((items c.members).head?.map (·.1)).getD "" } ts)

/-- Whether a container can be read as a state. -/
structure Readable (c : Container) : Prop where
  value : ∃ value : Integer, value.Numeral (Text.trim c.name).toList
  transitions : ∀ item ∈ (items c.members).tail, ∃ t, IsTransition item.1 t

/-- The first thing that is wrong with a container as a state of the quest line named `quest`: its
name, or else the first item that should be a transition and is none. -/
inductive Offends (quest : String) (c : Container) : ConvertError → Prop
  | value (h : ∀ value : Integer, ¬ value.Numeral (Text.trim c.name).toList) :
    Offends quest c (.invalidQuestValue quest c.name c.nameSpan)
  | transition {value : Integer} {before after : List (String × Span)} {text : String} {span : Span}
    (hvalue : value.Numeral (Text.trim c.name).toList)
    (hitems : (items c.members).tail = before ++ (text, span) :: after)
    (htext : ∀ t, ¬ IsTransition text t)
    (hbefore : ∀ item ∈ before, ∃ t, IsTransition item.1 t) :
    Offends quest c (.invalidTransition quest value text span)

/-- What is wrong with an item that should be a transition. -/
def itemOffence? (quest : String) (value : Integer) (item : String × Span) : Option ConvertError :=
  match readTransition? item.1 with
  | none => some (.invalidTransition quest value item.1 item.2)
  | some _ => none

theorem settles_readItem (quest : String) (n : QuestNode) (item : String × Span) :
    (readItem quest n item).Settles (itemOffence? quest n.value item) []
      fun n' => ∃ t, IsTransition item.1 t ∧ n' = (n.addTransition t.1 t.2).1 := by
  unfold readItem itemOffence?
  cases htransition : readTransition? item.1 with
  | none => exact .refuse _
  | some t =>
    refine (Checked.Settles.note_ofWarning? item.2 _).map fun _ _ => ?_
    exact ⟨t, readTransition?_eq_some_iff.1 htransition, rfl⟩

/-- Whether one state is another with the transitions of items added. -/
def AddsTransitions (n : QuestNode) (is : List (String × Span)) (n' : QuestNode) : Prop :=
  ∃ ts, List.Forall₂ (fun item t => IsTransition item.1 t) is ts ∧ n' = n.addTransitions ts

theorem settles_foldlM_readItem (quest : String) (n : QuestNode) (is : List (String × Span)) :
    (is.foldlM (readItem quest) n).Settles (is.findSome? (itemOffence? quest n.value)) []
      (n.AddsTransitions is) := by
  have hstep (n' : QuestNode) (item : String × Span) (hn' : n'.value = n.value) :
      (readItem quest n' item).Settles (itemOffence? quest n.value item) [] fun n'' =>
        n''.value = n.value ∧
          ∀ is t, n''.AddsTransitions is t → n'.AddsTransitions (item :: is) t := by
    rw [← hn']
    refine (settles_readItem quest n' item).mono fun n'' hn'' => ?_
    obtain ⟨t, ht, rfl⟩ := hn''
    refine ⟨rfl, fun is n₁ h => ?_⟩
    obtain ⟨ts, hts, rfl⟩ := h
    exact ⟨t :: ts, .cons ht hts, rfl⟩
  have hfold := Checked.Settles.foldlM (fun n => ⟨[], .nil, rfl⟩) hstep is rfl
  have hnil : is.flatMap (fun _ => ([] : List Notice)) = [] := by simp
  rwa [hnil] at hfold

theorem not_isRepetition_strayMembers (quest : String) (value : Integer) (ms : List Member) :
    ∀ n ∈ strayMembers quest value ms, n.isRepetition = false := by
  intro n hn
  obtain ⟨m, -, hm⟩ := List.mem_filterMap.1 hn
  cases m with
  | item => cases hm
  | container | assignment =>
    cases hm
    rfl

theorem ofMembers_eq (quest : String) (value : Integer) (ms : List Member) :
    ofMembers quest value ms = Checked.note (strayMembers quest value ms) >>= fun _ =>
      (items ms).tail.foldlM (readItem quest)
        { value := value, details := ((items ms).head?.map (·.1)).getD "" } := by
  unfold ofMembers
  cases items ms with
  | nil | cons => rfl

theorem settles_ofMembers (quest : String) (c : Container) {value : Integer}
    (hvalue : value.Numeral (Text.trim c.name).toList) :
    (ofMembers quest value c.members).Settles
      ((items c.members).tail.findSome? (itemOffence? quest value))
      (strayMembers quest value c.members) (Written c) := by
  have hstrays := Checked.Settles.note (not_isRepetition_strayMembers quest value c.members)
  have hbind := hstrays.bind fun _ _ => settles_foldlM_readItem quest
    { value := value, details := ((items c.members).head?.map (·.1)).getD "" }
    (items c.members).tail
  rw [Option.none_or, List.append_nil] at hbind
  rw [ofMembers_eq]
  refine hbind.mono fun n hn => ?_
  obtain ⟨ts, hts, rfl⟩ := hn
  exact .intro hvalue hts

/-! ## What is wrong with a state -/

/-- What is wrong with a container that should be a state of the quest line named `quest`. -/
def offence? (quest : String) (c : Container) : Option ConvertError :=
  match Integer.read? (Text.trim c.name) with
  | none => some (.invalidQuestValue quest c.name c.nameSpan)
  | some value => (items c.members).tail.findSome? (itemOffence? quest value)

theorem itemOffence?_eq_none_iff {quest : String} {value : Integer} {item : String × Span} :
    itemOffence? quest value item = none ↔ ∃ t, IsTransition item.1 t := by
  unfold itemOffence?
  cases htransition : readTransition? item.1 with
  | none => simpa using readTransition?_eq_none_iff.1 htransition
  | some t => simpa using ⟨t.1, t.2, readTransition?_eq_some_iff.1 htransition⟩

theorem itemOffence?_eq_some_iff {quest : String} {value : Integer} {item : String × Span}
    {e : ConvertError} : itemOffence? quest value item = some e ↔
      (∀ t, ¬ IsTransition item.1 t) ∧ e = .invalidTransition quest value item.1 item.2 := by
  rw [← readTransition?_eq_none_iff]
  unfold itemOffence?
  cases readTransition? item.1 with
  | none => simp [eq_comm]
  | some t => simp

theorem offence?_eq_none_iff {quest : String} {c : Container} :
    offence? quest c = none ↔ Readable c := by
  unfold offence?
  cases hvalue : Integer.read? (Text.trim c.name) with
  | none =>
    refine iff_of_false (fun h => nomatch h) fun h => ?_
    obtain ⟨value, h⟩ := h.value
    cases hvalue.symm.trans (Integer.read?_eq_some_iff.2 h)
  | some value =>
    simp only [List.findSome?_eq_none_iff, itemOffence?_eq_none_iff]
    exact ⟨fun h => ⟨⟨value, Integer.read?_eq_some_iff.1 hvalue⟩, h⟩, Readable.transitions⟩

theorem offence?_eq_some_iff {quest : String} {c : Container} {e : ConvertError} :
    offence? quest c = some e ↔ Offends quest c e := by
  unfold offence?
  cases hvalue : Integer.read? (Text.trim c.name) with
  | none =>
    have hnone : ∀ value : Integer, ¬ value.Numeral (Text.trim c.name).toList := fun value h => by
      cases hvalue.symm.trans (Integer.read?_eq_some_iff.2 h)
    constructor
    · intro h
      obtain rfl := Option.some.inj h
      exact .value hnone
    · intro h
      cases h with
      | value => rfl
      | transition h => exact absurd h (hnone _)
  | some value =>
    have hspelled := Integer.read?_eq_some_iff.1 hvalue
    simp only [List.findSome?_eq_some_iff, itemOffence?_eq_some_iff, itemOffence?_eq_none_iff]
    constructor
    · rintro ⟨before, item, after, hitems, ⟨hitem, rfl⟩, hbefore⟩
      exact .transition hspelled hitems hitem hbefore
    · intro h
      cases h with
      | value h => exact absurd hspelled (h value)
      | @transition value' before after text span h hitems htext hbefore =>
        obtain rfl : value' = value := by
          rw [← Option.some_inj, ← hvalue, Integer.read?_eq_some_iff.2 h]
        exact ⟨before, (text, span), after, hitems, ⟨htext, rfl⟩, hbefore⟩

end QuestNode

/-! ## Quest lines -/

namespace QuestLine

/-- A quest line with states added in order. -/
def addNodes (q : QuestLine) (ns : List QuestNode) : QuestLine :=
  ns.foldl (fun q n => (q.addNode n).1) q

/-- Notices of what is passed over in a member of the quest line named `quest`: the member if it is
no container, and else what is no item in it. -/
def strays (quest : String) : Member → List Notice
  | .container name members _ _ =>
    match Integer.read? (Text.trim name) with
    | none => []
    | some value => QuestNode.strayMembers quest value members
  | m => [⟨m.span, .outsideQuestNode quest m.kind⟩]

/-- Whether one quest line is another with the states among members added. -/
def AddsNodes (q : QuestLine) (ms : List Member) (q' : QuestLine) : Prop :=
  ∃ ns, List.Forall₂ QuestNode.Written (ms.filterMap Member.container?) ns ∧ q' = q.addNodes ns

theorem AddsNodes.cons_container {q t : QuestLine} {n : QuestNode} {d : Container} {m : Member}
    {ms : List Member} (h : (q.addNode n).1.AddsNodes ms t) (hm : m.container? = some d)
    (hn : n.Written d) : q.AddsNodes (m :: ms) t := by
  obtain ⟨ns, hns, rfl⟩ := h
  refine ⟨n :: ns, ?_, rfl⟩
  rw [List.filterMap_cons_some hm]
  exact .cons hn hns

/-- A member that is no container adds no state. -/
theorem AddsNodes.cons_stray {q t : QuestLine} {m : Member} {ms : List Member}
    (h : q.AddsNodes ms t) (hm : m.container? = none) : q.AddsNodes (m :: ms) t := by
  rw [AddsNodes, List.filterMap_cons_none hm]
  exact h

theorem settles_readMember (q : QuestLine) (m : Member) :
    (readMember q m).Settles (m.container?.bind (QuestNode.offence? q.name)) (strays q.name m)
      fun q' => q'.name = q.name ∧ ∀ ms t, q'.AddsNodes ms t → q.AddsNodes (m :: ms) t := by
  cases m with
  | container name members span nameSpan =>
    rw [Member.container?, Option.bind_some, QuestNode.offence?, strays, readMember]
    cases hvalue : Integer.read? (Text.trim name) with
    | none => exact .refuse _
    | some value =>
      have hspelled := Integer.read?_eq_some_iff.1 hvalue
      refine (QuestNode.settles_ofMembers q.name ⟨name, members, span, nameSpan⟩
        hspelled).bind_quiet fun n hn => ?_
      refine (Checked.Settles.note_ofWarning? nameSpan _).map fun _ _ => ⟨rfl, ?_⟩
      exact fun ms t h => h.cons_container rfl hn
  | assignment | item =>
    refine (Checked.Settles.note (List.forall_mem_singleton.2 rfl)).map fun _ _ => ⟨rfl, ?_⟩
    exact fun ms t h => h.cons_stray rfl

theorem settles_ofContainer (o : Container) :
    (ofContainer o).Settles
      ((o.members.filterMap Member.container?).findSome? (QuestNode.offence? o.name))
      (o.members.flatMap (strays o.name)) (AddsNodes { name := o.name } o.members) := by
  rw [findSome?_filterMap]
  refine Checked.Settles.foldlM (I := fun q => q.name = o.name) (fun q => ⟨[], .nil, rfl⟩)
    (fun q m hq => ?_) o.members rfl
  rw [← hq]
  exact settles_readMember q m

/-- A container is a quest line if the containers in it can be read as states. It is then made of
those states in order, with one notice for each of its members that is no container and each member
of a state that is no item. If some container is no state, the first of them is to blame for the
first thing that is wrong with it. A written transition is read as its target and its
description. -/
theorem ofContainer_states (o : Container) :
    ((∃ q, (ofContainer o).result = .ok q) ↔
      ∀ d ∈ o.members.filterMap Member.container?, QuestNode.Readable d) ∧
    (∀ q, (ofContainer o).result = .ok q →
      (∃ ns, List.Forall₂ QuestNode.Written (o.members.filterMap Member.container?) ns ∧
        q = addNodes { name := o.name } ns) ∧
      (ofContainer o).strays = o.members.flatMap (strays o.name)) ∧
    (∀ e, (ofContainer o).result = .error e ↔
      ∃ before d after, o.members.filterMap Member.container? = before ++ d :: after ∧
        QuestNode.Offends o.name d e ∧ ∀ d ∈ before, QuestNode.Readable d) ∧
    ∀ (target : Integer) (description : String),
      readTransition? (target.text ++ ":" ++ description) = some (target, description) := by
  have hsettles := settles_ofContainer o
  refine ⟨?_, fun q hq => ?_, fun e => ?_, readTransition?_text_append⟩
  · rw [hsettles.exists_result_iff, List.findSome?_eq_none_iff]
    simp only [QuestNode.offence?_eq_none_iff]
  · obtain ⟨hstrays, hnodes⟩ := hsettles.of_result hq
    exact ⟨hnodes, hstrays⟩
  · rw [hsettles.result_eq_error_iff, List.findSome?_eq_some_iff]
    simp only [QuestNode.offence?_eq_none_iff, QuestNode.offence?_eq_some_iff]

/-- The first state of a rescue, which declares a way on twice, and what is passed over in it. -/
def asking : Container where
  name := " 0 "
  members := [.assignment "giver" "miller" ⟨15, 31⟩, .item "Nobody asks." ⟨32, 47⟩,
    .item "1:talk: to him" ⟨48, 65⟩, .item " 2" ⟨66, 71⟩, .item "+1 :wait" ⟨72, 83⟩]
  span := ⟨7, 85⟩
  nameSpan := ⟨7, 12⟩

def rescue : Container :=
  ⟨"rescue", [.ofContainer asking, .item "end" ⟨86, 90⟩], ⟨0, 92⟩, ⟨0, 6⟩⟩

/-- A quest line whose second state leads nowhere, and its third is none. -/
def lost : Container where
  name := "lost"
  members := [.container "0" [.item "Lost." ⟨9, 17⟩] ⟨5, 19⟩ ⟨5, 6⟩,
    .container "1" [.item "Found." ⟨24, 33⟩, .item "0:go back" ⟨34, 46⟩, .item "home:rest" ⟨47, 59⟩]
      ⟨20, 61⟩ ⟨20, 21⟩,
    .container "end" [] ⟨62, 68⟩ ⟨62, 65⟩]
  span := ⟨0, 70⟩
  nameSpan := ⟨0, 4⟩

theorem ofContainer_states_rescue :
    (∃ q, (ofContainer rescue).result = .ok q ∧
      (∃ ns, List.Forall₂ QuestNode.Written [asking] ns ∧ q = addNodes { name := "rescue" } ns) ∧
      (ofContainer rescue).strays = [⟨⟨15, 31⟩, .insideQuestNode "rescue" 0 "assignment"⟩,
        ⟨⟨86, 90⟩, .outsideQuestNode "rescue" "item"⟩]) ∧
    (ofContainer lost).result = .error (.invalidTransition "lost" 1 "home:rest" ⟨47, 59⟩) := by
  have hreads {text : String} (t : Integer × String) (h : readTransition? text = some t) :
      ∃ t, IsTransition text t := ⟨t, readTransition?_eq_some_iff.1 h⟩
  have hspells {text : String} (n : Integer) (h : Integer.read? (Text.trim text) = some n) :
      n.Numeral (Text.trim text).toList := Integer.read?_eq_some_iff.1 h
  obtain ⟨haccepted, hstates, -⟩ := ofContainer_states rescue
  obtain ⟨-, -, hrefused, -⟩ := ofContainer_states lost
  have hasking : QuestNode.Readable asking := by
    refine ⟨⟨0, hspells 0 rfl⟩, List.forall_mem_cons.2 ⟨hreads (1, "talk: to him") rfl, ?_⟩⟩
    exact List.forall_mem_cons.2
      ⟨hreads (2, "") rfl, List.forall_mem_singleton.2 (hreads (1, "wait") rfl)⟩
  have hhome : ∀ t, ¬ IsTransition "home:rest" t := readTransition?_eq_none_iff.1 rfl
  have hback : ∀ item ∈ [("0:go back", Span.mk 34 46)], ∃ t, IsTransition item.1 t :=
    List.forall_mem_singleton.2 (hreads (0, "go back") rfl)
  obtain ⟨q, hq⟩ := haccepted.2 (List.forall_mem_singleton.2 hasking)
  refine ⟨⟨q, hq, (hstates q hq).1, (hstates q hq).2⟩, (hrefused _).2 ⟨[_], _, [_], rfl, ?_, ?_⟩⟩
  · exact .transition (hspells 1 rfl) rfl hhome hback
  · exact List.forall_mem_singleton.2 ⟨⟨0, hspells 0 rfl⟩, List.forall_mem_nil _⟩

end QuestLine

end StoryWorld
