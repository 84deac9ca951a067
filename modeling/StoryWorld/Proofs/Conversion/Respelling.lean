import Mathlib.Data.List.Forall2
import StoryWorld.Conversion.Character
import StoryWorld.Conversion.Node
import StoryWorld.Proofs.Key

/-!
# Reserved words in small letters

A conversion reads the keys that have a meaning, the item that asks for another pass and the name of
the container of exits in any letters, and keeps none of the letters that they are written in. So
containers that differ in nothing else become the same character or node, with the same notices
(`Container.conversions_of_respelled`).
-/

namespace StoryWorld

/-! ## Spellings of words -/

namespace Text

/-- Whether two texts are the same, or two spellings of one of `words` in any letters. -/
def Respelled (words : List String) (s t : String) : Prop :=
  s = t ∨ ∃ word ∈ words, sameFolded s word = true ∧ sameFolded t word = true

theorem Respelled.sameFolded_eq (h : Respelled words s t) (word : String) :
    sameFolded s word = sameFolded t word := by
  obtain rfl | ⟨known, -, hs, ht⟩ := h
  · rfl
  · rw [sameFolded, eq_of_beq hs, sameFolded, eq_of_beq ht]

theorem Respelled.eq_of_not_sameFolded (h : Respelled [word] s t)
    (ht : ¬ sameFolded t word = true) : s = t := by
  obtain rfl | ⟨_, hword, -, htword⟩ := h
  · rfl
  · obtain rfl := List.mem_singleton.1 hword
    exact absurd htword ht

end Text

namespace Key

/-- The keys that have a meaning. -/
def reserved : List String := [node, name, description]

theorem canonical_of_respelled (h : Text.Respelled reserved key key') :
    canonical key = canonical key' := by
  obtain rfl | ⟨known, hknown, hkey, hkey'⟩ := h
  · rfl
  · rw [canonical_of_sameFolded hknown hkey, canonical_of_sameFolded hknown hkey']

end Key

/-! ## Containers that are spelled differently -/

mutual
/-- Whether two members of a rule differ at most in the letters of keys with a meaning and of items
that ask for another pass. -/
inductive Member.RespelledInRule : Member → Member → Prop
  | container {name : String} {span nameSpan : Span} (h : AllRespelledInRule ms ms') :
    RespelledInRule (.container name ms span nameSpan) (.container name ms' span nameSpan)
  | assignment {value : String} {span : Span} (h : Text.Respelled Key.reserved key key') :
    RespelledInRule (.assignment key value span) (.assignment key' value span)
  | item {span : Span} (h : Text.Respelled [rerunText] text text') :
    RespelledInRule (.item text span) (.item text' span)

inductive Member.AllRespelledInRule : List Member → List Member → Prop
  | nil : AllRespelledInRule [] []
  | cons (h : RespelledInRule m m') (hs : AllRespelledInRule ms ms') :
    AllRespelledInRule (m :: ms) (m' :: ms')
end

/-- Whether two members of a character differ at most in the letters of keys with a meaning, and in
its rules also of items that ask for another pass. -/
inductive Member.RespelledInCharacter : Member → Member → Prop
  | container {name : String} {span nameSpan : Span} (h : AllRespelledInRule ms ms') :
    RespelledInCharacter (.container name ms span nameSpan) (.container name ms' span nameSpan)
  | assignment {value : String} {span : Span} (h : Text.Respelled Key.reserved key key') :
    RespelledInCharacter (.assignment key value span) (.assignment key' value span)
  | item (text : String) (span : Span) : RespelledInCharacter (.item text span) (.item text span)

/-- Whether two members of a node differ at most in the letters of the name of its exits. -/
inductive Member.RespelledInNode : Member → Member → Prop
  | exits {members : List Member} {span nameSpan : Span}
    (h : Text.Respelled [exitsName] name name') :
    RespelledInNode (.container name members span nameSpan) (.container name' members span nameSpan)
  | same (m : Member) : RespelledInNode m m

/-- Whether two containers differ only in their members, and these one by one as `R` says. -/
inductive Container.Respelled (R : Member → Member → Prop) : Container → Container → Prop
  | members {name : String} {span nameSpan : Span} (h : List.Forall₂ R ms ms') :
    Respelled R ⟨name, ms, span, nameSpan⟩ ⟨name, ms', span, nameSpan⟩

/-! ## Conversion -/

theorem foldlM_eq_of_forall₂ {σ : Type} {m : Type → Type} [Monad m] {R : α → α → Prop}
    {f : σ → α → m σ} (hf : ∀ s a b, R a b → f s a = f s b) (h : List.Forall₂ R as bs) (s : σ) :
    as.foldlM f s = bs.foldlM f s := by
  induction h generalizing s with
  | nil => rfl
  | cons hab _ ih =>
    rw [List.foldlM_cons, List.foldlM_cons, hf s _ _ hab]
    exact congrArg _ (funext ih)

theorem gather_eq_of_forall₂ {σ : Type} {R : α → α → Prop} {f : σ → α → σ × List Notice}
    (hf : ∀ s a b, R a b → f s a = f s b) (h : List.Forall₂ R as bs) (s : σ) :
    gather f s as = gather f s bs := by
  induction h generalizing s with
  | nil => rfl
  | cons hab _ ih => simp only [gather, hf s _ _ hab, ih]

namespace Effect

mutual
theorem ofMember_of_respelled (rule : String) : Member.RespelledInRule m m' →
    ofMember rule m = ofMember rule m'
  | .container h => by rw [ofMember, ofMember, ofMembers_of_respelled _ h]
  | .assignment h => by
    rw [ofMember, ofMember, assigning, assigning, Key.canonical_of_respelled h]
  | .item h => by
    rw [ofMember, ofMember, h.sameFolded_eq]
    split
    · rfl
    · next htext => rw [h.eq_of_not_sameFolded htext]

theorem ofMembers_of_respelled (rule : String) : Member.AllRespelledInRule ms ms' →
    ofMembers rule ms = ofMembers rule ms'
  | .nil => rfl
  | .cons h hs => by
    rw [ofMembers, ofMembers, ofMember_of_respelled rule h, ofMembers_of_respelled rule hs]
end

end Effect

theorem Character.readMember_of_respelled (c : Character) (h : Member.RespelledInCharacter m m') :
    readMember c m = readMember c m' := by
  cases h with
  | container h =>
    rw [readMember, readMember, Rule.ofMembers, Rule.ofMembers, Effect.ofMembers_of_respelled _ h]
  | assignment h => simp only [readMember, addCharacteristic, Key.canonical_of_respelled h]
  | item => rfl

theorem Node.readMember_of_respelled (n : Node) (h : Member.RespelledInNode m m') :
    readMember n m = readMember n m' := by
  cases h with
  | exits h =>
    rw [readMember, readMember, h.sameFolded_eq]
    split
    · rfl
    · next hname => rw [h.eq_of_not_sameFolded hname]
  | same => rfl

theorem Character.ofContainer_of_respelled {o o' : Container}
    (h : o.Respelled Member.RespelledInCharacter o') : ofContainer o = ofContainer o' := by
  cases h with
  | members h =>
    exact foldlM_eq_of_forall₂ (f := readMember) (fun c _ _ => readMember_of_respelled c) h _

theorem Node.ofContainer_of_respelled {o o' : Container}
    (h : o.Respelled Member.RespelledInNode o') : ofContainer o = ofContainer o' := by
  cases h with
  | members h =>
    exact gather_eq_of_forall₂ (f := readMember) (fun n _ _ => readMember_of_respelled n) h _

/-- Containers that differ in the letters of reserved words become the same character, or are
refused alike, with the same notices, and so are evaluated alike. Those that differ in the letters
of the name of their exits become the same node with the same notices. -/
theorem Container.conversions_of_respelled :
    (∀ o o' : Container, o.Respelled Member.RespelledInCharacter o' →
      Character.ofContainer o = Character.ofContainer o' ∧
      ∀ c c', (Character.ofContainer o).result = .ok c →
        (Character.ofContainer o').result = .ok c' → ∀ (world : Attributes) (settings : Settings),
          c.evaluate world settings = c'.evaluate world settings) ∧
    ∀ o o' : Container, o.Respelled Member.RespelledInNode o' →
      Node.ofContainer o = Node.ofContainer o' := by
  refine ⟨fun o o' h => ?_, fun o o' h => Node.ofContainer_of_respelled h⟩
  have hsame := Character.ofContainer_of_respelled h
  refine ⟨hsame, fun c c' hc hc' world settings => ?_⟩
  rw [hsame] at hc
  obtain rfl := Except.ok.inj (hc.symm.trans hc')
  rfl

namespace Container

/-- A porter whose keys and rerun are spelled as given. -/
def porter (nodeKey nameKey rerunItem : String) : Container where
  name := "porter"
  members := [.assignment nodeKey "lodge" ⟨9, 22⟩, .item "rerun" ⟨23, 29⟩,
    .container "NODE == lodge" [.assignment nameKey "Night porter" ⟨48, 69⟩,
      .item rerunItem ⟨70, 76⟩, .item "yawn" ⟨77, 82⟩] ⟨30, 84⟩ ⟨30, 45⟩,
    .assignment "NODE" "gate" ⟨85, 97⟩]
  span := ⟨0, 99⟩
  nameSpan := ⟨0, 6⟩

/-- A gate whose exits are named as given. -/
def gate (exits : String) : Container where
  name := "gate"
  members := [.container exits [.assignment "in" "lodge" ⟨13, 24⟩, .item "out" ⟨25, 29⟩]
    ⟨7, 31⟩ ⟨7, 12⟩, .container "OTHER" [] ⟨32, 40⟩ ⟨32, 37⟩]
  span := ⟨0, 42⟩
  nameSpan := ⟨0, 4⟩

theorem conversions_of_respelled_porter :
    Character.ofContainer (porter "node" "Name" "reRun") =
      Character.ofContainer (porter "Node" "NAME" "RERUN") ∧
    Node.ofContainer (gate "trans") = Node.ofContainer (gate "Trans") := by
  have hkey {key key' : String} (known : String) (h : known ∈ Key.reserved ∧
      Text.sameFolded key known = true ∧ Text.sameFolded key' known = true) :
      Text.Respelled Key.reserved key key' := .inr ⟨known, h⟩
  obtain ⟨hcharacters, hnodes⟩ := conversions_of_respelled
  refine ⟨(hcharacters _ _ (.members ?_)).1, hnodes _ _ (.members ?_)⟩
  · refine .cons (.assignment (hkey Key.node (by decide))) <| .cons (.item ..) <|
      .cons (.container (.cons (.assignment (hkey Key.name (by decide))) <|
        .cons (.item (.inr ⟨rerunText, by decide⟩)) <| .cons (.item (.inl rfl)) .nil)) <|
      .cons (.assignment (.inl rfl)) .nil
  · exact .cons (.exits (.inr ⟨exitsName, by decide⟩)) <| .cons (.same _) .nil

end Container

end StoryWorld
