import StoryWorld.Condition.Reader
import StoryWorld.Warning

/-! Turning containers into things of a world: what is warned of, what is refused, and results that
carry their warnings. -/

namespace StoryWorld

/-! ## Warnings -/

/-- An entry that is not understood, or that a world warns of. Each is passed over. -/
inductive Oddity
  | world (w : WorldWarning)
  | unexpectedInExits (node kind : String)
  | unknownAttribute (node name : String)
  | unexpectedAssignment (node key : String)
  | unrecognizedEntry (character text : String)
  | unrecognizedItem (rule text : String)
  | outsideQuestNode (quest kind : String)
  | insideQuestNode (quest : String) (value : Integer) (kind : String)
  deriving DecidableEq, Repr

/-- The name of the container that holds a node's exits. -/
def exitsName : String := "TRANS"

/-- The item that asks for another pass. -/
def rerunText : String := "RERUN"

/-- The wording of an oddity. -/
def Oddity.message : Oddity → String
  | world w => w.message
  | unexpectedInExits node kind =>
    "node \"" ++ node ++ "\": unexpected " ++ kind ++ " in " ++ exitsName
  | unknownAttribute node name =>
    "node \"" ++ node ++ "\": unknown attribute \"" ++ name ++ "\""
  | unexpectedAssignment node key =>
    "node \"" ++ node ++ "\": unexpected assignment to \"" ++ key ++ "\""
  | unrecognizedEntry character text =>
    "character \"" ++ character ++ "\": unrecognized entry \"" ++ text ++ "\""
  | unrecognizedItem rule text => "rule \"" ++ rule ++ "\": unrecognized item \"" ++ text ++ "\""
  | outsideQuestNode quest kind =>
    "quest \"" ++ quest ++ "\": ignoring " ++ kind ++ " outside a quest node"
  | insideQuestNode quest value kind =>
    "quest \"" ++ quest ++ "\" node " ++ value.text ++ ": ignoring " ++ kind

/-- An oddity and where it stands. -/
structure Notice where
  span : Span
  oddity : Oddity
  deriving DecidableEq, Repr

/-- The notice of a warning that may have been raised. -/
def Notice.ofWarning? (span : Span) (w : Option WorldWarning) : List Notice :=
  (w.map fun w => ⟨span, .world w⟩).toList

/-! ## Refusals -/

/-- Why a container is no character, rule or quest line. -/
inductive ConvertError
  | condition (e : ConditionError) (span : Span)
  | invalidQuestValue (quest value : String) (span : Span)
  | invalidTransition (quest : String) (node : Integer) (text : String) (span : Span)
  deriving DecidableEq, Repr

namespace ConvertError

/-- Where the offence stands. -/
def span : ConvertError → Span
  | condition _ span => span
  | invalidQuestValue _ _ span => span
  | invalidTransition _ _ _ span => span

/-- The wording of a refusal. -/
def message : ConvertError → String
  | condition e _ => e.message
  | invalidQuestValue quest value _ =>
    "quest \"" ++ quest ++ "\": node key \"" ++ value ++ "\" is not an integer"
  | invalidTransition quest node text _ =>
    "quest \"" ++ quest ++ "\" node " ++ node.text ++ ": transition \"" ++ text ++
      "\" does not start with an integer target"

end ConvertError

/-! ## Results with notices -/

/-- A result or a refusal, with the notices given on the way to it. -/
structure Checked (α : Type) where
  notices : List Notice
  result : Except ConvertError α

namespace Checked

variable {α β : Type}

/-- A result without notices. -/
protected def pure (a : α) : Checked α := ⟨[], .ok a⟩

/-- Goes on with a result, after the notices given for it. -/
protected def bind (x : Checked α) (f : α → Checked β) : Checked β :=
  match x.result with
  | .error e => ⟨x.notices, .error e⟩
  | .ok a => ⟨x.notices ++ (f a).notices, (f a).result⟩

instance : Monad Checked where
  pure := Checked.pure
  bind := Checked.bind

/-- Gives notices. -/
def note (ns : List Notice) : Checked Unit := ⟨ns, .ok ()⟩

/-- Refuses. -/
def refuse (e : ConvertError) : Checked α := ⟨[], .error e⟩

instance : LawfulMonad Checked :=
  LawfulMonad.mk' Checked
    (fun x => by
      obtain ⟨ns, _ | a⟩ := x <;> simp [Functor.map, Checked.bind, Checked.pure])
    (fun a f => by simp [pure, bind, Checked.pure, Checked.bind])
    (fun x f g => by
      obtain ⟨ns, e | a⟩ := x
      · rfl
      · cases h : (f a).result <;> simp [bind, Checked.bind, h])

end Checked

/-- Passes through a list with a state and collects the notices in order. -/
def gather {σ α : Type} (f : σ → α → σ × List Notice) (s : σ) : List α → σ × List Notice
  | [] => (s, [])
  | a :: as =>
    let (s₁, ns₁) := f s a
    let (s₂, ns₂) := gather f s₁ as
    (s₂, ns₁ ++ ns₂)

end StoryWorld
