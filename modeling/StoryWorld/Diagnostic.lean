import StoryWorld.Entries
import StoryWorld.Span

/-! Diagnostics: errors and warnings, with a place in a source where they have one. -/

namespace StoryWorld

/-- An error rejects its source; a warning does not. -/
inductive Severity
  | error
  | warning
  deriving DecidableEq, Repr

/-- A diagnostic. The label stands at the place in the source, and is the message if absent. -/
structure Diagnostic where
  severity : Severity
  file : Option String := none
  span : Option Span := none
  message : String
  label : Option String := none
  deriving DecidableEq, Repr

/-- Source texts by the names that diagnostics call them. -/
abbrev Sources := Entries String String

namespace Diagnostic

/-- An error at a place in a source. -/
def errorAt (file : String) (span : Span) (message : String) : Diagnostic where
  severity := .error
  file := some file
  span := some span
  message := message

/-- A warning at a place in a source. -/
def warningAt (file : String) (span : Span) (message : String) : Diagnostic where
  severity := .warning
  file := some file
  span := some span
  message := message

/-- An error without a place. -/
def errorOf (message : String) : Diagnostic where
  severity := .error
  message := message

/-- A warning without a place. -/
def warningOf (message : String) : Diagnostic where
  severity := .warning
  message := message

/-- The diagnostic with a label. -/
def withLabel (d : Diagnostic) (label : String) : Diagnostic := { d with label := some label }

/-- Whether a diagnostic is an error. -/
def isError (d : Diagnostic) : Bool := d.severity == .error

/-- A diagnostic on one line. -/
def line (d : Diagnostic) : String :=
  let severity := match d.severity with
    | .error => "error"
    | .warning => "warning"
  match d.file with
  | some file => severity ++ ": " ++ file ++ ": " ++ d.message
  | none => severity ++ ": " ++ d.message

end Diagnostic

end StoryWorld
