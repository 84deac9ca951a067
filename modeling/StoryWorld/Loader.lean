import StoryWorld.Conversion.Character
import StoryWorld.Conversion.Node
import StoryWorld.Conversion.QuestLine
import StoryWorld.Diagnostic
import StoryWorld.Token.LineReader
import StoryWorld.World.Link

/-! Loading a world source by source. A source that fails anywhere adds nothing to the world. -/

namespace StoryWorld

/-! ## Failures -/

/-- Why a source, or a whole world, is not loaded. -/
inductive LoadError
  | notADirectory (path : String)
  | unreadable (path : String) (e : SystemError)
  | malformed (file : String) (e : SyntaxError)
  | invalid (file : String) (e : ConvertError)
  deriving DecidableEq, Repr

namespace LoadError

/-- The wording of a load error. -/
def message : LoadError → String
  | notADirectory path => path ++ " is not a world directory"
  | unreadable path e => "failed to read " ++ path ++ ": " ++ e.message
  | malformed file e => file ++ ": " ++ e.message
  | invalid file e => file ++ ": " ++ e.message

/-- The diagnostic of a load error, with its place in the source if it has one. -/
def toDiagnostic (e : LoadError) : Diagnostic :=
  match e with
  | malformed file (.lex (.unterminatedQuote start)) =>
    (Diagnostic.errorAt file (LexError.unterminatedQuote start).span
      (LexError.unterminatedQuote start).message).withLabel "this quote is never closed"
  | malformed _ (.lex (.read ..)) => .errorOf e.message
  | malformed file (.parse fault) =>
    (Diagnostic.errorAt file fault.span fault.message).withLabel
      (match fault.found with
      | some t => "unexpected `" ++ t.shown ++ "`"
      | none => "unexpected end of input")
  | invalid file fault => .errorAt file fault.span fault.message
  | notADirectory _ => .errorOf e.message
  | unreadable .. => .errorOf e.message

end LoadError

/-! ## The things of a source -/

/-- The things that a source declares, with the places of their names. -/
inductive Declared
  | nodes (ns : List (Span × Node))
  | characters (cs : List (Span × Character))
  | quests (qs : List (Span × QuestLine))

/-- The things that a tree declares, read as a source of kind `k`. -/
def Declared.ofTree (k : Kind) (t : SourceTree) : Checked Declared :=
  match k with
  | .node => do
    let ns ← t.objects.mapM fun c => do
      let (n, notices) := Node.ofContainer c
      Checked.note notices
      return (c.nameSpan, n)
    return .nodes ns
  | .character => do
    let cs ← t.objects.mapM fun c => do
      let character ← Character.ofContainer c
      return (c.nameSpan, character)
    return .characters cs
  | .quest => do
    let qs ← t.objects.mapM fun c => do
      let q ← QuestLine.ofContainer c
      return (c.nameSpan, q)
    return .quests qs

/-- Registers what a source declares, in order, with a notice for each thing that is replaced. -/
def World.register (w : World) : Declared → World × List Notice
  | .nodes ns =>
    gather (fun w (span, n) =>
      let (w', _, warning) := w.addNode n
      (w', Notice.ofWarning? span warning)) w ns
  | .characters cs =>
    gather (fun w (span, c) =>
      let (w', _, warning) := w.addCharacter c
      (w', Notice.ofWarning? span warning)) w cs
  | .quests qs =>
    gather (fun w (span, q) =>
      let (w', _, warning) := w.addQuestLine q
      (w', Notice.ofWarning? span warning)) w qs

/-- A notice as a warning in a file. -/
def Notice.toDiagnostic (file : String) (n : Notice) : Diagnostic :=
  .warningAt file n.span n.oddity.message

/-! ## The loader -/

/-- A world being loaded, the diagnostics raised so far and the sources read. -/
structure Loader where
  world : World
  diagnostics : List Diagnostic := []
  sources : Sources := []

/-- A linked world with the diagnostics raised on the way to it and the sources read. -/
structure LoadReport where
  world : World
  diagnostics : List Diagnostic
  sources : Sources

namespace Loader

/-- A loader at its start. -/
def start (settings : Settings) : Loader := { world := .empty settings }

/-- What a source of kind `k` declares, or why it is rejected. -/
def declared (k : Kind) (file : String) (tokens : Lexing) :
    Except LoadError (Declared × List Notice) :=
  match SourceTree.ofLexing tokens with
  | .error e => .error (.malformed file e)
  | .ok tree =>
    match Declared.ofTree k tree with
    | ⟨notices, .ok d⟩ => .ok (d, notices)
    | ⟨_, .error e⟩ => .error (.invalid file e)

/-- Loads a source from its text and tokens, and says whether it was accepted. -/
def accept (l : Loader) (k : Kind) (file text : String) (tokens : Lexing) : Loader × Bool :=
  let sources := l.sources.set file text
  match declared k file tokens with
  | .error e =>
    ({ l with diagnostics := l.diagnostics ++ [e.toDiagnostic], sources := sources }, false)
  | .ok (d, notices) =>
    let (world, replaced) := l.world.register d
    ({ world := world
       diagnostics := l.diagnostics ++ (notices ++ replaced).map (·.toDiagnostic file)
       sources := sources }, true)

/-- Loads a source held as text. -/
def addText (l : Loader) (k : Kind) (file text : String) : Loader × Bool :=
  l.accept k file text (.ofText text)

/-- Loads a source read line by line. -/
def addFile (l : Loader) (k : Kind) (file : String) (r : LineReader) : Loader × Bool :=
  let (text, tokens) := r.contents
  l.accept k file text tokens

/-- Records a diagnostic that belongs to no source. -/
def record (l : Loader) (d : Diagnostic) : Loader :=
  { l with diagnostics := l.diagnostics ++ [d] }

/-- Links the world and warns of what does not resolve. -/
def finish (l : Loader) : LoadReport :=
  let (world, warnings) := l.world.link
  { world := world
    diagnostics := l.diagnostics ++ warnings.map fun w => .warningOf w.message
    sources := l.sources }

end Loader

namespace LoadReport

/-- The number of errors, one for each rejected source. -/
def errorCount (r : LoadReport) : Nat := r.diagnostics.countP (·.isError)

/-- The number of warnings. -/
def warningCount (r : LoadReport) : Nat := r.diagnostics.length - r.errorCount

/-- Whether a source was rejected. -/
def hasErrors (r : LoadReport) : Bool := r.diagnostics.any (·.isError)

end LoadReport

end StoryWorld
