import StoryWorld.Character
import StoryWorld.CommandLine.Number
import StoryWorld.Text.Blank
import StoryWorld.Text.Split
import StoryWorld.Text.Terminal

/-! Commands and the arguments that spell them. -/

namespace StoryWorld.CommandLine

/-! ## Commands -/

/-- How many levels of directories are searched unless told otherwise. -/
def defaultDepth : Nat := 10

/-- The options of a command that loads a world. -/
structure WorldOptions where
  dir : String := "."
  depth : Nat := defaultDepth
  settings : Settings := {}
  quests : List (String × Integer) := []

/-- A command. -/
inductive Command
  | check (o : WorldOptions)
  | tree (file : String) (json : Bool)
  | look (node : String) (o : WorldOptions)
  | quests (o : WorldOptions)
  | attr (name : String) (o : WorldOptions)

/-- The words that name commands. -/
inductive Verb
  | check | tree | look | quests | attr
  deriving DecidableEq, Repr

/-- The word for a verb. -/
def Verb.word : Verb → String
  | check => "check"
  | tree => "tree"
  | look => "look"
  | quests => "quests"
  | attr => "attr"

/-- The verb that a word names. -/
def Verb.ofWord? (word : String) : Option Verb :=
  [Verb.check, .tree, .look, .quests, .attr].find? fun v => v.word == word

/-! ## Errors -/

/-- Why arguments spell no command. -/
inductive UsageError
  | unexpectedArgument (arg : String)
  | unexpectedValue (arg value : String)
  | missingValue (arg : String)
  | invalidValue (arg value reason : String)
  | repeated (arg : String)
  | missingArguments
  | unknownCommand (word : String)
  | missingCommand
  deriving DecidableEq, Repr

/-- A word of a message that stands out on a terminal, between quotes. -/
def quoted (word : String) : String := "'" ++ Text.paint "1" word ++ "'"

/-- The wording of a usage error, for a terminal. -/
def UsageError.message : UsageError → String
  | unexpectedArgument arg => "unexpected argument " ++ quoted arg ++ " found"
  | unexpectedValue arg value =>
    "unexpected value " ++ quoted value ++ " for " ++ quoted arg ++
      " found; no more were expected"
  | missingValue arg => "a value is required for " ++ quoted arg ++ " but none was supplied"
  | invalidValue arg value reason =>
    "invalid value " ++ quoted value ++ " for " ++ quoted arg ++ ": " ++ reason
  | repeated arg => "the argument " ++ quoted arg ++ " cannot be used multiple times"
  | missingArguments => "the following required arguments were not provided:"
  | unknownCommand word => "unrecognized subcommand " ++ quoted word
  | missingCommand => "'dm' requires a subcommand but one was not provided"

/-! ## Arguments -/

/-- What an argument is given for. -/
inductive Slot
  | dir | depth | passes | hour | quest
  | node | file | name
  | json | verbose | help | version
  deriving DecidableEq, Repr

namespace Slot

/-- The long spelling of an option. -/
def long? : Slot → Option String
  | dir => some "dir"
  | depth => some "max-depth"
  | passes => some "max-iterations"
  | hour => some "hour"
  | quest => some "quest"
  | json => some "json"
  | verbose => some "verbose"
  | help => some "help"
  | version => some "version"
  | _ => none

/-- The one-letter spelling of an option. -/
def short? : Slot → Option Char
  | dir => some 'd'
  | quest => some 'q'
  | verbose => some 'v'
  | help => some 'h'
  | version => some 'V'
  | _ => none

/-- What an argument is called in messages. -/
def label : Slot → String
  | dir => "--dir <DIR>"
  | depth => "--max-depth <MAX_DEPTH>"
  | passes => "--max-iterations <MAX_ITERATIONS>"
  | hour => "--hour <HOUR>"
  | quest => "--quest <QUESTS>"
  | node => "<NODE>"
  | file => "<FILE>"
  | name => "<NAME>"
  | json => "--json"
  | verbose => "--verbose"
  | help => "--help"
  | version => "--version"

/-- Whether an option is followed by a value. -/
def takesValue : Slot → Bool
  | dir | depth | passes | hour | quest => true
  | _ => false

/-- Whether a value may look like an option. -/
def takesHyphens (s : Slot) : Bool := s == hour

end Slot

/-- The options of a command that loads a world. -/
def worldSlots : List Slot := [.dir, .verbose, .depth, .passes, .hour, .quest, .help, .version]

/-- The options of a verb. -/
def Verb.slots : Verb → List Slot
  | tree => [.json, .verbose, .help, .version]
  | _ => worldSlots

/-- What a verb needs apart from its options. -/
def Verb.operand? : Verb → Option Slot
  | look => some .node
  | tree => some .file
  | attr => some .name
  | _ => none

/-- The arguments given so far. -/
structure Given where
  dir : Option String := none
  depth : Option Nat := none
  passes : Option Nat := none
  hour : Option Integer := none
  quests : List (String × Integer) := []
  operand : Option String := none
  json : Bool := false
  verbose : Bool := false

/-- The quest and the value that a step `NAME=VALUE` names, or what is wrong with it. -/
def readQuestStep (step : String) : Except String (String × Integer) :=
  match Text.splitOnce '=' step with
  | none => .error ("expected NAME=VALUE, got \"" ++ step ++ "\"")
  | some (name, value) =>
    match Integer.read? (Text.trim value) with
    | none => .error ("quest value \"" ++ value ++ "\" is not an integer")
    | some n => .ok (Text.trim name, n)

namespace Given

/-- Whether a slot that can be filled once is filled. -/
def has (g : Given) : Slot → Bool
  | .dir => g.dir.isSome
  | .depth => g.depth.isSome
  | .passes => g.passes.isSome
  | .hour => g.hour.isSome
  | .json => g.json
  | .verbose => g.verbose
  | _ => false

/-- A value read from text, or the usage error that says why not. -/
def reading {α : Type} (s : Slot) (value : String) (x : Except NumberFault α) :
    Except UsageError α :=
  x.mapError fun fault => .invalidValue s.label value fault.message

/-- Fills a slot with a value. -/
def put (g : Given) (s : Slot) (value : String) : Except UsageError Given :=
  match s with
  | .dir =>
    if value = "" then .error (.missingValue s.label) else .ok { g with dir := some value }
  | .depth => (reading s value (readCount value)).map fun n => { g with depth := some n }
  | .passes => (reading s value (readCount value)).map fun n => { g with passes := some n }
  | .hour => (reading s value (readInteger value)).map fun n => { g with hour := some n }
  | .quest =>
    match readQuestStep value with
    | .ok step => .ok { g with quests := g.quests ++ [step] }
    | .error reason => .error (.invalidValue s.label value reason)
  | .file =>
    if value = "" then .error (.missingValue s.label) else .ok { g with operand := some value }
  | .node | .name => .ok { g with operand := some value }
  | .json => .ok { g with json := true }
  | .verbose => .ok { g with verbose := true }
  | .help | .version => .ok g

/-- Fills a slot, which must not be filled yet if it can be filled once. -/
def fill (g : Given) (s : Slot) (value : String) : Except UsageError Given :=
  if g.has s then .error (.repeated s.label) else g.put s value

/-- The options given, with standards for those that are not. -/
def worldOptions (g : Given) : WorldOptions :=
  let standard : Settings := {}
  { dir := g.dir.getD "."
    depth := g.depth.getD defaultDepth
    settings := ⟨g.passes.getD standard.maxPasses, g.hour.getD standard.startHour⟩
    quests := g.quests }

/-- The command that a verb makes with the arguments given. -/
def command (g : Given) (v : Verb) : Except UsageError Command :=
  match v, g.operand with
  | .check, _ => .ok (.check g.worldOptions)
  | .quests, _ => .ok (.quests g.worldOptions)
  | .look, some node => .ok (.look node g.worldOptions)
  | .tree, some file => .ok (.tree file g.json)
  | .attr, some name => .ok (.attr name g.worldOptions)
  | _, none => .error .missingArguments

end Given

/-! ## Reading arguments -/

/-- What there is help on: the program, a verb, or help itself. -/
inductive Topic
  | program
  | verb (v : Verb)
  | help
  deriving DecidableEq, Repr

/-- What is asked for instead of a command: the version of the program or of a verb, or help. -/
inductive Stop
  | usage (e : UsageError)
  | version (v : Option Verb)
  | help (topic : Topic)
  | nothingGiven
  deriving DecidableEq, Repr

/-- The state of reading a verb's arguments. A slot stays open until the next argument: without a
value it waits for one, and with a value it is filled when something else is read. -/
structure Progress where
  given : Given := {}
  pending : Option (Slot × Option String) := none
  operandSeen : Bool := false
  literal : Bool := false

namespace Progress

/-- Fills the open slot. -/
def settle (p : Progress) : Except Stop Progress :=
  match p.pending with
  | none => .ok p
  | some (s, none) => .error (.usage (.missingValue s.label))
  | some (s, some value) =>
    match p.given.fill s value with
    | .ok g => .ok { p with given := g, pending := none }
    | .error e => .error (.usage e)

/-- Fills a slot at once, after the open one. -/
def fillNow (v : Verb) (p : Progress) (s : Slot) (value : String) : Except Stop Progress := do
  let p ← p.settle
  match s with
  | .help => .error (.help (.verb v))
  | .version => .error (.version (some v))
  | _ =>
    match p.given.fill s value with
    | .ok g => .ok { p with given := g }
    | .error e => .error (.usage e)

/-- Opens a slot, after the open one. -/
def openSlot (p : Progress) (s : Slot) (value : Option String) : Except Stop Progress := do
  let p ← p.settle
  return { p with pending := some (s, value) }

/-- Reads an option in its long spelling, `name` or `name=value`. -/
def readLong (v : Verb) (p : Progress) (name : String) (value : Option String) :
    Except Stop Progress :=
  match v.slots.find? (·.long? == some name) with
  | none => .error (.usage (.unexpectedArgument ("--" ++ name)))
  | some s =>
    match s.takesValue, value with
    | true, some value => p.fillNow v s value
    | true, none => p.openSlot s none
    | false, none => p.fillNow v s ""
    | false, some value => .error (.usage (.unexpectedValue s.label value))

/-- Reads options in their one-letter spellings, written together. The rest after one that takes a
value is the value. -/
def readShort (v : Verb) (p : Progress) : List Char → Except Stop Progress
  | [] => .ok p
  | c :: rest =>
    match v.slots.find? (·.short? == some c) with
    | none => .error (.usage (.unexpectedArgument ("-" ++ String.singleton c)))
    | some s =>
      if s.takesValue then
        match rest with
        | [] => p.openSlot s none
        | '=' :: value => p.fillNow v s (String.ofList value)
        | value => p.fillNow v s (String.ofList value)
      else
        match p.fillNow v s "" with
        | .ok p => readShort v p rest
        | .error e => .error e

/-- Reads what is no option: the operand, if there is room for it. -/
def readOperand (v : Verb) (p : Progress) (arg : String) : Except Stop Progress :=
  match v.operand?, p.operandSeen with
  | some s, false => do
    let p ← p.openSlot s (some arg)
    return { p with operandSeen := true }
  | _, _ => .error (.usage (.unexpectedArgument arg))

/-- The option that waits for its value. -/
def waiting? (p : Progress) : Option Slot :=
  match p.pending with
  | some (s, none) => some s
  | _ => none

/-- Reads one argument. -/
def step (v : Verb) (p : Progress) (arg : String) : Except Stop Progress :=
  if p.literal then
    readOperand v p arg
  else
    let value (s : Slot) : Except Stop Progress := .ok { p with pending := some (s, some arg) }
    let hyphens := (p.waiting?.map (·.takesHyphens)).getD false
    match arg.toList, p.waiting? with
    | '-' :: _ :: _, some s => if hyphens then value s else readOption arg
    | '-' :: _ :: _, none => readOption arg
    | _, some s => value s
    | _, none => readOperand v p arg
where
  /-- Reads an argument that starts with a hyphen. -/
  readOption (arg : String) : Except Stop Progress :=
    match arg.toList with
    | ['-', '-'] => .ok { p with literal := true }
    | '-' :: '-' :: rest =>
      match Text.splitOnce '=' (String.ofList rest) with
      | some (name, value) => readLong v p name (some value)
      | none => readLong v p (String.ofList rest) none
    | _ :: cs => readShort v p cs
    | [] => .ok p

end Progress

/-- The command that a verb makes with its arguments. -/
def readVerb (v : Verb) (args : List String) : Except Stop Command := do
  let p ← args.foldlM (Progress.step v) {}
  let p ← p.settle
  match p.given.command v with
  | .ok c => .ok c
  | .error e => .error (.usage e)

/-- Reads one-letter options before the verb. -/
def readTopShort (verbose : Bool) : List Char → Except Stop Bool
  | [] => .ok verbose
  | 'h' :: _ => .error (.help .program)
  | 'V' :: _ => .error (.version none)
  | 'v' :: rest =>
    if verbose then .error (.usage (.repeated Slot.verbose.label)) else readTopShort true rest
  | c :: _ => .error (.usage (.unexpectedArgument ("-" ++ String.singleton c)))

/-- Reads a long option before the verb. -/
def readTopLong (verbose : Bool) (name : String) (value : Option String) : Except Stop Bool :=
  match [Slot.verbose, .help, .version].find? (·.long? == some name), value with
  | none, _ => .error (.usage (.unexpectedArgument ("--" ++ name)))
  | some s, some value => .error (.usage (.unexpectedValue s.label value))
  | some .help, none => .error (.help .program)
  | some .version, none => .error (.version none)
  | some s, none =>
    if verbose then .error (.usage (.repeated s.label)) else .ok true

/-- The command after a lone `--`, where no verb is taken. -/
def readLiteral (verbose : Bool) : List String → Except Stop Command
  | [] => .error (if verbose then .usage .missingCommand else .nothingGiven)
  | arg :: _ =>
    if (Verb.ofWord? arg).isSome ∨ arg = "help" then
      .error (.usage (.unexpectedArgument arg))
    else
      .error (.usage (.unknownCommand arg))

/-- What a word names that help is asked on. -/
def Topic.ofWord? (word : String) : Option Topic :=
  if word = "help" then some .help else (Verb.ofWord? word).map .verb

/-- The answer to `help` with the words after it: the first names a verb, or `help` itself, and none
of these has words of its own. -/
def readHelp : List String → Stop
  | [] => .help .program
  | word :: rest =>
    match Topic.ofWord? word, rest with
    | none, _ => .usage (.unknownCommand word)
    | some topic, [] => .help topic
    | some _, next :: _ => .usage (.unknownCommand next)

/-- The command that arguments spell, with `verbose` given before them or not. -/
def readCommand (verbose : Bool) : List String → Except Stop Command
  | [] => .error (if verbose then .usage .missingCommand else .nothingGiven)
  | arg :: rest =>
    match Verb.ofWord? arg with
    | some v => readVerb v rest
    | none =>
      if arg = "help" then .error (readHelp rest)
      else
        match arg.toList with
        | ['-', '-'] => readLiteral verbose rest
        | '-' :: '-' :: cs => do
          let long := String.ofList cs
          let (name, value) := match Text.splitOnce '=' long with
            | some (name, value) => (name, some value)
            | none => (long, none)
          let verbose ← readTopLong verbose name value
          readCommand verbose rest
        | '-' :: c :: cs => do
          let verbose ← readTopShort verbose (c :: cs)
          readCommand verbose rest
        | _ => .error (.usage (.unknownCommand arg))

end StoryWorld.CommandLine
