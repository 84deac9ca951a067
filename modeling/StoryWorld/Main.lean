import StoryWorld.CommandLine.Run

/-! The program: reads the files that its command needs, runs the command, and prints what it
says. -/

namespace StoryWorld.CommandLine

/-- An error of the system as what it refuses, if that is known. -/
def refusal? : IO.Error → Option SystemError
  | .noFileOrDirectory .. => some .notFound
  | .inappropriateType .. => some .notADirectory
  | .permissionDenied .. => some .permissionDenied
  -- some of the system's calls turn the sign of their error numbers round
  | .invalidArgument _ code _ => if code = 36 ∨ code = -36 then some .nameTooLong else none
  | _ => none

/-- The result of an action, or what the system refuses of it. -/
def attempt {α : Type} (action : IO α) : IO (Except SystemError α) := do
  try
    return .ok (← action)
  catch e =>
    match refusal? e with
    | some refused => return .error refused
    | none => throw e

/-- The entry of a name in the directory at a path, with directories read `depth` levels down. What
lies deeper is taken for empty. What is neither file nor directory is left out. -/
def readEntry : (depth : Nat) → (path name : String) → IO (Option Entry)
  | depth, path, name => do
    let here ← IO.currentDir
    let inner := Path.join path name
    match ← attempt (here / inner).metadata with
    | .error _ => return none
    | .ok data =>
      match data.type with
      | .file =>
        let bytes ← attempt (IO.FS.readBinFile (here / inner))
        return some (.file name (bytes.map (·.toList)))
      | .dir =>
        match depth with
        | 0 => return some (.dir name [])
        | depth + 1 =>
          match ← attempt (here / inner).readDir with
          | .error e => return some (.closed name e)
          | .ok items =>
            let mut entries := []
            for item in items do
              if let some entry ← readEntry depth inner item.fileName then
                entries := entry :: entries
            return some (.dir name entries)
      | _ => return none

/-- The names that the layout of a world's directory knows. -/
def sourceNames : List String := Kind.loadOrder.flatMap fun k => [k.fileName, k.dirName]

/-- What is there at a path, as far as a search of `depth` levels needs it. The sources of a world
are looked for by name, which needs no list of its directory. -/
def openPath (path : String) (depth : Nat) : IO (Except SystemError Opened) := do
  if path = "" then
    return .error .notFound
  if !Path.fits path then
    return .error .nameTooLong
  let here ← IO.currentDir
  match ← attempt (here / path).metadata with
  | .error e => return .error e
  | .ok data =>
    match data.type with
    | .dir =>
      let sources ← sourceNames.filterMapM (readEntry (depth + 1) path)
      match ← attempt (here / path).readDir, sources with
      | .error e, [] => return .ok (.closed e)
      | _, _ => return .ok (.dir sources)
    | _ =>
      let bytes ← attempt (IO.FS.readBinFile (here / path))
      return .ok (.file (bytes.map (·.toList)))

/-- How many levels below its path a command searches. -/
def Command.depth : Command → Nat
  | check o | look _ o | quests o | attr _ o => o.depth
  | tree .. => 0

/-- Runs a command on the files of this system. -/
def runHere (args : List String) : IO Outcome := do
  match readCommand false args with
  | .error stop => return stop.outcome
  | .ok c => return c.run (← openPath c.path c.depth)

end StoryWorld.CommandLine

/-- Prints the outcome of a run and returns its exit code. -/
def main (args : List String) : IO UInt32 := do
  let out ← StoryWorld.CommandLine.runHere args
  IO.eprint out.stderr
  IO.print out.stdout
  return out.code.toUInt32
