import StoryWorld.FileTree.Discovery
import StoryWorld.Loader

/-! Loading a world from a directory, and reading single source files. -/

namespace StoryWorld

namespace Loader

/-- Loads the source file at a path, under the name `file`. A file that refuses to be read is
reported and adds nothing. -/
def openFile (l : Loader) (k : Kind) (file path : String)
    (bytes : Except SystemError (List UInt8)) : Loader × Bool :=
  match bytes with
  | .ok bytes => l.addFile k file (.ofBytes bytes)
  | .error e => (l.record (LoadError.unreadable path e).toDiagnostic, false)

/-- Loads the source of a kind from the directory of a world that opened at a path. Directories that
lie too deep are warned of before any file is read, and if a directory refuses to be listed that is
all that is said of the source. -/
def addKind (l : Loader) (base : String) (root : Opened) (depth : Nat) (k : Kind) : Loader :=
  match root.locate? "" k base with
  | none =>
    l.record (.warningOf ("no " ++ k.label ++ " found: expected " ++ k.fileName ++ " or " ++
      k.dirName ++ "/"))
  | some (name, source) =>
    match source.search (Path.join base name) depth with
    | .error (path, e) => l.record (LoadError.unreadable path e).toDiagnostic
    | .ok found =>
      let l := found.skipped.foldl (fun l names =>
        l.record (.warningOf ("max depth " ++ depth.repr ++ " reached, skipping " ++
          Path.ofNames (name :: names)))) l
      found.files.foldl (fun l (names, bytes) =>
        (l.openFile k (Path.ofNames (name :: names)) (Path.below base (name :: names)) bytes).1) l

end Loader

/-- Loads the world in the directory that opened at a path. -/
def loadWorld (path : String) (opened : Except SystemError Opened) (settings : Settings)
    (depth : Nat) : Except LoadError LoadReport :=
  match opened with
  | .error _ => .error (.notADirectory path)
  | .ok root =>
    if root.isDirectory then
      .ok (Kind.loadOrder.foldl (fun l k => l.addKind path root depth k)
        (Loader.start settings)).finish
    else
      .error (.notADirectory path)

/-- A reader of what opened, unless that refuses to be read. A directory opens and cannot be
read. -/
def Opened.reader : Opened → Except SystemError LineReader
  | .file (.ok bytes) => .ok (.ofBytes bytes)
  | .file (.error e) => .error e
  | .dir _ => .ok (.refusing .isADirectory)
  | .closed e => .error e

/-- The text of the source that opened at a path, as far as it can be read, and its tree. -/
def readSource (path : String) (opened : Except SystemError Opened) :
    Except LoadError (String × Except SyntaxError SourceTree) :=
  match opened.bind Opened.reader with
  | .error e => .error (.unreadable path e)
  | .ok r =>
    let (text, tokens) := r.contents
    .ok (text, SourceTree.ofLexing tokens)

end StoryWorld
