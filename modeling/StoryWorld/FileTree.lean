import StoryWorld.SystemError

/-! Trees of files, and what opens at a path. -/

namespace StoryWorld

/-- A named file or directory. A file may refuse to be read. A directory that is closed refuses both
to be listed and to be entered. -/
inductive Entry
  | file (name : String) (bytes : Except SystemError (List UInt8))
  | dir (name : String) (entries : List Entry)
  | closed (name : String) (e : SystemError)

/-- What is there at a path. -/
inductive Opened
  | file (bytes : Except SystemError (List UInt8))
  | dir (entries : List Entry)
  | closed (e : SystemError)

namespace Entry

/-- The name of an entry. -/
def name : Entry → String
  | file name _ => name
  | dir name _ => name
  | closed name _ => name

/-- What is behind an entry. -/
def content : Entry → Opened
  | file _ bytes => .file bytes
  | dir _ entries => .dir entries
  | closed _ e => .closed e

/-- The entry of a directory with a name. -/
def find? (entries : List Entry) (name : String) : Option Entry :=
  entries.find? (·.name == name)

/-- The file that stands alone at the end of a path, or the empty directory if there is none. -/
def ofPath (bytes : Option (List UInt8)) (name : String) : List String → Entry
  | [] =>
    match bytes with
    | some bytes => file name (.ok bytes)
    | none => dir name []
  | next :: rest => dir name [ofPath bytes next rest]

/-- Puts a file, or an empty directory, at a path below a directory. What is there already
stays. -/
def insert (bytes : Option (List UInt8)) : (path : List String) → List Entry → List Entry
  | [], entries => entries
  | name :: rest, entries =>
    match find? entries name with
    | none => entries ++ [ofPath bytes name rest]
    | some _ => entries.map fun
      | dir n inner => if n = name then dir n (insert bytes rest inner) else dir n inner
      | e => e

end Entry

namespace Path

/-- A path with one more name at its end. -/
def join (path name : String) : String :=
  if path = "" ∨ path.endsWith "/" then path ++ name else path ++ "/" ++ name

/-- The names that stand between the slashes of a path. -/
def names (path : String) : List String := (path.toList.splitOn '/').map String.ofList

/-- The path of names below a directory. -/
def ofNames (names : List String) : String := String.intercalate "/" names

/-- The path of names below the directory at a path. -/
def below (path : String) (names : List String) : String := names.foldl join path

/-- The most bytes that a path may have. -/
def longest : Nat := 4095

/-- The most bytes that a name in a path may have. -/
def longestName : Nat := 255

/-- Whether a path is short enough to be opened. -/
def fits (path : String) : Bool := path.utf8ByteSize ≤ longest

end Path

namespace Opened

/-- Whether a directory is there. -/
def isDirectory : Opened → Bool
  | file _ => false
  | dir _ => true
  | closed _ => true

/-- Follows names from `here`, inside the directories `outer`, the innermost first. What lies
outside all of them is an empty directory. A name can only be too long where it is looked for, and
in a closed directory none is. -/
def follow (here : Opened) (outer : List Opened) : List String → Except SystemError Opened
  | [] => .ok here
  | name :: rest =>
    match here with
    | .file _ => .error .notADirectory
    | .closed e => if name = "" then follow here outer rest else .error e
    | .dir entries =>
      if name = "" ∨ name = "." then
        follow here outer rest
      else if name = ".." then
        match outer with
        | [] => follow (.dir []) [] rest
        | up :: outer => follow up outer rest
      else if Path.longestName < name.utf8ByteSize then
        .error .nameTooLong
      else
        match Entry.find? entries name with
        | none => .error .notFound
        | some e => follow e.content (here :: outer) rest

/-- What opens at a path, where `here` opened at the path `base`. A path that starts with a slash
starts outside `here`. -/
def resolve (here : Opened) (path : String) (base : String := "") : Except SystemError Opened :=
  if path.toList.contains '\x00' then .error .nulInName
  else if path = "" then .error .notFound
  else if !Path.fits (Path.join base path) then .error .nameTooLong
  else follow (if path.toList.head? = some '/' then .dir [] else here) [] (Path.names path)

end Opened

end StoryWorld
