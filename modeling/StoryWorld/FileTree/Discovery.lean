import StoryWorld.FileTree
import StoryWorld.Layout

/-! Finding the files of a source: all of them in order of their names, down to a depth. -/

namespace StoryWorld

/-- What a search meets at a path: a file with what is read from it, a directory that lies too deep,
or one that refuses to be listed. -/
inductive Find
  | file (bytes : Except SystemError (List UInt8))
  | tooDeep
  | refused (e : SystemError)

/-- The files that a search returns and the directories that it skips, by the names that lead to
them. -/
structure Found where
  files : List (List String × Except SystemError (List UInt8))
  skipped : List (List String)

namespace Find

/-- The file that is met. -/
def file? : List String × Find → Option (List String × Except SystemError (List UInt8))
  | (path, .file bytes) => some (path, bytes)
  | _ => none

/-- The directory that is met and skipped. -/
def skipped? : List String × Find → Option (List String)
  | (path, .tooDeep) => some path
  | _ => none

/-- The directory that is met and refuses to be listed. -/
def refused? : List String × Find → Option (List String × SystemError)
  | (path, .refused e) => some (path, e)
  | _ => none

/-- What is met in a directory, from what is met at each of its entries. -/
def ofEntries (finds : List (String × List (List String × Find))) : List (List String × Find) :=
  (finds.mergeSort fun a b => decide (a.1 ≤ b.1)).flatMap fun (name, fs) =>
    fs.map fun (path, f) => (name :: path, f)

end Find

namespace Entry

mutual
/-- What is met at an entry, with directories left to go down into `depth` levels. -/
def finds (depth : Nat) : Entry → List (List String × Find)
  | file _ bytes => [([], .file bytes)]
  | dir _ entries =>
    match depth with
    | 0 => [([], .tooDeep)]
    | depth + 1 => Find.ofEntries (findsAll depth entries)
  | closed _ e =>
    match depth with
    | 0 => [([], .tooDeep)]
    | _ + 1 => [([], .refused e)]

/-- What is met at each of some entries. -/
def findsAll (depth : Nat) : List Entry → List (String × List (List String × Find))
  | [] => []
  | e :: es => (e.name, e.finds depth) :: findsAll depth es
end

end Entry

namespace Opened

/-- What is met at or below what opened, with subdirectories searched `depth` levels down. -/
def walk (depth : Nat) : Opened → List (List String × Find)
  | .file bytes => [([], .file bytes)]
  | .dir entries => Find.ofEntries (Entry.findsAll depth entries)
  | .closed e => [([], .refused e)]

/-- The files at or below what opened at a path, and the directories that lie too deep, as far as
their paths can be opened. The first directory that refuses to be listed ends the search. -/
def search (path : String) (depth : Nat) (o : Opened) : Except (String × SystemError) Found :=
  let met := (o.walk depth).filter fun (names, _) => Path.fits (Path.below path names)
  match met.findSome? Find.refused? with
  | some (names, e) => .error (Path.below path names, e)
  | none => .ok ⟨met.filterMap Find.file?, met.filterMap Find.skipped?⟩

/-- The source of a kind in the directory of a world at a path, with the path to it: the single file
if there is one, and else the directory. Here, `here` opened at the path `base`. -/
def locate? (here : Opened) (root : String) (k : Kind) (base : String := "") :
    Option (String × Opened) :=
  let file := Path.join root k.fileName
  let dir := Path.join root k.dirName
  match here.resolve file base with
  | .ok (.file bytes) => some (file, .file bytes)
  | _ =>
    match here.resolve dir base with
    | .ok (.dir entries) => some (dir, .dir entries)
    | .ok (.closed e) => some (dir, .closed e)
    | _ => none

end Opened

end StoryWorld
