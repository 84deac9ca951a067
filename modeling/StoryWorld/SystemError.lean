/-! What the file system refuses. -/

namespace StoryWorld

/-- Why a path cannot be opened or read. -/
inductive SystemError
  | notFound
  | notADirectory
  | isADirectory
  | permissionDenied
  | nameTooLong
  | nulInName
  deriving DecidableEq, Repr

/-- The wording of a refusal, with its number. A path with a NUL is refused before it is looked at
and has none. -/
def SystemError.message : SystemError → String
  | notFound => "No such file or directory (os error 2)"
  | permissionDenied => "Permission denied (os error 13)"
  | notADirectory => "Not a directory (os error 20)"
  | isADirectory => "Is a directory (os error 21)"
  | nameTooLong => "File name too long (os error 36)"
  | nulInName => "file name contained an unexpected NUL byte"

end StoryWorld
