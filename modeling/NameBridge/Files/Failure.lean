/-!
Why a file could not be read or written.
-/

namespace NameBridge

/-- The cause of a failed operation on a file. -/
inductive FileError where
  /-- Nothing has that path. -/
  | notFound
  /-- Something that is not a directory has that path already. -/
  | alreadyExists
  /-- A part of the path that should be a directory is a file. -/
  | notADirectory
  /-- The path names a directory where a file is needed. -/
  | isADirectory
  /-- The path holds a zero character, which ends a name for the system. -/
  | zeroInPath
  /-- The path, or one of its parts, is longer than the system takes. -/
  | nameTooLong
  /-- The bytes are not the UTF-8 form of any text. -/
  | invalidText
  /-- Any other cause, in the system's own words. -/
  | other (text : String)
  deriving DecidableEq, Repr

def FileError.message : FileError → String
  | .notFound => "No such file or directory (os error 2)"
  | .alreadyExists => "File exists (os error 17)"
  | .notADirectory => "Not a directory (os error 20)"
  | .isADirectory => "Is a directory (os error 21)"
  | .zeroInPath => "file name contained an unexpected NUL byte"
  | .nameTooLong => "File name too long (os error 36)"
  | .invalidText => "stream did not contain valid UTF-8"
  | .other text => text

end NameBridge
