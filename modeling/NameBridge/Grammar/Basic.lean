import NameBridge.Text.Blank
import NameBridge.Text.Lines
import NameBridge.TypeName.Descriptor

/-!
What both grammars of renaming files share: comments, the policy for malformed records, and the ways
a file can fail to give a table.
-/

namespace NameBridge

/-- What to do with a record whose signature is malformed. -/
inductive MalformedPolicy where
  /-- Leave the record out, count it and go on. -/
  | skipRecord
  /-- Give up on the whole file with the record's error. -/
  | abortFile
  deriving DecidableEq, Repr

structure ReadOptions where
  onMalformed : MalformedPolicy := .skipRecord
  deriving DecidableEq, Repr

namespace ReadOptions

/-- Malformed records are left out. -/
def lenient : ReadOptions := {}

/-- A malformed record fails the file. -/
def strict : ReadOptions := { onMalformed := .abortFile }

def ofStrict (isStrict : Bool) : ReadOptions := if isStrict then strict else lenient

end ReadOptions

/-- Why a file gave no table. -/
inductive TableError where
  /-- The record in this line (counted from one) is malformed. -/
  | record (line : Nat) (cause : TypeName.DescriptorError)
  /-- The file could not be opened or read to its end. -/
  | file (cause : FileError)
  deriving DecidableEq, Repr

def TableError.message : TableError → String
  | .record line cause => "Parse error at line " ++ toString line ++ ": " ++ cause.message
  | .file cause => "I/O error: " ++ cause.message

/-- A comment line: its first character that is not blank is `#`. -/
def isComment (line : String) : Bool := (Text.trimStart line.toList).head? == some '#'

def isBlankLine (line : String) : Bool := (Text.trim line.toList).isEmpty

/-- Fail if the stream of lines broke off. -/
def LineCursor.check (c : LineCursor) : Except TableError Unit :=
  match c.takeFault.1 with
  | some cause => .error (.file cause)
  | none => .ok ()

end NameBridge
