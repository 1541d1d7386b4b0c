import NameBridge.Grammar.Basic
import NameBridge.Table.Builder

/-!
The flat grammar: a list of classes and, beside it, a list of members.

A class line gives the obfuscated and the declared name, as in `a net/game/Block`. A member line
starts with the declared name of its class; three words make a field, as in
`net/game/Block b hardness`, and four a method, as in `net/game/Block a (I)V tick`. Slashes in class
names count as dots.

Members are attached to the class that has the declared name once the whole class list has been
read.
-/

namespace NameBridge.Flat

/-! ## Class lines -/

/-- The obfuscated and the declared name of a class line: what stands before and after its first
space, without the blanks around. -/
def classNames? (line : String) : Option (String × String) :=
  let cs := (TypeName.dotted line).toList
  match cs.dropWhile (· != ' ') with
  | [] => none
  | _ :: after =>
    let obfuscated := Text.trim (cs.takeWhile (· != ' '))
    let declared := Text.trim after
    if obfuscated.isEmpty || declared.isEmpty then none
    else some (String.ofList obfuscated, String.ofList declared)

def addClassLine (b : Table.Builder) (line : String) : Table.Builder :=
  if isComment line || isBlankLine line then b
  else
    match classNames? line with
    | some (obfuscated, declared) => b.insertClass (.ofNames declared obfuscated)
    | none => b.modifyStats (·.ignoreLine)

/-- Add the rest of a class list, line by line. -/
def readClasses (c : LineCursor) (b : Table.Builder) : LineCursor × Table.Builder :=
  match _h : c.take with
  | none => (c, b)
  | some (line, c') => readClasses c' (addClassLine b line)
termination_by c.remaining
decreasing_by exact LineCursor.take_remaining_lt _h

/-! ## Member lines -/

inductive MemberLine where
  /-- No word at all. -/
  | blank
  | field (owner obfuscated declared : String)
  | method (owner obfuscated signature declared : String)
  /-- Any other number of words. -/
  | unknown
  deriving DecidableEq, Repr

/-- Tell a member line by the number of its words. -/
def MemberLine.ofLine (line : String) : MemberLine :=
  match (Text.words line.toList).map String.ofList with
  | [] => .blank
  | [owner, obfuscated, declared] => .field (TypeName.dotted owner) obfuscated declared
  | [owner, obfuscated, signature, declared] =>
    .method (TypeName.dotted owner) obfuscated signature declared
  | _ => .unknown

/-- Add a member to the class declared `owner`, or count it as unresolved. -/
def addMember (b : Table.Builder) (owner : String) (change : ClassEntry → ClassEntry) :
    Table.Builder :=
  if (b.withDeclared? owner).isSome then b.modifyDeclared owner change
  else b.modifyStats (·.leaveUnresolved)

/-- Add what one line of the member list says; `number` is its place in the file. -/
def addMemberLine (options : ReadOptions) (b : Table.Builder) (number : Nat) (line : String) :
    Except TableError Table.Builder :=
  if isComment line then .ok b
  else
    match MemberLine.ofLine line with
    | .blank => .ok b
    | .unknown => .ok (b.modifyStats (·.ignoreLine))
    | .field owner obfuscated declared => .ok (addMember b owner (·.insertField obfuscated declared))
    | .method owner obfuscated signature declared =>
      -- the owner is looked for before the signature is read
      if (b.withDeclared? owner).isNone then .ok (b.modifyStats (·.leaveUnresolved))
      else
        match TypeName.ofSignature signature, options.onMalformed with
        | .ok (parameters, returnType), _ =>
          .ok (addMember b owner (·.insertMethod { returnType, declared, obfuscated, parameters }))
        | .error _, .skipRecord => .ok (b.modifyStats (·.skipMalformed))
        | .error cause, .abortFile => .error (.record number cause)

def readMembers (options : ReadOptions) (c : LineCursor) (b : Table.Builder) :
    Except TableError (LineCursor × Table.Builder) :=
  match _h : c.take with
  | none => .ok (c, b)
  | some (line, c') => do
    let b' ← addMemberLine options b c'.number line
    readMembers options c' b'
termination_by c.remaining
decreasing_by exact LineCursor.take_remaining_lt _h

/-! ## Files -/

/-- The table of a class list and perhaps a member list. -/
def read (classes : LineCursor) (members : Option LineCursor) (options : ReadOptions) :
    Except TableError Table := do
  let (c, b) := readClasses classes .empty
  -- a class list that breaks off fails before any member is looked at
  c.check
  match members with
  | none => return b.build
  | some members =>
    let (m, b) ← readMembers options members b
    m.check
    return b.build

end NameBridge.Flat
