import NameBridge.Table.Method
import NameBridge.Text.Blank
import NameBridge.Text.Digit
import NameBridge.Text.Word
import NameBridge.TypeName.Source

/-!
The lines of the retrace grammar, one at a time.

A header, as in `net.game.Block -> a:`, opens the block of a class. A line indented by exactly four
spaces belongs to the block; its body is a constructor, a method or a field, each of which may carry
line numbers, as in `12:15:void tick(int,long):30 -> b`.

Each shape is read from left to right: after every part it is known whether the next one can follow,
so nothing is ever tried twice.
-/

namespace NameBridge.Retrace

/-! ## Parts of a line -/

/-- What follows `lead` in `cs`. -/
def after? (lead cs : List Char) : Option (List Char) :=
  match lead, cs with
  | [], rest => some rest
  | _ :: _, [] => none
  | l :: ls, c :: rest => if l = c then after? ls rest else none

def afterDigits? (cs : List Char) : Option (List Char) :=
  if (cs.head?.any Text.isDigit) then some (cs.dropWhile Text.isDigit) else none

/-- What follows a line range, as in `12:15:`. -/
def afterRange? (cs : List Char) : Option (List Char) := do
  let cs ← after? [':'] (← afterDigits? cs)
  after? [':'] (← afterDigits? cs)

def afterLineNumber? (cs : List Char) : Option (List Char) := do
  afterDigits? (← after? [':'] cs)

/-- The text without the one or two line numbers it may start with, as in `:3` and `:3:7`. -/
def dropLineNumbers (cs : List Char) : List Char :=
  match afterLineNumber? cs with
  | some rest => (afterLineNumber? rest).getD rest
  | none => cs

def arrow : List Char := [' ', '-', '>', ' ']

/-- The non-empty run of characters in the class `p` that `cs` starts with, and the rest. -/
def run? (p : Char → Bool) (cs : List Char) : Option (List Char × List Char) :=
  let run := cs.takeWhile p
  if run.isEmpty then none else some (run, cs.dropWhile p)

/-- All of `cs`, if it is a simple name. -/
def simpleName? (cs : List Char) : Option String :=
  match run? Text.isNameChar cs with
  | some (name, []) => some (String.ofList name)
  | _ => none

/-- The inside of the parentheses that `cs` starts with, and what follows them. -/
def parenthesized? (cs : List Char) : Option (List Char × List Char) := do
  let cs ← after? ['('] cs
  match cs.dropWhile (· != ')') with
  | [] => none
  | _ :: rest => some (cs.takeWhile (· != ')'), rest)

/-! ## Headers -/

/-- The declared and the obfuscated name of a header. Blanks at its end do not count. -/
def header? (line : String) : Option (String × String) := do
  let (declared, rest) ← run? Text.isDottedNameChar (Text.trimEnd line.toList)
  let (obfuscated, rest) ← run? Text.isDottedNameChar (← after? arrow rest)
  if rest = [':'] then some (String.ofList declared, String.ofList obfuscated) else none

/-! ## Members -/

/-- What follows the indent of a member line: four spaces and then a character that is not blank.
Blanks at the end do not count. -/
def memberBody? (line : String) : Option (List Char) := do
  let body ← after? [' ', ' ', ' ', ' '] line.toList
  if body.head?.any (!Text.isBlank ·) then some (Text.trimEnd body) else none

inductive Member where
  /-- A constructor or a static initializer. -/
  | constructor
  | method (record : MethodEntry)
  | field (obfuscated declared : String)
  | unknown
  deriving DecidableEq, Repr

/-- Whether `cs` is the name of a constructor or static initializer, perhaps parameters, perhaps line
numbers, an arrow and one word. -/
def isConstructorTail (cs : List Char) : Bool := Option.isSome do
  let rest ← (after? "<init>".toList cs).or (after? "<clinit>".toList cs)
  let rest ← if rest.head? == some '(' then (parenthesized? rest).map (·.2) else some rest
  let target ← after? arrow (dropLineNumbers rest)
  if !target.isEmpty && target.all (!Text.isBlank ·) then some () else none

/-- Whether the body is that of a constructor: after a line range, a type, both or neither. -/
def isConstructor (body : List Char) : Bool :=
  isConstructorTail ((afterRange? body).getD body) ||
    match run? (!Text.isBlank ·) body with
    | some (_, ' ' :: rest) => isConstructorTail rest
    | _ => false

/-- A type without the line range before it. -/
def dropRange (cs : List Char) : List Char :=
  match afterRange? cs with
  | some (c :: rest) => c :: rest
  -- a range that nothing follows is the type itself
  | _ => cs

/-- The parameter types between two parentheses, cut at every comma. -/
def parameterTypes (cs : List Char) : List String :=
  if cs.isEmpty then []
  else (cs.splitOn ',').map fun part => TypeName.normalize (String.ofList part)

def method? (body : List Char) : Option MethodEntry := do
  let (type, rest) ← run? (!Text.isBlank ·) body
  let (name, rest) ← run? Text.isNameChar (← after? [' '] rest)
  let (parameters, rest) ← parenthesized? rest
  let obfuscated ← simpleName? (← after? arrow (dropLineNumbers rest))
  return {
    returnType := TypeName.normalize (String.ofList (dropRange type))
    declared := String.ofList name
    obfuscated
    parameters := parameterTypes parameters }

/-- The obfuscated and the declared name of the field that the body declares. -/
def field? (body : List Char) : Option (String × String) := do
  let (_, rest) ← run? (!Text.isBlank ·) body
  let (name, rest) ← run? Text.isNameChar (← after? [' '] rest)
  let obfuscated ← simpleName? (← after? arrow rest)
  return (obfuscated, String.ofList name)

/-- Tell a member by its body: a constructor first, then a method, then a field. -/
def Member.ofBody (body : List Char) : Member :=
  if isConstructor body then .constructor
  else
    match method? body, field? body with
    | some record, _ => .method record
    | none, some (obfuscated, declared) => .field obfuscated declared
    | none, none => .unknown

end NameBridge.Retrace
