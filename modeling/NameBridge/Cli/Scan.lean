import NameBridge.Profile.Basic

/-!
Splitting command-line arguments into options and plain arguments.

Options and plain arguments may come in any order. The value of an option stands in the next argument
or after `=`; after `--` every argument is plain. Everything is checked as it comes, so of a request
for help and a mistake the first one counts.
-/

namespace NameBridge.Cli

/-- What the text of a value may be. -/
inductive ValueKind where
  | text
  /-- Any text but the empty one. -/
  | path
  | format
  deriving DecidableEq, Repr

def ValueKind.accepts : ValueKind → String → Bool
  | .text, _ => true
  | .path, value => !value.isEmpty
  | .format, value => (Format.named? value).isSome

/-- What an option takes. -/
inductive Arity where
  /-- Nothing; the option comes once at most. -/
  | none
  /-- A value; the option comes once at most. -/
  | one (kind : ValueKind)
  /-- A value; the option may come again. -/
  | many (kind : ValueKind)
  deriving DecidableEq, Repr

structure Grammar where
  /-- The options by their long names. -/
  options : List (String × Arity)
  /-- The kinds of the plain arguments, all of which must be there. A command without this list goes on
  with the name of another command. -/
  plain : Option (List ValueKind)
  hasVersion : Bool := false

/-- Why the arguments do not make a command. -/
inductive Stop where
  /-- They are not as they should be. -/
  | usage
  | help
  | version
  deriving DecidableEq, Repr

/-- What has been found so far. An option without a value is listed with the empty text. -/
structure Scanned where
  options : List (String × String) := []
  plain : List String := []
  deriving DecidableEq, Repr

namespace Scanned

def has (s : Scanned) (name : String) : Bool := s.options.any (·.1 == name)

def value? (s : Scanned) (name : String) : Option String := s.options.lookup name

def values (s : Scanned) (name : String) : List String :=
  (s.options.filter (·.1 == name)).map (·.2)

/-- Take an option with its value. -/
def addOption (s : Scanned) (name value : String) : Scanned :=
  { s with options := s.options ++ [(name, value)] }

/-- Take an option that needs no value. -/
def addFlag (s : Scanned) (name : String) : Except Stop Scanned :=
  if s.has name then .error .usage else .ok (s.addOption name "")

/-- Take the value of an option. -/
def addValue (s : Scanned) (name value : String) : Arity → Except Stop Scanned
  | .none => .error .usage
  | .one kind =>
    if s.has name || !kind.accepts value then .error .usage else .ok (s.addOption name value)
  | .many kind => if kind.accepts value then .ok (s.addOption name value) else .error .usage

def addPlain (g : Grammar) (s : Scanned) (value : String) : Except Stop Scanned :=
  match (g.plain.getD [])[s.plain.length]? with
  | some kind =>
    if kind.accepts value then .ok { s with plain := s.plain ++ [value] } else .error .usage
  | none => .error .usage

/-- Take a cluster of one-letter options. -/
def addLetters (g : Grammar) (s : Scanned) : List Char → Except Stop Scanned
  | [] => .ok s
  | c :: cs => do
    if c = 'h' then .error .help
    else if c = 'V' ∧ g.hasVersion then .error .version
    else if c = 'v' then addLetters g (← s.addFlag "verbose") cs
    else .error .usage

end Scanned

/-- Whether an argument cannot be the value of the option before it. A lone dash can. -/
def looksLikeOption (arg : String) : Bool :=
  match arg.toList with
  | '-' :: _ :: _ => true
  | _ => false

/-- The name of a long option and the value after `=`. -/
def splitLong (body : List Char) : String × Option String :=
  match body.dropWhile (· != '=') with
  | _ :: value => (String.ofList (body.takeWhile (· != '=')), some (String.ofList value))
  | [] => (String.ofList body, none)

/-- Take the arguments one by one. -/
def scan (g : Grammar) (s : Scanned) : List String → Except Stop (Scanned × List String)
  | [] => .ok (s, [])
  | arg :: rest => do
    match arg.toList with
    | ['-', '-'] =>
      if g.plain.isNone then .error .usage
      else return (← rest.foldlM (Scanned.addPlain g) s, [])
    | '-' :: '-' :: body =>
      let (name, attached) := splitLong body
      if name = "help" ∧ attached.isNone then .error .help
      else if name = "version" ∧ attached.isNone ∧ g.hasVersion then .error .version
      else
        match g.options.lookup name, attached with
        | none, _ => .error .usage
        | some .none, some _ => .error .usage
        | some .none, none => scan g (← s.addFlag name) rest
        | some arity, some value => scan g (← s.addValue name value arity) rest
        | some arity, none =>
          match rest with
          | [] => .error .usage
          | value :: rest =>
            if looksLikeOption value then .error .usage
            else scan g (← s.addValue name value arity) rest
    | '-' :: c :: cs => scan g (← s.addLetters g (c :: cs)) rest
    | _ =>
      -- a command that goes on with another one stops here, and what is left starts with its name
      if g.plain.isNone then return (s, arg :: rest)
      else scan g (← s.addPlain g arg) rest

/-- Take all arguments of a command that takes plain arguments, and check that none of these is
missing. -/
def scanAll (g : Grammar) (args : List String) : Except Stop Scanned := do
  let (s, _) ← scan g {} args
  if s.plain.length = (g.plain.getD []).length then return s else .error .usage

end NameBridge.Cli
