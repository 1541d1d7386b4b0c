import NameBridge.Cli.Scan

/-!
The commands of the command line.
-/

namespace NameBridge.Cli

/-! ## Commands -/

/-- Where a command finds its pair of tables. -/
inductive PairChoice where
  /-- In the sources of a stored profile. -/
  | stored (id : String)
  /-- In files that are named one by one. -/
  | files (community canonical : MappingSource)
  deriving DecidableEq, Repr

/-- A pair of tables, and whether malformed records are refused. -/
structure PairArguments where
  choice : PairChoice
  isStrict : Bool
  deriving DecidableEq, Repr

inductive ProfileCommand where
  | list
  | add (profile : Profile)
  | remove (id : String)
  | schema
  deriving DecidableEq, Repr

inductive Command where
  | stats (source : MappingSource) (isStrict : Bool)
  | type (name : String) (pair : PairArguments)
  | field (owner name : String) (pair : PairArguments)
  | method (owner name : String) (arguments : List String) (hierarchy : Option String)
      (pair : PairArguments)
  | describe (name : String) (field : Option String) (pair : PairArguments)
  | profiles (command : ProfileCommand)
  deriving DecidableEq, Repr

structure Invocation where
  presets : Option String
  command : Command
  deriving DecidableEq, Repr

/-! ## Their arguments -/

def globalOptions : List (String × Arity) := [("presets", .one .path), ("verbose", .none)]

def pairOptions : List (String × Arity) :=
  [("profile", .one .text), ("community", .one .path), ("community-members", .one .path),
    ("community-format", .one .format), ("canonical", .one .path), ("canonical-format", .one .format),
    ("strict", .none)]

def grammar (options : List (String × Arity)) (plain : List ValueKind) : Grammar :=
  ⟨options ++ globalOptions, some plain, false⟩

/-- The arguments before the name of a command. -/
def rootGrammar : Grammar := ⟨globalOptions, none, true⟩

/-- The arguments between `profiles` and the name of its command. -/
def profilesGrammar : Grammar := ⟨globalOptions, none, false⟩

def commandNames : List String := ["stats", "class", "field", "method", "describe", "profiles"]

def profileCommandNames : List String := ["list", "add", "remove", "schema"]

namespace Scanned

/-- The format that an option names, or `default`. -/
def format (s : Scanned) (name : String) (default : Format) : Format :=
  ((s.value? name).bind Format.named?).getD default

def needed (s : Scanned) (name : String) : Except Stop String :=
  match s.value? name with
  | some value => .ok value
  | none => .error .usage

/-- The plain argument at a position; `scanAll` has seen to it that it is there. -/
def argument (s : Scanned) (i : Nat) : String := s.plain.getD i ""

/-- The pair of tables that the options choose. A stored profile excludes files of its own. -/
def pair (s : Scanned) : Except Stop PairArguments := do
  match s.value? "profile" with
  | some id =>
    if s.has "community" || s.has "canonical" then .error .usage
    else return ⟨.stored id, s.has "strict"⟩
  | none =>
    let community : MappingSource := {
      format := s.format "community-format" .flat
      location := ← s.needed "community"
      members := s.value? "community-members" }
    let canonical : MappingSource := {
      format := s.format "canonical-format" .retrace
      location := ← s.needed "canonical" }
    return ⟨.files community canonical, s.has "strict"⟩

end Scanned

/-- A command, and the presets among its own arguments. -/
abbrev Parsed := Option String × Command

def parseProfileCommand (name : String) (args : List String) : Except Stop Parsed := do
  match name with
  | "list" =>
    let s ← scanAll (grammar [] []) args
    return (s.value? "presets", .profiles .list)
  | "add" =>
    let options := [("community", Arity.one .text), ("community-members", .one .text),
      ("community-format", .one .format), ("canonical", .one .text), ("canonical-format", .one .format)]
    let s ← scanAll (grammar options [.text]) args
    let profile : Profile := {
      id := s.argument 0
      community := {
        format := s.format "community-format" .flat
        location := ← s.needed "community"
        members := s.value? "community-members" }
      canonical := {
        format := s.format "canonical-format" .retrace
        location := ← s.needed "canonical" } }
    return (s.value? "presets", .profiles (.add profile))
  | "remove" =>
    let s ← scanAll (grammar [] [.text]) args
    return (s.value? "presets", .profiles (.remove (s.argument 0)))
  | "schema" =>
    let s ← scanAll (grammar [] []) args
    return (s.value? "presets", .profiles .schema)
  | _ => .error .usage

/-- What a request for help on other commands comes to: all of them must exist. -/
def helpOn (names : List String) : List String → Stop
  | [] => .help
  | name :: rest =>
    if name ∉ names then .usage
    else if name = "profiles" then helpOn ("help" :: profileCommandNames) rest
    else if rest.isEmpty then .help
    else .usage

def parseCommand (name : String) (args : List String) : Except Stop Parsed := do
  match name with
  | "stats" =>
    let options := [("members", Arity.one .path), ("format", .one .format), ("strict", .none)]
    let s ← scanAll (grammar options [.path]) args
    let source : MappingSource := {
      format := s.format "format" .flat
      location := s.argument 0
      members := s.value? "members" }
    return (s.value? "presets", .stats source (s.has "strict"))
  | "class" =>
    let s ← scanAll (grammar pairOptions [.text]) args
    return (s.value? "presets", .type (s.argument 0) (← s.pair))
  | "field" =>
    let s ← scanAll (grammar pairOptions [.text, .text]) args
    return (s.value? "presets", .field (s.argument 0) (s.argument 1) (← s.pair))
  | "method" =>
    let options := [("arg", Arity.many .text), ("hierarchy", .one .path)]
    let s ← scanAll (grammar (options ++ pairOptions) [.text, .text]) args
    return (s.value? "presets",
      .method (s.argument 0) (s.argument 1) (s.values "arg") (s.value? "hierarchy") (← s.pair))
  | "describe" =>
    let s ← scanAll (grammar (("field", .one .text) :: pairOptions) [.text]) args
    return (s.value? "presets", .describe (s.argument 0) (s.value? "field") (← s.pair))
  | "profiles" =>
    match ← scan profilesGrammar {} args with
    | (_, []) => .error .usage
    | (_, "help" :: names) => .error (helpOn ("help" :: profileCommandNames) names)
    | (s, name :: rest) =>
      let (presets, command) ← parseProfileCommand name rest
      return (presets.or (s.value? "presets"), command)
  | _ => .error .usage

/-- Read all arguments of the program. The presets named last on the way in count. -/
def parse (args : List String) : Except Stop Invocation := do
  match ← scan rootGrammar {} args with
  | (_, []) => .error .usage
  | (_, "help" :: names) => .error (helpOn ("help" :: commandNames) names)
  | (s, name :: rest) =>
    let (presets, command) ← parseCommand name rest
    return ⟨presets.or (s.value? "presets"), command⟩

end NameBridge.Cli
