import NameBridge.Cli.Command
import NameBridge.Cli.Grid
import NameBridge.Files.Home
import NameBridge.Load
import NameBridge.Profile.Schema
import NameBridge.Profile.Store
import NameBridge.Resolve.Describe

/-!
What the commands do.

`Cli.run` reads the arguments, carries the command out and says what came of it. It works over any
file system, so over a `FileTree` a run is a function.
-/

namespace NameBridge.Cli

inductive Failure where
  | table (cause : TableError)
  | profile (cause : ProfileError)
  | profileFile (cause : ProfileFileError)
  | hierarchyFile (cause : FileError)
  /-- The hierarchy file does not hold a hierarchy. -/
  | hierarchy (fault : Json.Fault)
  /-- Nothing says where custom profiles are kept. -/
  | homeless
  deriving DecidableEq, Repr

def Failure.message : Failure → String
  | .table cause => cause.message
  | .profile cause => cause.message
  | .profileFile cause => cause.message
  | .hierarchyFile cause => cause.message
  | .hierarchy fault => fault.message
  | .homeless => "cannot locate the home directory for custom profiles"

inductive Outcome where
  | printed (text : String)
  | failed (cause : Failure)
  /-- The log file could not be opened, and no command was carried out. -/
  | aborted (cause : FileError)
  /-- The arguments make no command. -/
  | stopped (reason : Stop)
  deriving DecidableEq, Repr

/-! ## Output -/

def versionLine : String := "mapscope 0.1.0\n"

def usageText : String := String.join [
  "Usage: mapscope [--presets <FILE>] [--verbose] <COMMAND>\n\n",
  "Commands:\n",
  "  stats <FILE> [--members <FILE>] [--format <FORMAT>] [--strict]\n",
  "  class <NAME> <PAIR>\n",
  "  field <OWNER> <NAME> <PAIR>\n",
  "  method <OWNER> <NAME> [--arg <TYPE>]... [--hierarchy <FILE>] <PAIR>\n",
  "  describe <NAME> [--field <FIELD>] <PAIR>\n",
  "  profiles list|add|remove|schema\n\n",
  "A pair is --profile <ID>, or --community <FILE> [--community-members <FILE>]\n",
  "[--community-format <FORMAT>] --canonical <FILE> [--canonical-format <FORMAT>].\n"]

namespace Outcome

def exitCode : Outcome → UInt32
  | .printed _ => 0
  | .failed _ => 1
  | .aborted _ => 101
  | .stopped .usage => 2
  | .stopped _ => 0

def output : Outcome → String
  | .printed text => text
  | .failed _ => ""
  | .aborted _ => ""
  | .stopped .usage => ""
  | .stopped .help => usageText
  | .stopped .version => versionLine

def complaint : Outcome → String
  | .failed cause => "Error: " ++ cause.message ++ "\n"
  | .aborted cause => "cannot open the log file: " ++ cause.message ++ "\n"
  | .stopped .usage => usageText
  | _ => ""

end Outcome

/-- Lines of output, each with a line feed at its end. -/
def printLines (lines : List String) : String := String.join (lines.map (· ++ "\n"))

def statsRows (s : Stats) : List (List String) :=
  [("classes", s.classes), ("fields", s.fields), ("methods", s.methods),
    ("malformed records", s.malformedRecords), ("unresolved members", s.unresolvedMembers),
    ("constructors skipped", s.constructorsSkipped), ("ignored lines", s.ignoredLines)].map
    fun (metric, count) => [metric, toString count]

def statsOutput (source : MappingSource) (s : Stats) : String :=
  printLines [source.location ++ " (" ++ source.format.word ++ ")",
    Grid.render ["Metric", "Count"] (statsRows s)]

/-- A source as it is listed, such as `flat classes.csrg + members.csrg`. -/
def sourceCell (s : MappingSource) : String :=
  s.format.word ++ " " ++ s.location ++ ((s.members.map (" + " ++ ·)).getD "")

def profileRow (p : Profile) : List String :=
  [p.id, if p.preset then "preset" else "custom", sourceCell p.community, sourceCell p.canonical]

def profilesOutput : List Profile → String
  | [] => printLines ["No profiles found."]
  | profiles =>
    printLines [Grid.render ["Id", "Kind", "Community", "Canonical"] (profiles.map profileRow)]

/-- The output of `describe` for a symbol with these names. -/
def describeOutput (symbol : String) : List String → String
  | [] => printLines ["No mapping known for '" ++ symbol ++ "'"]
  | names => printLines [String.intercalate ", " names]

/-! ## Commands -/

section

variable {m : Type → Type} [Monad m] [FileAccess m]

abbrev Action (m : Type → Type) := ExceptT Failure m

/-- An action whose own error is part of the command's failure. -/
def attempt {ε α : Type} (wrap : ε → Failure) (action : m (Except ε α)) : Action m α :=
  ExceptT.mk do return (← action).mapError wrap

/-- The stored profiles, with the presets of a file if one is given. -/
def storedProfiles (env : Environment) (presets : Option String) : Action m ProfileStore := do
  match env.customProfiles? with
  | none => throw .homeless
  | some path => attempt .profileFile (ProfileStore.load presets path)

def commandLineId : String := "command-line"

def chosenProfile (env : Environment) (presets : Option String) : PairChoice → Action m Profile
  | .files community canonical => return { id := commandLineId, community, canonical }
  | .stored id => do
    match (← storedProfiles env presets).get? id with
    | some profile => return profile
    | none => throw (.profile (.unknown id))

def loadChosen (env : Environment) (presets : Option String) (pair : PairArguments) :
    Action m MappingPair := do
  let profile ← chosenProfile env presets pair.choice
  attempt .table (loadPair none profile (.ofStrict pair.isStrict))

/-- The hierarchy in a file; without a file no class has supertypes. -/
def loadHierarchy : Option String → Action m Hierarchy
  | none => return .empty
  | some path => do
    let text ← attempt .hierarchyFile (FileAccess.readText path)
    attempt .hierarchy (pure (Json.parse Hierarchy.reader text))

/-- Print the canonical name of a symbol, or the name it has. -/
def printResolved (env : Environment) (presets : Option String) (pair : PairArguments)
    (h : Hierarchy) (query : SymbolQuery) : Action m String := do
  let loaded ← loadChosen env presets pair
  return printLines [loaded.resolver.resolveOrKeep h query]

def runProfiles (env : Environment) (presets : Option String) : ProfileCommand → Action m String
  | .list => return profilesOutput (← storedProfiles env presets).profiles
  | .add profile => do
    let store ← storedProfiles env presets
    let store ← attempt .profile (pure (store.add profile))
    attempt .profileFile store.save
    -- nothing is said before the file is written
    return printLines ["Added profile '" ++ profile.id ++ "' to " ++ store.customPath]
  | .remove id => do
    let store ← storedProfiles env presets
    let (_, store) ← attempt .profile (pure (store.remove id))
    attempt .profileFile store.save
    return printLines ["Removed profile '" ++ id ++ "'"]
  | .schema => return printLines [profileSchema.pretty]

def runCommand (env : Environment) (presets : Option String) : Command → Action m String
  | .stats source isStrict => do
    let table ← attempt .table (loadTable none source (.ofStrict isStrict))
    return statsOutput source table.stats
  | .type name pair => printResolved env presets pair .empty (.type name)
  | .field owner name pair => printResolved env presets pair .empty (.field owner name)
  | .method owner name arguments hierarchy pair => do
    -- the hierarchy is read before the tables
    let h ← loadHierarchy hierarchy
    printResolved env presets pair h (.method owner name arguments)
  | .describe name field pair => do
    let loaded ← loadChosen env presets pair
    match field with
    | some field =>
      return describeOutput field (describeField loaded.community loaded.canonical name field)
    | none => return describeOutput name (describeClass loaded.community loaded.canonical name)
  | .profiles command => runProfiles env presets command

/-- Open the log file of the day. -/
def openLog (env : Environment) : m (Except FileError Unit) := do
  match env.logs? with
  | none => return .ok ()
  | some logs =>
    match ← FileAccess.makeDirectories (m := m) logs with
    -- without a directory there is no log
    | .error _ => return .ok ()
    | .ok () => FileAccess.ensureFile (Path.join logs env.logName)

/-- Run the program. -/
def run (env : Environment) (args : List String) : m Outcome := do
  match parse args with
  | .error reason => return .stopped reason
  | .ok invocation =>
    -- the log file is opened before any command is carried out
    match ← openLog (m := m) env with
    | .error cause => return .aborted cause
    | .ok () =>
      match ← (runCommand env invocation.presets invocation.command : Action m String).run with
      | .ok text => return .printed text
      | .error cause => return .failed cause

end

end NameBridge.Cli
