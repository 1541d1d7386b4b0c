import NameBridge.Files.Access
import NameBridge.Files.Path
import NameBridge.Grammar.Flat
import NameBridge.Grammar.Retrace
import NameBridge.Profile.Basic
import NameBridge.Resolve.Basic

/-!
Loading the tables of a profile from its files.
-/

namespace NameBridge

namespace MappingSource

/-- The locations that are opened for a source, in this order. Members of a retrace file are never
looked at. -/
def locations (s : MappingSource) : List String :=
  match s.format with
  | .flat => s.location :: s.members.toList
  | .retrace => [s.location]

/-- The table in the opened files of a source. -/
def read (s : MappingSource) (files : List LineCursor) (options : ReadOptions) :
    Except TableError Table :=
  let first := files.head?.getD (.ofString "")
  match s.format with
  | .flat => Flat.read first files.tail.head? options
  | .retrace => Retrace.read first options

end MappingSource

structure MappingPair where
  profile : Profile
  community : Table
  canonical : Table

def MappingPair.resolver (p : MappingPair) : Resolver := ⟨some p.community, some p.canonical⟩

section

variable {m : Type → Type} [Monad m] [FileAccess m]

/-- Open the files at these locations, up to the first that cannot be opened. -/
def openAll (base : Option String) : List String → m (Except FileError (List LineCursor))
  | [] => return .ok []
  | location :: locations => do
    match ← FileAccess.openFile (m := m) (Path.ofLocation base location) with
    | .error cause => return .error cause
    | .ok file =>
      match ← openAll base locations with
      | .error cause => return .error cause
      | .ok files => return .ok (.ofSource file :: files)

/-- The table of a source. -/
def loadTable (base : Option String) (s : MappingSource) (options : ReadOptions) :
    m (Except TableError Table) := do
  -- all files are opened before the first is read
  match ← openAll base s.locations with
  | .error cause => return .error (.file cause)
  | .ok files => return s.read files options

/-- The tables of a profile, the community side first. -/
def loadPair (base : Option String) (profile : Profile) (options : ReadOptions) :
    m (Except TableError MappingPair) := do
  match ← loadTable base profile.community options with
  | .error e => return .error e
  | .ok community =>
    match ← loadTable base profile.canonical options with
    | .error e => return .error e
    | .ok canonical => return .ok { profile, community, canonical }

end

end NameBridge
