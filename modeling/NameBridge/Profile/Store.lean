import NameBridge.Files.Access
import NameBridge.Profile.Json

/-!
The store of profiles: presets, which nobody changes, and custom profiles, which are kept in a file.

Ids are looked up in both parts, presets first. A new profile must have a new id, and only a custom
one can be removed.
-/

namespace NameBridge

/-- Why a profile file could not be read or written. -/
inductive ProfileFileError where
  | file (cause : FileError)
  | json (fault : Json.Fault)
  deriving DecidableEq, Repr

def Json.Fault.message : Json.Fault → String
  | .malformed => "the text is not JSON"
  | .truncated => "the text ends too early"
  | .mismatch => "the text has the wrong shape"

def ProfileFileError.message : ProfileFileError → String
  | .file cause => "I/O error: " ++ cause.message
  | .json fault => "JSON serialization/deserialization error: " ++ fault.message

/-- Profiles in two parts, and the file of the second one. -/
structure ProfileStore where
  presets : List Profile
  custom : List Profile
  customPath : String
  deriving DecidableEq, Repr

namespace ProfileStore

def parseProfiles (text : String) : Except Json.Fault (List Profile) :=
  Json.parse (Json.Reader.list Profile.reader) text

/-- The text of a profile file. -/
def render (profiles : List Profile) : String := (Json.Value.list (profiles.map (·.toJson))).pretty

/-! ## The store as a value -/

/-- A store with these presets and no custom profile. -/
def ofPresets (presets : List Profile) (customPath : String) : ProfileStore :=
  ⟨presets.map fun p => { p with preset := true }, [], customPath⟩

/-- All profiles, presets first. -/
def profiles (s : ProfileStore) : List Profile := s.presets ++ s.custom

/-- The first profile with an id. -/
def get? (s : ProfileStore) (id : String) : Option Profile := s.profiles.find? (·.id == id)

/-- The profile that settings select, if they select one. -/
def selected (s : ProfileStore) (settings : Settings) : Except ProfileError (Option Profile) :=
  match settings.selectedProfile with
  | none => .ok none
  | some id =>
    match s.get? id with
    | some p => .ok (some p)
    | none => .error (.unknown id)

/-- Add a custom profile at the end. -/
def add (s : ProfileStore) (p : Profile) : Except ProfileError ProfileStore :=
  match s.get? p.id with
  | some _ => .error (.duplicate p.id)
  | none => .ok { s with custom := s.custom ++ [{ p with preset := false }] }

/-- Remove the first custom profile with an id, and say which one it was. -/
def remove (s : ProfileStore) (id : String) : Except ProfileError (Profile × ProfileStore) :=
  if s.presets.any (·.id == id) then .error (.readOnly id)
  else
    match s.custom.find? (·.id == id) with
    | some p => .ok (p, { s with custom := s.custom.eraseP (·.id == id) })
    | none => .error (.unknown id)

/-! ## Files -/

section Files

variable {m : Type → Type} [Monad m] [FileAccess m]

def readProfiles (path : String) : m (Except ProfileFileError (List Profile)) := do
  match ← FileAccess.readText path with
  | .error cause => return .error (.file cause)
  | .ok text => return (parseProfiles text).mapError .json

/-- The store of a preset file, if one is given, and of a custom file, if it is there. -/
def load (presetPath : Option String) (customPath : String) :
    m (Except ProfileFileError ProfileStore) := do
  let presets ←
    match presetPath with
    | some path => readProfiles path
    | none => pure (.ok [])
  match presets with
  | .error e => return .error e
  | .ok presets =>
    let store := ofPresets presets customPath
    if ← FileAccess.pathExists customPath then
      match ← readProfiles customPath with
      | .error e => return .error e
      | .ok custom => return .ok { store with custom }
    else
      return .ok store

/-- Write the custom profiles to their file. -/
def save (s : ProfileStore) : m (Except ProfileFileError Unit) := do
  match ← FileAccess.makeParents (m := m) s.customPath with
  | .error cause => return .error (.file cause)
  | .ok () => return (← FileAccess.writeText s.customPath (render s.custom)).mapError .file

end Files

end ProfileStore

end NameBridge
