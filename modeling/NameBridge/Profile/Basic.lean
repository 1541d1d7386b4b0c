/-!
Profiles: which files make a pair of renaming tables.
-/

namespace NameBridge

inductive Format where
  | flat
  | retrace
  deriving DecidableEq, Repr

namespace Format

def word : Format → String
  | .flat => "flat"
  | .retrace => "retrace"

/-- A character in lower case, if it is an ASCII letter. -/
def lowerCase (s : String) : String := s.map Char.toLower

/-- The format that a user names, in any case and also by the name of a tool that writes it. -/
def named? (name : String) : Option Format :=
  let name := lowerCase name
  if name = "flat" ∨ name = "csrg" then some .flat
  else if name = "retrace" ∨ name = "proguard" then some .retrace
  else none

def refusal (name : String) : String :=
  "Invalid argument: unknown mapping format '" ++ lowerCase name ++ "'"

end Format

/-- Where one side of a pair is read from. -/
structure MappingSource where
  format : Format := .flat
  /-- The class list of the flat format, or the whole retrace file. -/
  location : String
  /-- The member list; only the flat format reads it. -/
  members : Option String := none
  deriving DecidableEq, Repr

/-- A pair of sources with a name. -/
structure Profile where
  id : String
  community : MappingSource
  canonical : MappingSource
  /-- Whether the profile came as a preset. This is never written to a file. -/
  preset : Bool := false
  deriving DecidableEq, Repr

/-- What a project has chosen. -/
structure Settings where
  selectedProfile : Option String := none
  deriving DecidableEq, Repr

/-- Why an operation on profiles was refused. -/
inductive ProfileError where
  | unknown (id : String)
  | duplicate (id : String)
  | readOnly (id : String)
  deriving DecidableEq, Repr

def ProfileError.message : ProfileError → String
  | .unknown id => "Unknown profile: " ++ id
  | .duplicate id => "Profile already exists: " ++ id
  | .readOnly id => "Preset profiles are read-only: " ++ id

end NameBridge
