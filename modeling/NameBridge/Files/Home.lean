import NameBridge.Files.Path

/-!
Where the program keeps its own files.
-/

namespace NameBridge

/-- What the surroundings say about directories, and the day. -/
structure Environment where
  /-- The variable `MAPSCOPE_HOME`: the directory itself. -/
  stateHome : Option String := none
  home : Option String := none
  /-- The home directory in the system's list of users. -/
  accountHome : Option String := none
  /-- The day, such as `2026-03-09`. Log files carry it in their names. -/
  today : String := ""
  deriving Repr

namespace Environment

/-- The user's home directory. An empty variable counts as not set. -/
def userHome? (e : Environment) : Option String :=
  (e.home.filter (!·.isEmpty)).or e.accountHome

/-- The directory of the program's own files. Its variable counts even if it is empty. -/
def stateHome? (e : Environment) : Option String :=
  e.stateHome.or (e.userHome?.map (Path.join · ".mapscope"))

def logs? (e : Environment) : Option String := e.stateHome?.map (Path.join · "logs")

def logName (e : Environment) : String := "cli." ++ e.today

def customProfiles? (e : Environment) : Option String :=
  e.stateHome?.map (Path.join · "custom-profiles.json")

end Environment

end NameBridge
