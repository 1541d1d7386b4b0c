import NameBridge.Cli.Run
import Std.Time.Format

/-!
The program `mapscope`: the commands of `Cli.run` on the files of the machine.
-/

namespace NameBridge

/-- The cause that the system gives for a failed operation. -/
def FileError.ofSystem : IO.Error → FileError
  | .noFileOrDirectory .. => .notFound
  | .noSuchThing .. => .notFound
  | .alreadyExists .. => .alreadyExists
  | .inappropriateType _ code details =>
    if code = 20 then .notADirectory
    else if code = 21 then .isADirectory
    else .other (details ++ " (os error " ++ toString code ++ ")")
  | .invalidArgument _ code details =>
    if code = 36 then .nameTooLong else .other (details ++ " (os error " ++ toString code ++ ")")
  | .permissionDenied _ code details =>
    .other (details ++ " (os error " ++ toString code ++ ")")
  | cause => .other (toString cause)

/-- Do something with a path, and say why if the system refuses. -/
def caught {α : Type} (path : String) (action : IO α) : IO (Except FileError α) := do
  if path.toList.contains '\x00' then return .error .zeroInPath
  try
    return .ok (← action)
  catch cause =>
    return .error (.ofSystem cause)

instance : FileAccess IO where
  openFile path := do
    match ← caught path (IO.FS.Handle.mk path .read) with
    | .error cause => return .error cause
    | .ok handle =>
      match ← caught path handle.readBinToEnd with
      | .error cause => return .ok ⟨[], some cause⟩
      | .ok bytes => return .ok ⟨bytes.toList, none⟩
  writeText path text := caught path (IO.FS.writeFile path text)
  ensureFile path := caught path do
    let _ ← IO.FS.Handle.mk path .append
  makeParents path := do
    let above := Path.parent path
    if above.isEmpty then return .ok () else caught above (IO.FS.createDirAll above)
  makeDirectories path := do
    if path.isEmpty then return .ok () else caught path (IO.FS.createDirAll path)
  pathExists path := return (← caught path (IO.FS.realPath path)).isOk

end NameBridge

/-- The day by universal time. -/
def NameBridge.today : IO String := do
  let days := (← Std.Time.Timestamp.now).toDaysSinceUnixEpoch
  return (Std.Time.PlainDate.ofEpochDay days).toSQLDateString

open NameBridge in
def main (args : List String) : IO UInt32 := do
  let env : Environment := {
    stateHome := ← IO.getEnv "MAPSCOPE_HOME"
    home := ← IO.getEnv "HOME"
    today := ← today }
  let outcome ← Cli.run (m := IO) env args
  (← IO.getStdout).putStr outcome.output
  (← IO.getStderr).putStr outcome.complaint
  return outcome.exitCode
