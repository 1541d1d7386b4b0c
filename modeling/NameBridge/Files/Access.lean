import NameBridge.Text.Lines

/-!
What a program asks of a file system.
-/

namespace NameBridge

class FileAccess (m : Type → Type) where
  /-- Open the file at a path. Opening a directory works; reading it fails. -/
  openFile : String → m (Except FileError ByteSource)
  /-- Make `text` the content of the file at a path. -/
  writeText : String → String → m (Except FileError Unit)
  /-- Make sure that a path leads to a file that can be written. One that is there keeps its content. -/
  ensureFile : String → m (Except FileError Unit)
  /-- Make the directory that holds a path, and those above it, unless they are there. -/
  makeParents : String → m (Except FileError Unit)
  /-- Make the directory at a path, and those above it, unless they are there. -/
  makeDirectories : String → m (Except FileError Unit)
  pathExists : String → m Bool

/-- The whole text of the file at a path. -/
def FileAccess.readText {m : Type → Type} [Monad m] [FileAccess m] (path : String) :
    m (Except FileError String) := do
  match ← openFile path with
  | .ok source => return source.text
  | .error cause => return .error cause

end NameBridge
