import NameBridge.Files.Tree
import NameBridge.Load

/-!
Builds that are under way.

A build opens the files of its two sides. With a file's opening its first line is read ahead, and for
that the file is fetched in blocks; the rest is fetched once all files of the side are open. So a file
that changes in between is seen with its old start and its new rest.
-/

namespace NameBridge

structure FileReading where
  path : String
  lines : LineCursor
  /-- How many bytes have been fetched so far. -/
  fetched : Nat

namespace FileReading

def blockSize : Nat := 8192

/-- How many bytes are fetched for the first line: whole blocks, as far as there are any. -/
def fetchedFirst (bytes : List UInt8) : Nat :=
  let lineLength := (bytes.takeWhile (· != lineFeed)).length
  min ((lineLength / blockSize + 1) * blockSize) bytes.length

/-- A file at its first line. -/
def ofSource (path : String) (source : ByteSource) : FileReading :=
  let fetched := fetchedFirst source.bytes
  { path, fetched, lines := .ofSource { source with bytes := source.bytes.take fetched } }

/-- All lines of the file, with the rest as it is by now. -/
def allLines (r : FileReading) (files : FileTree) : LineCursor :=
  r.lines.extend ((files.bytes r.path).drop r.fetched)

end FileReading

/-- How far one side of a build has come. -/
structure SideReading where
  source : MappingSource
  /-- The files opened so far. -/
  opened : List FileReading := []
  /-- The table, or why there is none, once this is known. -/
  outcome : Option (Except TableError Table) := none

namespace SideReading

/-- The location to open next. -/
def next? (r : SideReading) : Option String :=
  match r.outcome with
  | some _ => none
  | none => r.source.locations[r.opened.length]?

/-- Take what came of opening the next location. -/
def take (r : SideReading) : Except FileError FileReading → SideReading
  | .ok file => { r with opened := r.opened ++ [file] }
  | .error cause => { r with outcome := some (.error (.file cause)) }

/-- Read the table if there is nothing left to open. -/
def settle (r : SideReading) (files : FileTree) (options : ReadOptions) : SideReading :=
  match r.outcome, r.next? with
  | none, none =>
    { r with outcome := some (r.source.read (r.opened.map (·.allLines files)) options) }
  | _, _ => r

end SideReading

/-- How far a build has come. -/
structure PairReading where
  community : SideReading
  canonical : SideReading

namespace PairReading

/-- A build of a profile that has opened nothing yet. -/
def ofProfile (p : Profile) : PairReading := ⟨{ source := p.community }, { source := p.canonical }⟩

/-- Both tables, once both sides are done. -/
def outcome? (r : PairReading) : Option (Except TableError (Table × Table)) := do
  match ← r.community.outcome, ← r.canonical.outcome with
  | .ok community, .ok canonical => return .ok (community, canonical)
  -- if both failed, the error of the community side counts
  | .error e, _ => return .error e
  | .ok _, .error e => return .error e

end PairReading

end NameBridge
