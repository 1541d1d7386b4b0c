import NameBridge.Files.Access
import NameBridge.Files.Path

/-!
A file system in memory: directories and files below one directory, which relative paths start from.
That directory lies somewhere below the root; of those above it nothing is known but that they are
there. A path has at most 4095 bytes and each of its parts at most 255.

Programs that work on files are stated for any file system; over a `FileTree` they are functions.
-/

namespace NameBridge

inductive FileNode where
  | directory
  | file (bytes : List UInt8)
  deriving DecidableEq, Repr

/-- The nodes of a tree by the parts of their paths. Only places outside the start directory have `..`,
as their first parts. -/
structure FileTree where
  nodes : List (List String × FileNode) := []
  deriving Repr

namespace FileTree

/-- A start directory with nothing in it. -/
def empty : FileTree := {}

/-- Whether a place is the start directory or one of those above it. -/
def holdsStart (place : List String) : Bool := place.all (· == "..")

/-- What is at a place. -/
def node? (t : FileTree) (place : List String) : Option FileNode :=
  -- the start directory, those above it and the root are always there
  if holdsStart place ∨ place = ["/"] then some .directory else t.nodes.lookup place

def insert (t : FileTree) (place : List String) (node : FileNode) : FileTree :=
  ⟨(place, node) :: t.nodes.filter (·.1 ≠ place)⟩

/-- The place above another one. The root is above itself. -/
def above (place : List String) : List String :=
  if place = ["/"] then place
  else if holdsStart place then place ++ [".."]
  else place.dropLast

/-- Refuse a path that is wrong as a text, wherever it leads. -/
def checkPath (path : String) : Except FileError Unit :=
  if path.isEmpty then .error .notFound
  else if path.toList.contains '\x00' then .error .zeroInPath
  else if 4096 ≤ path.utf8ByteSize then .error .nameTooLong
  else .ok ()

/-- Follow the parts of a path from a place. Every place on the way must be a directory. -/
def walk (t : FileTree) (place : List String) : List String → Except FileError (List String)
  -- what is at the end is not looked at
  | [] => .ok place
  | part :: parts =>
    match t.node? place with
    | none => .error .notFound
    | some (.file _) => .error .notADirectory
    | some .directory =>
      if 255 < part.utf8ByteSize then .error .nameTooLong
      else walk t (if part = ".." then above place else place ++ [part]) parts

/-- What is at the end of the parts of a path, and its place. -/
def find (t : FileTree) (parts : List String) : Except FileError (List String × FileNode) := do
  let place ← t.walk [] parts
  match t.node? place with
  | some node => return (place, node)
  | none => .error .notFound

/-- What is at a path. A path that can name a directory only does not lead to a file. -/
def lookup (t : FileTree) (path : String) : Except FileError FileNode := do
  checkPath path
  match ← t.find (Path.parts path) with
  | (_, .file bytes) =>
    if Path.namesDirectory path then .error .notADirectory else return .file bytes
  | (_, .directory) => return .directory

def bytes (t : FileTree) (path : String) : List UInt8 :=
  match t.lookup path with
  | .ok (.file bytes) => bytes
  | _ => []

def openFile (t : FileTree) (path : String) : Except FileError ByteSource := do
  match ← t.lookup path with
  | .file bytes => return ⟨bytes, none⟩
  | .directory => return ⟨[], some .isADirectory⟩

/-- Why no file can be written where these parts should lead to a directory. -/
def directoryFault (t : FileTree) (parts : List String) : FileError :=
  match t.find parts with
  | .error cause => cause
  | .ok (_, .file _) => .notADirectory
  | .ok (_, .directory) => .isADirectory

/-- The place of the file that a path names, if one can be written there. The directory it is in must be
there. -/
def writable (t : FileTree) (path : String) : Except FileError (List String) := do
  checkPath path
  let parts := Path.parts path
  if Path.endsInDot path then .error (t.directoryFault parts)
  -- a slash at the end is refused whatever that directory holds
  else if Path.namesDirectory path then .error (t.directoryFault parts.dropLast)
  else
    let place ← t.walk [] parts
    if t.node? place = some .directory then .error .isADirectory
    else return place

def writeText (t : FileTree) (path text : String) : Except FileError FileTree := do
  return t.insert (← t.writable path) (.file (Text.encode text))

/-- Make an empty file, unless there is one. -/
def ensureFile (t : FileTree) (path : String) : Except FileError FileTree := do
  let place ← t.writable path
  match t.node? place with
  | some _ => return t
  | none => return t.insert place (.file [])

/-- Make one directory. The one it is in must be there, and nothing may have its place. -/
def makeDirectory (t : FileTree) (path : String) : Except FileError FileTree := do
  checkPath path
  let place ← t.walk [] (Path.parts path)
  match t.node? place with
  | some _ => .error .alreadyExists
  | none => return t.insert place .directory

def isDirectory (t : FileTree) (path : String) : Bool :=
  match t.lookup path with
  | .ok .directory => true
  | _ => false

/-- Make the first of these directories, each of which is in the next one. -/
def makeLineage (t : FileTree) : List String → FileTree × Except FileError Unit
  | [] => (t, .ok ())
  | path :: above =>
    let settle (t : FileTree) : FileTree × Except FileError Unit :=
      match t.makeDirectory path with
      | .ok t' => (t', .ok ())
      | .error cause => (t, if t.isDirectory path then .ok () else .error cause)
    match t.makeDirectory path with
    | .error .notFound =>
      match makeLineage t above with
      | (t', .ok ()) => settle t'
      -- what was made above stays
      | failed => failed
    | _ => settle t

/-- Make a directory and those above it, as far as they are missing. -/
def makeDirectories (t : FileTree) (path : String) : FileTree × Except FileError Unit :=
  t.makeLineage (Path.lineage path)

def pathExists (t : FileTree) (path : String) : Bool := (t.lookup path).isOk

instance : FileAccess (StateM FileTree) where
  openFile path := return (← get).openFile path
  writeText path text := do
    match (← get).writeText path text with
    | .ok t => set t; return .ok ()
    | .error cause => return .error cause
  ensureFile path := do
    match (← get).ensureFile path with
    | .ok t => set t; return .ok ()
    | .error cause => return .error cause
  makeParents path := modifyGet fun t =>
    let (t, result) := t.makeDirectories (Path.parent path)
    (result, t)
  makeDirectories path := modifyGet fun t =>
    let (t, result) := t.makeDirectories path
    (result, t)
  pathExists path := return (← get).pathExists path

/-- The tree with a node at a path, and directories above it. -/
def put (t : FileTree) (path : String) (node : FileNode) : FileTree :=
  (t.makeDirectories (Path.parent path)).1.insert (Path.parts path) node

end FileTree

end NameBridge
