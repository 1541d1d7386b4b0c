/-!
Paths as texts with slashes. Nothing is ever normalized: `.`, `..` and empty parts stay as they are
written.
-/

namespace NameBridge.Path

def isAbsolute (path : String) : Bool := path.toList.head? == some '/'

/-- The path `path` taken from `base`. An absolute path replaces the base. -/
def join (base path : String) : String :=
  if isAbsolute path then path
  else if base.isEmpty || base.toList.getLast? == some '/' then base ++ path
  else base ++ "/" ++ path

/-- The text after `lead`, or all of it if it starts otherwise. -/
def dropLead (lead cs : List Char) : List Char :=
  if lead.isPrefixOf cs then cs.drop lead.length else cs

/-- The path that a location stands for: it may be given as a `file://` address, and a relative one is
taken from `base` if there is one. -/
def ofLocation (base : Option String) (location : String) : String :=
  let path := String.ofList (dropLead "file://".toList location.toList)
  match base with
  | some base => join base path
  | none => path

/-- The parts of a path between its slashes. Empty parts and `.` name no new place and are left out;
a path from the root starts with the part `/`. -/
def parts (path : String) : List String :=
  let named := (path.toList.splitOn '/').filter fun part => !part.isEmpty && part != ['.']
  (if isAbsolute path then ["/"] else []) ++ named.map String.ofList

/-- A path read from its end, without the slashes and parts `.` it ends with. The root stays, and so
does a path that is `.` alone. -/
def dropIdle : List Char → List Char
  | ['/'] => ['/']
  | '/' :: rest => dropIdle rest
  | '.' :: '/' :: rest => dropIdle ('/' :: rest)
  | cs => cs
termination_by cs => cs.length

theorem dropIdle_length_le (cs : List Char) : (dropIdle cs).length ≤ cs.length := by
  fun_induction dropIdle cs <;> simp_all <;> omega

theorem eq_nil_of_dropIdle_eq_cons {cs rest : List Char} (h : dropIdle cs = '/' :: rest) :
    rest = [] := by
  fun_induction dropIdle cs <;> simp_all

/-- A path without the slashes and parts `.` it starts with. -/
def dropIdleStart : List Char → List Char
  | '/' :: rest => dropIdleStart rest
  | '.' :: '/' :: rest => dropIdleStart rest
  | ['.'] => []
  | cs => cs

/-- A path as it is seen from its base: without the slashes and parts `.` it starts and ends with. An
absolute path is seen as it is. -/
def fromBase (path : String) : String :=
  if isAbsolute path then path
  else String.ofList (dropIdle (dropIdleStart path.toList).reverse).reverse

/-- The path of the place above another one, both read from their ends. -/
def parentChars (cs : List Char) : List Char :=
  if dropIdle cs = ['/'] then [] else dropIdle ((dropIdle cs).dropWhile (· != '/'))

theorem parentChars_length_lt {cs : List Char} (h : cs ≠ []) :
    (parentChars cs).length < cs.length := by
  have hpos := List.length_pos_iff.2 h
  have hle := dropIdle_length_le cs
  unfold parentChars
  split
  · simpa using hpos
  · rename_i hroot
    refine Nat.lt_of_le_of_lt (dropIdle_length_le _) ?_
    cases hd : dropIdle cs with
    | nil => simpa using hpos
    | cons c rest =>
      have hc : c ≠ '/' := by
        rintro rfl
        exact hroot (by rw [hd, eq_nil_of_dropIdle_eq_cons hd])
      have := (List.dropWhile_sublist (l := rest) (· != '/')).length_le
      rw [hd, List.length_cons] at hle
      rw [List.dropWhile_cons_of_pos (by simpa using hc)]
      omega

/-- The path of the place above another one, as far as it is written there; empty for the root and for
a single part. -/
def parent (path : String) : String :=
  String.ofList (parentChars path.toList.reverse).reverse

/-- A path and those above it, the nearest first, all read from their ends. -/
def lineageChars (cs : List Char) : List (List Char) :=
  if _h : cs = [] then [] else cs :: lineageChars (parentChars cs)
termination_by cs.length
decreasing_by exact parentChars_length_lt _h

/-- A path and those above it, the nearest first. -/
def lineage (path : String) : List String :=
  (lineageChars path.toList.reverse).map fun cs => String.ofList cs.reverse

/-- Whether a path can name a directory only: it ends with a slash or with a part `.`. -/
def namesDirectory (path : String) : Bool :=
  match (path.toList.splitOn '/').getLast? with
  | some [] => !path.isEmpty
  | some ['.'] => true
  | _ => false

/-- Whether the last part of a path is `.`, with or without slashes after it. -/
def endsInDot (path : String) : Bool :=
  ((path.toList.splitOn '/').filter (!·.isEmpty)).getLast? == some ['.']

end NameBridge.Path
