import NameBridge.Table.Class
import NameBridge.Table.Stats

/-!
Renaming tables: the classes of one file or pair of files, found by either name.

A table is read-only; `Table.Builder` makes one. Two indices lead from a class's names to its
position, so a class found by one name is the very record found by the other.
-/

namespace NameBridge

/-- The classes of a renaming, in order, with an index for each side. -/
structure Table where
  classes : Array ClassEntry := #[]
  byObfuscated : Std.HashMap String Nat := ∅
  byDeclared : Std.HashMap String Nat := ∅
  stats : Stats := {}

namespace Table

def empty : Table := {}

/-- What the classes count up to together. -/
def total (count : ClassEntry → Nat) (classes : List ClassEntry) : Nat :=
  (classes.map count).foldr (· + ·) 0

/-- The class with an obfuscated name. -/
def withObfuscated? (t : Table) (name : String) : Option ClassEntry :=
  t.byObfuscated[name]?.bind (t.classes[·]?)

/-- The class with a declared name. -/
def withDeclared? (t : Table) (name : String) : Option ClassEntry :=
  t.byDeclared[name]?.bind (t.classes[·]?)

def hasObfuscated (t : Table) (name : String) : Bool := t.byObfuscated.contains name

def hasDeclared (t : Table) (name : String) : Bool := t.byDeclared.contains name

def size (t : Table) : Nat := t.classes.size

end Table

end NameBridge
