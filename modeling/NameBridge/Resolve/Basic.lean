import NameBridge.Query
import NameBridge.Resolve.Hierarchy
import NameBridge.Table.Basic
import NameBridge.Text.Blank
import NameBridge.TypeName.Source

/-!
From community names to canonical names.

The two tables share their obfuscated side: a community class leads to its obfuscated name, and that
leads to the canonical class. Methods are found by obfuscated name and by the canonical names of
their argument types; when a class has no match its supertypes are searched, depth first.
-/

namespace NameBridge

/-- The two tables to resolve with. Either may be missing; then nothing is resolved. -/
structure Resolver where
  community : Option Table
  canonical : Option Table

/-- The form of a class name that tables are asked with: no blanks around, no type arguments. -/
def classKey (name : String) : String := TypeName.eraseTypeArguments (Text.trimmed name)

/-- The first method of the class with this obfuscated name and exactly these parameter types. -/
def ClassEntry.overload? (c : ClassEntry) (name : String) (types : List String) :
    Option MethodEntry :=
  (c.methodsWithObfuscated name).find? (·.hasParameters types)

namespace Resolver

def isComplete (r : Resolver) : Bool := r.community.isSome && r.canonical.isSome

/-- The canonical class that shares its obfuscated name with the community class of this name. -/
def canonicalClass? (r : Resolver) (name : String) : Option ClassEntry := do
  let community ← r.community
  let canonical ← r.canonical
  let c ← community.withDeclared? (classKey name)
  canonical.withObfuscated? c.obfuscated

def className? (r : Resolver) (name : String) : Option String :=
  (r.canonicalClass? name).map (·.declared)

/-- The canonical name of a field. Supertypes are not searched. -/
def fieldName? (r : Resolver) (owner field : String) : Option String := do
  (← r.canonicalClass? owner).deobfuscateField? field

/-- The canonical name of a type given in source form. -/
def translateType (r : Resolver) (type : String) : String :=
  let erased := TypeName.eraseTypeArguments (Text.trimmed type)
  let (base, dimensions) := TypeName.splitArraySuffix erased
  match r.className? base with
  | some name => TypeName.withDimensions name dimensions
  -- a type that no class corresponds to keeps its own name
  | none => TypeName.normalize erased

/-- The matching overload that the canonical class of one name declares itself. -/
def ownOverload? (r : Resolver) (method : String) (types : List String) (name : String) :
    Option MethodEntry := do
  (← r.canonicalClass? name).overload? method types

/-- Search the classes still to visit, the next one first. No class is searched twice. -/
def search (r : Resolver) (h : Hierarchy) (method : String) (types seen : List String) :
    List String → Option MethodEntry
  | [] => none
  | name :: pending =>
    if _h : name ∈ seen then search r h method types seen pending
    else
      match r.ownOverload? method types name with
      | some found => some found
      | none =>
        -- its supertypes come before the classes that follow it
        search r h method types (name :: seen) ((h.supertypes name).map classKey ++ pending)
termination_by pending => (h.unseen seen, pending.length)
decreasing_by
  · exact Prod.Lex.right _ (by simp)
  · rcases Hierarchy.unseen_cons_lt_or h _h with hlt | hnil
    · exact Prod.Lex.left _ _ hlt
    · rcases Nat.lt_or_eq_of_le (Hierarchy.unseen_cons_le h seen name) with hlt | heq
      · exact Prod.Lex.left _ _ hlt
      · rw [heq, hnil]; exact Prod.Lex.right _ (by simp)

/-- The canonical record of a method that can be called on `owner`. -/
def method? (r : Resolver) (owner method : String) (arguments : List String) (h : Hierarchy) :
    Option MethodEntry :=
  if r.isComplete then
    r.search h method (arguments.map r.translateType) [] [classKey owner]
  else none

def resolve? (r : Resolver) (h : Hierarchy) : SymbolQuery → Option String
  | .type name => r.className? name
  | .field owner name => r.fieldName? owner name
  | .method owner name arguments => (r.method? owner name arguments h).map (·.declared)

/-- The canonical name of the symbol, or the name it has already. -/
def resolveOrKeep (r : Resolver) (h : Hierarchy) (query : SymbolQuery) : String :=
  (r.resolve? h query).getD query.name

end Resolver

end NameBridge
