/-!
Method records of a renaming table.
-/

namespace NameBridge

/-- One method. Overloads share a name and differ in their parameter types. -/
structure MethodEntry where
  /-- The name of the return type in the common vocabulary. -/
  returnType : String
  declared : String
  obfuscated : String
  /-- The names of the parameter types in the common vocabulary. -/
  parameters : List String
  deriving DecidableEq, Repr

namespace MethodEntry

def arity (m : MethodEntry) : Nat := m.parameters.length

/-- Whether the parameter types are exactly these. -/
def hasParameters (m : MethodEntry) (types : List String) : Bool := m.parameters == types

/-- A one-line form, such as `void tick(integer,long) -> a`. -/
def display (m : MethodEntry) : String :=
  m.returnType ++ " " ++ m.declared ++ "(" ++ String.intercalate "," m.parameters ++ ") -> " ++
    m.obfuscated

theorem hasParameters_iff {m : MethodEntry} {types : List String} :
    m.hasParameters types = true ↔ m.parameters = types := by
  simp [hasParameters]

end MethodEntry

end NameBridge
