import NameBridge.Table.Basic

/-!
Every name a symbol is known under, for readers who do not know which side a name comes from.

A class is looked up by its obfuscated name in both tables, and by its declared name in the community
table only. The answers are listed in the order in which they were found, each one once.
-/

namespace NameBridge

/-- The entries of a list in the order of their first occurrence, each one once. -/
def firstOccurrences (names : List String) : List String :=
  names.foldl (fun found name => if name ∈ found then found else found ++ [name]) []

/-- The names of a class. An obfuscated name stands in parentheses. -/
def describeClass (community canonical : Option Table) (name : String) : List String :=
  let byObfuscated (t : Option Table) (name : String) : Option String :=
    (t.bind (·.withObfuscated? name)).map (·.declared)
  let ofCommunityClass :=
    match community.bind (·.withDeclared? name) with
    | some c => (byObfuscated canonical c.obfuscated).toList ++ ["(" ++ c.obfuscated ++ ")"]
    | none => []
  firstOccurrences <|
    (byObfuscated canonical name).toList ++ (byObfuscated community name).toList ++ ofCommunityClass

def describeField (community canonical : Option Table) (owner field : String) : List String :=
  let byObfuscated (t : Option Table) : Option String := do
    (← (← t).withObfuscated? owner).deobfuscateField? field
  let ofCommunityClass :=
    match community.bind (·.withDeclared? owner) with
    | some c =>
      let partner := canonical.bind (·.withObfuscated? c.obfuscated)
      let partnerName (obfuscated : String) := partner.bind (·.deobfuscateField? obfuscated)
      let ofDeclared :=
        match c.obfuscateField? field with
        | some obfuscated => obfuscated :: (partnerName obfuscated).toList
        | none => []
      ofDeclared ++ (partnerName field).toList
    | none => []
  firstOccurrences <|
    (byObfuscated canonical).toList ++ (byObfuscated community).toList ++ ofCommunityClass

/-- The obfuscated name of the class declared `type`, or `type` itself. -/
def Table.obfuscatedType (t : Table) (type : String) : String :=
  ((t.withDeclared? type).map (·.obfuscated)).getD type

/-- A method as `void tick(a, long)`, with the obfuscated names of classes for its types. -/
def Table.formatMethod (t : Table) (m : MethodEntry) : String :=
  t.obfuscatedType m.returnType ++ " " ++ m.declared ++ "(" ++
    String.intercalate ", " (m.parameters.map t.obfuscatedType) ++ ")"

/-- The first overload of a community method with exactly these parameter types. -/
def describeMethod (community : Option Table) (owner method : String) (types : List String) :
    List String :=
  match community with
  | none => []
  | some t =>
    match t.withDeclared? owner with
    | none => []
    | some c =>
      (((c.methodsWithObfuscated method).find? (·.hasParameters types)).map t.formatMethod).toList

end NameBridge
