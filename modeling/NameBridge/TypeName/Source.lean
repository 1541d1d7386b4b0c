import NameBridge.TypeName.Basic

/-!
Source forms: types as program text writes them, such as `int[]`, `java.util.List<E>` or
`java/lang/String...`.

`normalize` brings a source form into the common vocabulary, `splitArraySuffix` takes its array
dimensions off, and `eraseTypeArguments` drops the lists in angle brackets.
-/

namespace NameBridge.TypeName

/-- Take the `[]`s off the end of a text that is given backwards: what is left of it, and how many
there were. -/
def splitBrackets : List Char → List Char × Nat
  | ']' :: '[' :: rest =>
    let (base, dimensions) := splitBrackets rest
    (base, dimensions + 1)
  | rest => (rest, 0)

/-- A source form without its array suffix, and its dimensions. -/
def splitArraySuffix (name : String) : String × Nat :=
  let (base, dimensions) :=
    match name.toList.reverse with
    -- three dots at the very end count as a dimension
    | '.' :: '.' :: '.' :: rest =>
      let (base, dimensions) := splitBrackets rest
      (base, dimensions + 1)
    | rest => splitBrackets rest
  (String.ofList base.reverse, dimensions)

/-- The name in the common vocabulary of a source form without array suffix. -/
def normalizeBase (base : String) : String :=
  if base = "int" then "integer" else dotted base

/-- The name in the common vocabulary of a source form. Blanks are kept. -/
def normalize (name : String) : String :=
  let (base, dimensions) := splitArraySuffix name
  withDimensions (normalizeBase base) dimensions

/-- The characters outside all angle brackets, `depth` of which are open. -/
def outsideBrackets (depth : Nat) : List Char → List Char
  | [] => []
  | '<' :: cs => outsideBrackets (depth + 1) cs
  -- a closing bracket that nothing opens is dropped as well
  | '>' :: cs => outsideBrackets (depth - 1) cs
  | c :: cs => if depth = 0 then c :: outsideBrackets depth cs else outsideBrackets depth cs

/-- A name without its type arguments. -/
def eraseTypeArguments (name : String) : String :=
  -- a name that opens no bracket is kept as it is
  if '<' ∈ name.toList then String.ofList (outsideBrackets 0 name.toList) else name

end NameBridge.TypeName
