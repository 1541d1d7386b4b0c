/-!
The common vocabulary of type names.

Both grammars describe types, one by descriptors and one by source forms. Either is brought to one
vocabulary, so that two types are the same exactly when their names are equal: primitives are
words, classes are dotted, and each array dimension adds `[]` at the end.
-/

namespace NameBridge.TypeName

/-- The word for the primitive type (or `void`) that a descriptor letter stands for. -/
def primitive? : Char → Option String
  | 'B' => some "byte"
  | 'C' => some "char"
  | 'D' => some "double"
  | 'F' => some "float"
  | 'I' => some "integer"
  | 'J' => some "long"
  | 'S' => some "short"
  | 'Z' => some "boolean"
  | 'V' => some "void"
  | _ => none

/-- A class name with dots for slashes. -/
def dotted (name : String) : String := name.map fun c => if c = '/' then '.' else c

/-- `base` with one `[]` for each array dimension. -/
def withDimensions (base : String) : Nat → String
  | 0 => base
  | dimensions + 1 => withDimensions base dimensions ++ "[]"

@[simp] theorem withDimensions_zero (base : String) : withDimensions base 0 = base := rfl

theorem withDimensions_succ (base : String) (dimensions : Nat) :
    withDimensions base (dimensions + 1) = withDimensions base dimensions ++ "[]" := rfl

end NameBridge.TypeName
