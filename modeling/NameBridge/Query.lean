/-!
Questions about symbols, as they appear in community source: every name is a declared community
name.
-/

namespace NameBridge

inductive SymbolKind where
  | type
  | field
  | method
  deriving DecidableEq, Repr

def SymbolKind.word : SymbolKind → String
  | .type => "class"
  | .field => "field"
  | .method => "method"

/-- A symbol whose canonical name is wanted. -/
inductive SymbolQuery where
  | type (name : String)
  | field (owner name : String)
  /-- A method, told from its overloads by the types of its arguments. -/
  | method (owner name : String) (arguments : List String)
  deriving DecidableEq, Repr

namespace SymbolQuery

def kind : SymbolQuery → SymbolKind
  | .type _ => .type
  | .field _ _ => .field
  | .method _ _ _ => .method

/-- The text to keep when the symbol has no canonical name. -/
def name : SymbolQuery → String
  | .type name => name
  | .field _ name => name
  | .method _ name _ => name

/-- A one-line form, such as `net.game.Block#tick(int,long)`. -/
def display : SymbolQuery → String
  | .type name => name
  | .field owner name => owner ++ "#" ++ name
  | .method owner name arguments =>
    owner ++ "#" ++ name ++ "(" ++ String.intercalate "," arguments ++ ")"

end SymbolQuery

end NameBridge
