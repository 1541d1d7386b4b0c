import NameBridge.Json.Tree
import NameBridge.Query

/-!
Symbol queries in JSON.

A query is an object with its kind under the key `kind`, or a list that starts with the kind. The
kind may come after the other entries, so these are read as trees first: a malformed text anywhere
in the query is reported before an entry of the wrong shape.
-/

namespace NameBridge

open Json (Value Reader Fault)

def SymbolKind.words : List (String × SymbolKind) :=
  [("class", .type), ("field", .field), ("method", .method)]

def SymbolKind.reader : Reader SymbolKind := fun cs => do
  let ⟨word, rest, h⟩ ← Reader.text cs
  return ⟨← Reader.chosen words word, rest, h⟩

namespace SymbolQuery

def toJson : SymbolQuery → Value
  | .type name => .object [("kind", .text "class"), ("name", .text name)]
  | .field owner name =>
    .object [("kind", .text "field"), ("owner", .text owner), ("name", .text name)]
  | .method owner name arguments =>
    .object [("kind", .text "method"), ("owner", .text owner), ("name", .text name),
      ("arguments", .ofTexts arguments)]

/-- The query of a kind with these entries. Arguments may be missing. -/
def ofEntries (kind : SymbolKind) (entries : List (String × Value)) : Except Fault SymbolQuery := do
  match kind with
  | .type => return .type (← (← Value.entry entries "name").asText)
  | .field =>
    return .field (← (← Value.entry entries "owner").asText) (← (← Value.entry entries "name").asText)
  | .method =>
    let owner ← (← Value.entry entries "owner").asText
    let name ← (← Value.entry entries "name").asText
    match ← Value.optionalEntry entries "arguments" with
    | some arguments => return .method owner name (← arguments.asTexts)
    | none => return .method owner name []

/-- The query of a kind with these items. Arguments may be missing. -/
def ofItems (kind : SymbolKind) (items : List Value) : Except Fault SymbolQuery := do
  match kind, items with
  | .type, [name] => return .type (← name.asText)
  | .field, [owner, name] => return .field (← owner.asText) (← name.asText)
  | .method, [owner, name] => return .method (← owner.asText) (← name.asText) []
  | .method, [owner, name, arguments] =>
    return .method (← owner.asText) (← name.asText) (← arguments.asTexts)
  | _, _ => .error .mismatch

/-- How many lists and objects may stand in each other inside a query. -/
def maxDepth : Nat := 126

/-- How an entry is read: the kind at once, all else as a tree. -/
def entry (known : Option SymbolKind × List (String × Value)) (key : String) :
    Except Fault (Reader (Option SymbolKind × List (String × Value))) :=
  if key = "kind" then Reader.once known.1 (SymbolKind.reader.map fun kind => (some kind, known.2))
  else .ok ((Reader.tree maxDepth).map fun v => (known.1, known.2 ++ [(key, v)]))

/-- Read the items of a query that is given as a list. -/
def row : Reader SymbolQuery := fun cs => do
  let ⟨kind, r₁, h₁⟩ ← Reader.itemOr (.error .mismatch) SymbolKind.reader true cs
  let ⟨items, r₂, h₂⟩ ← Reader.items (Reader.tree maxDepth) false r₁
  return ⟨← ofItems kind items, r₂, by omega⟩

def reader : Reader SymbolQuery :=
  Reader.record entry (none, [])
    (fun known => do ofEntries (← Reader.required known.1) known.2) row

end SymbolQuery

end NameBridge
