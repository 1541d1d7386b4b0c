import NameBridge.Json.Text

/-!
JSON values and their two written forms: `compact` on one line without blanks, and `pretty` with one
entry a line and two spaces a level.
-/

namespace NameBridge.Json

/-- A JSON value. The entries of an object have an order. -/
inductive Value where
  | null
  | bool (b : Bool)
  /-- A number by its text. -/
  | number (numeral : String)
  | text (s : String)
  | list (items : List Value)
  | object (entries : List (String × Value))
  deriving Repr

namespace Value

/-- A list of texts. -/
def ofTexts (texts : List String) : Value := .list (texts.map .text)

mutual

/-- The form on one line. -/
def compact : Value → String
  | null => "null"
  | bool true => "true"
  | bool false => "false"
  | number numeral => numeral
  | text s => quote s
  | list items => "[" ++ compactItems items ++ "]"
  | object entries => "\x7b" ++ compactEntries entries ++ "\x7d"

def compactItems : List Value → String
  | [] => ""
  | [item] => item.compact
  | item :: items => item.compact ++ "," ++ compactItems items

def compactEntries : List (String × Value) → String
  | [] => ""
  | [(key, value)] => quote key ++ ":" ++ value.compact
  | (key, value) :: entries => quote key ++ ":" ++ value.compact ++ "," ++ compactEntries entries

end

/-- A new line at some level of nesting. -/
def newLine (level : Nat) : String := "\n" ++ String.ofList (List.replicate (2 * level) ' ')

mutual

/-- The form with one entry a line, at some level of nesting. An empty list or object has none. -/
def prettyAt (level : Nat) : Value → String
  | null => "null"
  | bool true => "true"
  | bool false => "false"
  | number numeral => numeral
  | text s => quote s
  | list [] => "[]"
  | list (item :: items) =>
    "[" ++ newLine (level + 1) ++ item.prettyAt (level + 1) ++ prettyItems (level + 1) items ++
      newLine level ++ "]"
  | object [] => "\x7b\x7d"
  | object ((key, value) :: entries) =>
    "\x7b" ++ newLine (level + 1) ++ quote key ++ ": " ++ value.prettyAt (level + 1) ++
      prettyEntries (level + 1) entries ++ newLine level ++ "\x7d"

def prettyItems (level : Nat) : List Value → String
  | [] => ""
  | item :: items => "," ++ newLine level ++ item.prettyAt level ++ prettyItems level items

def prettyEntries (level : Nat) : List (String × Value) → String
  | [] => ""
  | (key, value) :: entries =>
    "," ++ newLine level ++ quote key ++ ": " ++ value.prettyAt level ++ prettyEntries level entries

end

/-- The form with one entry a line. -/
def pretty (v : Value) : String := v.prettyAt 0

end Value

end NameBridge.Json
