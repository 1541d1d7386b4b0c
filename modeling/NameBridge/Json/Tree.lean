import NameBridge.Json.Shape
import NameBridge.Json.Value

/-!
Reading a JSON value of any shape as a tree, and taking texts out of it.
-/

namespace NameBridge.Json

namespace Reader

/-- Read a value that is neither a list nor an object as a tree. -/
def leaf : Reader Value := afterSpace fun cs =>
  match cs with
  | [] => .error .truncated
  | c :: rest =>
    if c == '"' then ((quoted rest).map (·.map Value.text)).map (·.after)
    else if c == '-' || c.isDigit then (number (c :: rest)).map (·.map Value.number)
    else if c == 'n' then word .null "null".toList (c :: rest)
    else if c == 't' then word (.bool true) "true".toList (c :: rest)
    else if c == 'f' then word (.bool false) "false".toList (c :: rest)
    else .error .malformed

/-- Read a value as a tree of at most `depth` lists and objects in each other; a deeper one counts as
malformed. -/
def tree : Nat → Reader Value
  | 0 => leaf
  | depth + 1 => afterSpace fun cs =>
    match cs with
    | '[' :: rest =>
      (items (tree depth) true rest).map fun found => (found.map Value.list).after
    | '\x7b' :: rest =>
      (entries (fun known key => .ok ((tree depth).map fun v => known ++ [(key, v)])) true [] rest).map
        fun found => (found.map Value.object).after
    | other => leaf other

end Reader

namespace Value

def asText : Value → Except Fault String
  | text s => .ok s
  | _ => .error .mismatch

def asTexts : Value → Except Fault (List String)
  | list items => items.mapM asText
  | _ => .error .mismatch

/-- The value of a key that must occur once. -/
def entry (entries : List (String × Value)) (key : String) : Except Fault Value :=
  match entries.filter (·.1 == key) with
  | [(_, v)] => .ok v
  | _ => .error .mismatch

/-- The value of a key that may be missing and must not occur twice. -/
def optionalEntry (entries : List (String × Value)) (key : String) : Except Fault (Option Value) :=
  match entries.filter (·.1 == key) with
  | [] => .ok none
  | [(_, v)] => .ok (some v)
  | _ => .error .mismatch

end Value

end NameBridge.Json
