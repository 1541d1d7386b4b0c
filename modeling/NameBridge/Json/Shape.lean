import NameBridge.Json.Number
import NameBridge.Json.Text

/-!
Readers for values of a known shape.

Such a reader takes its value straight from the text. Of several faults the first one in reading
order is reported, so a value of the wrong shape hides what is malformed after it, and not what is
malformed before. Entries that a shape does not know are passed over.
-/

namespace NameBridge.Json.Reader

/-! ## Values of the wrong shape -/

/-- Read a value that is neither a list nor an object. -/
def scalar : Reader Unit
  | [] => .error .truncated
  | c :: rest =>
    if c == '"' then (quoted rest).map fun found => (found.map fun _ => ()).after
    else if c == '-' || c.isDigit then (number (c :: rest)).map (·.map fun _ => ())
    else if c == 'n' then word () "null".toList (c :: rest)
    else if c == 't' then word () "true".toList (c :: rest)
    else if c == 'f' then word () "false".toList (c :: rest)
    else .error .malformed

/-- The fault of a text that does not start a value of the wanted shape. -/
def refusal (cs : List Char) : Fault :=
  if cs.head? == some '[' || cs.head? == some '\x7b' then .mismatch
  else
    -- a scalar of the wrong shape is still read to its end
    match scalar cs with
    | .error fault => fault
    | .ok _ => .mismatch

def text : Reader String := afterSpace fun cs =>
  match cs with
  | '"' :: rest => (quoted rest).map (·.after)
  | _ => .error (refusal cs)

/-- Read `null` as nothing, and all else by `r`. -/
def option {α : Type} (r : Reader α) : Reader (Option α) := afterSpace fun cs =>
  if cs.head? == some 'n' then word none "null".toList cs else r.map some cs

/-! ## Lists -/

/-- A value that was looked for at the start of `cs`, and the text still to be read. -/
structure Glimpse (α : Type) (cs : List Char) where
  value : α
  rest : List Char
  notLonger : rest.length ≤ cs.length

/-- Whether a list has another item, after its opening bracket or after an item. -/
def nextItem (isFirst : Bool) (cs : List Char) : Except Fault (Glimpse Bool cs) :=
  match h : skipSpace cs with
  | [] => .error .truncated
  | c :: rest =>
    have hle : rest.length + 1 ≤ cs.length := by
      have := skipSpace_length_le cs
      rwa [h, List.length_cons] at this
    -- the closing bracket is left ahead, a comma is passed over
    if c == ']' then .ok ⟨false, c :: rest, hle⟩
    else if isFirst then .ok ⟨true, c :: rest, hle⟩
    else if c == ',' then
      match skipSpace rest with
      | [] => .error .truncated
      | ']' :: _ => .error .malformed
      | _ => .ok ⟨true, rest, by omega⟩
    else .error .malformed

/-- Read the closing bracket of a list. -/
def endOfList {α : Type} (value : α) : Reader α := afterSpace fun cs =>
  match cs with
  | [] => .error .truncated
  | ']' :: rest => .ok (.one value rest)
  | _ :: _ => .error .malformed

/-- Read the rest of a list whose opening bracket has been read. -/
def items {α : Type} (item : Reader α) (isFirst : Bool) (cs : List Char) :
    Except Fault (Found (List α) cs) := do
  let turn ← nextItem isFirst cs
  if turn.value then
    let ⟨a, rest, h⟩ ← item turn.rest
    let ⟨as, rest', h'⟩ ← items item false rest
    return ⟨a :: as, rest', by have := turn.notLonger; omega⟩
  else
    return (← endOfList [] turn.rest).widen turn.notLonger
termination_by cs.length
decreasing_by have := turn.notLonger; omega

def list {α : Type} (item : Reader α) : Reader (List α) := afterSpace fun cs =>
  match cs with
  | '[' :: rest => (items item true rest).map (·.after)
  | _ => .error (refusal cs)

/-- Read the next item of a list, or take `default` if the list ends here. -/
def itemOr {α : Type} (default : Except Fault α) (item : Reader α) (isFirst : Bool)
    (cs : List Char) : Except Fault (Glimpse α cs) := do
  let turn ← nextItem isFirst cs
  if turn.value then
    let ⟨a, rest, h⟩ ← item turn.rest
    return ⟨a, rest, by have := turn.notLonger; omega⟩
  else
    return ⟨← default, turn.rest, turn.notLonger⟩

/-! ## Objects -/

/-- Whether an object has another entry, after its opening brace or after an entry. The opening quote
of the key is passed over, and so is the closing brace. -/
def nextKey (isFirst : Bool) : Reader Bool := afterSpace fun cs =>
  match cs with
  | [] => .error .truncated
  | c :: rest =>
    if c == '\x7d' then .ok (.one false rest)
    else if isFirst then
      if c == '"' then .ok (.one true rest) else .error .malformed
    else if c == ',' then
      match h : skipSpace rest with
      | [] => .error .truncated
      | d :: rest' =>
        if d == '"' then .ok ⟨true, rest', by
          have := skipSpace_length_le rest
          rw [h] at this
          simp only [List.length_cons] at *
          omega⟩
        else .error .malformed
    else .error .malformed

/-- Read the colon after a key, and then a value. -/
def afterColon {α : Type} (r : Reader α) : Reader α := afterSpace fun cs =>
  match cs with
  | [] => .error .truncated
  | ':' :: rest => (r rest).map (·.after)
  | _ :: _ => .error .malformed

/-- Read the rest of an object whose opening brace has been read, with `readKey` for what follows the
opening quote of a key. Every entry changes a state: `entry` looks at the key, and refuses it or says
how the value is to be read. -/
def keyedEntries {κ σ : Type} (readKey : Reader κ) (entry : σ → κ → Except Fault (Reader σ))
    (isFirst : Bool) (state : σ) (cs : List Char) : Except Fault (Found σ cs) := do
  let ⟨goesOn, rest, h⟩ ← nextKey isFirst cs
  if goesOn then
    let ⟨key, rest₁, h₁⟩ ← readKey rest
    let value ← entry state key
    let ⟨state, rest₂, h₂⟩ ← afterColon value rest₁
    let ⟨state, rest₃, h₃⟩ ← keyedEntries readKey entry false state rest₂
    return ⟨state, rest₃, by omega⟩
  else
    return ⟨state, rest, h⟩
termination_by cs.length
decreasing_by omega

/-- Read the rest of an object whose keys are texts. -/
def entries {σ : Type} (entry : σ → String → Except Fault (Reader σ)) (isFirst : Bool) (state : σ) :
    Reader σ :=
  keyedEntries quoted entry isFirst state

/-! ## Values of any shape -/

/-- Pass over a value that is neither a list nor an object. -/
def skipScalar : Reader Unit := afterSpace fun cs =>
  match cs with
  | '"' :: rest => (skipQuoted rest).map (·.after)
  | c :: rest => if c == '-' || c.isDigit then skipNumber (c :: rest) else scalar (c :: rest)
  | [] => .error .truncated

/-- Pass over a value that holds at most `depth` lists and objects in each other. Keys are passed over
like other strings. -/
def skipNested : Nat → Reader Unit
  | 0 => skipScalar
  | depth + 1 => afterSpace fun cs =>
    match cs with
    | '[' :: rest =>
      (items (skipNested depth) true rest).map fun found => (found.map fun _ => ()).after
    | '\x7b' :: rest =>
      (keyedEntries skipQuoted (fun _ _ => .ok (skipNested depth)) true () rest).map (·.after)
    | other => skipScalar other

-- a text cannot nest deeper than it is long
def skip : Reader Unit := fun cs => skipNested cs.length cs

/-! ## Objects with known keys -/

/-- How the value of a key that may come only once is read. -/
def once {α β : Type} (known : Option α) (r : Reader β) : Except Fault (Reader β) :=
  if known.isSome then .error .mismatch else .ok r

/-- The value of a key that must be there. -/
def required {α : Type} (known : Option α) : Except Fault α :=
  match known with
  | some a => .ok a
  | none => .error .mismatch

/-- Read an object entry by entry into a draft that is finished at the closing brace. -/
def record {σ α : Type} (entry : σ → String → Except Fault (Reader σ)) (start : σ)
    (finish : σ → Except Fault α) (row : Reader α) : Reader α := afterSpace fun cs =>
  match cs with
  | '\x7b' :: rest => do
    let ⟨state, rest', h⟩ ← entries entry true start rest
    return ⟨← finish state, rest', by simp only [List.length_cons]; omega⟩
  -- the same value may be given as a list
  | '[' :: rest => (row rest).map (·.after)
  | _ => .error (refusal cs)

/-! ## One of several words -/

/-- The value that a word stands for. -/
def chosen {α : Type} (options : List (String × α)) (word : String) : Except Fault α :=
  match options.lookup word with
  | some a => .ok a
  | none => .error .mismatch

def nothing : Reader Unit := afterSpace fun cs =>
  if cs.head? == some 'n' then word () "null".toList cs else .error (refusal cs)

/-- Read the closing brace after the only entry of an object. -/
def endOfEntry {α : Type} (value : α) : Reader α := afterSpace fun cs =>
  match cs with
  | [] => .error .truncated
  | '\x7d' :: rest => .ok (.one value rest)
  | _ :: _ => .error .malformed

/-- Read a key that must be there. -/
def key : Reader String := afterSpace fun cs =>
  match cs with
  | [] => .error .truncated
  | '"' :: rest => (quoted rest).map (·.after)
  | _ :: _ => .error .malformed

/-- Read one of several words. -/
def choice {α : Type} (options : List (String × α)) : Reader α := afterSpace fun cs =>
  match cs with
  | [] => .error .truncated
  | '"' :: rest => do
    let ⟨key, rest', h⟩ ← quoted rest
    return ⟨← chosen options key, rest', by simp only [List.length_cons]; omega⟩
  -- an object of that one key with the value null
  | '\x7b' :: rest => do
    let ⟨key, rest₁, h₁⟩ ← key rest
    let a ← chosen options key
    let ⟨_, rest₂, h₂⟩ ← afterColon nothing rest₁
    let ⟨_, rest₃, h₃⟩ ← endOfEntry () rest₂
    return ⟨a, rest₃, by simp only [List.length_cons]; omega⟩
  | _ :: _ => .error .malformed

end NameBridge.Json.Reader
