/-!
Reading from the start of a text.

A reader takes a value off the start of a text and says what is left. What is left is always
shorter than the text, so a loop that reads again and again ends.
-/

namespace NameBridge.Json

inductive Fault where
  /-- The text is not JSON, or goes on after the value. -/
  | malformed
  /-- The text ends too early. -/
  | truncated
  /-- The text is JSON so far, but not of the shape that is wanted. -/
  | mismatch
  deriving DecidableEq, Repr

/-- A value read from the start of `cs`, and the text after it. -/
structure Found (α : Type) (cs : List Char) where
  value : α
  rest : List Char
  shorter : rest.length < cs.length

/-- A way to read a value from the start of a text. -/
abbrev Reader (α : Type) := (cs : List Char) → Except Fault (Found α cs)

namespace Found

/-- The same finding, seen from a text that is at least as long. -/
def widen {α : Type} {cs ds : List Char} (f : Found α ds) (h : ds.length ≤ cs.length) : Found α cs :=
  ⟨f.value, f.rest, Nat.lt_of_lt_of_le f.shorter h⟩

/-- The same finding, seen from a text with one more character in front. -/
def after {α : Type} {c : Char} {cs : List Char} (f : Found α cs) : Found α (c :: cs) :=
  f.widen (Nat.le_succ _)

/-- A value that the first character of a text gave. -/
def one {α : Type} {c : Char} (value : α) (rest : List Char) : Found α (c :: rest) :=
  ⟨value, rest, Nat.lt_succ_self _⟩

/-- The finding with its value changed. -/
def map {α β : Type} {cs : List Char} (g : α → β) (f : Found α cs) : Found β cs :=
  ⟨g f.value, f.rest, f.shorter⟩

end Found

def isSpace (c : Char) : Bool := c == ' ' || c == '\n' || c == '\t' || c == '\r'

/-- The text without the blanks it starts with. -/
def skipSpace (cs : List Char) : List Char := cs.dropWhile isSpace

theorem skipSpace_length_le (cs : List Char) : (skipSpace cs).length ≤ cs.length :=
  (List.dropWhile_sublist _).length_le

namespace Reader

def afterSpace {α : Type} (r : Reader α) : Reader α := fun cs =>
  (r (skipSpace cs)).map (·.widen (skipSpace_length_le cs))

def map {α β : Type} (g : α → β) (r : Reader α) : Reader β := fun cs => (r cs).map (·.map g)

/-- Read the word `word` to its end. -/
def word {α : Type} (value : α) : List Char → Reader α
  | [], _ => .error .malformed
  | _ :: _, [] => .error .truncated
  | [w], c :: rest => if w = c then .ok (.one value rest) else .error .malformed
  | w :: w' :: ws, c :: rest =>
    if w = c then (word value (w' :: ws) rest).map (·.after) else .error .malformed

end Reader

/-- Read a whole text: a value, and then nothing but blanks. -/
def parse {α : Type} (r : Reader α) (s : String) : Except Fault α :=
  match r s.toList with
  | .error fault => .error fault
  | .ok found => if (skipSpace found.rest).isEmpty then .ok found.value else .error .malformed

end NameBridge.Json
