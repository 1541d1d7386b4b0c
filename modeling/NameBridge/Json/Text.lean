import NameBridge.Json.Reader

/-!
Strings of JSON, in quotes and with escapes.

`quote` writes a text, `Reader.quoted` reads one and `Reader.skipQuoted` passes over one. Passing
over looks at the form of escapes only: it accepts a lone half of a surrogate pair.
-/

namespace NameBridge.Json

/-! ## Writing -/

/-- A hexadecimal digit in lower case. -/
def hexDigit (n : Nat) : Char := if n < 10 then Char.ofNat (0x30 + n) else Char.ofNat (0x57 + n)

/-- One character inside quotes. Only what must be escaped is. -/
def escape (c : Char) : List Char :=
  if c = '"' then ['\\', '"']
  else if c = '\\' then ['\\', '\\']
  else if c = '\x08' then ['\\', 'b']
  else if c = '\x0c' then ['\\', 'f']
  else if c = '\n' then ['\\', 'n']
  else if c = '\r' then ['\\', 'r']
  else if c = '\t' then ['\\', 't']
  else if c.toNat < 0x20 then
    ['\\', 'u', '0', '0', hexDigit (c.toNat / 16), hexDigit (c.toNat % 16)]
  else [c]

/-- A text in quotes. -/
def quoteChars (cs : List Char) : List Char := '"' :: cs.flatMap escape ++ ['"']

/-- A text in quotes. -/
def quote (s : String) : String := String.ofList (quoteChars s.toList)

/-! ## Reading -/

/-- The value of a hexadecimal digit in either case. -/
def hexValue? (c : Char) : Option Nat :=
  if '0' ≤ c ∧ c ≤ '9' then some (c.toNat - 0x30)
  else if 'a' ≤ c ∧ c ≤ 'f' then some (c.toNat - 0x57)
  else if 'A' ≤ c ∧ c ≤ 'F' then some (c.toNat - 0x37)
  else none

/-- The number that four hexadecimal digits stand for. -/
def fourHex? (a b c d : Char) : Option Nat := do
  return (((← hexValue? a) * 16 + (← hexValue? b)) * 16 + (← hexValue? c)) * 16 + (← hexValue? d)

/-- How many bytes a text takes in UTF-8. -/
def byteLength (cs : List Char) : Nat := (String.ofList cs).utf8ByteSize

namespace Reader

/-- Read four hexadecimal digits. The text counts as truncated if fewer than four bytes are left. -/
def hex : Reader Nat
  | a :: b :: c :: d :: rest =>
    match fourHex? a b c d with
    | some n => .ok ⟨n, rest, by simp only [List.length_cons]; omega⟩
    | none => .error .malformed
  | cs => .error (if byteLength cs < 4 then .truncated else .malformed)

def isHighSurrogate (n : Nat) : Bool := 0xD800 ≤ n && n ≤ 0xDBFF

def isLowSurrogate (n : Nat) : Bool := 0xDC00 ≤ n && n ≤ 0xDFFF

/-- The character that a surrogate pair stands for. -/
def joinSurrogates (high low : Nat) : Char :=
  Char.ofNat ((high - 0xD800) * 0x400 + (low - 0xDC00) + 0x10000)

/-- Read the digits after `\u`, and the second escape of a surrogate pair. -/
def codePoint : Reader Char := fun cs => do
  let ⟨high, rest, h⟩ ← hex cs
  if isLowSurrogate high then .error .malformed
  else if isHighSurrogate high then
    match rest, h with
    | '\\' :: 'u' :: rest, h => do
      let ⟨low, rest, h'⟩ ← hex rest
      if isLowSurrogate low then
        return ⟨joinSurrogates high low, rest, by simp only [List.length_cons] at h; omega⟩
      else .error .malformed
    | [], _ => .error .truncated
    | ['\\'], _ => .error .truncated
    | _, _ => .error .malformed
  else return ⟨Char.ofNat high, rest, h⟩

/-- The character that a one-letter escape stands for. -/
def letterEscape? : Char → Option Char
  | '"' => some '"'
  | '\\' => some '\\'
  | '/' => some '/'
  | 'b' => some '\x08'
  | 'f' => some '\x0c'
  | 'n' => some '\n'
  | 'r' => some '\r'
  | 't' => some '\t'
  | _ => none

/-- Read what follows a backslash. -/
def escaped : Reader Char
  | [] => .error .truncated
  | 'u' :: rest => (codePoint rest).map (·.after)
  | c :: rest =>
    match letterEscape? c with
    | some value => .ok (.one value rest)
    | none => .error .malformed

/-- Pass over what follows a backslash. -/
def skipEscaped : Reader Unit
  | [] => .error .truncated
  | 'u' :: rest => (hex rest).map fun found => (found.map fun _ => ()).after
  | c :: rest => if (letterEscape? c).isSome then .ok (.one () rest) else .error .malformed

/-- Read the characters up to the closing quote; `escape` reads what follows a backslash. -/
def untilQuote {α : Type} (char : Char → α) (escape : Reader α) (cs : List Char) :
    Except Fault (Found (List α) cs) :=
  match cs with
  | [] => .error .truncated
  | '"' :: rest => .ok (.one [] rest)
  | '\\' :: rest => do
    let ⟨a, rest, h⟩ ← escape rest
    let ⟨as, rest, h'⟩ ← untilQuote char escape rest
    return ⟨a :: as, rest, by simp only [List.length_cons]; omega⟩
  | c :: rest =>
    if c.toNat < 0x20 then .error .malformed
    else do
      let ⟨as, rest, h⟩ ← untilQuote char escape rest
      return ⟨char c :: as, rest, by simp only [List.length_cons]; omega⟩
termination_by cs.length

/-- Read a string up to its closing quote. -/
def quoted : Reader String := fun cs =>
  (untilQuote id escaped cs).map (·.map String.ofList)

/-- Pass over a string up to its closing quote. -/
def skipQuoted : Reader Unit := fun cs =>
  (untilQuote (fun _ => ()) skipEscaped cs).map (·.map fun _ => ())

end Reader

end NameBridge.Json
