import NameBridge.Text.Emoji
import NameBridge.Text.Ligature

/-!
How many columns of a terminal a line takes.

A line is measured from its right end, since it is the character after another one that joins it: a
selector that makes it a picture, a skin tone, the second letter of a flag, a joiner of pictures, or
the letter that ends a ligature. A character that joins what follows adds fewer columns than it has
alone, and may even take one back.
-/

namespace NameBridge.Text

/-- The form that a selector asks of the character before it. -/
inductive Form where
  | picture
  | plain
  | wideQuote
  deriving DecidableEq, Repr

/-- The form that a character asks for, if it is a selector. -/
def Form.of? (c : Char) : Option Form :=
  if c == '\uFE0F' then some .picture
  else if c == '\uFE0E' then some .plain
  else if c == '\uFE01' then some .wideQuote
  else none

def isCurlyQuote (c : Char) : Bool :=
  c == '\u2018' || c == '\u2019' || c == '\u201C' || c == '\u201D'

/-- What a text starts with, as far as the character before it may join that. -/
inductive Start where
  | other
  | picture
  | skinTone
  | flagLetter
  | flagLetters
  /-- A joiner and a picture. -/
  | joinedPicture
  /-- A joiner and a picture with a key cap before them. -/
  | joinedKeycap
  /-- An odd number of flag letters (at least three, if `many`), joined to a picture. -/
  | oddFlagLetters (many : Bool)
  | evenFlagLetters
  /-- The end of a region's name, joined to a picture, with this many letters. -/
  | tagLetters (count : Nat)
  | tagDigits (count : Nat)
  | alef
  /-- A ligature so far, with or without a joiner. -/
  | letter (last : LastLetter) (joiner : Bool)
  | vowelE
  | vowelAi
  deriving DecidableEq, Repr

namespace Start

/-- What a character alone starts a text with. -/
def ofChar (c : Char) : Start :=
  if isFlagLetter c then .flagLetter
  else if isSkinTone c then .skinTone
  else if isPicture c then .picture
  else if isAlef c then .alef
  else if c.toNat == 0x16D67 then .vowelE
  else if c.toNat == 0x16D68 then .vowelAi
  else
    match LastLetter.of? c with
    | some last => .letter last false
    | none => .other

/-- Whether a selector may stand inside what has been read. -/
def isLigature : Start → Bool
  | .alef | .letter _ _ => true
  | _ => false

/-- Whether a picture before what has been read becomes part of the picture there. -/
def isJoinedPicture : Start → Bool
  | .joinedPicture | .joinedKeycap => true
  | _ => false

/-- How the character `c` joins the picture after it, if it does: the columns it adds, and what the
text starts with then. -/
def joinPicture? (c : Char) : Start → Option (Int × Start)
  | .joinedPicture =>
    if c == '\u20E3' then some (0, .joinedKeycap)
    else if isFlagLetter c then some (1, .oddFlagLetters false)
    else if isSkinTone c then some (0, .skinTone)
    else if c.toNat == 0xE007F then some (0, .tagLetters 0)
    else if isPicture c then some (0, .picture)
    else none
  | .tagLetters count =>
    if isTagLetter c && count < 6 then some (0, .tagLetters (count + 1))
    else if isTagDigit c && count < 5 then some (0, .tagDigits 1)
    else if c == '🏴' && 3 ≤ count then some (0, .picture)
    else none
  | .tagDigits count =>
    if isTagDigit c && count < 3 then some (0, .tagDigits (count + 1))
    else if c == '🏴' && count == 3 then some (0, .picture)
    else none
  | .skinTone => if takesSkinTone c then some (0, .picture) else joiner
  | .picture => joiner
  | .flagLetter => if isFlagLetter c then some (1, .flagLetters) else none
  | .flagLetters => if isFlagLetter c then some (1, .flagLetters) else joiner
  | .oddFlagLetters many =>
    if isFlagLetter c then some (-1, .evenFlagLetters) else if many then joiner else none
  | .evenFlagLetters => if isFlagLetter c then some (3, .oddFlagLetters true) else joiner
  | _ => none
where
  joiner : Option (Int × Start) := if c == '\u200D' then some (0, .joinedPicture) else none

/-- How the character `c` joins the letters after it, if it does. -/
def joinLetter? (c : Char) : Start → Option (Int × Start)
  | .alef =>
    if isLam c then some (0, .other)
    else if isBetweenLamAndAlef c then some (0, .alef)
    else none
  | .letter last joiner =>
    if c == '\u200D' then some (0, .letter last true)
    else if isIgnorableMark c then some (0, .letter last joiner)
    else
      match last.join? joiner c with
      | some (.done columns) => some (columns, .other)
      | some (.goesOn columns last) => some (columns, .letter last false)
      | none => none
  | .vowelE =>
    if c.toNat == 0x16D63 || c.toNat == 0x16D69 then some (0, .other)
    else if c.toNat == 0x16D67 then some (0, .vowelAi)
    else if c.toNat == 0x16D68 then some (1, .vowelE)
    else none
  | .vowelAi => if c.toNat == 0x16D63 then some (0, .other) else none
  | _ => none

/-- Put the character `c` before a text. One that joins nothing adds its own columns. -/
def join (c : Char) (start : Start) : Int × Start :=
  ((start.joinPicture? c).or (start.joinLetter? c)).getD (columns c, ofChar c)

end Start

/-- What a text offers the character before it: the forms that selectors ask of it, and what it may
join. -/
structure Ahead where
  start : Start := .other
  forms : List Form := []
  deriving DecidableEq, Repr

namespace Ahead

/-- Put a selector before a text. It hides what it does not belong to; inside a ligature several
selectors add up. -/
def select (ahead : Ahead) (form : Form) : Ahead :=
  if ahead.start.isLigature || (form == .picture && ahead.start.isJoinedPicture) then
    ⟨ahead.start, ahead.forms.insert form⟩
  else ⟨.other, [form]⟩

/-- Forget that a picture was asked for. Only a ligature is still seen behind that selector. -/
def dropPicture (ahead : Ahead) : Ahead :=
  if !ahead.forms.contains .picture then ahead
  else if ahead.start.isLigature then ⟨ahead.start, ahead.forms.filter (· != .picture)⟩
  else {}

/-- The columns of a character in the first form that is asked for and that it has, and what the text
starts with then. -/
def inForm? (c : Char) (ahead : Ahead) : Option (Int × Start) :=
  if ahead.forms.contains .picture && canBePicture c then
    some (if ahead.start.isJoinedPicture then 0 else 2, .picture)
  else if ahead.forms.contains .plain && canBeNarrow c then some (1, .other)
  else if ahead.forms.contains .wideQuote && isCurlyQuote c then some (2, .other)
  else none

/-- Put a character before a text: the columns it adds, and what the longer text offers. -/
def cons (c : Char) (ahead : Ahead) : Int × Ahead :=
  match ahead.inForm? c, Form.of? c with
  | some (n, start), _ => (n, ⟨start, []⟩)
  | none, some form => (0, ahead.dropPicture.select form)
  | none, none =>
    if c ≤ '\u00A0' then (1, {})
    else
      let (n, start) := ahead.dropPicture.start.join c
      (n, ⟨start, []⟩)

end Ahead

/-- The columns of a text and what it offers a character before it. -/
def measure : List Char → Int × Ahead
  | [] => (0, {})
  | c :: rest =>
    let (n, ahead) := measure rest
    let (m, ahead) := ahead.cons c
    (n + m, ahead)

/-- The columns of a line. -/
def lineColumns (line : List Char) : Nat := (measure line).1.toNat

end NameBridge.Text
