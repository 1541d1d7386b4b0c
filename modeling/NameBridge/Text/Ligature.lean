import NameBridge.Text.Columns

/-!
Letters that are written as one sign together with a letter before them.

A ligature is recognised from its last letter on, so the classes here say what that letter is and
which characters may stand between it and the others.
-/

namespace NameBridge.Text

/-- Forms of the Arabic alef, which join a lam before them. -/
def alefIntervals : List (Nat × Nat) := [
  (0x622, 0x623), (0x625, 0x625), (0x627, 0x627), (0x671, 0x673), (0x675, 0x675), (0x773, 0x774),
  (0x870, 0x882)]

/-- Tifinagh consonants. -/
def tifinaghIntervals : List (Nat × Nat) := [
  (0x2D31, 0x2D65), (0x2D6F, 0x2D6F)]

/-- Khmer letters that a coeng before them puts below the line. -/
def subscriptIntervals : List (Nat × Nat) := [
  (0x1780, 0x1782), (0x1784, 0x1787), (0x1789, 0x178C), (0x178E, 0x1793), (0x1795, 0x1798),
  (0x179B, 0x179D), (0x17A0, 0x17A0), (0x17A2, 0x17A2), (0x17A7, 0x17A7), (0x17AB, 0x17AC),
  (0x17AF, 0x17AF)]

/-- Marks that are shown in no way of their own. -/
def ignorableMarkIntervals : List (Nat × Nat) := [
  (0x34F, 0x34F), (0x17B4, 0x17B5), (0x180B, 0x180D), (0x180F, 0x180F), (0xFE00, 0xFE0F),
  (0xE0100, 0xE01EF)]

/-- Characters without a column that keep Arabic letters around them apart. -/
def separatingIntervals : List (Nat × Nat) := [
  (0x605, 0x605), (0x890, 0x891), (0x8E2, 0x8E2), (0x9BE, 0x9BE), (0x9D7, 0x9D7), (0xB3E, 0xB3E),
  (0xB57, 0xB57), (0xBBE, 0xBBE), (0xBD7, 0xBD7), (0xCC0, 0xCC0), (0xCC2, 0xCC2), (0xCC7, 0xCC8),
  (0xCCA, 0xCCB), (0xCD5, 0xCD6), (0xD3E, 0xD3E), (0xD4E, 0xD4E), (0xD57, 0xD57), (0xDCF, 0xDCF),
  (0xDDF, 0xDDF), (0x1160, 0x11FF), (0x1715, 0x1715), (0x1734, 0x1734), (0x180E, 0x180E),
  (0x1B35, 0x1B35), (0x1B3B, 0x1B3B), (0x1B3D, 0x1B3D), (0x1B43, 0x1B44), (0x1BAA, 0x1BAA),
  (0x1BF2, 0x1BF3), (0x200C, 0x200D), (0x2065, 0x2069), (0x302E, 0x302F), (0x3164, 0x3164),
  (0xA8FA, 0xA8FA), (0xA953, 0xA953), (0xA9C0, 0xA9C0), (0xD7B0, 0xD7C6), (0xD7CB, 0xD7FB),
  (0xFFA0, 0xFFA0), (0xFFF0, 0xFFF8), (0x111C0, 0x111C0), (0x111C2, 0x111C3), (0x11235, 0x11235),
  (0x1133E, 0x1133E), (0x1134D, 0x1134D), (0x11357, 0x11357), (0x113B8, 0x113B8),
  (0x113C2, 0x113C2), (0x113C5, 0x113C5), (0x113C7, 0x113C9), (0x113CF, 0x113CF),
  (0x113D1, 0x113D1), (0x114B0, 0x114B0), (0x114BD, 0x114BD), (0x115AF, 0x115AF),
  (0x116B6, 0x116B6), (0x11930, 0x11930), (0x1193D, 0x1193D), (0x1193F, 0x1193F),
  (0x11941, 0x11941), (0x11A84, 0x11A89), (0x11D46, 0x11D46), (0x11F02, 0x11F02),
  (0x11F41, 0x11F41), (0x16FF0, 0x16FF1), (0x1D165, 0x1D166), (0x1D16D, 0x1D172),
  (0x1D250, 0x1D252), (0x1D25F, 0x1D25F), (0x1D280, 0x1D281), (0xE0000, 0xE0000),
  (0xE0002, 0xE001F), (0xE0080, 0xE00FF), (0xE01F0, 0xE0FFF)]

def isAlef (c : Char) : Bool := inIntervals alefIntervals c.toNat

/-- Whether a character is a form of the lam that an alef joins. -/
def isLam (c : Char) : Bool :=
  c == '\u0644' || ('\u06B5' ≤ c && c ≤ '\u06B8') || c == '\u076A' || c == '\u08A6' || c == '\u08C7'

/-- Whether a character may stand between a lam and its alef. -/
def isBetweenLamAndAlef (c : Char) : Bool :=
  isZeroWidth c && !inIntervals separatingIntervals c.toNat

def isTifinaghConsonant (c : Char) : Bool := inIntervals tifinaghIntervals c.toNat

def isSubscriptLetter (c : Char) : Bool := inIntervals subscriptIntervals c.toNat

def isIgnorableMark (c : Char) : Bool := inIntervals ignorableMarkIntervals c.toNat

/-- The last letter of a ligature, as far as it has been read from the right. Ignorable marks and
joiners may stand between its letters. -/
inductive LastLetter where
  | lamed
  | buginese
  | bugineseWithVowel
  | tifinagh
  | tifinaghWithJoiner
  | turkic
  | lisuTone
  | khmer
  deriving DecidableEq, Repr

/-- The ligature's last letter that a character is. -/
def LastLetter.of? (c : Char) : Option LastLetter :=
  if c == '\u05DC' then some .lamed
  else if c == '\u1A10' then some .buginese
  else if isTifinaghConsonant c then some .tifinagh
  else if c.toNat == 0x10C03 then some .turkic
  else if c == '\uA4FC' || c == '\uA4FD' then some .lisuTone
  else if isSubscriptLetter c then some .khmer
  else none

/-- What a letter makes of the ligature after it: one that is complete, or one that may go on to the
left. Either way the letter adds some columns. -/
inductive Joined where
  | done (columns : Int)
  | goesOn (columns : Int) (last : LastLetter)
  deriving DecidableEq, Repr

/-- How the character `c` joins the letters after it, if it does. Some scripts want a joiner between
them; `joiner` says whether there is one. -/
def LastLetter.join? (joiner : Bool) (c : Char) : LastLetter → Option Joined
  | .lamed => if joiner && c == '\u05D0' then some (.done 0) else none
  | .buginese => if joiner && c == '\u1A17' then some (.goesOn 0 .bugineseWithVowel) else none
  | .bugineseWithVowel => if c == '\u1A15' then some (.done 0) else none
  | .tifinagh =>
    if c == '\u2D7F' then some (.goesOn 1 .tifinaghWithJoiner)
    else if joiner && isTifinaghConsonant c then some (.done 0)
    else none
  | .tifinaghWithJoiner => if isTifinaghConsonant c then some (.done (-1)) else none
  | .turkic => if joiner && c.toNat == 0x10C32 then some (.done 0) else none
  | .lisuTone => if '\uA4F8' ≤ c && c ≤ '\uA4FB' then some (.done 0) else none
  | .khmer => if c == '\u17D2' then some (.done (-1)) else none

end NameBridge.Text
