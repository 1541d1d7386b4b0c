import NameBridge.Json.Reader

/-!
Numbers of JSON.

Nothing here needs the value of a number, but a number that is read must lie in the range of double
precision, and one that is passed over need not.
-/

namespace NameBridge.Json

structure Numeral where
  whole : List Char
  fraction : List Char := []
  exponent : Int := 0
  deriving Repr

def ofDigits (digits : List Char) : Nat :=
  digits.foldl (fun n c => n * 10 + (c.toNat - '0'.toNat)) 0

/-- The leading digits that fit a word of 64 bits, written after the number `n`, and how many digits
are left out. -/
def leadingDigits (n : Nat) : List Char → Nat × Nat
  | [] => (n, 0)
  | c :: rest =>
    let m := n * 10 + (c.toNat - '0'.toNat)
    if m < Nat.pow 2 64 then leadingDigits m rest else (n, rest.length + 1)

/-- The double nearest to a number below the range's end; of two, the one with an even significand. -/
def roundToDouble (n : Nat) : Nat :=
  let unit := Nat.pow 2 (n.log2 - 52)
  let below := n / unit
  let excess := 2 * (n % unit)
  if unit < excess || (unit == excess && below % 2 == 1) then (below + 1) * unit else below * unit

/-- The least number that is rounded to infinity in double precision. -/
def overflowBound : Nat := Nat.pow 2 1024 - Nat.pow 2 970

namespace Numeral

/-- The number as a whole number of 64 bits and a power of ten. Digits beyond that are left out. -/
def approximation (n : Numeral) : Nat × Int :=
  let (whole, more) := leadingDigits 0 n.whole
  let (significand, unused) := leadingDigits whole n.fraction
  (significand, n.exponent + more - (n.fraction.length - unused))

/-- Whether the number lies in the range of double precision. -/
def isFinite (n : Numeral) : Bool :=
  let (significand, exponent) := n.approximation
  significand == 0 || exponent < 0 ||
    -- near the end of the range the answer is that of the product of two rounded factors
    (exponent ≤ 308 &&
      roundToDouble significand * roundToDouble (Nat.pow 10 exponent.toNat) < overflowBound)

end Numeral

namespace Reader

/-- Read the digits before the point; `atEnd` is the fault of a text that ends there. -/
def wholePart (atEnd : Fault) : Reader Numeral
  | [] => .error atEnd
  | c :: rest =>
    if c == '0' then
      if rest.head?.any (·.isDigit) then .error .malformed else .ok (.one ⟨[c], [], 0⟩ rest)
    else if c.isDigit then
      .ok ⟨⟨c :: rest.takeWhile (·.isDigit), [], 0⟩, rest.dropWhile (·.isDigit),
        Nat.lt_succ_of_le (List.dropWhile_sublist _).length_le⟩
    else .error .malformed

/-- Go on with the point and the digits after it, if there is a point. -/
def addFraction {cs : List Char} (atEnd : Fault) (found : Found Numeral cs) :
    Except Fault (Found Numeral cs) :=
  match h : found.rest with
  | '.' :: rest =>
    let digits := rest.takeWhile (·.isDigit)
    if rest.isEmpty then .error atEnd
    else if digits.isEmpty then .error .malformed
    else .ok ⟨{ found.value with fraction := digits }, rest.dropWhile (·.isDigit), by
      have h1 := (List.dropWhile_sublist (l := rest) (·.isDigit)).length_le
      have h2 := found.shorter
      simp only [h, List.length_cons] at h2
      omega⟩
  | _ => .ok found

/-- The text after the sign it may start with, and whether that is a minus. -/
def dropSign : List Char → Bool × List Char
  | '+' :: rest => (false, rest)
  | '-' :: rest => (true, rest)
  | cs => (false, cs)

theorem dropSign_length_le (cs : List Char) : (dropSign cs).2.length ≤ cs.length := by
  unfold dropSign; split <;> simp

/-- Go on with the exponent, if there is one. -/
def addExponent {cs : List Char} (atEnd : Fault) (found : Found Numeral cs) :
    Except Fault (Found Numeral cs) :=
  match h : found.rest with
  | [] => .ok found
  | e :: rest =>
    if e == 'e' || e == 'E' then
      let digits := (dropSign rest).2.takeWhile (·.isDigit)
      if (dropSign rest).2.isEmpty then .error atEnd
      else if digits.isEmpty then .error .malformed
      else
        let size : Int := ofDigits digits
        let exponent := if (dropSign rest).1 then -size else size
        .ok ⟨{ found.value with exponent }, (dropSign rest).2.dropWhile (·.isDigit), by
          have h1 := (List.dropWhile_sublist (l := (dropSign rest).2) (·.isDigit)).length_le
          have h2 := dropSign_length_le rest
          have h3 := found.shorter
          simp only [h, List.length_cons] at h3
          omega⟩
    else .ok found

/-- Take a number apart that has no sign. -/
def unsignedNumeral (atEnd : Fault) : Reader Numeral := fun cs => do
  addExponent atEnd (← addFraction atEnd (← wholePart atEnd cs))

/-- Take a number apart, without its sign. -/
def numeral (atEnd : Fault) : Reader Numeral
  | '-' :: rest => (unsignedNumeral atEnd rest).map (·.after)
  | cs => unsignedNumeral atEnd cs

def number : Reader String := fun cs => do
  let found ← numeral .truncated cs
  if found.value.isFinite then
    return found.map fun _ => String.ofList (cs.take (cs.length - found.rest.length))
  else .error .malformed

/-- Pass over a number. One that the end of the text cuts short counts as malformed. -/
def skipNumber : Reader Unit := fun cs => (numeral .malformed cs).map (·.map fun _ => ())

end Reader

end NameBridge.Json
