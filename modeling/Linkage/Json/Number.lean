import Linkage.Numerals

set_option autoImplicit false

/-! # Numbers in JSON text

A number is an optional minus sign, digits without a leading zero, and optionally a fraction
and an exponent. Without fraction and exponent it is an integer as long as it fits 64 bits,
unsigned if positive and signed if negative; all else is a double. The value of a double
comes from the leading digits, as many as fit an unsigned word, scaled by a power of ten;
digits beyond that only move the point. A number too large for a double is no number.
-/

namespace Linkage.Json

/-- A number in JSON text. -/
inductive Number where
  | integer (value : Int)
  | floating (value : Float)

/-- The digits of a number text. -/
structure NumberText where
  negative : Bool
  whole : List Char
  fraction : Option (List Char)
  /-- The sign and the digits of the exponent. -/
  exponent : Option (Bool × List Char)

namespace NumberText

open Decimal (digit)

/-- The digits that fit an unsigned word, and how many are left out: once a digit does not
fit, all that follow are left out too. -/
def leading (digits : List Char) : Nat × Nat :=
  digits.foldl (fun (n, dropped) c =>
    if dropped == 0 && n * 10 + digit c < UInt64.size then (n * 10 + digit c, 0)
    else (n, dropped + 1)) (0, 0)

/-- Takes up digits after the point while they fit; each moves the point by one place. -/
def absorb : Nat × Int → List Char → Nat × Int
  | state, [] => state
  | (n, places), c :: rest =>
      if n * 10 + digit c < UInt64.size then absorb (n * 10 + digit c, places - 1) rest
      else (n, places)

/-- A power of ten, rounded to a double. -/
def powerOfTen (n : Nat) : Float := Float.ofScientific 1 false n

/-- `x * 10 ^ exponent`, in steps of at most `10 ^ 308`; `none` beyond the largest double.
A value below the smallest double is zero after two steps. -/
def scale : Nat → Float → Int → Option Float
  | 0, x, _ => some x
  | steps + 1, x, exponent =>
      if exponent.natAbs ≤ 308 then
        if exponent ≥ 0 then
          let y := x * powerOfTen exponent.toNat
          if y.isInf then none else some y
        else some (x / powerOfTen (-exponent).toNat)
      else if x == 0.0 then some x
      else if exponent > 0 then none
      else scale steps (x / powerOfTen 308) (exponent + 308)

/-- The double of a number text. -/
def toDouble (t : NumberText) : Option Float :=
  let (n, dropped) := leading t.whole
  let (n, places) := absorb (n, dropped) (t.fraction.getD [])
  let magnitude : Option Float :=
    match t.exponent with
    | none => scale 4 (UInt64.ofNat n).toFloat places
    | some (negative, digits) =>
        let e := Decimal.value digits
        if e < UInt32.size / 2 then
          scale 4 (UInt64.ofNat n).toFloat (if negative then places - e else places + e)
        else if n != 0 && !negative then none
        else some 0.0
  magnitude.map fun x => if t.negative then -x else x

/-- The number of a text: an integer where the text is one that fits, else a double. -/
def toNumber (t : NumberText) : Option Number :=
  let n := Decimal.value t.whole
  if t.fraction.isNone && t.exponent.isNone then
    if !t.negative && n < UInt64.size then some (.integer n)
    else if t.negative && n != 0 && n ≤ UInt64.size / 2 then some (.integer (-n))
    else t.toDouble.map .floating
  else t.toDouble.map .floating

end NumberText

/-- The digits at the start of a text, if there are any, and what follows. -/
def readDigits (cs : List Char) : Option (List Char × List Char) :=
  match cs.takeWhile Char.isDigit with
  | [] => none
  | digits => some (digits, cs.dropWhile Char.isDigit)

/-- The digits before the point: more than one only if the first is not zero. -/
def readWhole (cs : List Char) : Option (List Char × List Char) :=
  match readDigits cs with
  | some ('0' :: _ :: _, _) => none
  | found => found

/-- The fraction at the start of a text, if there is one. -/
def readFraction : List Char → Option (Option (List Char) × List Char)
  | '.' :: cs => (readDigits cs).map fun (digits, rest) => (some digits, rest)
  | cs => some (none, cs)

/-- The sign of an exponent. -/
def readExponentSign : List Char → Bool × List Char
  | '-' :: cs => (true, cs)
  | '+' :: cs => (false, cs)
  | cs => (false, cs)

/-- The exponent at the start of a text, if there is one. -/
def readExponent : List Char → Option (Option (Bool × List Char) × List Char)
  | c :: cs =>
      if c = 'e' || c = 'E' then
        let (negative, digits) := readExponentSign cs
        (readDigits digits).map fun (digits, rest) => (some (negative, digits), rest)
      else some (none, c :: cs)
  | [] => some (none, [])

/-- The number at the start of a text, without a sign of its own. -/
def readUnsigned (negative : Bool) (cs : List Char) : Option (Number × List Char) := do
  let (whole, cs) ← readWhole cs
  let (fraction, cs) ← readFraction cs
  let (exponent, cs) ← readExponent cs
  let number ← NumberText.toNumber ⟨negative, whole, fraction, exponent⟩
  return (number, cs)

/-- The number at the start of a text. -/
def readNumber : List Char → Option (Number × List Char)
  | '-' :: cs => readUnsigned true cs
  | cs => readUnsigned false cs

end Linkage.Json
