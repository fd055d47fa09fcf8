set_option autoImplicit false

/-! # Numerals

Natural numbers as texts of decimal or hexadecimal digits, and doubles as decimal texts.

A finite double is `m * 2 ^ q`. The decimals that read back as it fill an interval around
it, and those with few digits lie on coarse grids of powers of ten. Going from coarse to
fine, the first grid that meets the interval gives the digits; of two points on it the
nearer one is taken, and of two equally near ones the even one. All arithmetic is on natural
numbers: the value and the ends of the interval are numerators over one common denominator.

Two notations show the shortest decimal of a double. Both show that the number is not an
integer: an integral value keeps a zero after its point. The plain notation never uses an
exponent. The compact one writes values below `10 ^ -5` and from `10 ^ 16` on with one, which
has its sign in front.
-/

namespace Linkage

/-! ## Hexadecimal digits -/

namespace Hexadecimal

/-- The value of a hexadecimal digit in either case. -/
def digit? (c : Char) : Option Nat :=
  if c.isDigit then some (c.toNat - '0'.toNat)
  else if 'a' ≤ c ∧ c ≤ 'f' then some (c.toNat - 'a'.toNat + 10)
  else if 'A' ≤ c ∧ c ≤ 'F' then some (c.toNat - 'A'.toNat + 10)
  else none

/-- The number that some hexadecimal digits spell. -/
def value? (digits : List Char) : Option Nat :=
  (digits.mapM digit?).map fun values => values.foldl (fun n d => n * 16 + d) 0

end Hexadecimal

namespace Decimal

/-! ## Decimal digits -/

/-- The value of a decimal digit. -/
def digit (c : Char) : Nat := c.toNat - '0'.toNat

/-- The value of a text of decimal digits. -/
def value (digits : List Char) : Nat := digits.foldl (fun n c => n * 10 + digit c) 0

/-- Reads decimal digits, of which there is at least one. -/
def natural? (text : List Char) : Option Nat :=
  if text != [] && text.all Char.isDigit then some (value text) else none

/-- Reads decimal digits with an optional plus sign in front. -/
def unsigned? : List Char → Option Nat
  | '+' :: digits => natural? digits
  | digits => natural? digits

/-! ## The shortest decimal of a binary fraction -/

/-- A positive decimal `digits * 10 ^ exponent`. -/
structure Scaled where
  digits : Nat
  exponent : Int
deriving DecidableEq

/-- A positive value with the interval around it, over a common denominator. The ends belong
to the interval if `closed`. -/
structure Interval where
  low : Nat
  value : Nat
  high : Nat
  denominator : Nat
  closed : Bool

/-- The decimals that read back as the double `m * 2 ^ q`. Just above a power of two the
doubles below lie half as far apart as those above; `narrow` says that `m` is such. -/
def Interval.ofDouble (m : Nat) (q : Int) (narrow : Bool) : Interval :=
  let scale := Nat.pow 2 (q - 2).toNat
  { low := (4 * m - if narrow then 1 else 2) * scale
    value := 4 * m * scale
    high := (4 * m + 2) * scale
    denominator := Nat.pow 2 (2 - q).toNat
    closed := m % 2 == 0 }

/-- Whether `digits * 10 ^ exponent` lies in an interval. -/
def Interval.holds (i : Interval) (x : Scaled) : Bool :=
  let point := x.digits * Nat.pow 10 x.exponent.toNat * i.denominator
  let unit := Nat.pow 10 (-x.exponent).toNat
  if i.closed then i.low * unit ≤ point && point ≤ i.high * unit
  else i.low * unit < point && point < i.high * unit

/-- The number of digits before the decimal point; not positive for values below one tenth. -/
def Interval.magnitude (i : Interval) : Int :=
  (Nat.toDigits 10 (i.value * Nat.pow 10 400 / i.denominator)).length - 400

/-- The point of the grid of step `10 ^ exponent` that lies in the interval, the nearer one
if there are two around the value. -/
def Interval.onGrid (i : Interval) (exponent : Int) : Option Scaled :=
  let numerator := i.value * Nat.pow 10 (-exponent).toNat
  let step := i.denominator * Nat.pow 10 exponent.toNat
  let below : Scaled := ⟨numerator / step, exponent⟩
  let above : Scaled := ⟨numerator / step + 1, exponent⟩
  let rest := numerator % step
  let nearerFirst :=
    if 2 * rest < step || 2 * rest == step && below.digits % 2 == 0 then [below, above]
    else [above, below]
  nearerFirst.find? fun x => x.digits != 0 && i.holds x

/-- The same decimal without a zero at its end. -/
def Scaled.dropZero (x : Scaled) : Scaled :=
  if x.digits % 10 == 0 then ⟨x.digits / 10, x.exponent + 1⟩ else x

/-- The shortest decimal in an interval of doubles; seventeen digits always suffice. Only on
the coarsest grid can the point found end in a zero, namely when it is a power of ten. -/
def Interval.shortest (i : Interval) : Scaled :=
  let found := (List.range 17).findSome? fun (n : Nat) => i.onGrid (i.magnitude - (n + 1))
  (found.getD ⟨0, 0⟩).dropZero

/-- The shortest decimal that reads back as a positive finite double. -/
def shortest (x : Float) : Scaled :=
  let bits := x.toBits.toNat
  let fraction := bits % Nat.pow 2 52
  let biased : Nat := bits / Nat.pow 2 52 % Nat.pow 2 11
  if biased == 0 then (Interval.ofDouble fraction (-1074) false).shortest
  else
    let narrow := fraction == 0 && biased != 1
    (Interval.ofDouble (Nat.pow 2 52 + fraction) ((biased : Int) - 1075) narrow).shortest

/-! ## Writing doubles -/

/-- The sign of a double, also of zero. -/
def signText (x : Float) : String := if x.toBits >>> 63 == 1 then "-" else ""

/-- Digits with a point after the first `places` of them, filled up with zeros. -/
def positional (digits : String) (places : Int) : String :=
  if places ≤ 0 then "0." ++ "".pushn '0' (-places).toNat ++ digits
  else if digits.length ≤ places.toNat then
    digits ++ "".pushn '0' (places.toNat - digits.length) ++ ".0"
  else
    String.ofList (digits.toList.take places.toNat) ++ "."
      ++ String.ofList (digits.toList.drop places.toNat)

/-- Digits with a point after the first one and a power of ten. -/
def exponential (digits : String) (places : Int) : String :=
  let sign := if places < 1 then "-" else "+"
  let exponent := "e" ++ sign ++ toString (places - 1).natAbs
  match digits.toList with
  | [] => ""
  | [d] => String.ofList [d] ++ exponent
  | d :: rest => String.ofList (d :: '.' :: rest) ++ exponent

/-- The digits of a positive double and the number of them before the point. -/
def digitsOf (x : Float) : String × Int :=
  let s := shortest x
  let digits := toString s.digits
  (digits, digits.length + s.exponent)

/-- A double in plain notation. -/
def plain (x : Float) : String :=
  if x.isNaN then "NaN"
  else if x.isInf then signText x ++ "inf"
  else if x == 0.0 then signText x ++ "0.0"
  else
    let (digits, places) := digitsOf x.abs
    signText x ++ positional digits places

/-- A finite double in compact notation. -/
def compact (x : Float) : String :=
  if x == 0.0 then signText x ++ "0.0"
  else
    let (digits, places) := digitsOf x.abs
    signText x ++
      if -5 < places && places ≤ 16 then positional digits places
      else exponential digits places

end Decimal

end Linkage
