import Linkage.Numerals
import Linkage.Toml.Document

set_option autoImplicit false

/-! # Scalars in TOML text

Strings in their four forms, numbers, dates and times, and booleans. A reader takes a value
from the start of a text and gives it with the text that follows, or nothing if the text
does not start with such a value.
-/

namespace Linkage.Toml

/-- Takes a value from the start of a text and gives it with the text after it. -/
abbrev Reader (α : Type) := List Char → Option (α × List Char)

/-! ## Blanks -/

/-- Blanks within a line. -/
def isBlank (c : Char) : Bool := c == ' ' || c == '\t'

/-- The text from the first character that is not a blank of the line. -/
def skipBlank (cs : List Char) : List Char := cs.dropWhile isBlank

/-- The text after a line break. -/
def newline? : List Char → Option (List Char)
  | '\n' :: rest => some rest
  | '\r' :: '\n' :: rest => some rest
  | _ => none

/-- Whether a character may stand in a comment or in a string as itself: tabs and all
characters but the controls. -/
def isText (c : Char) : Bool := c == '\t' || 0x20 ≤ c.toNat && c.toNat != 0x7F

/-- The text after blanks and line breaks. -/
def skipLines : List Char → List Char
  | ' ' :: rest => skipLines rest
  | '\t' :: rest => skipLines rest
  | '\n' :: rest => skipLines rest
  | '\r' :: '\n' :: rest => skipLines rest
  | cs => cs

/-! ## Strings -/

/-- The character whose code point some hexadecimal digits spell. -/
def codePoint? (digits : List Char) : Option Char := do
  let n ← Hexadecimal.value? digits
  if n < 0xD800 ∨ 0xE000 ≤ n ∧ n < 0x110000 then some (Char.ofNat n) else none

/-- The character of an escape with one letter. -/
def shortEscape? : Char → Option Char
  | 'b' => some '\x08'
  | 't' => some '\t'
  | 'n' => some '\n'
  | 'f' => some '\x0c'
  | 'r' => some '\r'
  | '"' => some '"'
  | '\\' => some '\\'
  | _ => none

/-- The rest of a string of one line up to its closing quote; `done` holds what was read,
last character first. -/
def readBasic (done : List Char) : List Char → Option (String × List Char)
  | [] => none
  | '"' :: rest => some (String.ofList done.reverse, rest)
  | '\\' :: 'u' :: a :: b :: c :: d :: rest =>
      match codePoint? [a, b, c, d] with
      | none => none
      | some ch => readBasic (ch :: done) rest
  | '\\' :: 'U' :: a :: b :: c :: d :: e :: f :: g :: h :: rest =>
      match codePoint? [a, b, c, d, e, f, g, h] with
      | none => none
      | some ch => readBasic (ch :: done) rest
  | '\\' :: c :: rest =>
      match shortEscape? c with
      | none => none
      | some ch => readBasic (ch :: done) rest
  | c :: rest => if isText c && c != '\\' then readBasic (c :: done) rest else none

/-- The rest of a string of one line without escapes. -/
def readLiteral (cs : List Char) : Option (String × List Char) :=
  match cs.dropWhile fun c => isText c && c != '\x27' with
  | '\x27' :: rest => some (String.ofList (cs.takeWhile fun c => isText c && c != '\x27'), rest)
  | _ => none

/-- What a place in a string of several lines is: within the string, its end with the quotes
that still belong to it, or too many quotes for either. -/
inductive Ending where
  | inside
  | closed (quotes : Nat) (rest : List Char)
  | overlong

/-- How a run of quotes ends a string of several lines: three quotes end it, and up to two
more before them belong to it. -/
def ending (quote : Char) (cs : List Char) : Ending :=
  let run := (cs.takeWhile (· == quote)).length
  if run < 3 then .inside
  else if run ≤ 5 then .closed (run - 3) (cs.drop run)
  else .overlong

/-- The rest of a string of several lines up to its closing quotes. Line breaks are single
line feeds in the value. A backslash before one takes it away together with all blanks and
line breaks up to the next text; `skipping` says that this is going on. -/
def readLong (quote : Char) (escapes : Bool) (skipping : Bool) (done : List Char) :
    List Char → Option (String × List Char)
  | [] => none
  | '\n' :: rest =>
      readLong quote escapes skipping (if skipping then done else '\n' :: done) rest
  | '\r' :: '\n' :: rest =>
      readLong quote escapes skipping (if skipping then done else '\n' :: done) rest
  | c :: rest =>
      if isBlank c && skipping then readLong quote escapes true done rest
      else if c == quote then
        match ending quote (c :: rest) with
        | .overlong => none
        | .closed quotes rest =>
            some (String.ofList (List.replicate quotes quote ++ done).reverse, rest)
        | .inside => readLong quote escapes false (c :: done) rest
      else if c == '\\' && escapes then
        if (newline? (skipBlank rest)).isSome then readLong quote escapes true done rest
        else
          match rest with
          | 'u' :: a :: b :: c :: d :: rest =>
              match codePoint? [a, b, c, d] with
              | none => none
              | some ch => readLong quote escapes false (ch :: done) rest
          | 'U' :: a :: b :: c :: d :: e :: f :: g :: h :: rest =>
              match codePoint? [a, b, c, d, e, f, g, h] with
              | none => none
              | some ch => readLong quote escapes false (ch :: done) rest
          | c :: rest =>
              match shortEscape? c with
              | none => none
              | some ch => readLong quote escapes false (ch :: done) rest
          | [] => none
      else if isText c then readLong quote escapes false (c :: done) rest
      else none

/-- A line break right after the opening quotes does not count. -/
def skipNewline (cs : List Char) : List Char := (newline? cs).getD cs

/-- A string of one line in either kind of quotes. -/
def readShortString : List Char → Option (String × List Char)
  | '"' :: rest => readBasic [] rest
  | '\x27' :: rest => readLiteral rest
  | _ => none

/-- A string in any form. -/
def readString : List Char → Option (String × List Char)
  | '"' :: '"' :: '"' :: rest => readLong '"' true false [] (skipNewline rest)
  | '\x27' :: '\x27' :: '\x27' :: rest => readLong '\x27' false false [] (skipNewline rest)
  | cs => readShortString cs

/-! ## Numbers -/

/-- The rest of a run of digits after its first one: single underscores may stand between
digits. -/
def moreDigits (isDigit : Char → Bool) : List Char → List Char × List Char
  | '_' :: c :: rest =>
      if isDigit c then
        let (digits, rest) := moreDigits isDigit rest
        (c :: digits, rest)
      else ([], '_' :: c :: rest)
  | c :: rest =>
      if isDigit c then
        let (digits, rest) := moreDigits isDigit rest
        (c :: digits, rest)
      else ([], c :: rest)
  | [] => ([], [])

/-- A run of digits, of which there is at least one; the underscores are left out. -/
def readDigits (isDigit : Char → Bool) : List Char → Option (List Char × List Char)
  | c :: rest =>
      if isDigit c then
        let (digits, rest) := moreDigits isDigit rest
        some (c :: digits, rest)
      else none
  | [] => none

/-- The digits of a decimal integer: a zero stands alone. -/
def readWhole : List Char → Option (List Char × List Char)
  | '0' :: rest => some (['0'], rest)
  | cs => readDigits Char.isDigit cs

/-- An optional sign; `true` for minus. -/
def readSign : List Char → Bool × List Char
  | '-' :: rest => (true, rest)
  | '+' :: rest => (false, rest)
  | cs => (false, cs)

/-- The value of digits in a base. -/
def valueIn (base : Nat) (digits : List Char) : Nat :=
  digits.foldl (fun n c => n * base + (Hexadecimal.digit? c).getD 0) 0

/-- An integer, if it fits 64 bits. -/
def integer? (negative : Bool) (n : Nat) : Option Value :=
  if negative then if n ≤ UInt64.size / 2 then some (.integer (-n)) else none
  else if n < UInt64.size / 2 then some (.integer n) else none

/-- Digits in a base after its mark. -/
def readBased (base : Nat) (cs : List Char) : Option (Value × List Char) := do
  let isDigit := fun c => (Hexadecimal.digit? c).any (· < base)
  let (digits, rest) ← readDigits isDigit cs
  return (← integer? false (valueIn base digits), rest)

/-- An integer. The marks of other bases follow a zero without a sign. -/
def readInteger : List Char → Option (Value × List Char)
  | '0' :: 'x' :: rest => readBased 16 rest
  | '0' :: 'o' :: rest => readBased 8 rest
  | '0' :: 'b' :: rest => readBased 2 rest
  | cs => do
      let (negative, cs) := readSign cs
      let (digits, rest) ← readWhole cs
      return (← integer? negative (Decimal.value digits), rest)

/-- The double nearest to `digits * 10 ^ exponent`. Beyond four hundred places the value is
zero or infinite, whatever the digits are. -/
def nearestDouble (digits : List Char) (exponent : Int) : Float :=
  let n := Decimal.value digits
  let places := (Nat.toDigits 10 n).length + exponent
  if n = 0 ∨ places < -400 then 0.0
  else if places > 400 then 1.0 / 0.0
  else Float.ofScientific n (exponent < 0) exponent.natAbs

/-- An exponent with its mark, if the text starts with one. -/
def readExponent : List Char → Option (Int × List Char)
  | c :: rest =>
      if c == 'e' || c == 'E' then do
        let (negative, cs) := readSign rest
        let (digits, rest) ← readDigits Char.isDigit cs
        let n : Int := Decimal.value digits
        return (if negative then -n else n, rest)
      else none
  | [] => none

/-- A fraction with its point, if the text starts with one. -/
def readFraction : List Char → Option (List Char × List Char)
  | '.' :: rest => readDigits Char.isDigit rest
  | _ => none

/-- A number with a fraction or an exponent. A number above all doubles is refused; one
below all of them is minus infinity. -/
def readDecimal (cs : List Char) : Option (Value × List Char) := do
  let (negative, cs) := readSign cs
  let (whole, cs) ← readWhole cs
  let (fraction, exponent, rest) ←
    match readFraction cs with
    | some (fraction, cs) =>
        match readExponent cs with
        | some (exponent, rest) => some (fraction, exponent, rest)
        | none => some (fraction, 0, cs)
    | none => (readExponent cs).map fun (exponent, rest) => ([], exponent, rest)
  let x := nearestDouble (whole ++ fraction) (exponent - fraction.length)
  if x.isInf && !negative then none
  else return (.floating (if negative then -x else x), rest)

/-- Infinity or an undefined number, with an optional sign. -/
def readSpecial (cs : List Char) : Option (Value × List Char) :=
  match readSign cs with
  | (negative, 'i' :: 'n' :: 'f' :: rest) =>
      some (.floating (if negative then -1.0 / 0.0 else 1.0 / 0.0), rest)
  | (_, 'n' :: 'a' :: 'n' :: rest) => some (.floating (0.0 / 0.0), rest)
  | _ => none

/-! ## Dates and times -/

/-- A number of exactly `count` digits in a range. -/
def readField (count low high : Nat) (cs : List Char) : Option (Nat × List Char) :=
  let digits := cs.take count
  let n := Decimal.value digits
  if digits.length = count ∧ digits.all Char.isDigit ∧ low ≤ n ∧ n ≤ high then
    some (n, cs.drop count)
  else none

/-- The text after one given character. -/
def expect (c : Char) : List Char → Option (List Char)
  | d :: rest => if d = c then some rest else none
  | [] => none

/-- The number of days of a month. -/
def daysIn (year month : Nat) : Nat :=
  if month = 2 then
    if year % 4 = 0 ∧ (year % 100 ≠ 0 ∨ year % 400 = 0) then 29 else 28
  else if month = 4 ∨ month = 6 ∨ month = 9 ∨ month = 11 then 30
  else 31

/-- The text after a date. -/
def skipDate (cs : List Char) : Option (List Char) := do
  let (year, cs) ← readField 4 0 9999 cs
  let (month, cs) ← readField 2 1 12 (← expect '-' cs)
  let (_, cs) ← readField 2 1 (daysIn year month) (← expect '-' cs)
  return cs

/-- The text after a fraction of a second, if the text starts with one. -/
def skipSecondFraction : List Char → List Char
  | '.' :: c :: rest => if c.isDigit then rest.dropWhile Char.isDigit else '.' :: c :: rest
  | cs => cs

/-- The text after a time of day. A minute may have a leap second. -/
def skipTime (cs : List Char) : Option (List Char) := do
  let (_, cs) ← readField 2 0 23 cs
  let (_, cs) ← readField 2 0 59 (← expect ':' cs)
  let (_, cs) ← readField 2 0 60 (← expect ':' cs)
  return skipSecondFraction cs

/-- The text after an offset from universal time, if the text starts with one. -/
def skipOffset (cs : List Char) : List Char :=
  match cs with
  | 'Z' :: rest => rest
  | 'z' :: rest => rest
  | c :: rest =>
      if c == '+' || c == '-' then
        match (do
          let (_, cs) ← readField 2 0 23 rest
          let (_, cs) ← readField 2 0 59 (← expect ':' cs)
          return cs : Option (List Char)) with
        | some rest => rest
        | none => cs
      else cs
  | [] => []

/-- A date, a time of day, or both; a date may be followed by a time and an offset. -/
def readDatetime (cs : List Char) : Option (Value × List Char) :=
  match skipDate cs with
  | some after =>
      match after with
      | c :: rest =>
          if c == 'T' || c == 't' || c == ' ' then
            match skipTime rest with
            | some rest => some (.datetime, skipOffset rest)
            | none => some (.datetime, after)
          else some (.datetime, after)
      | [] => some (.datetime, [])
  | none => (skipTime cs).map fun rest => (.datetime, rest)

/-! ## All scalars -/

/-- The first of several readers that finds a value. -/
def firstOf {α : Type} (readers : List (Reader α)) : Reader α :=
  fun cs => readers.findSome? fun read => read cs

/-- A value without parts. -/
def readScalar (cs : List Char) : Option (Value × List Char) :=
  match cs with
  | '"' :: _ => (readString cs).map fun (s, rest) => (.string s, rest)
  | '\x27' :: _ => (readString cs).map fun (s, rest) => (.string s, rest)
  | 't' :: 'r' :: 'u' :: 'e' :: rest => some (.boolean true, rest)
  | 'f' :: 'a' :: 'l' :: 's' :: 'e' :: rest => some (.boolean false, rest)
  | _ => firstOf [readDatetime, readDecimal, readSpecial, readInteger] cs

end Linkage.Toml
