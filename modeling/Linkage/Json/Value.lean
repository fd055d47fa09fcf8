import Linkage.Numerals
import Linkage.Json.Number
import Linkage.Schema

set_option autoImplicit false

/-! # JSON values

Values keep their members in the order of the text, repeated ones included, because a
reader of records has to see them all. The text is taken from left to right, and it may stop
being JSON on the way: `malformed` stands for a value at which it does, and an array or
object that is not `closed` ends because no further item and no bracket follows. What
comes before such a place is read like any other value.
-/

namespace Linkage

/-- What a text spells as JSON, as far as it does. -/
inductive Json where
  | null
  | boolean (value : Bool)
  | number (value : Json.Number)
  | string (value : String)
  | array (items : List Json) (closed : Bool)
  | object (members : List (String × Json)) (closed : Bool)
  | malformed

namespace Json

/-! ## Printing -/

/-- The four hexadecimal digits of a small code point. -/
def hex4 (n : Nat) : List Char :=
  let digits := Nat.toDigits 16 n
  List.replicate (4 - digits.length) '0' ++ digits

/-- A character between the quotes of a string. -/
def escapeChar (c : Char) : List Char :=
  if c = '"' || c = '\\' then ['\\', c]
  else if c = '\x08' then ['\\', 'b']
  else if c = '\t' then ['\\', 't']
  else if c = '\n' then ['\\', 'n']
  else if c = '\x0c' then ['\\', 'f']
  else if c = '\r' then ['\\', 'r']
  else if c.toNat < 0x20 then '\\' :: 'u' :: hex4 c.toNat
  else [c]

/-- A string in quotes. -/
def printString (s : String) : List Char := '"' :: s.toList.flatMap escapeChar ++ ['"']

/-- The text of a number. -/
def Number.text : Number → String
  | integer value => toString value
  | floating value => Decimal.compact value

mutual

/-- The text of a value without any blanks. -/
def print : Json → List Char
  | null => "null".toList
  | boolean true => "true".toList
  | boolean false => "false".toList
  | number value => value.text.toList
  | string value => printString value
  | array items closed => '[' :: printItems items ++ if closed then [']'] else []
  | object members closed => '\x7b' :: printMembers members ++ if closed then ['\x7d'] else []
  | malformed => []

/-- The items of an array with commas between them. -/
def printItems : List Json → List Char
  | [] => []
  | [item] => print item
  | item :: rest => print item ++ ',' :: printItems rest

/-- The members of an object with commas between them. -/
def printMembers : List (String × Json) → List Char
  | [] => []
  | [(key, value)] => printString key ++ ':' :: print value
  | (key, value) :: rest => printString key ++ ':' :: print value ++ ',' :: printMembers rest

end

/-- An object with the given members. -/
def ofMembers (members : List (String × Json)) : Json := object members true

/-- An array with the given items. -/
def ofItems (items : List Json) : Json := array items true

/-! ## Values as a schema sees them -/

/-- A value where another kind of value is expected. A text that is not JSON counts first. -/
def mismatch (expected : String) : Json → Schema.Fault
  | null => .invalidType .null expected
  | boolean value => .invalidType (.boolean value) expected
  | number (.integer value) => .invalidType (.integer value) expected
  | number (.floating value) => .invalidType (.floating (Decimal.compact value)) expected
  | string value => .invalidType (.string value) expected
  | array _ _ => .invalidType .sequence expected
  | object _ _ => .invalidType .map expected
  | malformed => .malformed

end Json

end Linkage
