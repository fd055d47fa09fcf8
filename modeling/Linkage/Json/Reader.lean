import Linkage.Json.Value
import Linkage.Numerals

set_option autoImplicit false

/-! # Reading JSON text

Reading goes from left to right and gives a value with the text that follows it. Where the
text stops being JSON there is no text to go on with. Each level of nesting reads its items
with the reader of the level below, so the recursion is on the depth; the length of the
whole text bounds both the depth and the number of items.
-/

namespace Linkage.Json

/-- A value, and the text after it unless the text stopped being JSON. -/
abbrev Reading := Json × Option (List Char)

/-- Blanks between tokens. -/
def isBlank (c : Char) : Bool := c == ' ' || c == '\t' || c == '\n' || c == '\r'

/-- The text from the first character that is not blank. -/
def skipBlank (cs : List Char) : List Char := cs.dropWhile isBlank

/-! ## Strings -/

/-- The character of an escape with one letter. -/
def shortEscape? : Char → Option Char
  | '"' => some '"'
  | '\\' => some '\\'
  | '/' => some '/'
  | 'b' => some '\x08'
  | 'f' => some '\x0c'
  | 'n' => some '\n'
  | 'r' => some '\r'
  | 't' => some '\t'
  | _ => none

/-- The character of two UTF-16 units, the first a leading and the second a trailing one. -/
def surrogatePair? (first second : Nat) : Option Char :=
  if 0xD800 ≤ first ∧ first < 0xDC00 ∧ 0xDC00 ≤ second ∧ second < 0xE000 then
    some (Char.ofNat (0x10000 + (first - 0xD800) * 0x400 + (second - 0xDC00)))
  else none

/-- The rest of a string up to its closing quote; `done` holds what was read, last
character first. Controls have to be escaped, and surrogates come in pairs. -/
def readStringFrom (done : List Char) : List Char → Option (String × List Char)
  | [] => none
  | '"' :: rest => some (String.ofList done.reverse, rest)
  | '\\' :: 'u' :: a :: b :: c :: d :: rest =>
      match Hexadecimal.value? [a, b, c, d] with
      | none => none
      | some n =>
          if n < 0xD800 ∨ 0xE000 ≤ n then readStringFrom (Char.ofNat n :: done) rest
          else
            match rest with
            | '\\' :: 'u' :: e :: f :: g :: h :: rest =>
                match (Hexadecimal.value? [e, f, g, h]).bind (surrogatePair? n) with
                | none => none
                | some ch => readStringFrom (ch :: done) rest
            | _ => none
  | '\\' :: c :: rest =>
      match shortEscape? c with
      | none => none
      | some ch => readStringFrom (ch :: done) rest
  | c :: rest => if c.toNat < 0x20 || c == '\\' then none else readStringFrom (c :: done) rest

/-! ## Values -/

/-- Goes on if the text starts with a word. -/
def readWord (word : List Char) (value : Json) (cs : List Char) : Reading :=
  if word.isPrefixOf cs then (value, some (cs.drop word.length)) else (malformed, none)

/-- A value without parts. -/
def readScalar (cs : List Char) : Reading :=
  match cs with
  | '"' :: rest =>
      match readStringFrom [] rest with
      | some (s, rest) => (string s, some rest)
      | none => (malformed, none)
  | 'n' :: _ => readWord "null".toList null cs
  | 't' :: _ => readWord "true".toList (boolean true) cs
  | 'f' :: _ => readWord "false".toList (boolean false) cs
  | _ =>
      match readNumber cs with
      | some (n, rest) => (number n, some rest)
      | none => (malformed, none)

/-- The items of an array from one of them up to the closing bracket. -/
def readItems (readValue : List Char → Reading) :
    Nat → List Char → List Json × Option (List Char)
  | 0, _ => ([], none)
  | fuel + 1, cs =>
      match readValue cs with
      | (item, none) => ([item], none)
      | (item, some rest) =>
          match skipBlank rest with
          | ']' :: rest => ([item], some rest)
          | ',' :: rest =>
              let (items, rest) := readItems readValue fuel rest
              (item :: items, rest)
          | _ => ([item], none)

/-- A member of an object: a string, a colon and a value. A key that is no string is none. -/
def readMember (readValue : List Char → Reading) (cs : List Char) :
    Option ((String × Json) × Option (List Char)) :=
  match skipBlank cs with
  | '"' :: rest =>
      match readStringFrom [] rest with
      | none => none
      | some (key, rest) =>
          match skipBlank rest with
          | ':' :: rest =>
              let (value, rest) := readValue rest
              some ((key, value), rest)
          | _ => some ((key, malformed), none)
  | _ => none

/-- The members of an object from one of them up to the closing brace. -/
def readMembers (readValue : List Char → Reading) :
    Nat → List Char → List (String × Json) × Option (List Char)
  | 0, _ => ([], none)
  | fuel + 1, cs =>
      match readMember readValue cs with
      | none => ([], none)
      | some (member, none) => ([member], none)
      | some (member, some rest) =>
          match skipBlank rest with
          | '\x7d' :: rest => ([member], some rest)
          | ',' :: rest =>
              let (members, rest) := readMembers readValue fuel rest
              (member :: members, rest)
          | _ => ([member], none)

/-- The value at the start of a text, nested at most `depth` levels deep and with at most
`count` parts at each level. -/
def readValue (count : Nat) : Nat → List Char → Reading
  | 0, cs => readScalar (skipBlank cs)
  | depth + 1, cs =>
      match skipBlank cs with
      | '[' :: rest =>
          match skipBlank rest with
          | ']' :: rest => (array [] true, some rest)
          | _ =>
              let (items, rest) := readItems (readValue count depth) count rest
              (array items rest.isSome, rest)
      | '\x7b' :: rest =>
          match skipBlank rest with
          | '\x7d' :: rest => (object [] true, some rest)
          | _ =>
              let (members, rest) := readMembers (readValue count depth) count rest
              (object members rest.isSome, rest)
      | cs => readScalar cs

/-- What a whole text spells, and whether it spells one value and nothing else. -/
def readText (cs : List Char) : Json × Bool :=
  match readValue cs.length cs.length cs with
  | (value, none) => (value, false)
  | (value, some rest) => (value, skipBlank rest == [])

end Linkage.Json
