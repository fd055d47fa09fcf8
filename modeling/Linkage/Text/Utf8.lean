import Linkage.Align

set_option autoImplicit false

/-! # UTF-8

A character is written as one to four bytes. Reading goes byte by byte: between two
characters the decoder is `ready`, and after a leading byte it is `inside` a character,
knowing how many bytes are still due and the range in which the next one has to lie. The
first continuation byte has a narrower range after `E0`, `ED`, `F0` and `F4`; this excludes
overlong forms, surrogates and code points above `10FFFF`.

Decoding never fails as a whole. It gives the longest text that the bytes start with and,
if that is not all, the fault that ends it.
-/

namespace Linkage.Utf8

/-- Text as bytes. -/
def encode (text : List Char) : Bytes := text.flatMap String.utf8EncodeChar

/-- The number of bytes of a text. -/
def size (text : List Char) : Nat := text.foldr (fun c n => c.utf8Size + n) 0

/-- A text split after some bytes, unless that is inside a character or past the end. -/
def splitAt? : Nat → List Char → Option (List Char × List Char)
  | 0, text => some ([], text)
  | _ + 1, [] => none
  | n + 1, c :: text =>
      if c.utf8Size ≤ n + 1 then
        (splitAt? (n + 1 - c.utf8Size) text).map fun (before, after) => (c :: before, after)
      else none

/-- The part of a text between two places that are counted in bytes. -/
def slice? (first last : Nat) (text : List Char) : Option (List Char) := do
  let (_, after) ← splitAt? first text
  let (part, _) ← splitAt? (last - first) after
  return part

/-- Why decoding stopped before the end. -/
inductive Fault where
  /-- The `length` bytes after the text start no character. -/
  | invalid (length : Nat)
  /-- The bytes end inside a character. -/
  | truncated
deriving DecidableEq

/-- The text that a byte string starts with, and the fault that ends it, if any. -/
structure Decoded where
  text : List Char
  fault : Option Fault
deriving DecidableEq

/-- Where the decoder stands: between two characters, or inside one whose first `seen`
bytes gave `value` and whose next `due` bytes follow, the first of them in `low … high`. -/
inductive State where
  | ready
  | inside (due : Nat) (low high : UInt8) (seen value : Nat)

/-- The state after the leading byte of a character of two to four bytes. -/
def lead (b : UInt8) : Option State :=
  if b < 0xC2 then none
  else if b < 0xE0 then some (.inside 1 0x80 0xBF 1 (b.toNat - 0xC0))
  else if b = 0xE0 then some (.inside 2 0xA0 0xBF 1 0)
  else if b = 0xED then some (.inside 2 0x80 0x9F 1 13)
  else if b < 0xF0 then some (.inside 2 0x80 0xBF 1 (b.toNat - 0xE0))
  else if b = 0xF0 then some (.inside 3 0x90 0xBF 1 0)
  else if b < 0xF4 then some (.inside 3 0x80 0xBF 1 (b.toNat - 0xF0))
  else if b = 0xF4 then some (.inside 3 0x80 0x8F 1 4)
  else none

/-- Decodes the remaining bytes; `done` holds the characters read so far, last one first. -/
def decodeFrom : State → List Char → Bytes → Decoded
  | .ready, done, [] => ⟨done.reverse, none⟩
  | .ready, done, b :: rest =>
      if b < 0x80 then decodeFrom .ready (Char.ofNat b.toNat :: done) rest
      else
        match lead b with
        | none => ⟨done.reverse, some (.invalid 1)⟩
        | some state => decodeFrom state done rest
  | .inside _ _ _ _ _, done, [] => ⟨done.reverse, some .truncated⟩
  | .inside due low high seen value, done, b :: rest =>
      if low ≤ b ∧ b ≤ high then
        let value := value * 64 + (b.toNat - 0x80)
        if due ≤ 1 then decodeFrom .ready (Char.ofNat value :: done) rest
        else decodeFrom (.inside (due - 1) 0x80 0xBF (seen + 1) value) done rest
      else ⟨done.reverse, some (.invalid seen)⟩

/-- The text that the bytes start with, and what ends it. -/
def decode (bytes : Bytes) : Decoded := decodeFrom .ready [] bytes

end Linkage.Utf8
