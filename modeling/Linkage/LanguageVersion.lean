import Linkage.Numerals

set_option autoImplicit false

/-! # Language versions

A version is written as two numbers with a dot between them. The text is divided at its
first dot; a number is an optional plus sign and decimal digits, and has to fit 32 bits.
-/

namespace Linkage

/-- A version of the language. -/
structure LanguageVersion where
  major : UInt32
  minor : UInt32
deriving DecidableEq

namespace LanguageVersion

/-- The newest version. -/
def latest : LanguageVersion := ⟨2, 0⟩

/-- Versions are ordered by their major numbers, then by their minor ones. -/
def compare (v w : LanguageVersion) : Ordering :=
  (Ord.compare v.major.toNat w.major.toNat).then (Ord.compare v.minor.toNat w.minor.toNat)

/-- Whether a version is newer than another. -/
def newerThan (v w : LanguageVersion) : Bool := compare v w == .gt

/-- The text of a version. -/
def text (v : LanguageVersion) : String :=
  toString v.major.toNat ++ "." ++ toString v.minor.toNat

/-- Reads one of the two numbers. -/
def number? (part : List Char) : Option UInt32 :=
  (Decimal.unsigned? part).bind fun n =>
    if n < UInt32.size then some (UInt32.ofNat n) else none

/-- Reads a version. -/
def ofChars? (text : List Char) : Option LanguageVersion :=
  match text.dropWhile (· != '.') with
  | [] => none
  | _ :: minor => do
      return ⟨← number? (text.takeWhile (· != '.')), ← number? minor⟩

/-- Reads a version. -/
def ofString? (text : String) : Option LanguageVersion := ofChars? text.toList

end LanguageVersion

end Linkage
