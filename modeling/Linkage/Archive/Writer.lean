import Linkage.Text.Utf8

set_option autoImplicit false

/-! # Writing archives

An archive is the magic line `!<arch>` followed by members, each a header of 60 bytes and
its data:

    name 16 | date 12 | owner 6 | group 6 | mode 8 | size 10 | terminator 2

The fields are texts filled up with spaces. Data of odd length is followed by one byte that
belongs to nothing, so every header starts at an even offset.

Entries are written in order with short names only: the name and the slash that ends it have
to fit the name field. Dates and owners are zero and the mode is always the same, so equal
entries give equal archives.

The name field is filled up by characters, while a header counts bytes; a name outside ASCII
therefore makes a header that is too long, and there is no archive then.
-/

namespace Linkage.Archive

/-! ## The format -/

/-- The bytes of an ASCII text. -/
def ascii (text : String) : Bytes := text.toList.map fun c => UInt8.ofNat c.toNat

/-- The line at the start of every archive. -/
def magic : Bytes := ascii "!<arch>\n"

/-- The two bytes at the end of every header. -/
def terminator : Bytes := [0x60, 0x0A]

/-- The number of bytes in a header. -/
def headerLength : Nat := 60

/-! ## Entries -/

/-- Why entries cannot be written. -/
inductive WriteError where
  | invalidName (name : String)
  /-- A header does not have its 60 bytes. -/
  | headerLength
deriving DecidableEq

/-- The longest name, in bytes. -/
def maxNameLength : Nat := 15

/-- The number of bytes of a text. -/
def byteLength (text : String) : Nat := (Utf8.encode text.toList).length

/-- Whether an entry may have a name. -/
def isValidName (name : String) : Bool :=
  name != "" && byteLength name ≤ maxNameLength && !name.toList.contains '/'

/-- A text filled up with spaces to a number of characters. -/
def field (width : Nat) (text : String) : List Char :=
  text.toList ++ List.replicate (width - text.toList.length) ' '

/-- The header of an entry. -/
def header (name : String) (size : Nat) : Bytes :=
  Utf8.encode (field 16 (name ++ "/") ++ field 12 "0" ++ field 6 "0" ++ field 6 "0"
    ++ field 8 "644" ++ field 10 (toString size)) ++ terminator

/-- The header of an entry, if its name is valid and the header has its length. -/
def writeHeader (name : String) (size : Nat) : Except WriteError Bytes :=
  if !isValidName name then .error (.invalidName name)
  else if (header name size).length != headerLength then .error .headerLength
  else .ok (header name size)

/-- The byte after data of odd length. -/
def padding (size : Nat) : Bytes := if size % 2 = 1 then [0x0A] else []

/-- An entry with its header and padding. -/
def writeEntry (name : String) (data : Bytes) : Except WriteError Bytes :=
  (writeHeader name data.length).map fun header => header ++ data ++ padding data.length

/-- Entries one after the other. -/
def writeEntries : List (String × Bytes) → Except WriteError Bytes
  | [] => .ok []
  | (name, data) :: rest => do
      let first ← writeEntry name data
      return first ++ (← writeEntries rest)

/-- An archive with the given entries in order. -/
def write (entries : List (String × Bytes)) : Except WriteError Bytes := do
  return magic ++ (← writeEntries entries)

end Linkage.Archive
