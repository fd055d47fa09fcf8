import Linkage.Archive.Writer

set_option autoImplicit false

/-! # Reading archives

A reader looks at the name, the size and the terminator of a header and at nothing else in
it. Long names lie elsewhere: `/12` is an offset into a table of names, which a member of
its own holds, and `#1/12` says that the data starts with a name of twelve bytes.

The first members of an archive may be special: symbol tables in several dialects, and the
table of names. They are told by their names, and only in certain orders; the members after
them are ordinary ones, whatever their names are.
-/

namespace Linkage.Archive

/-- Why an archive cannot be read. -/
inductive Error where
  | memberHeader
  | terminator
  | memberSize
  | nameOffset
  | nameLength
  | dataSize
deriving DecidableEq

/-- The wording of an error. -/
def Error.message : Error → String
  | memberHeader => "Invalid archive member header"
  | terminator => "Invalid archive terminator"
  | memberSize => "Invalid archive member size"
  | nameOffset => "Invalid archive extended name offset"
  | nameLength => "Invalid archive extended name length"
  | dataSize => "Archive member size is too large"

/-! ## Fields -/

/-- The space that fills up fields. -/
def space : UInt8 := 0x20

/-- The byte that ends names. -/
def slash : UInt8 := 0x2F

/-- Whether a byte is a decimal digit. -/
def isDigit (b : UInt8) : Bool := 0x30 ≤ b && b ≤ 0x39

/-- The number in a field: decimal digits up to the first space, which does not start it. -/
def number? (field : Bytes) : Option Nat :=
  let digits := field.takeWhile (· != space)
  if field.head? != some space && digits.all isDigit then
    some (digits.foldl (fun n b => n * 10 + (b.toNat - 0x30)) 0)
  else none

/-- The name at an offset of the table of names. It ends at a zero byte, or at a line feed
with a slash before it. -/
def tableName? (table : Bytes) (digits : Bytes) : Option Bytes := do
  let offset ← number? digits
  if offset > table.length then none
  else
    let tail := table.drop offset
    let name := tail.takeWhile fun b => b != 0x0A && b != 0
    match tail.drop name.length with
    | 0 :: _ => some name
    | 0x0A :: _ => if name.getLast? == some slash then some name.dropLast else none
    | _ => none

/-- The name that is stored as it is: up to the first slash, or without one up to the first
space. A name that starts with a slash goes up to the first space. -/
def shortName (field : Bytes) : Bytes :=
  if field.head? == some slash || !field.contains slash then field.takeWhile (· != space)
  else field.takeWhile (· != slash)

/-! ## Members -/

/-- A member: its name, the size that its data should have, and the bytes of the archive
from the start of its data on. -/
structure Member where
  name : Bytes
  size : Nat
  tail : Bytes
deriving DecidableEq

/-- The data of a member, if the archive holds all of it. -/
def Member.data (m : Member) : Except Error Bytes :=
  if m.size ≤ m.tail.length then .ok (m.tail.take m.size) else .error .dataSize

/-- The member with a name field, in front of its data. -/
def Member.named (table field : Bytes) (size : Nat) (body : Bytes) : Except Error Member :=
  match field with
  | 0x2F :: b :: _ =>
      if isDigit b then
        match tableName? table (field.drop 1) with
        | some name => .ok ⟨name, size, body⟩
        | none => .error .nameOffset
      else .ok ⟨shortName field, size, body⟩
  | 0x23 :: 0x31 :: 0x2F :: b :: _ =>
      if isDigit b then
        match number? (field.drop 3) with
        | none => .error .nameLength
        | some length =>
            if length ≤ size && length ≤ body.length then
              .ok ⟨(body.take length).takeWhile (· != 0), size - length, body.drop length⟩
            else .error .nameLength
      else .ok ⟨shortName field, size, body⟩
  | _ => .ok ⟨shortName field, size, body⟩

/-- The first member of some bytes, and the bytes after it. A member whose data runs past
the end is the last one. -/
def Member.first (table input : Bytes) : Except Error (Member × Bytes) :=
  let header := input.take headerLength
  if header.length < headerLength then .error .memberHeader
  else if header.drop 58 != Archive.terminator then .error .terminator
  else
    match number? ((header.drop 48).take 10) with
    | none => .error .memberSize
    | some size => do
        let body := input.drop headerLength
        let member ← Member.named table (header.take 16) size body
        return (member, body.drop (size + size % 2))

/-- The members of some bytes, at most `count` of them, up to the first error. -/
def membersUpTo (table : Bytes) : Nat → Bytes → List (Except Error Member)
  | 0, _ => []
  | _, [] => []
  | count + 1, input =>
      match Member.first table input with
      | .error e => [.error e]
      | .ok (member, rest) => .ok member :: membersUpTo table count rest

end Archive

/-- An archive: its table of names, and the bytes of its ordinary members. -/
structure Archive where
  table : Bytes
  body : Bytes
deriving DecidableEq

namespace Archive

/-- The ordinary members in order. If one cannot be read, the error stands in its place and
nothing follows. -/
def members (a : Archive) : List (Except Error Member) := membersUpTo a.table a.body.length a.body

/-! ## Special members -/

/-- The first member, if there are any bytes. -/
def peek (table input : Bytes) : Except Error (Option (Member × Bytes)) :=
  if input.isEmpty then .ok none else do return some (← Member.first table input)

/-- The archive whose ordinary members start here, after a table of names if the next member
is one. -/
def afterSymbols (input : Bytes) : Except Error Archive := do
  match ← peek [] input with
  | some (member, rest) =>
      if member.name = ascii "//" then return ⟨← member.data, rest⟩ else return ⟨[], input⟩
  | none => return ⟨[], input⟩

/-- What follows two symbol tables: a table of names, and then one more table of symbols.
A member that is no table of names is only passed over in looking for the latter. -/
def afterSecondSymbols (input : Bytes) : Except Error Archive := do
  let (archive, ahead) ← match ← peek [] input with
    | some (member, rest) =>
        if member.name = ascii "//" then pure (⟨← member.data, rest⟩, rest)
        else pure ((⟨[], input⟩ : Archive), rest)
    | none => pure (⟨[], input⟩, input)
  match ← peek archive.table ahead with
  | some (member, rest) =>
      if member.name = ascii "/<ECSYMBOLS>/" then return { archive with body := rest }
      else return archive
  | none => return archive

/-- The names of symbol tables that come without a table of names. -/
def plainSymbols : List Bytes :=
  [ascii "__.SYMDEF", ascii "__.SYMDEF SORTED", ascii "__.SYMDEF_64", ascii "__.SYMDEF_64 SORTED"]

/-- Reads the special members at the start of an archive, from after its magic line. -/
def ofBody (input : Bytes) : Except Error Archive := do
  match ← peek [] input with
  | none => return ⟨[], input⟩
  | some (member, rest) =>
      if member.name = ascii "/" then
        match ← peek [] rest with
        | none => return ⟨[], rest⟩
        | some (second, after) =>
            if second.name = ascii "/" then afterSecondSymbols after
            else if second.name = ascii "//" then return ⟨← second.data, after⟩
            else return ⟨[], rest⟩
      else if member.name = ascii "/SYM64/" then afterSymbols rest
      else if member.name = ascii "//" then return ⟨← member.data, rest⟩
      else if plainSymbols.contains member.name then return ⟨[], rest⟩
      else return ⟨[], input⟩

end Archive

end Linkage
