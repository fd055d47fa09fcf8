import Linkage.Proofs.Archive.Header
import Linkage.Proofs.Traversal

set_option autoImplicit false

/-! # Reading what was written

The reader takes a written entry for a member with the name and the data of the entry, and
goes on where the next entry starts (`first_writeEntry`). By induction on the entries it
finds one member for each of them (`reads_membersUpTo`): the scan never looks into the data,
so data that look like headers do no harm.
-/

namespace Linkage.Archive

open Traversal (exists_of_bind_eq_ok map_eq_ok_iff)
open Utf8 (IsAscii)

/-! ## One entry -/

/-- There is a header exactly if the name is valid and ASCII and the size has at most ten
digits. -/
theorem writeHeader_eq_ok_iff {name : String} {size : Nat} {bytes : Bytes} :
    writeHeader name size = .ok bytes ↔ isValidName name = true ∧ IsAscii name.toList
      ∧ size < 10000000000 ∧ header name size = bytes := by
  unfold writeHeader
  by_cases hvalid : isValidName name = true
  · have hlength := length_header_eq_iff hvalid size
    by_cases hheader : (header name size).length = headerLength
    · obtain ⟨hascii, hsize⟩ := hlength.1 hheader
      simp [hvalid, hheader, hascii, hsize]
    · simp only [hvalid, hheader, ne_eq, not_false_eq_true, bne_iff_ne, Bool.not_true,
        Bool.false_eq_true, if_true, if_false, reduceCtorEq, true_and, false_iff]
      rintro ⟨hascii, hsize, -⟩
      exact hheader (hlength.2 ⟨hascii, hsize⟩)
  · simp [hvalid]

/-- An entry is written exactly if it has a header. -/
theorem writeEntry_eq_ok_iff {name : String} {data bytes : Bytes} :
    writeEntry name data = .ok bytes ↔ isValidName name = true ∧ IsAscii name.toList
      ∧ data.length < 10000000000
      ∧ header name data.length ++ data ++ padding data.length = bytes := by
  rw [writeEntry, map_eq_ok_iff]
  constructor
  · rintro ⟨written, hheader, rfl⟩
    obtain ⟨hvalid, hascii, hsize, rfl⟩ := writeHeader_eq_ok_iff.1 hheader
    exact ⟨hvalid, hascii, hsize, rfl⟩
  · rintro ⟨hvalid, hascii, hsize, rfl⟩
    exact ⟨_, writeHeader_eq_ok_iff.2 ⟨hvalid, hascii, hsize, rfl⟩, rfl⟩

@[simp] theorem length_padding (size : Nat) : (padding size).length = size % 2 := by
  unfold padding
  by_cases hodd : size % 2 = 1
  · rw [if_pos hodd, hodd]
    rfl
  · rw [if_neg hodd, List.length_nil]
    omega

/-- The reader's first member of a written entry and what follows it. -/
theorem first_writeEntry {name : String} {data bytes : Bytes}
    (h : writeEntry name data = .ok bytes) (table rest : Bytes) :
    Member.first table (bytes ++ rest)
      = .ok (⟨Utf8.encode name.toList, data.length, data ++ (padding data.length ++ rest)⟩,
          rest) := by
  obtain ⟨hvalid, hascii, hsize, rfl⟩ := writeEntry_eq_ok_iff.1 h
  have hheader := (length_header_eq_iff hvalid data.length).2 ⟨hascii, hsize⟩
  have hname := (length_nameField_eq_iff hvalid).2 hascii
  have hdigits := (length_sizeField_eq_iff data.length).2 hsize
  -- each part of the header stands where the reader looks for it
  have hinput : header name data.length ++ data ++ padding data.length ++ rest
      = header name data.length ++ (data ++ (padding data.length ++ rest)) := by
    simp only [List.append_assoc]
  have htake : (header name data.length ++ (data ++ (padding data.length ++ rest))).take
      headerLength = header name data.length := List.take_left' hheader
  have hdrop : (header name data.length ++ (data ++ (padding data.length ++ rest))).drop
      headerLength = data ++ (padding data.length ++ rest) := List.drop_left' hheader
  have hterminator : (header name data.length).drop 58 = terminator := by
    rw [header_eq, ← List.append_assoc, ← List.append_assoc]
    refine List.drop_left' ?_
    rw [List.length_append, List.length_append, hname, length_fixedFields, hdigits]
  have hnumber : ((header name data.length).drop 48).take 10 = sizeField data.length := by
    rw [header_eq, ← List.append_assoc]
    rw [List.drop_left' (by rw [List.length_append, hname, length_fixedFields])]
    exact List.take_left' hdigits
  have hfield : (header name data.length).take 16 = nameField name := by
    rw [header_eq]
    exact List.take_left' hname
  have hnext : (data ++ (padding data.length ++ rest)).drop (data.length + data.length % 2)
      = rest := by
    rw [← List.append_assoc]
    exact List.drop_left' (by simp)
  rw [hinput, Member.first]
  simp only [htake, hdrop, hheader, hterminator, hnumber, hfield, number?_sizeField,
    named_nameField hvalid hascii, Nat.lt_irrefl, if_false, bne_self_eq_false, Bool.false_eq_true]
  show Except.ok (_, _) = _
  rw [hnext]

theorem length_writeEntry {name : String} {data bytes : Bytes}
    (h : writeEntry name data = .ok bytes) :
    bytes.length = 60 + (data.length + data.length % 2) := by
  obtain ⟨hvalid, hascii, hsize, rfl⟩ := writeEntry_eq_ok_iff.1 h
  have hheader := (length_header_eq_iff hvalid data.length).2 ⟨hascii, hsize⟩
  rw [headerLength] at hheader
  rw [List.length_append, List.length_append, hheader, length_padding]
  omega

theorem append_ne_nil_of_writeEntry {name : String} {data first : Bytes}
    (h : writeEntry name data = .ok first) (rest : Bytes) : first ++ rest ≠ [] := by
  have hlength := length_writeEntry h
  intro hnil
  rw [(List.append_eq_nil_iff.1 hnil).1, List.length_nil] at hlength
  omega

/-! ## All entries -/

theorem writeEntries_cons_eq_ok {name : String} {data bytes : Bytes}
    {entries : List (String × Bytes)} (h : writeEntries ((name, data) :: entries) = .ok bytes) :
    ∃ first rest, writeEntry name data = .ok first ∧ writeEntries entries = .ok rest
      ∧ bytes = first ++ rest := by
  obtain ⟨first, hfirst, h⟩ := exists_of_bind_eq_ok h
  obtain ⟨rest, hrest, h⟩ := exists_of_bind_eq_ok h
  cases h
  exact ⟨first, rest, hfirst, hrest, rfl⟩

theorem length_le_of_writeEntries {entries : List (String × Bytes)} {bytes : Bytes}
    (h : writeEntries entries = .ok bytes) : entries.length ≤ bytes.length := by
  induction entries generalizing bytes with
  | nil => exact Nat.zero_le _
  | cons entry entries ih =>
      obtain ⟨first, rest, hfirst, hrest, rfl⟩ := writeEntries_cons_eq_ok h
      have hlength := length_writeEntry hfirst
      have hle := ih hrest
      rw [List.length_cons, List.length_append]
      omega

/-- What was read is an entry: a member with its name and its data. -/
def Reads (entry : String × Bytes) (read : Except Error Member) : Prop :=
  ∃ member, read = .ok member ∧ member.name = Utf8.encode entry.1.toList
    ∧ member.data = .ok entry.2

theorem membersUpTo_succ (table : Bytes) (count : Nat) {input : Bytes} (h : input ≠ []) :
    membersUpTo table (count + 1) input = match Member.first table input with
      | .error e => [.error e]
      | .ok (member, rest) => .ok member :: membersUpTo table count rest := by
  obtain ⟨b, rest, rfl⟩ := List.exists_cons_of_ne_nil h
  rfl

/-- The data of a member with more bytes after them. -/
theorem data_append (name data rest : Bytes) :
    Member.data ⟨name, data.length, data ++ rest⟩ = .ok data := by
  unfold Member.data
  simp

/-- Written entries are read as members, one for each, in order. -/
theorem reads_membersUpTo (table : Bytes) {entries : List (String × Bytes)} {bytes : Bytes}
    (h : writeEntries entries = .ok bytes) {count : Nat} (hcount : entries.length ≤ count) :
    List.Forall₂ Reads entries (membersUpTo table count bytes) := by
  -- on the entries: after one of them the reader is at the start of the next
  induction entries generalizing bytes count with
  | nil =>
      cases h
      cases count with
      | zero => exact .nil
      | succ count => exact .nil
  | cons entry entries ih =>
      obtain ⟨first, rest, hfirst, hrest, rfl⟩ := writeEntries_cons_eq_ok h
      rw [List.length_cons] at hcount
      obtain ⟨count, rfl⟩ := Nat.exists_eq_add_one_of_ne_zero (show count ≠ 0 by omega)
      rw [membersUpTo_succ table count (append_ne_nil_of_writeEntry hfirst rest),
        first_writeEntry hfirst]
      exact .cons ⟨_, rfl, rfl, data_append _ _ _⟩ (ih hrest (by omega))

end Linkage.Archive
