import Linkage.Proofs.Archive.RoundTrip

set_option autoImplicit false

/-! # Which entries can be written

Entries are written one by one, so the first one that cannot be written decides the failure
(`write_eq_error_iff`). A name is refused if it is empty, too long or has a slash. A valid name
outside ASCII is not refused, but its header is longer than a header may be, by as many bytes
as the name has more than characters (`length_header`), and there is no archive either. With
ASCII names only the refused ones stand in the way of an archive (`outcome_of_write`).
-/

namespace Linkage.Archive

open Traversal (FirstFailure)
open Utf8 (IsAscii)

variable {entries : List (String × Bytes)} {name : String} {data bytes : Bytes} {e : WriteError}

/-! ## Headers -/

/-- The header of a valid name is too long by the bytes that the name has more than
characters. -/
theorem length_header (h : isValidName name = true) {size : Nat} (hsize : size < 10000000000) :
    (header name size).length = headerLength + (byteLength name - name.toList.length) := by
  obtain ⟨-, hbytes, -⟩ := (isValidName_iff name).1 h
  have hle := Utf8.length_le_length_encode name.toList
  have hsizeField := (length_sizeField_eq_iff size).2 hsize
  have hnameField : (nameField name).length = byteLength name + (16 - name.toList.length) := by
    rw [nameField_eq, List.length_append, List.length_cons, List.length_replicate]
    rw [byteLength] at hbytes ⊢
    omega
  have hlength : (header name size).length
      = (nameField name).length + (fixedFields.length + ((sizeField size).length + 2)) := by
    rw [header_eq, List.length_append, List.length_append, List.length_append]
    rfl
  rw [hlength, hnameField, length_fixedFields, hsizeField, headerLength]
  rw [byteLength] at hbytes ⊢
  omega

/-! ## One entry -/

/-- Whether an entry has a header: its name is valid and ASCII. -/
def HasHeader (entry : String × Bytes) : Prop :=
  isValidName entry.1 = true ∧ IsAscii entry.1.toList

instance : DecidablePred HasHeader := fun _ => inferInstanceAs (Decidable (_ ∧ _))

/-- Why a name is refused. -/
def IsRefused (name : String) : Prop := name = "" ∨ 15 < byteLength name ∨ '/' ∈ name.toList

theorem isRefused_iff : IsRefused name ↔ isValidName name = false := by
  rw [← Bool.not_eq_true, isValidName_iff, IsRefused]
  constructor
  · rintro (rfl | hlong | hslash) ⟨hname, hbytes, hfree⟩
    · exact hname rfl
    · omega
    · exact hfree hslash
  · intro h
    by_contra hnone
    rw [not_or, not_or, Nat.not_lt] at hnone
    exact h hnone

theorem exists_writeEntry_iff (hsize : data.length < 10000000000) :
    (∃ bytes, writeEntry name data = .ok bytes) ↔ HasHeader (name, data) := by
  constructor
  · rintro ⟨bytes, h⟩
    obtain ⟨hvalid, hascii, -, -⟩ := writeEntry_eq_ok_iff.1 h
    exact ⟨hvalid, hascii⟩
  · rintro ⟨hvalid, hascii⟩
    exact ⟨_, writeEntry_eq_ok_iff.2 ⟨hvalid, hascii, hsize, rfl⟩⟩

/-- An entry cannot be written if its name is refused or its header is too long. -/
theorem writeEntry_eq_error_iff (hsize : data.length < 10000000000) :
    writeEntry name data = .error e ↔ IsRefused name ∧ .invalidName name = e
      ∨ isValidName name = true ∧ ¬IsAscii name.toList ∧ .headerLength = e := by
  rw [isRefused_iff, writeEntry, Traversal.map_eq_error_iff]
  unfold writeHeader
  cases hvalid : isValidName name with
  | false => simp
  | true =>
      have hheader := length_header_eq_iff hvalid data.length
      by_cases hlength : (header name data.length).length = headerLength
      · simp [hlength, (hheader.1 hlength).1]
      · have hascii : ¬IsAscii name.toList := fun hascii => hlength (hheader.2 ⟨hascii, hsize⟩)
        simp [hlength, hascii]

/-! ## All entries -/

theorem writeEntries_eq_mapM (entries : List (String × Bytes)) :
    writeEntries entries
      = (entries.mapM fun entry => writeEntry entry.1 entry.2).map List.flatten := by
  induction entries with
  | nil => rfl
  | cons entry rest ih =>
      rw [List.mapM_cons]
      show (do let first ← writeEntry entry.1 entry.2; return first ++ (← writeEntries rest)) = _
      rw [ih]
      cases writeEntry entry.1 entry.2 with
      | error e => rfl
      | ok first =>
          cases rest.mapM fun entry => writeEntry entry.1 entry.2 with
          | error e => rfl
          | ok others => rfl

theorem write_eq_map (entries : List (String × Bytes)) :
    write entries
      = (entries.mapM fun entry => writeEntry entry.1 entry.2).map (magic ++ ·.flatten) := by
  rw [write, writeEntries_eq_mapM]
  cases entries.mapM fun entry => writeEntry entry.1 entry.2 with
  | error e => rfl
  | ok written => rfl

/-- There is an archive if every entry can be written. -/
theorem exists_write_iff : (∃ contents, write entries = .ok contents) ↔
    ∀ entry ∈ entries, ∃ bytes, writeEntry entry.1 entry.2 = .ok bytes := by
  rw [write_eq_map, ← Traversal.exists_mapM_iff]
  cases entries.mapM fun entry => writeEntry entry.1 entry.2 with
  | error e =>
      constructor
      · rintro ⟨contents, h⟩
        cases h
      · rintro ⟨written, h⟩
        cases h
  | ok written => exact ⟨fun _ => ⟨written, rfl⟩, fun _ => ⟨_, rfl⟩⟩

/-- The first entry that cannot be written decides why there is no archive. -/
theorem write_eq_error_iff : write entries = .error e ↔
    FirstFailure (fun entry => writeEntry entry.1 entry.2) entries e := by
  rw [write_eq_map, ← Traversal.mapM_eq_error_iff]
  cases entries.mapM fun entry => writeEntry entry.1 entry.2 with
  | error e' =>
      show Except.error e' = _ ↔ _
      rw [Except.error.injEq, Except.error.injEq]
  | ok written =>
      constructor
      · intro h
        cases h
      · intro h
        cases h

/-! ## Outcomes -/

section Outcomes

variable (hsizes : ∀ entry ∈ entries, entry.2.length < 10000000000)

include hsizes

theorem exists_write_iff_hasHeader :
    (∃ contents, write entries = .ok contents) ↔ ∀ entry ∈ entries, HasHeader entry := by
  rw [exists_write_iff]
  constructor
  · intro h entry hentry
    exact (exists_writeEntry_iff (hsizes entry hentry)).1 (h entry hentry)
  · intro h entry hentry
    exact (exists_writeEntry_iff (hsizes entry hentry)).2 (h entry hentry)

/-- What the first entry without a header comes to is what all entries come to. -/
theorem write_eq_error_iff_first : write entries = .error e ↔
    ∃ before entry later, entries = before ++ entry :: later
      ∧ (∀ earlier ∈ before, HasHeader earlier)
      ∧ (IsRefused entry.1 ∧ .invalidName entry.1 = e
        ∨ isValidName entry.1 = true ∧ ¬IsAscii entry.1.toList ∧ .headerLength = e) := by
  rw [write_eq_error_iff, FirstFailure]
  constructor
  · rintro ⟨before, entry, later, rfl, hbefore, hentry⟩
    refine ⟨before, entry, later, rfl, fun earlier hearlier => ?_, ?_⟩
    · exact (exists_writeEntry_iff (hsizes earlier (by simp [hearlier]))).1
        (hbefore earlier hearlier)
    · exact (writeEntry_eq_error_iff (hsizes entry (by simp))).1 hentry
  · rintro ⟨before, entry, later, rfl, hbefore, hentry⟩
    refine ⟨before, entry, later, rfl, fun earlier hearlier => ?_, ?_⟩
    · exact (exists_writeEntry_iff (hsizes earlier (by simp [hearlier]))).2
        (hbefore earlier hearlier)
    · exact (writeEntry_eq_error_iff (hsizes entry (by simp))).2 hentry

/-- If all names are ASCII, nothing but a refused name stands in the way of an archive. -/
theorem exists_write_iff_of_isAscii (hascii : ∀ entry ∈ entries, IsAscii entry.1.toList) :
    (∃ contents, write entries = .ok contents) ↔ ¬∃ entry ∈ entries, IsRefused entry.1 := by
  rw [exists_write_iff_hasHeader hsizes]
  constructor
  · rintro h ⟨entry, hentry, hrefused⟩
    have hvalid := (h entry hentry).1
    rw [isRefused_iff.1 hrefused] at hvalid
    cases hvalid
  · intro hnone entry hentry
    refine ⟨?_, hascii entry hentry⟩
    by_contra hvalid
    exact hnone ⟨entry, hentry, isRefused_iff.2 ((Bool.not_eq_true _).mp hvalid)⟩

/-- If all names are ASCII, no header is too long, so a failure is that of a refused name. -/
theorem exists_invalidName_iff_of_isAscii (hascii : ∀ entry ∈ entries, IsAscii entry.1.toList) :
    (∃ name, write entries = .error (.invalidName name))
      ↔ ∃ entry ∈ entries, IsRefused entry.1 := by
  constructor
  · rintro ⟨name, h⟩
    obtain ⟨before, entry, later, rfl, -, ⟨hrefused, -⟩ | ⟨-, -, hname⟩⟩ :=
      (write_eq_error_iff_first hsizes).1 h
    · exact ⟨entry, by simp, hrefused⟩
    · cases hname
  · intro hrefused
    cases hwrite : write entries with
    | ok contents =>
        exact absurd hrefused ((exists_write_iff_of_isAscii hsizes hascii).1 ⟨contents, hwrite⟩)
    | error e =>
        obtain ⟨before, entry, later, rfl, -, ⟨-, rfl⟩ | ⟨-, hforeign, -⟩⟩ :=
          (write_eq_error_iff_first hsizes).1 hwrite
        · exact ⟨entry.1, rfl⟩
        · exact absurd (hascii entry (by simp)) hforeign

end Outcomes

/-- **Which entries can be written**, for data of less than 10,000,000,000 bytes each.

* There is an archive exactly if every name is valid and ASCII.
* The first entry without a header decides the failure: its name is refused, or it is valid
  and not ASCII, and the header would be too long.
* The header of a valid name is longer than its 60 bytes by as many bytes as the name has more
  than characters.
* If all names are ASCII, entries are refused exactly if some name is empty, longer than 15
  bytes or has a slash; otherwise there is an archive, and every header has its 60 bytes. -/
theorem outcome_of_write (entries : List (String × Bytes))
    (hsizes : ∀ entry ∈ entries, entry.2.length < 10000000000) :
    ((∃ contents, write entries = .ok contents) ↔ ∀ entry ∈ entries, HasHeader entry)
    ∧ (∀ name, write entries = .error (.invalidName name) ↔
      ∃ before data later, entries = before ++ (name, data) :: later
        ∧ (∀ earlier ∈ before, HasHeader earlier) ∧ IsRefused name)
    ∧ (write entries = .error .headerLength ↔
      ∃ before name data later, entries = before ++ (name, data) :: later
        ∧ (∀ earlier ∈ before, HasHeader earlier)
        ∧ isValidName name = true ∧ ¬IsAscii name.toList)
    ∧ (∀ entry ∈ entries, isValidName entry.1 = true →
      (header entry.1 entry.2.length).length
        = headerLength + (byteLength entry.1 - entry.1.toList.length))
    ∧ ((∀ entry ∈ entries, IsAscii entry.1.toList) →
      ((∃ name, write entries = .error (.invalidName name))
          ↔ ∃ entry ∈ entries, IsRefused entry.1)
      ∧ ((∃ contents, write entries = .ok contents) ↔ ¬∃ entry ∈ entries, IsRefused entry.1)
      ∧ ∀ entry ∈ entries, isValidName entry.1 = true →
        (header entry.1 entry.2.length).length = headerLength) := by
  refine ⟨exists_write_iff_hasHeader hsizes, fun name => ?_, ?_, ?_, fun hascii => ⟨?_, ?_, ?_⟩⟩
  · rw [write_eq_error_iff_first hsizes]
    constructor
    · rintro ⟨before, ⟨name', data⟩, later, hsplit, hbefore, ⟨hrefused, hname⟩ | ⟨-, -, hname⟩⟩
      · obtain rfl := WriteError.invalidName.inj hname
        exact ⟨before, data, later, hsplit, hbefore, hrefused⟩
      · cases hname
    · rintro ⟨before, data, later, hsplit, hbefore, hrefused⟩
      exact ⟨before, (name, data), later, hsplit, hbefore, Or.inl ⟨hrefused, rfl⟩⟩
  · rw [write_eq_error_iff_first hsizes]
    constructor
    · rintro ⟨before, ⟨name, data⟩, later, hsplit, hbefore, ⟨-, hname⟩ | ⟨hvalid, hforeign, -⟩⟩
      · cases hname
      · exact ⟨before, name, data, later, hsplit, hbefore, hvalid, hforeign⟩
    · rintro ⟨before, name, data, later, hsplit, hbefore, hvalid, hforeign⟩
      exact ⟨before, (name, data), later, hsplit, hbefore, Or.inr ⟨hvalid, hforeign, rfl⟩⟩
  · intro entry hentry hvalid
    exact length_header hvalid (hsizes entry hentry)
  · exact exists_invalidName_iff_of_isAscii hsizes hascii
  · exact exists_write_iff_of_isAscii hsizes hascii
  · intro entry hentry hvalid
    exact (length_header_eq_iff hvalid _).2 ⟨hascii entry hentry, hsizes entry hentry⟩

/-- An accented name is valid, but its header has a byte too much, so there is no archive. -/
theorem write_accented_name :
    isValidName "café" = true
    ∧ (header "café" 0).length = 61
    ∧ write [("café", [])] = .error .headerLength := by
  refine ⟨?_, ?_, ?_⟩
  · decide
  · decide +kernel
  · rfl

/-- The accented name comes before the refused one, so it decides the failure; without it the
refused one does. -/
theorem outcome_of_write_accented :
    (∀ entry ∈ [("manifest", ascii "x"), ("café", []), ("a/b", [])], entry.2.length < 10000000000)
    ∧ write [("manifest", ascii "x"), ("café", []), ("a/b", [])] = .error .headerLength
    ∧ (∀ entry ∈ [("manifest", ascii "x"), ("a/b", [])], IsAscii entry.1.toList)
    ∧ (∃ name, write [("manifest", ascii "x"), ("a/b", [])] = .error (.invalidName name))
    ∧ isValidName "manifest" = true
    ∧ (header "manifest" (ascii "x").length).length = headerLength := by
  have hsizes : ∀ entry ∈ [("manifest", ascii "x"), ("café", []), ("a/b", [])],
      entry.2.length < 10000000000 := by decide +kernel
  have hsizes' : ∀ entry ∈ [("manifest", ascii "x"), ("a/b", [])],
      entry.2.length < 10000000000 := by decide +kernel
  have hascii : ∀ entry ∈ [("manifest", ascii "x"), ("a/b", [])], IsAscii entry.1.toList := by
    decide
  have hvalid : isValidName "manifest" = true := by decide
  obtain ⟨-, -, hforeign, -⟩ := outcome_of_write _ hsizes
  obtain ⟨-, -, -, -, hplain⟩ := outcome_of_write _ hsizes'
  obtain ⟨hrefused, -, hheader⟩ := hplain hascii
  refine ⟨hsizes,
    hforeign.2 ⟨[("manifest", ascii "x")], "café", [], [("a/b", [])], rfl, ?_, ?_, ?_⟩, hascii,
    hrefused.2 ⟨("a/b", []), by simp, ?_⟩, hvalid,
    hheader ("manifest", ascii "x") (by simp) hvalid⟩
  · decide
  · decide
  · decide
  · exact Or.inr (Or.inr (by decide))

end Linkage.Archive
