import Linkage.Proofs.Align
import Linkage.Proofs.Archive.Stream

set_option autoImplicit false

/-! # Archives in one buffer

An archive may also be written into one buffer that grows. Each entry adds its header and its
data to the buffer, which is then filled up to an even address. Addresses are 64-bit words, and
there has to be an address to fill up to; an entry is followed by the same byte as when it is
padded on its own, because the next even address is where the next entry starts
(`isNextMultiple_offset`).

By induction on the entries the buffer holds the archive of those written so far, or the fold
has failed in the same way (`foldlM_appendEntry`).
-/

namespace Linkage.Archive

open Traversal (exists_of_bind_eq_ok)

variable {entries : List (String × Bytes)} {entry : String × Bytes} {buffer : Bytes} {k : Nat}

/-! ## Entries in a buffer -/

/-- Why a buffer does not take an entry. -/
inductive BufferError where
  | refused (error : WriteError)
  /-- There is no address to fill up to. -/
  | tooLong
deriving DecidableEq

/-- A buffer with one more entry, filled up with line feeds to an even length. -/
def appendEntry (buffer : Bytes) (entry : String × Bytes) : Except BufferError Bytes := do
  let header ← (writeHeader entry.1 entry.2.length).mapError .refused
  match fillUp? 2 0x0A (buffer ++ header ++ entry.2) with
  | some filled => return filled
  | none => throw .tooLong

/-! ## Filling up -/

theorem offset_succ (h : entries[k]? = some entry) :
    offset entries (k + 1) = offset entries k + span entry := by
  rw [offset, offset, List.take_add_one, h, List.map_append, List.sum_append, Nat.add_assoc]
  simp

/-- The entries end where the last one does. -/
theorem offset_le (entries : List (String × Bytes)) (k : Nat) :
    offset entries k ≤ offset entries entries.length := by
  have hsum : ((entries.take k).map span).sum + ((entries.drop k).map span).sum
      = (entries.map span).sum := by
    rw [← List.sum_append, ← List.map_append, List.take_append_drop]
  rw [offset, offset, List.take_length]
  omega

/-- An entry of an archive starts at the next even offset behind the data of the entry before. -/
theorem isNextMultiple_offset (h : entries[k]? = some entry) :
    IsNextMultiple 2 (offset entries k + headerLength + entry.2.length)
      (offset entries (k + 1)) := by
  have hnext := offset_succ h
  have heven' := even_offset entries (k + 1)
  rw [span] at hnext
  refine ⟨Nat.dvd_of_mod_eq_zero heven', by omega, fun other hother hle => ?_⟩
  have heven := even_offset entries k
  rw [headerLength] at hnext hle
  omega

theorem padding_eq_replicate (size : Nat) : padding size = List.replicate (size % 2) 0x0A := by
  rcases Nat.mod_two_eq_zero_or_one size with h | h
  · rw [padding, if_neg (by omega), h, List.replicate_zero]
  · rw [padding, if_pos h, h, List.replicate_one]

/-- A buffer that ends with the data of an entry is filled up by the padding of the entry. -/
theorem fillUp?_of_offset (h : entries[k]? = some entry)
    (hlength : buffer.length = offset entries k + headerLength + entry.2.length)
    (hroom : offset entries (k + 1) + 2 < UInt64.size) :
    fillUp? 2 0x0A buffer = some (buffer ++ padding entry.2.length) := by
  have hoffset := offset_succ h
  rw [span] at hoffset
  have hnext : IsNextMultiple 2 buffer.length (offset entries (k + 1)) :=
    hlength ▸ isNextMultiple_offset h
  have hfill : offset entries (k + 1) - buffer.length = entry.2.length % 2 := by omega
  have hroom : buffer.length + (2 : UInt64).toNat < UInt64.size := by
    show buffer.length + 2 < _
    omega
  have htwo : (2 : UInt64).toNat.isPowerOfTwo := ⟨1, rfl⟩
  have hfilled := fillUp?_of_isNextMultiple htwo hroom hnext 0x0A
  rwa [hfill, ← padding_eq_replicate] at hfilled

/-! ## All entries -/

/-- An archive with one more entry goes on with this entry. -/
theorem write_concat (entries : List (String × Bytes)) (entry : String × Bytes) :
    write (entries ++ [entry])
      = write entries >>= fun archive => (writeEntry entry.1 entry.2).map (archive ++ ·) := by
  rw [write_eq_map, write_eq_map, List.mapM_append]
  cases entries.mapM fun entry => writeEntry entry.1 entry.2 with
  | error e => rfl
  | ok written =>
      cases hbytes : writeEntry entry.1 entry.2 with
      | error e => simp [hbytes, bind, Except.bind, Except.map]
      | ok bytes => simp [hbytes, bind, Except.bind, Except.map, pure, Except.pure]

/-- The archive of some entries ends where the next one starts. -/
theorem length_of_write_take (h : write (entries.take k) = .ok buffer) :
    buffer.length = offset entries k := by
  obtain ⟨bytes, hbytes, h⟩ := exists_of_bind_eq_ok h
  cases h
  rw [List.length_append, length_writeEntries hbytes, offset]

/-- The buffer with the archive of some entries takes the next entry like the archive does. -/
theorem appendEntry_of_write (h : entries[k]? = some entry)
    (hbuffer : write (entries.take k) = .ok buffer)
    (hroom : offset entries (k + 1) + 2 < UInt64.size) :
    appendEntry buffer entry = (write (entries.take (k + 1))).mapError .refused := by
  rw [List.take_add_one, h, Option.toList_some, write_concat, hbuffer, appendEntry]
  show _ = ((writeEntry entry.1 entry.2).map (buffer ++ ·)).mapError _
  rw [writeEntry]
  cases hheader : writeHeader entry.1 entry.2.length with
  | error e => rfl
  | ok written =>
      obtain ⟨hvalid, hascii, hsize, rfl⟩ := writeHeader_eq_ok_iff.1 hheader
      have hlength := (length_header_eq_iff hvalid entry.2.length).2 ⟨hascii, hsize⟩
      have hbehind : (buffer ++ header entry.1 entry.2.length ++ entry.2).length
          = offset entries k + headerLength + entry.2.length := by
        rw [List.length_append, List.length_append, hlength, length_of_write_take hbuffer]
      have hfill := fillUp?_of_offset h hbehind hroom
      show (match fillUp? 2 0x0A (buffer ++ header entry.1 entry.2.length ++ entry.2) with
        | some filled => pure filled
        | none => throw BufferError.tooLong)
        = Except.ok (buffer ++ (header entry.1 entry.2.length ++ entry.2 ++ padding entry.2.length))
      rw [hfill]
      show Except.ok (buffer ++ header entry.1 entry.2.length ++ entry.2 ++ _) = _
      simp only [List.append_assoc]

/-- **One buffer makes the same archive.** Adding the entries to a buffer that starts with the
magic line gives their archive, and fails with the first entry that cannot be written, if there
are addresses for all of it. -/
theorem foldlM_appendEntry (entries : List (String × Bytes))
    (hroom : offset entries entries.length + 2 < UInt64.size) :
    entries.foldlM appendEntry magic = (write entries).mapError .refused := by
  have htake : ∀ k, (entries.take k).foldlM appendEntry magic
      = (write (entries.take k)).mapError .refused := by
    -- on the number of entries: the buffer holds the archive of those so far
    intro k
    induction k with
    | zero => rfl
    | succ k ih =>
        cases h : entries[k]? with
        | none => rwa [List.take_add_one, h, Option.toList_none, List.append_nil]
        | some entry =>
            have hoffset := offset_le entries (k + 1)
            rw [List.take_add_one, h, Option.toList_some, List.foldlM_append, ih]
            cases hbuffer : write (entries.take k) with
            | error e =>
                rw [write_concat, hbuffer]
                rfl
            | ok buffer =>
                show [entry].foldlM appendEntry buffer = _
                rw [List.foldlM_cons, appendEntry_of_write h hbuffer (by omega), List.take_add_one,
                  h, Option.toList_some]
                cases write (entries.take k ++ [entry]) with
                | error e => rfl
                | ok archive => rfl
  rw [← List.take_length (l := entries)]
  exact htake entries.length

end Linkage.Archive
