import Linkage.Proofs.Archive.Lookup
import Linkage.Proofs.Archive.Writing
import Mathlib.Algebra.GroupWithZero.Nat

set_option autoImplicit false

/-! # The members of a written archive

Each entry takes up its header, its data and a byte of padding if its data are of odd length
(`span`), so entry `k` starts at the sum of the spans before it, behind the magic line
(`offset`). The reader advances by the same amounts: at the offset of an entry it finds the
entry and goes on at the offset of the next one (`first_drop_writeEntries`). Its members are
therefore the entries in order, with their names and data byte for byte
(`members_of_write`), and different entries make different archives (`write_inj`).
-/

namespace Linkage.Archive

open Traversal (exists_of_bind_eq_ok)

variable {entries : List (String × Bytes)} {entry : String × Bytes} {bytes contents : Bytes}

/-! ## Offsets -/

/-- The number of bytes that an entry takes up. -/
def span (entry : String × Bytes) : Nat := headerLength + entry.2.length + entry.2.length % 2

/-- The place at which entry `k` of an archive starts. -/
def offset (entries : List (String × Bytes)) (k : Nat) : Nat :=
  magic.length + ((entries.take k).map span).sum

theorem even_span (entry : String × Bytes) : span entry % 2 = 0 := by
  rw [span, headerLength]
  omega

theorem even_sum_span (entries : List (String × Bytes)) : (entries.map span).sum % 2 = 0 := by
  induction entries with
  | nil => rfl
  | cons entry rest ih =>
      have hentry := even_span entry
      rw [List.map_cons, List.sum_cons]
      omega

/-- Entries start at even offsets. -/
theorem even_offset (entries : List (String × Bytes)) (k : Nat) : offset entries k % 2 = 0 := by
  have hmagic : magic.length = 8 := by decide
  have hspans := even_sum_span (entries.take k)
  rw [offset, hmagic]
  omega

theorem length_of_writeEntry {written : Bytes} (h : writeEntry entry.1 entry.2 = .ok written) :
    written.length = span entry := by
  rw [length_writeEntry h, span, headerLength]
  omega

/-- Entries take up their spans. -/
theorem length_writeEntries (h : writeEntries entries = .ok bytes) :
    bytes.length = (entries.map span).sum := by
  induction entries generalizing bytes with
  | nil =>
      cases h
      rfl
  | cons entry rest ih =>
      obtain ⟨first, others, hfirst, hothers, rfl⟩ := writeEntries_cons_eq_ok h
      rw [List.length_append, length_of_writeEntry hfirst, ih hothers, List.map_cons, List.sum_cons]

/-- Behind some of the entries the others are written. -/
theorem writeEntries_drop (h : writeEntries entries = .ok bytes) (k : Nat) :
    writeEntries (entries.drop k) = .ok (bytes.drop ((entries.take k).map span).sum) := by
  induction k generalizing entries bytes with
  | zero => exact h
  | succ k ih =>
      cases entries with
      | nil =>
          cases h
          rfl
      | cons entry rest =>
          obtain ⟨first, others, hfirst, hothers, rfl⟩ := writeEntries_cons_eq_ok h
          rw [List.drop_succ_cons, ih hothers, List.take_succ_cons, List.map_cons, List.sum_cons,
            ← List.drop_drop, List.drop_left' (length_of_writeEntry hfirst)]

/-- The archive from the offset of an entry on. -/
theorem drop_offset (entries : List (String × Bytes)) (bytes : Bytes) (k : Nat) :
    (magic ++ bytes).drop (offset entries k) = bytes.drop ((entries.take k).map span).sum := by
  rw [offset, ← List.drop_drop, List.drop_left]

/-! ## Members -/

/-- At the place of an entry the reader finds a member, and goes on at the next place. -/
theorem first_drop_writeEntries (h : writeEntries entries = .ok bytes) {k : Nat}
    (hk : entries[k]? = some entry) (table : Bytes) :
    ∃ member, Member.first table (bytes.drop ((entries.take k).map span).sum)
      = .ok (member, bytes.drop ((entries.take (k + 1)).map span).sum) := by
  obtain ⟨hlength, hentry⟩ := List.getElem?_eq_some_iff.1 hk
  have hdrop := writeEntries_drop h k
  rw [List.drop_eq_getElem_cons hlength, hentry] at hdrop
  obtain ⟨first, others, hfirst, hothers, hbytes⟩ := writeEntries_cons_eq_ok hdrop
  rw [writeEntries_drop h (k + 1)] at hothers
  cases hothers
  exact ⟨_, by rw [hbytes, first_writeEntry hfirst]⟩

/-- The member that is found at the place of an entry is the one in its place among all. -/
theorem getElem?_membersUpTo (h : writeEntries entries = .ok bytes) {k count : Nat}
    (hk : entries[k]? = some entry) (hcount : entries.length ≤ count) {table rest : Bytes}
    {member : Member}
    (hmember : Member.first table (bytes.drop ((entries.take k).map span).sum)
      = .ok (member, rest)) :
    (membersUpTo table count bytes)[k]? = some (.ok member) := by
  -- on the entries: the first member is at the start, the others are those of the other entries
  induction entries generalizing bytes k count with
  | nil => cases hk
  | cons head tail ih =>
      obtain ⟨first, others, hfirst, hothers, rfl⟩ := writeEntries_cons_eq_ok h
      rw [List.length_cons] at hcount
      obtain ⟨count, rfl⟩ := Nat.exists_eq_add_one_of_ne_zero (show count ≠ 0 by omega)
      rw [membersUpTo_succ table count (append_ne_nil_of_writeEntry hfirst others)]
      cases k with
      | zero =>
          rw [List.take_zero, List.map_nil, List.sum_nil, List.drop_zero] at hmember
          rw [hmember]
          rfl
      | succ k =>
          rw [List.take_succ_cons, List.map_cons, List.sum_cons, ← List.drop_drop,
            List.drop_left' (length_of_writeEntry hfirst)] at hmember
          rw [first_writeEntry hfirst]
          exact ih hothers hk (by omega) hmember

/-! ## Names and data -/

/-- What a member that was read shows: its name and its data. -/
def shown (read : Except Error Member) : Except Error (Bytes × Bytes) := do
  let member ← read
  return (member.name, ← member.data)

/-- What an entry shows when it is read as it was written. -/
def shownAs (entry : String × Bytes) : Except Error (Bytes × Bytes) :=
  .ok (Utf8.encode entry.1.toList, entry.2)

theorem shownAs_injective : Function.Injective shownAs := by
  rintro ⟨name, data⟩ ⟨name', data'⟩ h
  obtain ⟨hname, hdata⟩ := Prod.mk.inj (Except.ok.inj h)
  rw [Prod.mk.injEq]
  exact ⟨String.toList_inj.1 (Utf8.encode_inj.1 hname), hdata⟩

theorem map_shown_of_reads {members : List (Except Error Member)}
    (h : List.Forall₂ Reads entries members) : members.map shown = entries.map shownAs := by
  induction h with
  | nil => rfl
  | @cons entry read entries members hread _ ih =>
      obtain ⟨member, rfl, hname, hdata⟩ := hread
      have hshown : shown (.ok member) = shownAs entry := by
        show (do return (member.name, ← member.data)) = _
        rw [hdata, shownAs, ← hname]
        rfl
      rw [List.map_cons, List.map_cons, hshown, ih]

/-- Different entries make different archives. -/
theorem write_inj {first second : List (String × Bytes)} (hfirst : write first = .ok contents)
    (hsecond : write second = .ok contents) : first = second := by
  obtain ⟨bytes, hbytes, h⟩ := exists_of_bind_eq_ok hfirst
  cases h
  obtain ⟨bytes', hbytes', h⟩ := exists_of_bind_eq_ok hsecond
  obtain rfl : bytes' = bytes := List.append_cancel_left (Except.ok.inj h)
  -- both are read by the same scan
  have hread := reads_membersUpTo [] hbytes (Nat.le_max_left first.length second.length)
  have hread' := reads_membersUpTo [] hbytes' (Nat.le_max_right first.length second.length)
  have hshown := (map_shown_of_reads hread).symm.trans (map_shown_of_reads hread')
  exact List.map_injective_iff.2 shownAs_injective hshown

/-- **The members of a written archive** are its entries, if the first name is not that of a
symbol table.

* The archive can be read, and its members have the names and the data of the entries, byte
  for byte and in order.
* Member `k` starts at the even offset `offset entries k`, and the next one where it ends.
* The archive ends at the offset behind the last entry, so its length is even.
* No other entries make the same archive. -/
theorem members_of_write (entries : List (String × Bytes)) (contents : Bytes)
    (hwrite : write entries = .ok contents)
    (hfirst : ∀ entry ∈ entries.head?, entry.1 ∉ symbolTableNames) :
    ∃ a, Container.ofBytes contents = .ok a
      ∧ a.members.map shown = entries.map shownAs
      ∧ (∀ k entry, entries[k]? = some entry → ∃ member,
        a.members[k]? = some (.ok member)
        ∧ Member.first a.table (contents.drop (offset entries k))
          = .ok (member, contents.drop (offset entries (k + 1))))
      ∧ (∀ k, offset entries k % 2 = 0)
      ∧ contents.length = offset entries entries.length
      ∧ contents.length % 2 = 0
      ∧ ∀ others, write others = .ok contents → others = entries := by
  obtain ⟨bytes, hbytes, h⟩ := exists_of_bind_eq_ok hwrite
  cases h
  obtain ⟨body, hbody, hread⟩ := ofBody_writeEntries hbytes
  rw [ordinary_eq_self hfirst, hbytes] at hbody
  cases hbody
  have hcount := length_le_of_writeEntries hbytes
  have hlength : (magic ++ bytes).length = offset entries entries.length := by
    rw [List.length_append, length_writeEntries hbytes, offset, List.take_length]
  refine ⟨⟨[], bytes⟩, ofBytes_magic hread, ?_, ?_, even_offset entries, hlength, ?_, ?_⟩
  · exact map_shown_of_reads (reads_membersUpTo [] hbytes hcount)
  · intro k entry hk
    obtain ⟨member, hmember⟩ := first_drop_writeEntries hbytes hk []
    refine ⟨member, getElem?_membersUpTo hbytes hk hcount hmember, ?_⟩
    rw [drop_offset, drop_offset]
    exact hmember
  · rw [hlength]
    exact even_offset entries _
  · intro others hothers
    exact write_inj hothers hwrite

/-- Entries whose names look like other forms of names, and whose data look like a header. -/
def disguisedEntries : List (String × Bytes) :=
  [("#1", header "manifest" 3), ("12 ", ascii "odd"), ("__.SYMDEF", [])]

theorem members_of_write_disguised :
    (∀ entry ∈ disguisedEntries.head?, entry.1 ∉ symbolTableNames)
    ∧ ∃ contents a, write disguisedEntries = .ok contents
      ∧ Container.ofBytes contents = .ok a
      ∧ a.members.map shown = disguisedEntries.map shownAs
      ∧ offset disguisedEntries 2 = 192
      ∧ contents.length = 252 := by
  have hfirst : ∀ entry ∈ disguisedEntries.head?, entry.1 ∉ symbolTableNames := by decide
  have hsizes : ∀ entry ∈ disguisedEntries, entry.2.length < 10000000000 := by decide +kernel
  have hheaders : ∀ entry ∈ disguisedEntries, HasHeader entry := by decide
  obtain ⟨contents, hwrite⟩ := (exists_write_iff_hasHeader hsizes).2 hheaders
  obtain ⟨a, ha, hshown, -, -, hlength, -⟩ :=
    members_of_write disguisedEntries contents hwrite hfirst
  refine ⟨hfirst, contents, a, hwrite, ha, hshown, ?_, hlength.trans ?_⟩
  · decide +kernel
  · decide +kernel

end Linkage.Archive
