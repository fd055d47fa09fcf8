import Linkage.Container
import Linkage.Proofs.Archive.RoundTrip
import Mathlib.Data.List.DropRight

set_option autoImplicit false

/-! # Looking up what was written

A container that reads a written archive finds the entries under their names, with two
exceptions (`listing`). Spaces at the end of a name are lost, since the container takes them
for the filling of a field; and a first entry with the name of a symbol table is taken for
one and not found at all. Asked for a name, the container gives the data of the first entry
of the listing with that name (`entry_of_write`). Entries whose names avoid both exceptions
are listed as they are.
-/

namespace Linkage.Archive

open Traversal (exists_of_bind_eq_ok)
open Utf8 (IsAscii)

variable {entries : List (String × Bytes)} {bytes contents : Bytes}

/-! ## Spaces at the end of a name -/

/-- A name without the spaces at its end. -/
def bareName (name : String) : String := String.ofList (name.toList.rdropWhile (· == ' '))

/-- Whether a container takes a byte off at the end of a name. -/
def isFilling (b : UInt8) : Bool := b == space || b == slash

theorem trimName_eq_rdropWhile (bytes : Bytes) :
    Container.trimName bytes = bytes.rdropWhile isFilling := rfl

/-- Of an ASCII text without slashes, a container takes off the spaces at the end. -/
theorem trimName_encode {text : List Char} (hascii : IsAscii text) (hslash : '/' ∉ text) :
    Container.trimName (Utf8.encode text) = Utf8.encode (text.rdropWhile (· == ' ')) := by
  -- on the text from its end, which is where the spaces are taken off
  induction text using List.reverseRecOn with
  | nil => rfl
  | append_singleton text c ih =>
      obtain ⟨hrest, hc⟩ := List.forall_mem_append.1 hascii
      have hc : c.utf8Size = 1 := hc c (List.mem_singleton_self c)
      have hne : c ≠ '/' := by
        rintro rfl
        exact hslash (List.mem_append_right _ (List.mem_singleton_self _))
      have hlast : Utf8.encode (text ++ [c]) = Utf8.encode text ++ [c.val.toUInt8] := by
        simp [String.utf8EncodeChar_eq_singleton hc]
      rw [hlast, trimName_eq_rdropWhile]
      by_cases hspace : c = ' '
      · have hdrop : isFilling c.val.toUInt8 = true := by
          rw [hspace]
          rfl
        rw [List.rdropWhile_concat_pos _ _ _ hdrop,
          List.rdropWhile_concat_pos _ _ _ (by simpa using hspace)]
        exact ih hrest fun hmem => hslash (List.mem_append_left _ hmem)
      · have hkeep : ¬isFilling c.val.toUInt8 = true := by
          rw [isFilling, Bool.or_eq_true, beq_iff_eq, beq_iff_eq]
          rintro (h | h)
          · exact hspace ((Utf8.toUInt8_inj hc rfl).1 h)
          · exact hne ((Utf8.toUInt8_inj hc rfl).1 h)
        rw [List.rdropWhile_concat_neg _ _ _ hkeep,
          List.rdropWhile_concat_neg _ _ _ (by simpa using hspace), hlast]

/-- A container takes a member for the entry with a name if that is the bare name of the
entry that was written. -/
theorem trimName_eq_iff {name : String} (h : isValidName name = true)
    (hascii : IsAscii name.toList) (wanted : String) :
    Container.trimName (Utf8.encode name.toList) = Utf8.encode wanted.toList
      ↔ bareName name = wanted := by
  obtain ⟨-, -, hslash⟩ := (isValidName_iff name).1 h
  rw [trimName_encode hascii hslash, Utf8.encode_inj, ← String.toList_inj, bareName,
    String.toList_ofList]

/-! ## Names of symbol tables -/

/-- The names of symbol tables that fit a header. -/
def symbolTableNames : List String := ["__.SYMDEF", "__.SYMDEF_64"]

theorem encode_mem_plainSymbols_iff {name : String} (h : isValidName name = true) :
    Utf8.encode name.toList ∈ plainSymbols ↔ name ∈ symbolTableNames := by
  have hsymbols : plainSymbols = ["__.SYMDEF", "__.SYMDEF SORTED", "__.SYMDEF_64",
      "__.SYMDEF_64 SORTED"].map fun symbols => Utf8.encode symbols.toList := by decide
  rw [hsymbols, List.mem_map]
  constructor
  · rintro ⟨symbols, hmem, hencode⟩
    obtain rfl : symbols = name := String.toList_inj.1 (Utf8.encode_inj.1 hencode)
    simp only [List.mem_cons, List.not_mem_nil, or_false] at hmem
    -- two of the names are too long to have been written
    rcases hmem with rfl | rfl | rfl | rfl
    · simp [symbolTableNames]
    · exact absurd h (by decide)
    · simp [symbolTableNames]
    · exact absurd h (by decide)
  · intro hmem
    refine ⟨name, ?_, rfl⟩
    simp only [symbolTableNames, List.mem_cons, List.not_mem_nil, or_false] at hmem
    rcases hmem with rfl | rfl
    · simp
    · simp

/-- The entries that are read as ordinary members: all of them, but not the first one if it
has the name of a symbol table. -/
def ordinary : List (String × Bytes) → List (String × Bytes)
  | [] => []
  | entry :: entries => if entry.1 ∈ symbolTableNames then entries else entry :: entries

theorem ordinary_eq_self (h : ∀ entry ∈ entries.head?, entry.1 ∉ symbolTableNames) :
    ordinary entries = entries := by
  cases entries with
  | nil => rfl
  | cons entry entries => rw [ordinary, if_neg (h entry rfl)]

/-! ## Special members -/

/-- A first member without a slash in its name is special only if it is a symbol table. -/
theorem ofBody_of_peek {input rest : Bytes} {member : Member}
    (hpeek : peek [] input = .ok (some (member, rest))) (hslash : slash ∉ member.name) :
    ofBody input = .ok ⟨[], if member.name ∈ plainSymbols then rest else input⟩ := by
  have hspecial : ∀ special : String, slash ∈ ascii special → member.name ≠ ascii special := by
    intro special hmem heq
    rw [heq] at hslash
    exact hslash hmem
  rw [ofBody, hpeek]
  show (if member.name = ascii "/" then _ else if member.name = ascii "/SYM64/" then _
    else if member.name = ascii "//" then _ else if plainSymbols.contains member.name then _
    else _) = _
  rw [if_neg (hspecial "/" (by decide)), if_neg (hspecial "/SYM64/" (by decide)),
    if_neg (hspecial "//" (by decide))]
  by_cases hsymbols : member.name ∈ plainSymbols
  · rw [if_pos (List.contains_iff_mem.2 hsymbols), if_pos hsymbols]
    rfl
  · rw [if_neg (mt List.contains_iff_mem.1 hsymbols), if_neg hsymbols]
    rfl

/-- The body of a written archive holds its ordinary entries. -/
theorem ofBody_writeEntries (h : writeEntries entries = .ok bytes) :
    ∃ body, writeEntries (ordinary entries) = .ok body ∧ ofBody bytes = .ok ⟨[], body⟩ := by
  cases entries with
  | nil =>
      cases h
      exact ⟨[], rfl, rfl⟩
  | cons entry entries =>
      obtain ⟨first, rest, hfirst, hrest, rfl⟩ := writeEntries_cons_eq_ok h
      obtain ⟨hvalid, hascii, -, -⟩ := writeEntry_eq_ok_iff.1 hfirst
      have hnonempty : (first ++ rest).isEmpty = false :=
        List.isEmpty_eq_false_iff.2 (append_ne_nil_of_writeEntry hfirst rest)
      have hpeek : peek [] (first ++ rest) = .ok (some (⟨Utf8.encode entry.1.toList,
          entry.2.length, entry.2 ++ (padding entry.2.length ++ rest)⟩, rest)) := by
        rw [peek, hnonempty, first_writeEntry hfirst]
        rfl
      refine ⟨_, ?_, ofBody_of_peek hpeek (slash_notMem_encode hvalid hascii)⟩
      have hsymbols := encode_mem_plainSymbols_iff hvalid
      by_cases hmem : entry.1 ∈ symbolTableNames
      · rw [ordinary, if_pos hmem, if_pos (hsymbols.2 hmem)]
        exact hrest
      · rw [ordinary, if_neg hmem, if_neg (mt hsymbols.1 hmem)]
        exact h

/-- What follows the magic line is the body. -/
theorem ofBytes_magic {body : Bytes} {a : Archive} (h : ofBody body = .ok a) :
    Container.ofBytes (magic ++ body) = .ok a := by
  have hlength : ¬(magic ++ body).length < magic.length := by
    rw [List.length_append]
    omega
  rw [Container.ofBytes, if_neg hlength, List.take_left, List.drop_left, h]
  simp

/-! ## Looking up a name -/

/-- The entries as a container finds them. -/
def listing (entries : List (String × Bytes)) : List (String × Bytes) :=
  (ordinary entries).map fun entry => (bareName entry.1, entry.2)

/-- If no name ends in a space and the first name is not that of a symbol table, entries are
found as they were written. -/
theorem listing_eq_self (hbare : ∀ entry ∈ entries, bareName entry.1 = entry.1)
    (hfirst : ∀ entry ∈ entries.head?, entry.1 ∉ symbolTableNames) :
    listing entries = entries := by
  rw [listing, ordinary_eq_self hfirst, List.map_congr_left (g := id), List.map_id]
  intro entry hentry
  rw [hbare entry hentry]
  rfl

/-- Every entry of a written archive was written. -/
theorem exists_writeEntry_of_mem (h : writeEntries entries = .ok bytes) {entry : String × Bytes}
    (hentry : entry ∈ entries) : ∃ written, writeEntry entry.1 entry.2 = .ok written := by
  induction entries generalizing bytes with
  | nil => cases hentry
  | cons first entries ih =>
      obtain ⟨written, rest, hwritten, hrest, -⟩ := writeEntries_cons_eq_ok h
      rcases List.mem_cons.1 hentry with rfl | hmem
      · exact ⟨written, hwritten⟩
      · exact ih hrest hmem

/-- Looking for a name among members is looking for it among the bare names of the entries
they are. -/
theorem entryIn_of_reads {members : List (Except Error Member)}
    (h : List.Forall₂ Reads entries members)
    (hwritten : ∀ entry ∈ entries, ∃ written, writeEntry entry.1 entry.2 = .ok written)
    (name : String) :
    Container.entryIn name members
      = match (entries.map fun entry => (bareName entry.1, entry.2)).lookup name with
        | some data => .ok data
        | none => .error (.missingEntry name) := by
  -- on the members: both searches stop at the first one whose bare name it is
  induction h with
  | nil => rfl
  | @cons entry read entries members hread _ ih =>
      obtain ⟨member, rfl, hname, hdata⟩ := hread
      obtain ⟨⟨written, hentry⟩, hrest⟩ := List.forall_mem_cons.1 hwritten
      obtain ⟨hvalid, hascii, -, -⟩ := writeEntry_eq_ok_iff.1 hentry
      have hfound := trimName_eq_iff hvalid hascii name
      rw [Container.entryIn, hname, hdata, List.map_cons, List.lookup_cons]
      by_cases hbare : bareName entry.1 = name
      · rw [if_pos (hfound.2 hbare), hbare, beq_self_eq_true]
      · rw [if_neg (mt hfound.1 hbare), beq_false_of_ne (Ne.symm hbare)]
        exact ih hrest

/-- A written archive can be read, and looking for a name in it is looking for it in the
listing. -/
theorem entryIn_of_write (h : write entries = .ok contents) :
    ∃ a, Container.ofBytes contents = .ok a ∧ ∀ name, Container.entryIn name a.members
      = match (listing entries).lookup name with
        | some data => .ok data
        | none => .error (.missingEntry name) := by
  obtain ⟨bytes, hbytes, h⟩ := exists_of_bind_eq_ok h
  cases h
  obtain ⟨body, hbody, hread⟩ := ofBody_writeEntries hbytes
  refine ⟨⟨[], body⟩, ofBytes_magic hread, fun name => ?_⟩
  exact entryIn_of_reads (reads_membersUpTo [] hbody (length_le_of_writeEntries hbody))
    (fun entry hentry => exists_writeEntry_of_mem hbody hentry) name

/-! ## Packed libraries -/

/-- A packed library opens if its contents can be read as an archive. -/
theorem ofLayout_of_ofBytes {fs : FileSystem} {path : Path} {a : Archive}
    (hmap : fs.mapFile path = .ok contents) (h : Container.ofBytes contents = .ok a) :
    Container.ofLayout fs (.packed path) = .ok (.archive path a) := by
  rw [Container.ofLayout, hmap]
  show Container.corrupt path ((Container.ofBytes contents).map _) = _
  rw [h]
  rfl

/-- The data of the first of some entries with a name, or the failure of the library at a
path for having none. -/
def lookupIn (path : Path) (entries : List (String × Bytes)) (name : String) :
    Except LoadError Bytes :=
  match entries.lookup name with
  | some data => .ok data
  | none => .error (.corrupt path ("missing entry '" ++ name ++ "'"))

theorem lookupIn_inj {path : Path} {first second : List (String × Bytes)} {name : String} :
    lookupIn path first name = lookupIn path second name
      ↔ first.lookup name = second.lookup name := by
  unfold lookupIn
  cases first.lookup name with
  | some data =>
      cases second.lookup name with
      | some data' => simp
      | none => simp
  | none =>
      cases second.lookup name with
      | some data' => simp
      | none => simp

/-- The container of a written archive looks names up in the listing. -/
theorem entry_archive_of_write (h : write entries = .ok contents) :
    ∃ a, Container.ofBytes contents = .ok a ∧ ∀ (fs : FileSystem) (path : Path) (name : String),
      Container.entry fs name (.archive path a) = lookupIn path (listing entries) name := by
  obtain ⟨a, ha, hentries⟩ := entryIn_of_write h
  refine ⟨a, ha, fun fs path name => ?_⟩
  rw [Container.entry, hentries name, lookupIn]
  cases (listing entries).lookup name with
  | some data => rfl
  | none => rfl

/-- **Looking up undoes writing.** A packed library with the contents of a written archive
opens, and gives for every name the data of the first entry in the listing with that name,
or fails for a missing entry. The listing is the entries themselves if no name ends in a
space and the first name is not that of a symbol table. -/
theorem entry_of_write (entries : List (String × Bytes)) (contents : Bytes) (fs : FileSystem)
    (path : Path) (hwrite : write entries = .ok contents) (hmap : fs.mapFile path = .ok contents) :
    ∃ container, Container.ofLayout fs (.packed path) = .ok container
      ∧ (∀ name, container.entry fs name = lookupIn path (listing entries) name)
      ∧ ((∀ entry ∈ entries, bareName entry.1 = entry.1) →
          (∀ entry ∈ entries.head?, entry.1 ∉ symbolTableNames) →
          ∀ name, container.entry fs name = lookupIn path entries name) := by
  obtain ⟨a, ha, hentry⟩ := entry_archive_of_write hwrite
  refine ⟨.archive path a, ofLayout_of_ofBytes hmap ha, hentry fs path, ?_⟩
  intro hbare hfirst name
  rw [hentry fs path name, listing_eq_self hbare hfirst]

/-- A symbol table, and a manifest behind an entry whose name is its name and a space. -/
def hiddenEntries : List (String × Bytes) :=
  [("__.SYMDEF", []), ("manifest ", ascii "first"), ("manifest", ascii "second")]

/-- A file system with a packed library. -/
def filesWith (contents : Bytes) : FileSystem :=
  (FileSystem.empty [['w']]).install (Path.ofString "foo.mlib") contents

theorem mapFile_filesWith (contents : Bytes) :
    (filesWith contents).mapFile (Path.ofString "foo.mlib") = .ok contents := by rfl

theorem entry_of_write_manifest :
    (∃ contents container, write hiddenEntries = .ok contents
      ∧ Container.ofLayout (filesWith contents) (.packed (Path.ofString "foo.mlib"))
        = .ok container
      ∧ container.entry (filesWith contents) "manifest" = .ok (ascii "first")
      ∧ container.entry (filesWith contents) "__.SYMDEF"
        = .error (.corrupt (Path.ofString "foo.mlib") "missing entry '__.SYMDEF'"))
    ∧ ∃ contents container, write [("manifest", ascii "second")] = .ok contents
      ∧ Container.ofLayout (filesWith contents) (.packed (Path.ofString "foo.mlib"))
        = .ok container
      ∧ container.entry (filesWith contents) "manifest" = .ok (ascii "second") := by
  constructor
  · obtain ⟨contents, hwrite⟩ : ∃ contents, write hiddenEntries = .ok contents := ⟨_, by rfl⟩
    obtain ⟨container, hopen, hentry, -⟩ :=
      entry_of_write hiddenEntries contents _ _ hwrite (mapFile_filesWith contents)
    refine ⟨contents, container, hwrite, hopen, ?_, ?_⟩
    · rw [hentry]
      rfl
    · rw [hentry]
      rfl
  · obtain ⟨contents, hwrite⟩ :
        ∃ contents, write [("manifest", ascii "second")] = .ok contents := ⟨_, by rfl⟩
    obtain ⟨container, hopen, -, hentry⟩ :=
      entry_of_write [("manifest", ascii "second")] contents _ _ hwrite (mapFile_filesWith contents)
    refine ⟨contents, container, hwrite, hopen, ?_⟩
    rw [hentry (by decide) (by decide)]
    rfl

/-! ## Entries that are not found as they were written -/

/-- Whether a container finds entries under the names they were written with. -/
def FoundAsWritten (entries : List (String × Bytes)) : Prop :=
  ∀ (contents : Bytes) (fs : FileSystem) (path : Path), write entries = .ok contents →
    fs.mapFile path = .ok contents →
    ∃ container, Container.ofLayout fs (.packed path) = .ok container
      ∧ ∀ name, container.entry fs name = lookupIn path entries name

/-- Entries that are found as they were written agree with their listing. -/
theorem FoundAsWritten.lookup_eq (h : FoundAsWritten entries)
    (hwrite : write entries = .ok contents) (name : String) :
    entries.lookup name = (listing entries).lookup name := by
  have hmap := mapFile_filesWith contents
  obtain ⟨container, hopen, hfound⟩ := h contents _ _ hwrite hmap
  obtain ⟨a, ha, hentry⟩ := entry_archive_of_write hwrite
  rw [ofLayout_of_ofBytes hmap ha] at hopen
  cases hopen
  exact lookupIn_inj.1 ((hfound name).symm.trans (hentry _ _ name))

/-- A name with a space at its end hides the name without it, and a first entry with the name
of a symbol table is lost. -/
theorem not_foundAsWritten :
    ¬FoundAsWritten [("manifest ", ascii "first"), ("manifest", ascii "second")]
    ∧ ¬FoundAsWritten [("__.SYMDEF", ascii "first")] := by
  constructor
  · intro h
    exact absurd (h.lookup_eq rfl "manifest") (by decide)
  · intro h
    exact absurd (h.lookup_eq rfl "__.SYMDEF") (by decide)

end Linkage.Archive
