import Linkage.Program
import Linkage.Proofs.Archive.Writing
import Linkage.Proofs.FileSystem.Unchanged
import Linkage.Proofs.Packing

set_option autoImplicit false

/-! # What packing changes

Packing reads two files, checks the manifest, builds the archive and only then writes, so
whatever fails leaves the files as they were. `packingSteps` takes these steps one after the
other on the files as each step finds them, also when it fails, and comes to what
`writeLibrary` says (`run_packingSteps`). A write changes what one location holds and no way
to any other one (`FileSystem.SameBut.locate_iff`).
-/

namespace Linkage

open Traversal (exists_of_bind_eq_ok bind_eq_error_iff mapError_eq_error_iff mapError_eq_ok_iff)

/-! ## Writing a file -/

namespace FileSystem

variable {fs fs' after : FileSystem} {spot here : Location} {p : Path} {contents : Bytes}

theorem SameBut.symm (h : SameBut spot fs fs') : SameBut spot fs' fs where
  workingDirectory := h.workingDirectory.symm
  entry here hhere := (h.entry here hhere).symm

section Put

variable {entry : Entry} (hspot : fs.isDirectory spot = false)

include hspot

/-- A path leads where it led before. -/
theorem locate_put_of_locate (h : fs.locate p = .ok here) :
    (fs.put spot entry).locate p = .ok here := by
  obtain ⟨⟨⟩, haccept, hwalk⟩ := exists_of_bind_eq_ok h
  rw [locate, haccept]
  exact walk_put hspot hwalk

/-- The ways to other locations are the same. -/
theorem locate_put_iff (hspot' : (fs.put spot entry).isDirectory spot = false)
    (hhere : here ≠ spot) : (fs.put spot entry).locate p = .ok here ↔ fs.locate p = .ok here := by
  refine ⟨fun h => ?_, locate_put_of_locate hspot⟩
  obtain ⟨⟨⟩, haccept, hwalk⟩ := exists_of_bind_eq_ok h
  rw [locate, haccept]
  exact (sameBut_put fs spot entry).symm.walk_eq_ok hspot' hhere hwalk

/-- What is at other locations is read as before. -/
theorem read_put_iff (hspot' : (fs.put spot entry).isDirectory spot = false)
    (hother : (fs.put spot entry).locate p ≠ .ok spot) :
    (fs.put spot entry).read p = .ok contents ↔ fs.read p = .ok contents := by
  have hsame := sameBut_put fs spot entry
  constructor
  · intro h
    obtain ⟨here, hlocate, hcontents⟩ := exists_of_bind_eq_ok h
    have hhere : here ≠ spot := by
      rintro rfl
      exact hother hlocate
    rw [hsame.isDirectory_eq hhere, hsame.entry here hhere] at hcontents
    rw [read, contentsOr, (locate_put_iff hspot hspot' hhere).1 hlocate]
    exact hcontents
  · intro h
    obtain ⟨here, hlocate, hcontents⟩ := exists_of_bind_eq_ok h
    have hlocate' : (fs.put spot entry).locate p = .ok here := locate_put_of_locate hspot hlocate
    have hhere : here ≠ spot := by
      rintro rfl
      exact hother hlocate'
    rw [← hsame.isDirectory_eq hhere, ← hsame.entry here hhere] at hcontents
    rw [read, contentsOr, hlocate']
    exact hcontents

end Put

end FileSystem

/-! ## Steps -/

/-- Steps on files, each of which may change them or fail. A failure leaves files behind too. -/
abbrev FileSteps (α : Type) := ExceptT PackError (StateM FileSystem) α

namespace FileSteps

/-- Reads a file. -/
def read (p : Path) (failure : SystemError → PackError) : FileSteps Bytes :=
  fun fs => ((fs.read p).mapError failure, fs)

/-- Goes on if there is a result. -/
def check {α : Type} (result : Except PackError α) : FileSteps α := fun fs => (result, fs)

/-- Writes a file. -/
def write (p : Path) (contents : Bytes) (failure : SystemError → PackError) : FileSteps Unit :=
  fun fs =>
    match fs.write p contents with
    | .ok after => (.ok (), after)
    | .error e => (.error (failure e), fs)

/-- What steps come to with an outcome: a failure leaves the files that were there. -/
def conclude (fs : FileSystem) : Except PackError FileSystem → Except PackError Unit × FileSystem
  | .ok after => (.ok (), after)
  | .error e => (.error e, fs)

section Bind

variable {fs : FileSystem} {α : Type}

/-- A step that only looks can fail, or it leaves the outcome to the steps after it. -/
theorem run_check_bind {result : Except PackError α} {next : α → FileSteps Unit}
    {outcome : α → Except PackError FileSystem}
    (h : ∀ a, (next a).run.run fs = conclude fs (outcome a)) :
    (check result >>= next).run.run fs = conclude fs (result >>= outcome) := by
  cases result with
  | error e => rfl
  | ok a => exact h a

theorem run_read_bind {p : Path} {failure : SystemError → PackError}
    {next : Bytes → FileSteps Unit} {outcome : Bytes → Except PackError FileSystem}
    (h : ∀ contents, (next contents).run.run fs = conclude fs (outcome contents)) :
    (read p failure >>= next).run.run fs
      = conclude fs ((fs.read p).mapError failure >>= outcome) := by
  rw [← run_check_bind h]
  rfl

theorem run_write (p : Path) (contents : Bytes) (failure : SystemError → PackError) :
    (write p contents failure).run.run fs
      = conclude fs ((fs.write p contents).mapError failure) := by
  show (match fs.write p contents with | .ok after => _ | .error e => _) = _
  cases fs.write p contents with
  | error e => rfl
  | ok after => rfl

end Bind

end FileSteps

/-- Packs a directory and writes the archive, step by step. -/
def packingSteps (dir output : Path) : FileSteps Unit := do
  let manifest ← FileSteps.read (dir.join (Path.ofString manifestName)) (.manifest dir)
  let _ ← FileSteps.check ((Manifest.parse manifest).mapError (.refused dir))
  let metadata ← FileSteps.read (dir.join (Path.ofString metadataName)) (.metadata dir)
  let contents ← FileSteps.check
    ((Archive.write [(manifestName, manifest), (metadataName, metadata)]).mapError .archive)
  FileSteps.write output contents (.output output)

/-- The steps come to the outcome of packing, and to the files that were there if they fail. -/
theorem run_packingSteps (fs : FileSystem) (dir output : Path) :
    (packingSteps dir output).run.run fs = FileSteps.conclude fs (writeLibrary fs dir output) := by
  simp only [writeLibrary, packLibrary, bind_assoc]
  refine FileSteps.run_read_bind fun manifest => FileSteps.run_check_bind fun _ => ?_
  refine FileSteps.run_read_bind fun metadata => FileSteps.run_check_bind fun contents => ?_
  exact FileSteps.run_write _ _ _

theorem value_packInto (fs : FileSystem) (dir output : Path) :
    (packInto fs dir output).value = writeLibrary fs dir output := by
  unfold packInto
  cases writeLibrary fs dir output with
  | error e => rfl
  | ok after => rfl

/-- The program reports the outcome of packing, with the files that come of it. -/
theorem Program.value_pack (fs : FileSystem) (dir output : Path) :
    (Program.pack dir (some output) fs).value = match writeLibrary fs dir output with
      | .ok after => (.ok ["Packed library to " ++ output.text], after)
      | .error e => (.error (Program.packReport e), fs) := by
  show (packInto fs dir output >>= fun result => _).value = _
  rw [Traced.value_bind, value_packInto]
  cases writeLibrary fs dir output with
  | error e => rfl
  | ok after => rfl

/-! ## Outcomes -/

section Outcomes

variable {fs : FileSystem} {dir output : Path}

/-- Packing succeeds if there is an archive and a place for it. -/
theorem exists_writeLibrary_iff : (∃ after, writeLibrary fs dir output = .ok after) ↔
    (∃ contents, packLibrary fs dir = .ok contents) ∧ ∃ spot, fs.place output = .ok spot := by
  constructor
  · rintro ⟨after, h⟩
    obtain ⟨contents, hpack, hwrite⟩ := writeLibrary_eq_ok_iff.1 h
    obtain ⟨spot, hspot, -⟩ := FileSystem.write_eq_ok_iff.1 hwrite
    exact ⟨⟨contents, hpack⟩, spot, hspot⟩
  · rintro ⟨⟨contents, hpack⟩, spot, hspot⟩
    exact ⟨_, writeLibrary_eq_ok_iff.2
      ⟨contents, hpack, FileSystem.write_eq_ok_iff.2 ⟨spot, hspot, rfl⟩⟩⟩

/-- Building the archive fails only over an entry of 10,000,000,000 bytes or more. -/
theorem exists_long_of_archive_error {e : Archive.WriteError}
    (h : writeLibrary fs dir output = .error (.archive e)) :
    ∃ name ∈ [manifestName, metadataName], ∃ contents,
      fs.read (dir.join (Path.ofString name)) = .ok contents ∧ 10000000000 ≤ contents.length := by
  -- of the places where packing can fail, only one gives such an error
  have hother : ∀ {ε α : Type} {x : Except ε α} {f : ε → PackError}, (∀ e', f e' ≠ .archive e) →
      x.mapError f ≠ .error (.archive e) := by
    intro ε α x f hf hx
    obtain ⟨e', -, he'⟩ := mapError_eq_error_iff.1 hx
    exact hf e' he'
  rcases bind_eq_error_iff.1 h with h | ⟨contents, -, h⟩
  · rcases bind_eq_error_iff.1 h with h | ⟨manifest, hmanifest, h⟩
    · exact absurd h (hother nofun)
    · rcases bind_eq_error_iff.1 h with h | ⟨-, -, h⟩
      · exact absurd h (hother nofun)
      · rcases bind_eq_error_iff.1 h with h | ⟨metadata, hmetadata, h⟩
        · exact absurd h (hother nofun)
        · obtain ⟨e, harchive, -⟩ := mapError_eq_error_iff.1 h
          by_contra hshort
          simp only [List.mem_cons, List.not_mem_nil, or_false, exists_eq_or_imp, exists_eq_left,
            not_or, not_exists, not_and, Nat.not_le] at hshort
          obtain ⟨written, hwritten⟩ := exists_write (hshort.1 _ (mapError_eq_ok_iff.1 hmanifest))
            (hshort.2 _ (mapError_eq_ok_iff.1 hmetadata))
          rw [hwritten] at harchive
          cases harchive
  · exact absurd h (hother nofun)

end Outcomes

/-- **Packing is all or nothing.** It fails and leaves the files as they were, or it changes
what the output path leads to and nothing else: the file there has the bytes that packing the
directory gives on the files before, wherever the output lies, and all other files are found
and read as before. It succeeds exactly if the directory can be packed and the output is a
place for a file. The archive alone cannot be built only if one of the two files has
10,000,000,000 bytes or more. -/
theorem packing_all_or_nothing (fs : FileSystem) (dir output : Path) :
    ((∃ e, writeLibrary fs dir output = .error e
        ∧ (packingSteps dir output).run.run fs = (.error e, fs)
        ∧ (Program.pack dir (some output) fs).value = (.error (Program.packReport e), fs))
      ∨ ∃ after spot contents, writeLibrary fs dir output = .ok after
        ∧ (packingSteps dir output).run.run fs = (.ok (), after)
        ∧ (Program.pack dir (some output) fs).value
          = (.ok ["Packed library to " ++ output.text], after)
        ∧ packLibrary fs dir = .ok contents
        ∧ after.locate output = .ok spot ∧ after.read output = .ok contents
        ∧ FileSystem.SameBut spot fs after
        ∧ (∀ p here, here ≠ spot → (after.locate p = .ok here ↔ fs.locate p = .ok here))
        ∧ ∀ p bytes, after.locate p ≠ .ok spot →
          (after.read p = .ok bytes ↔ fs.read p = .ok bytes))
    ∧ ((∃ after, writeLibrary fs dir output = .ok after) ↔
      (∃ contents, packLibrary fs dir = .ok contents) ∧ ∃ spot, fs.place output = .ok spot)
    ∧ ∀ e, writeLibrary fs dir output = .error (.archive e) →
      ∃ name ∈ [manifestName, metadataName], ∃ contents,
        fs.read (dir.join (Path.ofString name)) = .ok contents
        ∧ 10000000000 ≤ contents.length := by
  refine ⟨?_, exists_writeLibrary_iff, fun e => exists_long_of_archive_error⟩
  have hsteps := run_packingSteps fs dir output
  have hprogram := Program.value_pack fs dir output
  cases hwrite : writeLibrary fs dir output with
  | error e =>
      rw [hwrite] at hsteps hprogram
      exact Or.inl ⟨e, rfl, hsteps, hprogram⟩
  | ok after =>
      rw [hwrite] at hsteps hprogram
      obtain ⟨contents, hpack, hwritten⟩ := writeLibrary_eq_ok_iff.1 hwrite
      obtain ⟨spot, hspot, rfl⟩ := FileSystem.write_eq_ok_iff.1 hwritten
      obtain ⟨-, -, -, -, -, -, -, -, -, hdirectory⟩ := FileSystem.exists_of_place hspot
      have hdirectory' : (fs.put spot (.file contents)).isDirectory spot = false :=
        FileSystem.isDirectory_put_file hdirectory
      refine Or.inr ⟨_, spot, contents, rfl, hsteps, hprogram, hpack, FileSystem.locate_put hspot,
        FileSystem.contentsOr_of_write hwritten _, FileSystem.sameBut_put fs spot _, ?_, ?_⟩
      · exact fun p here hhere => FileSystem.locate_put_iff hdirectory hdirectory' hhere
      · exact fun p bytes hother => FileSystem.read_put_iff hdirectory hdirectory' hother

/-- The manifest of `foo` is itself a possible output. -/
theorem packing_all_or_nothing_foo : ∃ after contents,
    writeLibrary fooFiles (Path.ofString "foo") (Path.ofString "foo/manifest") = .ok after
    ∧ packLibrary fooFiles (Path.ofString "foo") = .ok contents
    ∧ after.read (Path.ofString "foo/manifest") = .ok contents
    ∧ after.read (Path.ofString "foo/module.json") = .ok fooMetadata := by
  have hmanifest : fooFiles.read ((Path.ofString "foo").join (Path.ofString manifestName))
      = .ok fooManifest := by rfl
  have hmetadata : fooFiles.read ((Path.ofString "foo").join (Path.ofString metadataName))
      = .ok fooMetadata := by rfl
  have hparsed : Manifest.parse fooManifest = .ok ⟨"foo", 1, ["linux_x64"]⟩ := by rfl
  have hsize : fooManifest.length < 10000000000 := by decide +kernel
  have hsizeMetadata : fooMetadata.length < 10000000000 := by decide +kernel
  obtain ⟨archive, harchive⟩ := exists_write hsize hsizeMetadata
  have hpack : packLibrary fooFiles (Path.ofString "foo") = .ok archive :=
    (packLibrary_eq_ok_iff hmanifest hmetadata).2 ⟨⟨_, hparsed⟩, harchive⟩
  have hplace : fooFiles.place (Path.ofString "foo/manifest")
      = .ok [['w'], "foo".toList, "manifest".toList] := by rfl
  have hbefore : fooFiles.locate (Path.ofString "foo/manifest")
      = .ok [['w'], "foo".toList, "manifest".toList] := by rfl
  have hlocated : fooFiles.locate (Path.ofString "foo/module.json")
      = .ok [['w'], "foo".toList, "module.json".toList] := by rfl
  obtain ⟨houtcome, hsuccess, -⟩ :=
    packing_all_or_nothing fooFiles (Path.ofString "foo") (Path.ofString "foo/manifest")
  obtain ⟨after, hafter⟩ := hsuccess.2 ⟨⟨archive, hpack⟩, _, hplace⟩
  rcases houtcome with ⟨e, he, -⟩ | ⟨after, spot, contents, hwrite, -, -, hcontents, hlocate, hread,
    hsame, hlocates, hreads⟩
  · rw [hafter] at he
    cases he
  · refine ⟨after, contents, hwrite, hcontents, hread, (hreads _ _ fun h => ?_).2 hmetadata⟩
    by_cases hspot : [['w'], "foo".toList, "manifest".toList] = spot
    · have hne : [['w'], "foo".toList, "module.json".toList] ≠ spot := by
        rw [← hspot]
        decide
      rw [(hlocates _ _ hne).2 hlocated] at h
      exact hne (Except.ok.inj h)
    · rw [(hlocates _ _ hspot).2 hbefore] at hlocate
      exact hspot (Except.ok.inj hlocate)

end Linkage
