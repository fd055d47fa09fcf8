import Linkage.Packing
import Linkage.Proofs.Archive.Lookup
import Linkage.Proofs.Library

set_option autoImplicit false

/-! # Packed and unpacked libraries

The packed form of a library holds the bytes of its two entries again
(`Layout.holds_packed`). Both forms are therefore opened and loaded alike, and the results
differ in the path only (`Library.loadsAs_of_holds`).
-/

namespace Linkage

open Traversal (exists_of_bind_eq_ok mapError_eq_ok_iff)

variable {fs : FileSystem} {dir : Path} {manifest metadata contents : Bytes}

/-! ## Packing -/

/-- The names of the two entries fit a header, so only their sizes matter. -/
theorem exists_write (hmanifest : manifest.length < 10000000000)
    (hmetadata : metadata.length < 10000000000) :
    ∃ contents, Archive.write [(manifestName, manifest), (metadataName, metadata)]
      = .ok contents := by
  have hfirst : Archive.writeEntry manifestName manifest = .ok _ :=
    Archive.writeEntry_eq_ok_iff.2 ⟨by decide, by decide, hmanifest, rfl⟩
  have hsecond : Archive.writeEntry metadataName metadata = .ok _ :=
    Archive.writeEntry_eq_ok_iff.2 ⟨by decide, by decide, hmetadata, rfl⟩
  simp only [Archive.write, Archive.writeEntries, hfirst, hsecond]
  exact ⟨_, rfl⟩

/-- What went into a packed library. -/
theorem exists_of_packLibrary (h : packLibrary fs dir = .ok contents) :
    ∃ manifest metadata parsed,
      fs.read (dir.join (Path.ofString manifestName)) = .ok manifest
      ∧ Manifest.parse manifest = .ok parsed
      ∧ fs.read (dir.join (Path.ofString metadataName)) = .ok metadata
      ∧ Archive.write [(manifestName, manifest), (metadataName, metadata)] = .ok contents := by
  obtain ⟨manifest, hmanifest, h⟩ := exists_of_bind_eq_ok h
  obtain ⟨parsed, hparsed, h⟩ := exists_of_bind_eq_ok h
  obtain ⟨metadata, hmetadata, h⟩ := exists_of_bind_eq_ok h
  exact ⟨manifest, metadata, parsed, mapError_eq_ok_iff.1 hmanifest,
    mapError_eq_ok_iff.1 hparsed, mapError_eq_ok_iff.1 hmetadata, mapError_eq_ok_iff.1 h⟩

/-- What is packed is a manifest that can be read and the metadata as they are. -/
theorem packLibrary_eq_ok_iff
    (hmanifest : fs.read (dir.join (Path.ofString manifestName)) = .ok manifest)
    (hmetadata : fs.read (dir.join (Path.ofString metadataName)) = .ok metadata) :
    packLibrary fs dir = .ok contents ↔ (∃ parsed, Manifest.parse manifest = .ok parsed)
      ∧ Archive.write [(manifestName, manifest), (metadataName, metadata)] = .ok contents := by
  constructor
  · intro h
    obtain ⟨manifest', metadata', parsed, hmanifest', hparsed, hmetadata', hwrite⟩ :=
      exists_of_packLibrary h
    rw [hmanifest] at hmanifest'
    rw [hmetadata] at hmetadata'
    cases hmanifest'
    cases hmetadata'
    exact ⟨⟨parsed, hparsed⟩, hwrite⟩
  · rintro ⟨⟨parsed, hparsed⟩, hwrite⟩
    unfold packLibrary
    simp only [hmanifest, hparsed, hmetadata, hwrite, Except.mapError, bind, Except.bind]

/-- A directory is written in its packed form or not at all. -/
theorem writeLibrary_eq_ok_iff {output : Path} {after : FileSystem} :
    writeLibrary fs dir output = .ok after ↔
      ∃ contents, packLibrary fs dir = .ok contents ∧ fs.write output contents = .ok after := by
  constructor
  · intro h
    obtain ⟨contents, hpack, h⟩ := exists_of_bind_eq_ok h
    exact ⟨contents, hpack, mapError_eq_ok_iff.1 h⟩
  · rintro ⟨contents, hpack, hwrite⟩
    unfold writeLibrary
    simp only [hpack, hwrite, Except.mapError, bind, Except.bind]

/-- A packed library holds what was packed. -/
theorem Layout.holds_packed {p : Path}
    (hwrite : Archive.write [(manifestName, manifest), (metadataName, metadata)] = .ok contents)
    (hmap : fs.mapFile p = .ok contents) : (Layout.packed p).Holds fs manifest metadata := by
  have hmanifestName : Archive.bareName manifestName = manifestName := by decide
  have hmetadataName : Archive.bareName metadataName = metadataName := by decide
  have hfirst : manifestName ∉ Archive.symbolTableNames := by decide
  have hlisting : Archive.listing [(manifestName, manifest), (metadataName, metadata)]
      = [(manifestName, manifest), (metadataName, metadata)] :=
    Archive.listing_eq_self (by simp [hmanifestName, hmetadataName]) (by simpa using hfirst)
  obtain ⟨a, ha, hentry⟩ := Archive.entry_archive_of_write hwrite
  refine ⟨.archive p a, Archive.ofLayout_of_ofBytes hmap ha, ?_, ?_⟩
  · rw [hentry, hlisting]
    rfl
  · rw [hentry, hlisting]
    rfl

/-- **Packed libraries load as unpacked ones.** For a directory with both entries, of less
than 10,000,000,000 bytes each, packing succeeds exactly if the manifest can be read, and the
archive loads as the directory does wherever it is put. -/
theorem packed_loads_as_unpacked (fs : FileSystem) (dir : Path) (manifest metadata : Bytes)
    (hmanifest : fs.read (dir.join (Path.ofString manifestName)) = .ok manifest)
    (hmetadata : fs.read (dir.join (Path.ofString metadataName)) = .ok metadata)
    (hmanifestSize : manifest.length < 10000000000)
    (hmetadataSize : metadata.length < 10000000000) :
    ((∃ contents, packLibrary fs dir = .ok contents)
      ↔ ∃ parsed, Manifest.parse manifest = .ok parsed)
    ∧ ∀ contents, packLibrary fs dir = .ok contents →
      ∃ parsed, Manifest.parse manifest = .ok parsed
        ∧ ∀ (after : FileSystem) (p : Path), after.mapFile p = .ok contents →
          Library.LoadsAs after (.packed p) fs (.unpacked dir) parsed := by
  refine ⟨⟨?_, ?_⟩, ?_⟩
  · rintro ⟨contents, hpack⟩
    exact ((packLibrary_eq_ok_iff hmanifest hmetadata).1 hpack).1
  · intro hparsed
    obtain ⟨contents, hwrite⟩ := exists_write hmanifestSize hmetadataSize
    exact ⟨contents, (packLibrary_eq_ok_iff hmanifest hmetadata).2 ⟨hparsed, hwrite⟩⟩
  · intro contents hpack
    obtain ⟨⟨parsed, hparsed⟩, hwrite⟩ := (packLibrary_eq_ok_iff hmanifest hmetadata).1 hpack
    refine ⟨parsed, hparsed, fun after p hmap => ?_⟩
    exact Library.loadsAs_of_holds (Layout.holds_packed hwrite hmap)
      (Layout.holds_unpacked hmanifest hmetadata) hparsed

/-- The library `foo` in a directory of its own. -/
def fooFiles : FileSystem :=
  (FileSystem.empty [['w']]).installLibrary (Path.ofString "foo") fooManifest fooMetadata

theorem packed_loads_as_unpacked_foo :
    fooFiles.read ((Path.ofString "foo").join (Path.ofString manifestName)) = .ok fooManifest
    ∧ fooFiles.read ((Path.ofString "foo").join (Path.ofString metadataName)) = .ok fooMetadata
    ∧ fooManifest.length < 10000000000
    ∧ fooMetadata.length < 10000000000
    ∧ ∃ contents, packLibrary fooFiles (Path.ofString "foo") = .ok contents
      ∧ (fooFiles.install (Path.ofString "foo.mlib") contents).mapFile (Path.ofString "foo.mlib")
        = .ok contents
      ∧ Library.LoadsAs (fooFiles.install (Path.ofString "foo.mlib") contents)
        (.packed (Path.ofString "foo.mlib")) fooFiles (.unpacked (Path.ofString "foo"))
        ⟨"foo", 1, ["linux_x64"]⟩ := by
  have hmanifest : fooFiles.read ((Path.ofString "foo").join (Path.ofString manifestName))
      = .ok fooManifest := by rfl
  have hmetadata : fooFiles.read ((Path.ofString "foo").join (Path.ofString metadataName))
      = .ok fooMetadata := by rfl
  have hmanifestSize : fooManifest.length < 10000000000 := by decide +kernel
  have hmetadataSize : fooMetadata.length < 10000000000 := by decide +kernel
  have hparsed : Manifest.parse fooManifest = .ok ⟨"foo", 1, ["linux_x64"]⟩ := by rfl
  have hpacks := packed_loads_as_unpacked fooFiles (Path.ofString "foo") fooManifest fooMetadata
    hmanifest hmetadata hmanifestSize hmetadataSize
  obtain ⟨contents, hpack⟩ := hpacks.1.2 ⟨_, hparsed⟩
  have hmap : (fooFiles.install (Path.ofString "foo.mlib") contents).mapFile
      (Path.ofString "foo.mlib") = .ok contents := by rfl
  obtain ⟨parsed, hparsed', hload⟩ := hpacks.2 contents hpack
  rw [hparsed] at hparsed'
  cases hparsed'
  exact ⟨hmanifest, hmetadata, hmanifestSize, hmetadataSize, contents, hpack, hmap,
    hload _ _ hmap⟩

end Linkage
