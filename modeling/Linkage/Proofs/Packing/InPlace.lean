import Linkage.Proofs.FileSystem
import Linkage.Proofs.Packing
import Linkage.Proofs.Resolver

set_option autoImplicit false

/-! # Packing in place

By default a library directory is packed to a file beside it, under the packed spelling of
its name (`defaultOutput_eq_ok_iff`). That is the path which a resolver looks at first, so a
library that was packed in its root is found in its packed form from then on
(`Resolver.value_resolve_of_isFile`), and it loads as its directory did before.
-/

namespace Linkage

/-- A directory is packed to its packed spelling, if it has a name. -/
theorem defaultOutput_eq_ok_iff {dir output : Path} :
    defaultOutput dir = .ok output ↔ dir.fileName.isSome = true ∧ dir.packedSpelling = output := by
  unfold defaultOutput Path.packedSpelling
  cases dir.fileName with
  | none =>
      constructor
      · intro h
        cases h
      · rintro ⟨h, -⟩
        cases h
  | some name =>
      rw [Except.ok.injEq]
      exact ⟨fun h => ⟨rfl, h⟩, fun h => h.2⟩

/-- A file of the packed spelling in the first root is what an identifier is resolved to. -/
theorem Resolver.value_resolve_of_isFile {fs : FileSystem} {identifier : String}
    (hsearched : IsSearched identifier) {root : Path}
    (hfile : fs.isFile (candidate identifier root).packedSpelling = true) (later : List Path) :
    ((⟨root :: later⟩ : Resolver).resolve fs identifier).value
      = .ok ⟨identifier, .packed (candidate identifier root).packedSpelling⟩ := by
  have hbefore : ∀ other ∈ ([] : List Path), ¬Matches fs identifier other := nofun
  have hfirst := value_resolve_of_first hsearched hbefore (Or.inl hfile) later
  rwa [List.nil_append, layoutIn, if_pos hfile] at hfirst

/-- **Packing in place.** When the directory of an identifier in a root has been packed to
its default output, every resolver with that root in front finds the packed library, and it
loads as the directory did before, whatever it is loaded for. -/
theorem resolve_and_load_after_packing {fs after : FileSystem} {root output : Path}
    {identifier : String} (hsearched : Resolver.IsSearched identifier)
    (houtput : defaultOutput (root.join (Path.ofString identifier)) = .ok output)
    (hpack : writeLibrary fs (root.join (Path.ofString identifier)) output = .ok after) :
    (∀ later, ((⟨root :: later⟩ : Resolver).resolve after identifier).value
      = .ok ⟨identifier, .packed output⟩)
    ∧ ∃ contents manifest,
      fs.read ((root.join (Path.ofString identifier)).join (Path.ofString manifestName))
        = .ok contents
      ∧ Manifest.parse contents = .ok manifest
      ∧ Library.LoadsAs after (.packed output)
        fs (.unpacked (root.join (Path.ofString identifier))) manifest := by
  obtain ⟨-, rfl⟩ := defaultOutput_eq_ok_iff.1 houtput
  obtain ⟨contents, hcontents, hwritten⟩ := writeLibrary_eq_ok_iff.1 hpack
  refine ⟨fun later => ?_, ?_⟩
  · exact Resolver.value_resolve_of_isFile hsearched (FileSystem.isFile_of_write hwritten) later
  · obtain ⟨manifest, metadata, parsed, hmanifest, hparsed, hmetadata, harchive⟩ :=
      exists_of_packLibrary hcontents
    have hpacked := Layout.holds_packed harchive (FileSystem.mapFile_of_write hwritten)
    have hunpacked := Layout.holds_unpacked hmanifest hmetadata
    exact ⟨manifest, parsed, hmanifest, hparsed,
      Library.loadsAs_of_holds hpacked hunpacked hparsed⟩

/-- The library `foo` in a repository. -/
def filesToPack : FileSystem :=
  (FileSystem.empty [['w']]).installLibrary (Path.ofString "repo/foo") fooManifest fooMetadata

theorem resolve_and_load_after_packing_foo :
    Resolver.IsSearched "foo"
    ∧ defaultOutput ((Path.ofString "repo").join (Path.ofString "foo"))
      = .ok (Path.ofString "repo/foo.mlib")
    ∧ ∃ after,
      writeLibrary filesToPack ((Path.ofString "repo").join (Path.ofString "foo"))
        (Path.ofString "repo/foo.mlib") = .ok after
      ∧ ((⟨[Path.ofString "repo"]⟩ : Resolver).resolve filesToPack "foo").value
        = .ok ⟨"foo", .unpacked (Path.ofString "repo/foo")⟩
      ∧ ((⟨[Path.ofString "repo"]⟩ : Resolver).resolve after "foo").value
        = .ok ⟨"foo", .packed (Path.ofString "repo/foo.mlib")⟩
      ∧ Library.LoadsAs after (.packed (Path.ofString "repo/foo.mlib"))
        filesToPack (.unpacked (Path.ofString "repo/foo")) ⟨"foo", 1, ["linux_x64"]⟩ := by
  have hsearched : Resolver.IsSearched "foo" := ⟨rfl, rfl⟩
  have houtput : defaultOutput ((Path.ofString "repo").join (Path.ofString "foo"))
      = .ok (Path.ofString "repo/foo.mlib") := by rfl
  have hread : filesToPack.read (((Path.ofString "repo").join (Path.ofString "foo")).join
      (Path.ofString manifestName)) = .ok fooManifest := by rfl
  have hreadMetadata : filesToPack.read (((Path.ofString "repo").join (Path.ofString "foo")).join
      (Path.ofString metadataName)) = .ok fooMetadata := by rfl
  have hparsed : Manifest.parse fooManifest = .ok ⟨"foo", 1, ["linux_x64"]⟩ := by rfl
  have hsize : fooManifest.length < 10000000000 := by decide +kernel
  have hsizeMetadata : fooMetadata.length < 10000000000 := by decide +kernel
  obtain ⟨archive, harchive⟩ := exists_write hsize hsizeMetadata
  have hpacked : packLibrary filesToPack ((Path.ofString "repo").join (Path.ofString "foo"))
      = .ok archive := (packLibrary_eq_ok_iff hread hreadMetadata).2 ⟨⟨_, hparsed⟩, harchive⟩
  obtain ⟨after, hafter⟩ : ∃ after,
      filesToPack.write (Path.ofString "repo/foo.mlib") archive = .ok after := ⟨_, rfl⟩
  have hpack : writeLibrary filesToPack ((Path.ofString "repo").join (Path.ofString "foo"))
      (Path.ofString "repo/foo.mlib") = .ok after :=
    writeLibrary_eq_ok_iff.2 ⟨archive, hpacked, hafter⟩
  obtain ⟨hresolve, contents, manifest, hcontents, hmanifest, hload⟩ :=
    resolve_and_load_after_packing hsearched houtput hpack
  rw [hread] at hcontents
  cases hcontents
  rw [hparsed] at hmanifest
  cases hmanifest
  exact ⟨hsearched, houtput, after, hpack, by rfl, hresolve [], hload⟩

end Linkage
