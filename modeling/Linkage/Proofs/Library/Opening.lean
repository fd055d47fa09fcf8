import Linkage.Proofs.Archive.Extent
import Linkage.Proofs.FileSystem.Unchanged
import Linkage.Proofs.Loader.Stages
import Linkage.Proofs.Truncation

set_option autoImplicit false

/-! # What decides whether a library opens

A library has a manifest if its container can be read, the manifest entry in it is there and
has all its data, and these parse (`Layout.HasManifest`). Opening looks at nothing else. Without
a manifest the library is corrupt, otherwise the binary interface and then the target decide
(`ofArtifact_of_hasManifest`).

So the rest of a library does not matter: neither what is done to the metadata file of an
unpacked one nor which bytes stand behind the manifest of a packed one (`opening_decides`). The
exception is a packed library that is broken off by the bytes behind its manifest
(`not_openAt_of_same_manifest`).
-/

namespace Linkage

namespace Layout

variable {fs fs' : FileSystem} {layout : Layout} {name : String} {data : Bytes}
  {manifest : Manifest}

/-! ## Entries and manifests -/

/-- An entry of a layout can be read and has some data. -/
def HasEntry (fs : FileSystem) (name : String) (data : Bytes) : Layout → Prop
  | unpacked dir => fs.read (dir.join (Path.ofString name)) = .ok data
  | packed path => ∃ contents more, fs.mapFile path = .ok contents
      ∧ Container.HasEntry contents name data more

/-- The manifest entry of a layout can be read and parses. -/
def HasManifest (fs : FileSystem) (layout : Layout) (manifest : Manifest) : Prop :=
  ∃ data, layout.HasEntry fs manifestName data ∧ Manifest.parse data = .ok manifest

theorem entry_unpacked (fs : FileSystem) (dir : Path) (name : String) :
    (unpacked dir).entry fs name
      = Container.corrupt dir (match fs.read (dir.join (Path.ofString name)) with
          | .ok contents => .ok contents
          | .error e => .error (.unreadableEntry name e)) := by
  rw [entry, Container.ofLayout]
  rfl

/-- The entries that a layout has are those that are read from it. -/
theorem entry_eq_ok_iff : layout.entry fs name = .ok data ↔ layout.HasEntry fs name data := by
  cases layout with
  | unpacked dir =>
      rw [entry_unpacked, Container.corrupt_eq_ok_iff, HasEntry]
      cases fs.read (dir.join (Path.ofString name)) with
      | error e => simp
      | ok contents => simp
  | packed path =>
      rw [entry_packed_eq_ok_iff]
      constructor
      · rintro ⟨contents, hmap, hdata⟩
        obtain ⟨more, hmore⟩ := Container.extract_eq_ok_iff.1 hdata
        exact ⟨contents, more, hmap, hmore⟩
      · rintro ⟨contents, more, hmap, hmore⟩
        exact ⟨contents, hmap, Container.extract_eq_ok_iff.2 ⟨more, hmore⟩⟩

/-- The manifests that a layout has are those that are read from it. -/
theorem readManifest_eq_ok_iff_hasManifest :
    Library.readManifest fs layout = .ok manifest ↔ layout.HasManifest fs manifest := by
  rw [Library.readManifest_eq_ok_iff]
  constructor
  · rintro ⟨data, hentry, hparse⟩
    exact ⟨data, entry_eq_ok_iff.1 hentry, hparse⟩
  · rintro ⟨data, hentry, hparse⟩
    exact ⟨data, entry_eq_ok_iff.2 hentry, hparse⟩

end Layout

namespace Library

variable {fs fs' : FileSystem} {artifact : Artifact} {target : Target} {abiVersion : UInt32}
  {manifest : Manifest} {library : Library}

/-! ## Checks in their order -/

/-- A layout without a manifest is corrupt. -/
theorem exists_ofArtifact_eq_corrupt (h : ¬∃ manifest, artifact.layout.HasManifest fs manifest) :
    ∃ reason, ofArtifact fs artifact target abiVersion
      = .error (.corrupt artifact.path reason) := by
  cases hread : readManifest fs artifact.layout with
  | ok manifest =>
      exact absurd ⟨manifest, Layout.readManifest_eq_ok_iff_hasManifest.1 hread⟩ h
  | error e =>
      obtain ⟨reason, rfl⟩ := exists_of_readManifest_eq_error hread
      refine ⟨reason, ?_⟩
      rw [ofArtifact, hread]
      rfl

/-- With a manifest, the check of the manifest decides. -/
theorem ofArtifact_of_hasManifest (h : artifact.layout.HasManifest fs manifest) :
    ofArtifact fs artifact target abiVersion
      = (check artifact.path target abiVersion manifest).map fun _ => ⟨artifact, manifest⟩ :=
  ofArtifact_of_readManifest (Layout.readManifest_eq_ok_iff_hasManifest.2 h) target abiVersion

/-- The binary interface counts first. -/
theorem ofArtifact_of_abi_ne (h : artifact.layout.HasManifest fs manifest)
    (habi : manifest.abiVersion ≠ abiVersion) :
    ofArtifact fs artifact target abiVersion
      = .error (.incompatible artifact.path (.abi abiVersion manifest.abiVersion)) := by
  rw [ofArtifact_of_hasManifest h, check, if_pos (bne_iff_ne.2 habi)]
  rfl

theorem supports_iff : manifest.supports target = true ↔ target.name ∈ manifest.targets := by
  simp [Manifest.supports]

/-- The targets count after it. -/
theorem ofArtifact_of_target_notMem (h : artifact.layout.HasManifest fs manifest)
    (habi : manifest.abiVersion = abiVersion) (htarget : target.name ∉ manifest.targets) :
    ofArtifact fs artifact target abiVersion
      = .error (.incompatible artifact.path (.target target.name manifest.targets)) := by
  have hsupports : (!manifest.supports target) = true := by
    rw [Bool.not_eq_true', ← Bool.not_eq_true, supports_iff]
    exact htarget
  rw [ofArtifact_of_hasManifest h, check, if_neg (by simp [habi]), if_pos hsupports]
  rfl

theorem ofArtifact_of_fits (h : artifact.layout.HasManifest fs manifest)
    (habi : manifest.abiVersion = abiVersion) (htarget : target.name ∈ manifest.targets) :
    ofArtifact fs artifact target abiVersion = .ok ⟨artifact, manifest⟩ := by
  rw [ofArtifact_of_hasManifest h, check, if_neg (by simp [habi]),
    if_neg (by simp [supports_iff.2 htarget])]
  rfl

/-- Exactly the libraries with a manifest that fits open. -/
theorem ofArtifact_eq_ok_iff :
    ofArtifact fs artifact target abiVersion = .ok library ↔ library.artifact = artifact
      ∧ artifact.layout.HasManifest fs library.manifest
      ∧ library.manifest.abiVersion = abiVersion
      ∧ target.name ∈ library.manifest.targets := by
  constructor
  · intro h
    by_cases hmanifest : ∃ manifest, artifact.layout.HasManifest fs manifest
    · obtain ⟨manifest, hmanifest⟩ := hmanifest
      by_cases habi : manifest.abiVersion = abiVersion
      · by_cases htarget : target.name ∈ manifest.targets
        · rw [ofArtifact_of_fits hmanifest habi htarget] at h
          cases h
          exact ⟨rfl, hmanifest, habi, htarget⟩
        · rw [ofArtifact_of_target_notMem hmanifest habi htarget] at h
          cases h
      · rw [ofArtifact_of_abi_ne hmanifest habi] at h
        cases h
    · obtain ⟨reason, hcorrupt⟩ := exists_ofArtifact_eq_corrupt hmanifest
      rw [hcorrupt] at h
      cases h
  · rintro ⟨rfl, hmanifest, habi, htarget⟩
    exact ofArtifact_of_fits hmanifest habi htarget

/-- Exactly the libraries without a manifest are corrupt. -/
theorem exists_ofArtifact_eq_corrupt_iff :
    (∃ reason, ofArtifact fs artifact target abiVersion = .error (.corrupt artifact.path reason))
      ↔ ¬∃ manifest, artifact.layout.HasManifest fs manifest := by
  constructor
  · rintro ⟨reason, hcorrupt⟩ ⟨manifest, hmanifest⟩
    rw [ofArtifact_of_hasManifest hmanifest] at hcorrupt
    rcases check_cases target abiVersion manifest with hfits | ⟨incompatibility, hfails⟩
    · rw [hfits] at hcorrupt
      cases hcorrupt
    · rw [hfails] at hcorrupt
      cases hcorrupt
  · exact exists_ofArtifact_eq_corrupt

/-! ## What does not matter -/

/-- Opening looks at nothing but the manifest entry. -/
theorem openAt_congr
    (h : artifact.layout.entry fs' manifestName = artifact.layout.entry fs manifestName) :
    openAt fs' artifact target abiVersion = openAt fs artifact target abiVersion := by
  rw [openAt, openAt, ofArtifact, ofArtifact, readManifest_eq, readManifest_eq, h]

/-- **The manifest decides.** A library opens exactly if it has a manifest for the right binary
interface and the target, and keeps its artifact and the manifest. Without a manifest it is
corrupt, with one for another binary interface it is incompatible for that reason, and else if
the target is none of those of the manifest. All failures have the path of the artifact.

Opening is the same if the metadata file of an unpacked library is changed, or the bytes behind
the manifest of a packed one, except where they break off the archive. -/
theorem opening_decides (fs : FileSystem) (artifact : Artifact) (target : Target)
    (abiVersion : UInt32) :
    (∀ library, (openAt fs artifact target abiVersion).value = .ok library ↔
      library.artifact = artifact ∧ artifact.layout.HasManifest fs library.manifest
        ∧ library.manifest.abiVersion = abiVersion ∧ target.name ∈ library.manifest.targets)
    ∧ ((∃ reason, (openAt fs artifact target abiVersion).value
          = .error (.corrupt artifact.path reason)) ↔
        ¬∃ manifest, artifact.layout.HasManifest fs manifest)
    ∧ (∀ manifest, artifact.layout.HasManifest fs manifest → manifest.abiVersion ≠ abiVersion →
      (openAt fs artifact target abiVersion).value
        = .error (.incompatible artifact.path (.abi abiVersion manifest.abiVersion)))
    ∧ (∀ manifest, artifact.layout.HasManifest fs manifest → manifest.abiVersion = abiVersion →
      target.name ∉ manifest.targets → (openAt fs artifact target abiVersion).value
        = .error (.incompatible artifact.path (.target target.name manifest.targets)))
    ∧ (∀ fs' dir here, artifact.layout = .unpacked dir → fs.LeadsTo dir here →
      fs.isDirectory (here ++ [metadataName.toList]) = false →
      FileSystem.SameBut (here ++ [metadataName.toList]) fs fs' →
      openAt fs' artifact target abiVersion = openAt fs artifact target abiVersion)
    ∧ ∀ fs' path start more more' data, artifact.layout = .packed path →
      fs.mapFile path = .ok (start ++ more) → fs'.mapFile path = .ok (start ++ more') →
      Container.HasEntry (start ++ more) manifestName data more →
      ¬Container.BreaksOff start more' →
      openAt fs' artifact target abiVersion = openAt fs artifact target abiVersion := by
  rw [value_openAt]
  refine ⟨fun library => ofArtifact_eq_ok_iff, exists_ofArtifact_eq_corrupt_iff, ?_, ?_, ?_, ?_⟩
  · intro manifest hmanifest habi
    exact ofArtifact_of_abi_ne hmanifest habi
  · intro manifest hmanifest habi htarget
    exact ofArtifact_of_target_notMem hmanifest habi htarget
  · intro fs' dir here hlayout hdir hspot hsame
    apply openAt_congr
    have hname : Path.IsName manifestName.toList := ⟨by decide, by decide, by decide⟩
    have hread : fs'.read (dir.join (Path.ofString manifestName))
        = fs.read (dir.join (Path.ofString manifestName)) :=
      hsame.contentsOr_join hspot hdir hname (by decide) .isDirectory
    rw [hlayout, Layout.entry_unpacked, Layout.entry_unpacked, hread]
  · intro fs' path start more more' data hlayout hmap hmap' hentry hharmless
    apply openAt_congr
    obtain ⟨hdata, hdata'⟩ := Container.extract_of_hasEntry hentry hharmless
    rw [hlayout, Layout.entry_packed_eq_ok_iff.2 ⟨_, hmap, hdata⟩,
      Layout.entry_packed_eq_ok_iff.2 ⟨_, hmap', hdata'⟩]

/-- The packed library `foo` up to the end of its manifest. -/
def fooStart : Bytes :=
  Archive.magic ++ (Archive.header manifestName fooManifest.length ++ fooManifest)

/-- What stands behind the manifest in it: the entry of the metadata. -/
def fooRest : Bytes :=
  Archive.header metadataName fooMetadata.length ++ fooMetadata
    ++ Archive.padding fooMetadata.length

/-- The library `foo` in a directory. -/
def filesOfFoo : FileSystem :=
  (FileSystem.empty []).installLibrary (Path.ofString "foo") fooManifest fooMetadata

/-- The library `foo` after it was opened. -/
def openedFoo (layout : Layout) : Library := ⟨⟨"lib", layout⟩, ⟨"foo", 1, ["linux_x64"]⟩⟩

theorem value_openAt_foo {layout : Layout} (h : layout.HasEntry fs manifestName fooManifest) :
    (openAt fs ⟨"lib", layout⟩ .linuxX64 1).value = .ok (openedFoo layout) := by
  have hparse : Manifest.parse fooManifest = .ok ⟨"foo", 1, ["linux_x64"]⟩ := by rfl
  rw [value_openAt]
  exact ofArtifact_of_fits ⟨fooManifest, h, hparse⟩ rfl (by decide)

theorem finds_foo :
    Archive.Finds [] manifestName fooManifest fooRest
      (Archive.header manifestName fooManifest.length ++ fooManifest ++ fooRest) := by
  have hfirst : Archive.Member.first [] (Archive.header manifestName fooManifest.length
      ++ fooManifest ++ fooRest) = .ok (⟨Utf8.encode manifestName.toList, fooManifest.length,
        fooManifest ++ fooRest⟩, fooRest) := by decide +kernel
  exact .here hfirst rfl (by decide +kernel) (by decide +kernel)

/-- The library `foo` opens without its metadata: when their file holds other bytes, and when a
byte that starts no member stands behind the manifest. -/
theorem opening_decides_foo :
    (openAt (filesOfFoo.put ["foo".toList, metadataName.toList] (.file []))
        ⟨"lib", .unpacked (Path.ofString "foo")⟩ .linuxX64 1).value
      = .ok (openedFoo (.unpacked (Path.ofString "foo")))
    ∧ (openAt (Archive.filesWith (fooStart ++ Archive.ascii "x"))
        ⟨"lib", .packed (Path.ofString "foo.mlib")⟩ .linuxX64 1).value
      = .ok (openedFoo (.packed (Path.ofString "foo.mlib"))) := by
  constructor
  · have hentry : (Layout.unpacked (Path.ofString "foo")).HasEntry filesOfFoo manifestName
        fooManifest := by rfl
    have hdir : filesOfFoo.LeadsTo (Path.ofString "foo") ["foo".toList] := by rfl
    have hspot : filesOfFoo.isDirectory (["foo".toList] ++ [metadataName.toList]) = false := by rfl
    obtain ⟨-, -, -, -, hunpacked, -⟩ :=
      opening_decides filesOfFoo ⟨"lib", .unpacked (Path.ofString "foo")⟩ .linuxX64 1
    rw [← value_openAt_foo hentry]
    exact congrArg Traced.value
      (hunpacked _ _ _ rfl hdir hspot (FileSystem.sameBut_put filesOfFoo _ (.file [])))
  · have hentry : Container.HasEntry (fooStart ++ fooRest) manifestName fooManifest fooRest :=
      ⟨⟨[], _⟩, by decide +kernel, finds_foo⟩
    have hharmless : ¬Container.BreaksOff fooStart (Archive.ascii "x") := by
      have hfirst : Archive.Member.first [] (Archive.header manifestName fooManifest.length
          ++ fooManifest) = .ok (⟨Utf8.encode manifestName.toList, fooManifest.length,
            fooManifest⟩, []) := by decide +kernel
      exact Container.not_breaksOff_of_first hfirst (by decide)
    have hmap := Archive.mapFile_filesWith
    have hpackedEntry : (Layout.packed (Path.ofString "foo.mlib")).HasEntry
        (Archive.filesWith (fooStart ++ fooRest)) manifestName fooManifest :=
      ⟨_, _, hmap _, hentry⟩
    obtain ⟨-, -, -, -, -, hpacked⟩ := opening_decides (Archive.filesWith (fooStart ++ fooRest))
      ⟨"lib", .packed (Path.ofString "foo.mlib")⟩ .linuxX64 1
    rw [← value_openAt_foo hpackedEntry]
    exact congrArg Traced.value
      (hpacked _ _ _ _ _ _ rfl (hmap _) (hmap _) hentry hharmless)

/-- After two symbol tables the bytes behind the manifest matter: here it is a byte that starts
no member. -/
theorem not_openAt_of_same_manifest :
    ¬∀ (fs fs' : FileSystem) (artifact : Artifact) (target : Target) (abiVersion : UInt32)
      (path : Path) (start more more' data : Bytes), artifact.layout = .packed path →
      fs.mapFile path = .ok (start ++ more) → fs'.mapFile path = .ok (start ++ more') →
      Container.HasEntry (start ++ more) manifestName data more →
      openAt fs' artifact target abiVersion = openAt fs artifact target abiVersion := by
  intro h
  have hentry : Container.HasEntry (Container.shortContents ++ fooRest) manifestName fooManifest
      fooRest := ⟨⟨[], _⟩, by decide +kernel, finds_foo⟩
  have hmap := Archive.mapFile_filesWith
  have hpackedEntry : (Layout.packed (Path.ofString "foo.mlib")).HasEntry
      (Archive.filesWith (Container.shortContents ++ fooRest)) manifestName fooManifest :=
    ⟨_, _, hmap _, hentry⟩
  have hfails : (openAt (Archive.filesWith (Container.shortContents ++ Archive.ascii "x"))
      ⟨"lib", .packed (Path.ofString "foo.mlib")⟩ .linuxX64 1).value
      = .error (.corrupt (Path.ofString "foo.mlib") "Invalid archive member header") := by
    decide +kernel
  rw [h _ _ _ _ _ _ _ _ _ _ rfl (hmap _) (hmap _) hentry, value_openAt_foo hpackedEntry]
    at hfails
  cases hfails

end Library

end Linkage
