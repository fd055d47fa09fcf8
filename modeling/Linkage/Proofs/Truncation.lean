import Linkage.Proofs.Archive.Truncation
import Linkage.Proofs.Packing

set_option autoImplicit false

/-! # Libraries that were cut off

A packed library that opens although its end is missing opens in the same way when the end
is there, and so does its module (`reads_after_truncation`). The one exception is the one
for archives: the reader looks past a member that is the last one of the shorter file. The
archives that are written here never have it (`Container.not_breaksOff_of_write`).
-/

namespace Linkage

open Traversal (exists_of_bind_eq_ok)

/-- The contents of an entry in a layout. -/
def Layout.entry (fs : FileSystem) (layout : Layout) (name : String) : Except LoadError Bytes := do
  (← Container.ofLayout fs layout).entry fs name

theorem Container.corrupt_eq_ok_iff {α : Type} {path : Path} {x : Except Corruption α} {a : α} :
    corrupt path x = .ok a ↔ x = .ok a := by
  cases x with
  | ok b => simp [corrupt]
  | error c => simp [corrupt]

/-- An entry of a packed library is one in the contents of its file. -/
theorem Layout.entry_packed_eq_ok_iff {fs : FileSystem} {path : Path} {name : String}
    {data : Bytes} :
    (Layout.packed path).entry fs name = .ok data
      ↔ ∃ contents, fs.mapFile path = .ok contents
        ∧ Container.extract contents name = .ok data := by
  constructor
  · intro h
    obtain ⟨container, hcontainer, hentry⟩ := exists_of_bind_eq_ok h
    have hcontents := Container.corrupt_eq_ok_iff.1 hcontainer
    cases hmap : fs.mapFile path with
    | error e =>
        rw [hmap] at hcontents
        cases hcontents
    | ok contents =>
        rw [hmap] at hcontents
        refine ⟨contents, rfl, ?_⟩
        cases ha : Container.ofBytes contents with
        | error c =>
            simp only [ha] at hcontents
            cases hcontents
        | ok a =>
            simp only [ha] at hcontents
            cases hcontents
            rw [Container.extract, ha]
            exact Container.corrupt_eq_ok_iff.1 hentry
  · rintro ⟨contents, hmap, hdata⟩
    obtain ⟨a, ha, hentry⟩ := exists_of_bind_eq_ok hdata
    rw [entry, Archive.ofLayout_of_ofBytes hmap ha]
    exact Container.corrupt_eq_ok_iff.2 hentry

namespace Library

variable {fs fs' : FileSystem} {layout : Layout}

/-- The manifest that the contents of its entry spell. -/
def parseManifest (path : Path) (contents : Bytes) : Except LoadError Manifest :=
  match Manifest.parse contents with
  | .ok manifest => .ok manifest
  | .error problem => .error (.corrupt path problem.message)

theorem parseManifest_eq_ok_iff {path : Path} {contents : Bytes} {manifest : Manifest} :
    parseManifest path contents = .ok manifest ↔ Manifest.parse contents = .ok manifest := by
  unfold parseManifest
  cases Manifest.parse contents with
  | error problem => simp
  | ok found => simp

/-- The manifest of a layout is in one of its entries. -/
theorem readManifest_eq (fs : FileSystem) (layout : Layout) :
    readManifest fs layout = layout.entry fs manifestName >>= parseManifest layout.path := by
  rw [readManifest, Layout.entry]
  cases Container.ofLayout fs layout with
  | error e => rfl
  | ok container => rfl

theorem readManifest_eq_ok_iff {manifest : Manifest} :
    readManifest fs layout = .ok manifest ↔ ∃ contents,
      layout.entry fs manifestName = .ok contents ∧ Manifest.parse contents = .ok manifest := by
  rw [readManifest_eq]
  constructor
  · intro h
    obtain ⟨contents, hentry, hparsed⟩ := exists_of_bind_eq_ok h
    exact ⟨contents, hentry, parseManifest_eq_ok_iff.1 hparsed⟩
  · rintro ⟨contents, hentry, hparsed⟩
    rw [hentry]
    exact parseManifest_eq_ok_iff.2 hparsed

/-- A library opens as well where its manifest can be read as well. -/
theorem ofArtifact_mono {identifier : String} {target : Target} {abiVersion : UInt32}
    {library : Library}
    (hentry : ∀ contents, layout.entry fs manifestName = .ok contents →
      layout.entry fs' manifestName = .ok contents)
    (h : ofArtifact fs ⟨identifier, layout⟩ target abiVersion = .ok library) :
    ofArtifact fs' ⟨identifier, layout⟩ target abiVersion = .ok library := by
  obtain ⟨manifest, hmanifest, hchecked⟩ := exists_of_bind_eq_ok h
  obtain ⟨contents, hcontents, hparsed⟩ := readManifest_eq_ok_iff.1 hmanifest
  rw [ofArtifact, readManifest_eq_ok_iff.2 ⟨contents, hentry contents hcontents, hparsed⟩]
  exact hchecked

/-- The module of a library is in one entry of its layout. -/
theorem loadModule_eq (fs : FileSystem) (version : LanguageVersion) (l : Library) :
    l.loadModule fs version
      = l.artifact.layout.entry fs metadataName >>= l.parseModule version := by
  rw [loadModule, Layout.entry]
  cases Container.ofLayout fs l.artifact.layout with
  | error e => rfl
  | ok container => rfl

/-- A module loads as well where its metadata can be read as well. -/
theorem loadModule_mono {version : LanguageVersion} {library : Library} {m : Module}
    (hentry : ∀ contents, library.artifact.layout.entry fs metadataName = .ok contents →
      library.artifact.layout.entry fs' metadataName = .ok contents)
    (h : library.loadModule fs version = .ok m) : library.loadModule fs' version = .ok m := by
  rw [loadModule_eq] at h ⊢
  obtain ⟨contents, hcontents, hparsed⟩ := exists_of_bind_eq_ok h
  rw [hentry contents hcontents]
  exact hparsed

end Library

/-- **Truncation does not change what can be read.** If a file goes on after the point where
it was cut off, all that was read from the shorter file is read from the longer one: the same
data of every entry, the same library and the same module. The exception is a shorter file
that goes no further than its third member, after two symbol tables, where the bytes after
this member are no member or one more symbol table. -/
theorem reads_after_truncation (fs fs' : FileSystem) (path : Path) (contents more : Bytes)
    (hshort : fs.mapFile path = .ok contents) (hlong : fs'.mapFile path = .ok (contents ++ more))
    (hharmless : ¬Container.BreaksOff contents more) :
    (∀ name data, (Layout.packed path).entry fs name = .ok data →
      (Layout.packed path).entry fs' name = .ok data)
    ∧ (∀ identifier target abiVersion library,
      Library.ofArtifact fs ⟨identifier, .packed path⟩ target abiVersion = .ok library →
      Library.ofArtifact fs' ⟨identifier, .packed path⟩ target abiVersion = .ok library)
    ∧ ∀ (version : LanguageVersion) (library : Library) (m : Module),
      library.artifact.layout = .packed path → library.loadModule fs version = .ok m →
      library.loadModule fs' version = .ok m := by
  have hentry : ∀ name data, (Layout.packed path).entry fs name = .ok data →
      (Layout.packed path).entry fs' name = .ok data := by
    intro name data h
    obtain ⟨contents', hcontents', hdata⟩ := Layout.entry_packed_eq_ok_iff.1 h
    rw [hshort] at hcontents'
    cases hcontents'
    exact Layout.entry_packed_eq_ok_iff.2
      ⟨contents ++ more, hlong, Container.extract_append hdata hharmless⟩
  refine ⟨hentry, ?_, ?_⟩
  · intro identifier target abiVersion library h
    exact Library.ofArtifact_mono (hentry manifestName) h
  · intro version library m hlayout h
    refine Library.loadModule_mono ?_ h
    rw [hlayout]
    exact hentry metadataName

/-- The packed library `foo`. -/
def fooContents : Bytes :=
  Archive.magic ++ Archive.header manifestName fooManifest.length ++ fooManifest
    ++ Archive.header metadataName fooMetadata.length ++ fooMetadata
    ++ Archive.padding fooMetadata.length

theorem write_foo :
    Archive.write [(manifestName, fooManifest), (metadataName, fooMetadata)] = .ok fooContents := by
  decide +kernel

/-- The file of the library `foo`, and the same file with one more entry in it. -/
theorem reads_after_truncation_foo :
    (Archive.filesWith fooContents).mapFile (Path.ofString "foo.mlib") = .ok fooContents
    ∧ (Archive.filesWith (fooContents ++ Archive.header "notes" 0)).mapFile
        (Path.ofString "foo.mlib") = .ok (fooContents ++ Archive.header "notes" 0)
    ∧ ¬Container.BreaksOff fooContents (Archive.header "notes" 0)
    ∧ Library.ofArtifact (Archive.filesWith (fooContents ++ Archive.header "notes" 0))
        ⟨"lib", .packed (Path.ofString "foo.mlib")⟩ .linuxX64 1
      = .ok ⟨⟨"lib", .packed (Path.ofString "foo.mlib")⟩, ⟨"foo", 1, ["linux_x64"]⟩⟩
    ∧ Library.loadModule (Archive.filesWith (fooContents ++ Archive.header "notes" 0)) ⟨2, 0⟩
        ⟨⟨"lib", .packed (Path.ofString "foo.mlib")⟩, ⟨"foo", 1, ["linux_x64"]⟩⟩
      = .ok (.unlinked "foo" (Path.ofString "foo.mlib") []) := by
  have hshort := Archive.mapFile_filesWith fooContents
  have hlong := Archive.mapFile_filesWith (fooContents ++ Archive.header "notes" 0)
  have hwrite : Archive.write [(manifestName, fooManifest), (metadataName, fooMetadata),
      ("notes", [])] = .ok (fooContents ++ Archive.header "notes" 0) := by decide +kernel
  have hharmless : ¬Container.BreaksOff fooContents (Archive.header "notes" 0) :=
    Container.not_breaksOff_of_write hwrite
  have hholds := Layout.holds_packed write_foo hshort
  obtain ⟨-, hopens, hloads⟩ := reads_after_truncation _ _ _ _ _ hshort hlong hharmless
  refine ⟨hshort, hlong, hharmless, hopens _ _ _ _ ?_, hloads _ _ _ rfl ?_⟩
  · have hparsed : Manifest.parse fooManifest = .ok ⟨"foo", 1, ["linux_x64"]⟩ := by rfl
    rw [Library.ofArtifact_of_holds hholds hparsed]
    rfl
  · let l : Library := ⟨⟨"lib", .packed (Path.ofString "foo.mlib")⟩, ⟨"foo", 1, ["linux_x64"]⟩⟩
    have hload : l.loadModule (Archive.filesWith fooContents) ⟨2, 0⟩
        = l.parseModule ⟨2, 0⟩ fooMetadata := Library.loadModule_of_holds (l := l) hholds ⟨2, 0⟩
    rw [hload]
    decide +kernel

end Linkage
