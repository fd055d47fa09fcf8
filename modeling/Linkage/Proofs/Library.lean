import Linkage.Library
import Linkage.Proofs.Traversal

set_option autoImplicit false

/-! # What opening and loading look at

Opening a library and loading its module look at two entries of its layout and at nothing
else of it. `Layout.Holds` says which bytes these are, for the packed and for the unpacked
form alike. Two layouts that hold the same bytes therefore open and load in the same way
(`ofArtifact_of_holds`, `loadModule_of_holds`); only the path in the result is that of the
layout.

A library that does not open is corrupt or incompatible, at the path it was looked for
(`exists_of_ofArtifact_eq_error`): failures of metadata come from loading modules only.
-/

namespace Linkage

open Traversal (bind_eq_error_iff)

/-- The entries of a layout can be read and have these bytes. -/
def Layout.Holds (fs : FileSystem) (layout : Layout) (manifest metadata : Bytes) : Prop :=
  ∃ container, Container.ofLayout fs layout = .ok container
    ∧ container.entry fs manifestName = .ok manifest
    ∧ container.entry fs metadataName = .ok metadata

/-- A directory holds the contents of its files. -/
theorem Layout.holds_unpacked {fs : FileSystem} {dir : Path} {manifest metadata : Bytes}
    (hmanifest : fs.read (dir.join (Path.ofString manifestName)) = .ok manifest)
    (hmetadata : fs.read (dir.join (Path.ofString metadataName)) = .ok metadata) :
    (Layout.unpacked dir).Holds fs manifest metadata := by
  refine ⟨.directory dir, rfl, ?_, ?_⟩
  · rw [Container.entry, hmanifest]
    rfl
  · rw [Container.entry, hmetadata]
    rfl

namespace Library

section Entries

variable {fs : FileSystem} {layout : Layout} {manifest metadata : Bytes}

theorem readManifest_of_holds (h : layout.Holds fs manifest metadata) {parsed : Manifest}
    (hparsed : Manifest.parse manifest = .ok parsed) :
    readManifest fs layout = .ok parsed := by
  obtain ⟨container, hcontainer, hmanifest, -⟩ := h
  unfold readManifest
  simp only [hcontainer, hmanifest, hparsed, bind, Except.bind]
  rfl

/-- After its manifest was read, a library opens when the manifest passes the check. -/
theorem ofArtifact_of_readManifest {artifact : Artifact} {parsed : Manifest}
    (h : readManifest fs artifact.layout = .ok parsed) (target : Target) (abiVersion : UInt32) :
    ofArtifact fs artifact target abiVersion
      = (check artifact.path target abiVersion parsed).map fun _ => ⟨artifact, parsed⟩ := by
  rw [ofArtifact, h]
  show (check artifact.path target abiVersion parsed >>= _) = _
  cases check artifact.path target abiVersion parsed with
  | error e => rfl
  | ok _ => rfl

/-- A library opens when its manifest passes the check. -/
theorem ofArtifact_of_holds {identifier : String} (h : layout.Holds fs manifest metadata)
    {parsed : Manifest} (hparsed : Manifest.parse manifest = .ok parsed) (target : Target)
    (abiVersion : UInt32) :
    ofArtifact fs ⟨identifier, layout⟩ target abiVersion
      = (check layout.path target abiVersion parsed).map
          fun _ => ⟨⟨identifier, layout⟩, parsed⟩ :=
  ofArtifact_of_readManifest (readManifest_of_holds h hparsed) target abiVersion

/-- The module of a library is what its metadata entry describes. -/
theorem loadModule_of_holds {l : Library} (h : l.artifact.layout.Holds fs manifest metadata)
    (version : LanguageVersion) : l.loadModule fs version = l.parseModule version metadata := by
  obtain ⟨container, hcontainer, -, hmetadata⟩ := h
  rw [loadModule, hcontainer]
  show (container.entry fs metadataName >>= _) = _
  rw [hmetadata]
  rfl

end Entries

/-! ## Paths matter for the wording only -/

/-- A manifest passes the check under all paths, or fails for the same reason under each. -/
theorem check_cases (target : Target) (abiVersion : UInt32) (manifest : Manifest) :
    (∀ path, check path target abiVersion manifest = .ok ())
      ∨ ∃ reason, ∀ path,
          check path target abiVersion manifest = .error (.incompatible path reason) := by
  unfold check
  by_cases habi : (manifest.abiVersion != abiVersion) = true
  · right
    exact ⟨_, fun path => if_pos habi⟩
  · simp only [if_neg habi]
    by_cases htarget : (!manifest.supports target) = true
    · right
      exact ⟨_, fun path => if_pos htarget⟩
    · left
      exact fun path => if_neg htarget

/-- Metadata describes the same declarations for all libraries of one name, or does not fit
any of them for the same reason. -/
theorem moduleOf_cases (name : String) (version : LanguageVersion) (metadata : ModuleMetadata) :
    (∀ l : Library, l.name = name →
        l.moduleOf version metadata = .ok (.unlinked name l.path metadata.declarations))
      ∨ ∃ reason, ∀ l : Library, l.name = name →
          l.moduleOf version metadata = .error reason := by
  unfold moduleOf
  by_cases hname : metadata.name = name
  · by_cases hversion : metadata.languageVersion.newerThan version = true
    · right
      refine ⟨"compiled with language version " ++ metadata.languageVersion.text
        ++ ", newer than " ++ version.text, fun l hl => ?_⟩
      simp [hl, hname, hversion]
    · left
      intro l hl
      simp [hl, hname, hversion]
  · right
    refine ⟨"metadata describes module '" ++ metadata.name ++ "'", fun l hl => ?_⟩
    simp [hl, hname]

/-- The same for the contents of a metadata entry. -/
theorem parseModule_cases (name : String) (version : LanguageVersion) (contents : Bytes) :
    (∃ declarations, ∀ l : Library, l.name = name →
        l.parseModule version contents = .ok (.unlinked name l.path declarations))
      ∨ ∃ reason, ∀ l : Library, l.name = name →
          l.parseModule version contents = .error (.metadata name l.path reason) := by
  unfold parseModule
  cases ModuleMetadata.parse contents with
  | error fault =>
      right
      refine ⟨fault.message, fun l hl => ?_⟩
      simp only [hl]
  | ok metadata =>
      rcases moduleOf_cases name version metadata with hfits | ⟨reason, hreason⟩
      · left
        refine ⟨metadata.declarations, fun l hl => ?_⟩
        simp only [hfits l hl]
      · right
        refine ⟨reason, fun l hl => ?_⟩
        simp only [hreason l hl, hl]

/-- The library in a layout loads as the one in another layout, whatever it is loaded for:
both are incompatible for the same reason, or both open with the same manifest, and then both
modules have the same declarations, or the metadata of both are refused for the same reason.
The results differ in the path, which is that of the layout. -/
def LoadsAs (fs : FileSystem) (layout : Layout) (fs' : FileSystem) (layout' : Layout)
    (manifest : Manifest) : Prop :=
  ∀ (identifier : String) (target : Target) (abiVersion : UInt32),
    (∃ reason,
      ofArtifact fs ⟨identifier, layout⟩ target abiVersion
        = .error (.incompatible layout.path reason)
      ∧ ofArtifact fs' ⟨identifier, layout'⟩ target abiVersion
        = .error (.incompatible layout'.path reason))
    ∨ ofArtifact fs ⟨identifier, layout⟩ target abiVersion = .ok ⟨⟨identifier, layout⟩, manifest⟩
      ∧ ofArtifact fs' ⟨identifier, layout'⟩ target abiVersion
        = .ok ⟨⟨identifier, layout'⟩, manifest⟩
      ∧ ∀ version,
        (∃ declarations,
          loadModule fs version ⟨⟨identifier, layout⟩, manifest⟩
            = .ok (.unlinked manifest.uniqueName layout.path declarations)
          ∧ loadModule fs' version ⟨⟨identifier, layout'⟩, manifest⟩
            = .ok (.unlinked manifest.uniqueName layout'.path declarations))
        ∨ ∃ reason,
          loadModule fs version ⟨⟨identifier, layout⟩, manifest⟩
            = .error (.metadata manifest.uniqueName layout.path reason)
          ∧ loadModule fs' version ⟨⟨identifier, layout'⟩, manifest⟩
            = .error (.metadata manifest.uniqueName layout'.path reason)

/-- Layouts that hold the same bytes load alike. -/
theorem loadsAs_of_holds {fs fs' : FileSystem} {layout layout' : Layout}
    {manifest metadata : Bytes} {parsed : Manifest} (h : layout.Holds fs manifest metadata)
    (h' : layout'.Holds fs' manifest metadata) (hparsed : Manifest.parse manifest = .ok parsed) :
    LoadsAs fs layout fs' layout' parsed := by
  intro identifier target abiVersion
  rw [ofArtifact_of_holds h hparsed, ofArtifact_of_holds h' hparsed]
  rcases check_cases target abiVersion parsed with hfits | ⟨reason, hreason⟩
  · right
    refine ⟨by rw [hfits]; rfl, by rw [hfits]; rfl, fun version => ?_⟩
    have hload : loadModule fs version ⟨⟨identifier, layout⟩, parsed⟩ = _ :=
      loadModule_of_holds h version
    have hload' : loadModule fs' version ⟨⟨identifier, layout'⟩, parsed⟩ = _ :=
      loadModule_of_holds h' version
    rw [hload, hload']
    rcases parseModule_cases parsed.uniqueName version metadata with
      ⟨declarations, hall⟩ | ⟨reason, hall⟩
    · left
      exact ⟨declarations, hall _ rfl, hall _ rfl⟩
    · right
      exact ⟨reason, hall _ rfl, hall _ rfl⟩
  · left
    exact ⟨reason, by rw [hreason]; rfl, by rw [hreason]; rfl⟩

end Library

/-! ## Kinds of failures -/

theorem Container.exists_of_corrupt_eq_error {α : Type} {path : Path}
    {x : Except Container.Corruption α} {e : LoadError} (h : Container.corrupt path x = .error e) :
    ∃ reason, e = .corrupt path reason := by
  cases x with
  | ok a => cases h
  | error c =>
      cases h
      exact ⟨c.message, rfl⟩

/-- The container of a layout is at the path of the layout, and there it is corrupt. -/
theorem Container.exists_of_ofLayout_eq_error {fs : FileSystem} {layout : Layout} {e : LoadError}
    (h : Container.ofLayout fs layout = .error e) : ∃ reason, e = .corrupt layout.path reason := by
  cases layout with
  | unpacked path => cases h
  | packed path => exact Container.exists_of_corrupt_eq_error h

theorem Container.exists_of_entry_eq_error {fs : FileSystem} {layout : Layout}
    {container : Container} (hcontainer : Container.ofLayout fs layout = .ok container)
    {name : String} {e : LoadError} (h : container.entry fs name = .error e) :
    ∃ reason, e = .corrupt layout.path reason := by
  cases layout with
  | unpacked path =>
      cases hcontainer
      exact Container.exists_of_corrupt_eq_error h
  | packed path =>
      obtain ⟨a, rfl⟩ : ∃ a, container = .archive path a := by
        unfold ofLayout corrupt at hcontainer
        cases hmap : fs.mapFile path with
        | error e => simp [hmap] at hcontainer
        | ok contents =>
            cases hbytes : ofBytes contents with
            | error c => simp [hmap, hbytes, Except.map] at hcontainer
            | ok a =>
                simp only [hmap, hbytes, Except.map, Except.ok.injEq] at hcontainer
                exact ⟨a, hcontainer.symm⟩
      exact Container.exists_of_corrupt_eq_error h

namespace Library

/-- A layout whose manifest cannot be read is corrupt: its container is, the entry in it or what
stands in the entry. -/
theorem exists_of_readManifest_eq_error {fs : FileSystem} {layout : Layout} {e : LoadError}
    (h : readManifest fs layout = .error e) : ∃ reason, e = .corrupt layout.path reason := by
  rcases bind_eq_error_iff.1 h with hcontainer | ⟨container, hcontainer, h⟩
  · exact Container.exists_of_ofLayout_eq_error hcontainer
  · rcases bind_eq_error_iff.1 h with hentry | ⟨contents, -, hparse⟩
    · exact Container.exists_of_entry_eq_error hcontainer hentry
    · cases hproblem : Manifest.parse contents with
      | ok manifest =>
          rw [hproblem] at hparse
          cases hparse
      | error problem =>
          rw [hproblem] at hparse
          cases hparse
          exact ⟨problem.message, rfl⟩

/-- A library that does not open is corrupt or incompatible, at its path. -/
theorem exists_of_ofArtifact_eq_error {fs : FileSystem} {artifact : Artifact} {target : Target}
    {abiVersion : UInt32} {e : LoadError}
    (h : ofArtifact fs artifact target abiVersion = .error e) :
    (∃ reason, e = .corrupt artifact.path reason)
      ∨ ∃ reason, e = .incompatible artifact.path reason := by
  rcases bind_eq_error_iff.1 h with hmanifest | ⟨manifest, -, h⟩
  · left
    exact exists_of_readManifest_eq_error hmanifest
  · right
    rcases bind_eq_error_iff.1 h with hcheck | ⟨-, -, h⟩
    · rcases check_cases target abiVersion manifest with hfits | ⟨reason, hreason⟩
      · rw [hfits] at hcheck
        cases hcheck
      · rw [hreason] at hcheck
        cases hcheck
        exact ⟨reason, rfl⟩
    · cases h

end Library

/-! ## A small library

For statements about one fixed library. -/

/-- The manifest of a library `foo` for one target. -/
def fooManifest : Bytes :=
  Archive.ascii "unique_name = \"foo\"\nabi_version = 1\ntargets = [\"linux_x64\"]\n"

/-- The metadata of a module `foo` without declarations. -/
def fooMetadata : Bytes :=
  Archive.ascii "\x7b\"name\": \"foo\", \"language_version\": \"1.0\"\x7d"

/-- The file system with an unpacked library at a path. -/
def FileSystem.installLibrary (fs : FileSystem) (dir : Path) (manifest metadata : Bytes) :
    FileSystem :=
  (fs.install (dir.join (Path.ofString manifestName)) manifest).install
    (dir.join (Path.ofString metadataName)) metadata

end Linkage
