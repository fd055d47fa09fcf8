import Linkage.Loader
import Linkage.Proofs.Resolver
import Linkage.Proofs.Traversal
import Mathlib.Logic.Relation

set_option autoImplicit false

/-! # What a stage is worked out to

The stages of a loader without their events, as functions of a configuration and one file
system: artifacts, libraries and graph are traversals of the identifiers (`artifactsOn`,
`librariesOn`) and of the libraries (`graphOf`). A library stage that starts from known
artifacts opens these and resolves nothing (`opening`).

`Fills fs l l'` says that one stage of `l` that was empty has been worked out on `fs`. Every
call of a loader is a chain of such steps (`Proofs/Loader/Run.lean`), so a property of
loaders is kept by all calls once it is kept by the three kinds of step.
-/

namespace Linkage

open Traversal

/-! ## The loops without their events -/

theorem Library.value_openAt (fs : FileSystem) (artifact : Artifact) (target : Target)
    (abiVersion : UInt32) :
    (openAt fs artifact target abiVersion).value = ofArtifact fs artifact target abiVersion := by
  rw [openAt]
  cases ofArtifact fs artifact target abiVersion with
  | error e => rfl
  | ok library => rfl

theorem Library.value_loadModules (fs : FileSystem) (version : LanguageVersion)
    (libraries : List Library) :
    (loadModules fs version libraries).value = libraries.mapM (loadModule fs version) :=
  Traced.value_traverse _ _

/-- A library remembers the artifact it was opened from. -/
theorem Library.artifact_of_ofArtifact {fs : FileSystem} {artifact : Artifact} {target : Target}
    {abiVersion : UInt32} {library : Library}
    (h : ofArtifact fs artifact target abiVersion = .ok library) :
    library.artifact = artifact := by
  obtain ⟨manifest, -, h⟩ := exists_of_bind_eq_ok h
  obtain ⟨-, -, h⟩ := exists_of_bind_eq_ok h
  cases h
  rfl

/-! ## The stages on one file system -/

namespace Configuration

/-- The artifacts of all identifiers. -/
def artifactsOn (c : Configuration) (fs : FileSystem) : Except LoadError (List Artifact) :=
  c.identifiers.mapM fun identifier => (c.resolver.resolve fs identifier).value

/-- The library at an artifact. -/
def libraryAt (c : Configuration) (fs : FileSystem) (artifact : Artifact) :
    Except LoadError Library :=
  Library.ofArtifact fs artifact c.target c.abiVersion

/-- The libraries of all identifiers, each resolved and opened before the next one. -/
def librariesOn (c : Configuration) (fs : FileSystem) : Except LoadError (List Library) :=
  c.identifiers.mapM fun identifier =>
    (c.resolver.resolve fs identifier).value >>= c.libraryAt fs

/-- The linked modules of what came of opening the libraries. -/
def graphOf (c : Configuration) (fs : FileSystem) (opened : Except LoadError (List Library)) :
    Except LoadError ModuleGraph := do
  let libraries ← opened
  let modules ← libraries.mapM (Library.loadModule fs c.languageVersion)
  return .ofModules modules

/-- Libraries open from exactly the artifacts they carry. -/
theorem map_artifact_of_libraryAt {c : Configuration} {fs : FileSystem}
    {found : List Artifact} {opened : List Library}
    (h : found.mapM (c.libraryAt fs) = .ok opened) : opened.map Library.artifact = found :=
  map_eq_of_mapM_eq_ok (fun _ _ => Library.artifact_of_ofArtifact) h

/-- There is one artifact for each identifier, in order. -/
theorem map_identifier_of_artifactsOn {c : Configuration} {fs : FileSystem}
    {found : List Artifact} (h : c.artifactsOn fs = .ok found) :
    found.map Artifact.identifier = c.identifiers :=
  map_eq_of_mapM_eq_ok (fun _ _ => Resolver.identifier_of_resolve) h

/-- Opening known artifacts on the file system they were resolved on is resolving and
opening identifier by identifier. -/
theorem librariesOn_of_artifactsOn {c : Configuration} {fs : FileSystem}
    {found : List Artifact} (h : c.artifactsOn fs = .ok found) :
    c.librariesOn fs = found.mapM (c.libraryAt fs) :=
  mapM_bind_of_ok h

/-- When all libraries open, their artifacts are those that resolving alone gives. -/
theorem artifactsOn_of_librariesOn {c : Configuration} {fs : FileSystem}
    {opened : List Library} (h : c.librariesOn fs = .ok opened) :
    c.artifactsOn fs = .ok (opened.map Library.artifact) := by
  obtain ⟨found, hfound, hopened⟩ := exists_mapM_of_mapM_bind h
  rw [map_artifact_of_libraryAt hopened]
  exact hfound

end Configuration

/-! ## Working out one stage -/

namespace Loader

/-- What the library stage of a loader comes to: the artifacts known so far are opened, and
without any the identifiers are resolved as well. -/
def opening (l : Loader) (fs : FileSystem) : Except LoadError (List Library) :=
  match l.artifacts with
  | some (.ok found) => found.mapM (l.configuration.libraryAt fs)
  | _ => l.configuration.librariesOn fs

theorem value_openAll (l : Loader) (fs : FileSystem) (found : List Artifact) :
    (l.openAll fs found).value = found.mapM (l.configuration.libraryAt fs) := by
  rw [openAll, Traced.value_traverse]
  exact congrArg (found.mapM ·) (funext fun _ => Library.value_openAt _ _ _ _)

theorem value_resolveAndOpen (l : Loader) (fs : FileSystem) (identifier : String) :
    (l.resolveAndOpen fs identifier).value
      = (l.configuration.resolver.resolve fs identifier).value
          >>= l.configuration.libraryAt fs := by
  rw [resolveAndOpen, Traced.value_bind]
  cases (l.configuration.resolver.resolve fs identifier).value with
  | error e => rfl
  | ok artifact => exact Library.value_openAt _ _ _ _

theorem value_resolveAndOpenAll (l : Loader) (fs : FileSystem) (identifiers : List String) :
    (l.resolveAndOpenAll fs identifiers).value = identifiers.mapM fun identifier =>
      (l.configuration.resolver.resolve fs identifier).value
        >>= l.configuration.libraryAt fs := by
  rw [resolveAndOpenAll, Traced.value_traverse]
  exact congrArg (identifiers.mapM ·) (funext fun _ => value_resolveAndOpen _ _ _)

theorem value_openLibraries (l : Loader) (fs : FileSystem) :
    (l.openLibraries fs).value = l.opening fs := by
  rw [openLibraries, opening]
  cases l.artifacts with
  | none => exact value_resolveAndOpenAll _ _ _
  | some found =>
      cases found with
      | error e => exact value_resolveAndOpenAll _ _ _
      | ok found => exact value_openAll _ _ _

theorem value_loadGraph (l : Loader) (fs : FileSystem)
    (opened : Except LoadError (List Library)) :
    (l.loadGraph fs opened).value = l.configuration.graphOf fs opened := by
  cases opened with
  | error e => rfl
  | ok libraries =>
      rw [loadGraph, Traced.value_bind, Library.value_loadModules]
      show _ = (libraries.mapM (Library.loadModule fs l.configuration.languageVersion)
        >>= fun modules => .ok (ModuleGraph.ofModules modules))
      cases libraries.mapM (Library.loadModule fs l.configuration.languageVersion) with
      | error e => rfl
      | ok modules => rfl

/-- One empty stage of a loader has been worked out. -/
inductive Fills (fs : FileSystem) (l : Loader) : Loader → Prop where
  | artifacts (empty : l.artifacts = none) :
      Fills fs l { l with artifacts := some (l.configuration.artifactsOn fs) }
  | libraries (empty : l.libraries = none) : Fills fs l (l.keepLibraries (l.opening fs))
  | graph {opened : Except LoadError (List Library)} (empty : l.graph = none)
      (known : l.libraries = some opened) :
      Fills fs l { l with graph := some (l.configuration.graphOf fs opened) }

end Loader

end Linkage
