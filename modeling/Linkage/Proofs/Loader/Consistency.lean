import Linkage.Proofs.Library
import Linkage.Proofs.Loader.Run

set_option autoImplicit false

/-! # The stages of a loader fit each other

The stages may be worked out at different moments, on files that have nothing to do with
each other. What they hold fits nevertheless, in every state that a run can reach: there is
one artifact for each identifier, one library for each artifact, and one module for each
library, in order; every module depends on all of them; and a failure of the library stage
is the failure of the graph stage.

The invariant is `Consistent`, and a run keeps it (`consistent_after`). It also says which
stages can be empty: libraries are never there without artifacts, nor a graph without
libraries.
-/

namespace Linkage

open Traversal

/-! ## Modules of libraries -/

/-- A loaded module has the name and the path of its library and is not linked. -/
theorem Library.eq_unlinked_of_loadModule {fs : FileSystem} {version : LanguageVersion}
    {l : Library} {m : Module} (h : l.loadModule fs version = .ok m) :
    ∃ declarations, m = .unlinked l.name l.path declarations := by
  obtain ⟨container, -, h⟩ := exists_of_bind_eq_ok h
  obtain ⟨contents, -, h⟩ := exists_of_bind_eq_ok h
  rcases parseModule_cases l.name version contents with ⟨declarations, hall⟩ | ⟨reason, hall⟩
  · rw [hall l rfl] at h
    cases h
    exact ⟨declarations, rfl⟩
  · rw [hall l rfl] at h
    cases h

/-- Linking gives modules that had no dependencies the whole set. -/
theorem Module.link_eq_map_of_unlinked {modules : List Module}
    (h : ∀ m ∈ modules, m.assigned = none) :
    link modules
      = modules.map fun m => { m with assigned := some (List.range modules.length) } := by
  refine List.map_congr_left fun m hm => ?_
  rw [assign, h m hm]
  rfl

/-- How a module of a graph with `size` modules comes from a library. -/
structure Module.Represents (size : Nat) (m : Module) (l : Library) : Prop where
  name : m.name = l.name
  path : m.libraryPath = l.path
  dependencies : m.dependencies = List.range size

/-- The modules of a graph come from the libraries it was loaded for, one from each. -/
theorem Configuration.represents_of_graphOf {c : Configuration} {fs : FileSystem}
    {opened : Except LoadError (List Library)} {g : ModuleGraph} (h : c.graphOf fs opened = .ok g) :
    ∃ libraries, opened = .ok libraries
      ∧ List.Forall₂ (Module.Represents g.size) g.modules libraries := by
  obtain ⟨libraries, hopened, h⟩ := exists_of_bind_eq_ok h
  obtain ⟨modules, hmodules, h⟩ := exists_of_bind_eq_ok h
  cases h
  refine ⟨libraries, hopened, ?_⟩
  have hunlinked : ∀ m ∈ modules, m.assigned = none := by
    intro m hm
    obtain ⟨l, -, hl⟩ := exists_of_mem_mapM hmodules hm
    obtain ⟨declarations, rfl⟩ := Library.eq_unlinked_of_loadModule hl
    rfl
  have hsize : (ModuleGraph.ofModules modules).size = modules.length :=
    List.length_map _
  rw [hsize]
  show List.Forall₂ _ (Module.link modules) libraries
  rw [Module.link_eq_map_of_unlinked hunlinked, List.forall₂_map_left_iff]
  refine (mapM_eq_ok_iff.1 hmodules).flip.imp fun m l hl => ?_
  obtain ⟨declarations, rfl⟩ := Library.eq_unlinked_of_loadModule hl
  exact ⟨rfl, rfl, rfl⟩

/-! ## Taking artifacts by position -/

/-- Opens, for each identifier with its position, the artifact at that position. There is no
result if a position that the loop reaches has no artifact. -/
def Configuration.openByPosition (c : Configuration) (fs : FileSystem) (found : List Artifact) :
    List (String × Nat) → Option (Except LoadError (List Library))
  | [] => some (.ok [])
  | (_, position) :: rest => do
      let artifact ← found[position]?
      match c.libraryAt fs artifact with
      | .error e => return .error e
      | .ok library =>
          let opened ← c.openByPosition fs found rest
          return opened.map (library :: ·)

/-- With one artifact for each identifier every position is in range, and taking artifacts by
position is opening them in order. -/
theorem Configuration.openByPosition_zipIdx (c : Configuration) (fs : FileSystem)
    (before rest : List Artifact) (identifiers : List String)
    (h : rest.length = identifiers.length) :
    c.openByPosition fs (before ++ rest) (identifiers.zipIdx before.length)
      = some (rest.mapM (c.libraryAt fs)) := by
  induction identifiers generalizing before rest with
  | nil =>
      rw [List.length_nil, List.length_eq_zero_iff] at h
      subst h
      rfl
  | cons identifier identifiers ih =>
      cases rest with
      | nil => cases h
      | cons artifact rest =>
          have hnext := ih (before ++ [artifact]) rest (by simpa using h)
          rw [List.append_assoc, List.singleton_append, List.length_append,
            List.length_singleton] at hnext
          rw [List.zipIdx_cons, openByPosition, List.getElem?_append_right (Nat.le_refl _),
            Nat.sub_self]
          show (match c.libraryAt fs artifact with
            | .error e => some (.error e)
            | .ok library => do
                let opened ← c.openByPosition fs (before ++ artifact :: rest)
                  (identifiers.zipIdx (before.length + 1))
                return opened.map (library :: ·) : Option (Except LoadError (List Library))) = _
          cases hopen : c.libraryAt fs artifact with
          | error e => rw [mapM_cons_error hopen]
          | ok library =>
              rw [hnext, mapM_cons_ok hopen]
              rfl

namespace Loader

open Linkage.Configuration

/-! ## The invariant -/

/-- The results that the stages of a loader hold fit each other; `files` are the file systems
that its calls met. -/
structure Consistent (c : Configuration) (files : List FileSystem) (l : Loader) : Prop where
  configuration : l.configuration = c
  /-- Libraries come with artifacts. -/
  resolved : ∀ opened, l.libraries = some (.ok opened) → l.artifacts ≠ none
  /-- A graph comes with libraries. -/
  loaded : l.libraries = none → l.graph = none
  /-- There is one artifact for each identifier, in order. -/
  artifacts : ∀ found, l.artifacts = some (.ok found) →
    found.map Artifact.identifier = c.identifiers
  /-- There is one library for each artifact, in order. -/
  libraries : ∀ opened found, l.libraries = some (.ok opened) → l.artifacts = some (.ok found) →
    opened.map Library.artifact = found
  /-- The libraries were opened from their artifacts, all on the same files. -/
  origin : ∀ opened, l.libraries = some (.ok opened) →
    ∃ fs ∈ files, ∀ library ∈ opened, c.libraryAt fs library.artifact = .ok library
  /-- There is one module for each library, in order. -/
  graph : ∀ g, l.graph = some (.ok g) → ∃ opened, l.libraries = some (.ok opened)
    ∧ List.Forall₂ (Module.Represents g.size) g.modules opened
  /-- A failure of the library stage is passed on. -/
  failure : ∀ e, l.libraries = some (.error e) → l.graph = none ∨ l.graph = some (.error e)

variable {c : Configuration} {files : List FileSystem} {fs : FileSystem} {l l' : Loader}

theorem consistent_ofConfiguration (c : Configuration) (files : List FileSystem) :
    Consistent c files (ofConfiguration c) where
  configuration := rfl
  resolved _ h := nomatch h
  loaded _ := rfl
  artifacts _ h := nomatch h
  libraries _ _ h := nomatch h
  origin _ h := nomatch h
  graph _ h := nomatch h
  failure _ h := nomatch h

/-- Libraries that the library stage comes to were opened from their own artifacts, and these
are the artifacts known before. -/
theorem Consistent.of_opening (h : Consistent c files l) {opened : List Library}
    (hopening : l.opening fs = .ok opened) :
    (∀ library ∈ opened, c.libraryAt fs library.artifact = .ok library)
      ∧ ∀ found, l.artifacts = some (.ok found) → opened.map Library.artifact = found := by
  have key : ∃ found, found.mapM (c.libraryAt fs) = .ok opened
      ∧ ∀ known, l.artifacts = some (.ok known) → known = found := by
    unfold opening at hopening
    rw [h.configuration] at hopening
    split at hopening
    · next found hfound =>
        refine ⟨found, hopening, fun known hknown => ?_⟩
        rw [hfound] at hknown
        cases hknown
        rfl
    · next hnone =>
        obtain ⟨found, -, hfound⟩ := exists_mapM_of_mapM_bind hopening
        exact ⟨found, hfound, fun known hknown => absurd hknown (hnone known)⟩
  obtain ⟨found, hfound, hknown⟩ := key
  refine ⟨fun library hlibrary => ?_, fun known h => ?_⟩
  · obtain ⟨artifact, -, hartifact⟩ := exists_of_mem_mapM hfound hlibrary
    rw [Library.artifact_of_ofArtifact hartifact]
    exact hartifact
  · rw [hknown known h]
    exact map_artifact_of_libraryAt hfound

theorem Consistent.fill_artifacts (h : Consistent c files l) (empty : l.artifacts = none) :
    Consistent c files { l with artifacts := some (l.configuration.artifactsOn fs) } where
  configuration := h.configuration
  resolved _ _ := nofun
  loaded := h.loaded
  artifacts found hfound := by
    rw [← h.configuration]
    exact map_identifier_of_artifactsOn (Option.some.inj hfound)
  -- without artifacts there were no libraries either
  libraries opened _ hopened _ := absurd empty (h.resolved opened hopened)
  origin := h.origin
  graph := h.graph
  failure := h.failure

theorem Consistent.fill_libraries (h : Consistent c files l) (hfs : fs ∈ files)
    (empty : l.libraries = none) : Consistent c files (l.keepLibraries (l.opening fs)) where
  configuration := by simp [h.configuration]
  resolved opened hopened := by
    rw [libraries_keepLibraries] at hopened
    rw [Option.some.inj hopened]
    show (l.artifacts <|> some _) ≠ none
    cases l.artifacts with
    | none => nofun
    | some found => nofun
  loaded hnone := by simp at hnone
  artifacts found hfound := by
    rcases artifacts_keepLibraries hfound with hknown | ⟨hunknown, opened, hopened, hartifacts⟩
    · exact h.artifacts found hknown
    · have hlibraries : c.librariesOn fs = .ok opened := by
        rw [← hopened, opening, hunknown, h.configuration]
      cases hartifacts
      exact map_identifier_of_artifactsOn (artifactsOn_of_librariesOn hlibraries)
  libraries opened found hopened hfound := by
    rw [libraries_keepLibraries] at hopened
    have hopening := Option.some.inj hopened
    rcases artifacts_keepLibraries hfound with hknown | ⟨-, opened', hopened', hartifacts⟩
    · exact (h.of_opening hopening).2 found hknown
    · rw [hopening] at hopened'
      cases hopened'
      cases hartifacts
      rfl
  origin opened hopened := by
    rw [libraries_keepLibraries] at hopened
    exact ⟨fs, hfs, (h.of_opening (Option.some.inj hopened)).1⟩
  graph g hg := by simp [h.loaded empty] at hg
  failure _ _ := by simp [h.loaded empty]

theorem Consistent.fill_graph (h : Consistent c files l)
    {opened : Except LoadError (List Library)} (known : l.libraries = some opened) :
    Consistent c files { l with graph := some (l.configuration.graphOf fs opened) } where
  configuration := h.configuration
  resolved := h.resolved
  loaded hnone := by
    rw [show l.libraries = none from hnone] at known
    cases known
  artifacts := h.artifacts
  libraries := h.libraries
  origin := h.origin
  graph g hg := by
    obtain ⟨libraries, rfl, hall⟩ := represents_of_graphOf (Option.some.inj hg)
    exact ⟨libraries, known, hall⟩
  failure e he := by
    rw [show l.libraries = some (.error e) from he] at known
    cases known
    exact Or.inr rfl

/-- Working out a stage keeps the invariant. -/
theorem Consistent.fills (h : Consistent c files l) (hfs : fs ∈ files) (hfill : Fills fs l l') :
    Consistent c files l' := by
  cases hfill with
  | artifacts empty => exact h.fill_artifacts empty
  | libraries empty => exact h.fill_libraries hfs empty
  | graph _ known => exact h.fill_graph known

/-- The invariant holds after every run. -/
theorem consistent_after (c : Configuration) (run : Run) :
    Consistent c (run.map Prod.fst) ((ofConfiguration c).after run) :=
  after_induction (fun _ hfs _ _ hfill h => h.fills hfs hfill) (consistent_ofConfiguration c _)

/-! ## Correspondence -/

/-- **The stages of a loader fit each other** in every state that a run reaches, whatever
happens to the files between its calls.

* Known artifacts are one for each identifier, so taking them by position never leaves the
  list and comes to what the library stage does with them.
* Each library was opened from the artifact at its position.
* Each module has the name and the path of the library at its position, and depends on all
  modules.
* When the library stage failed, the graph stage is empty or failed in the same way. -/
theorem stages_correspond (c : Configuration) (run : Run) :
    let l := (ofConfiguration c).after run
    (∀ found, l.artifacts = some (.ok found) →
      found.length = c.identifiers.length
      ∧ (∀ (i : Nat) (artifact : Artifact), found[i]? = some artifact →
          c.identifiers[i]? = some artifact.identifier)
      ∧ ∀ fs, c.openByPosition fs found c.identifiers.zipIdx = some (l.openLibraries fs).value)
    ∧ (∀ opened found, l.libraries = some (.ok opened) → l.artifacts = some (.ok found) →
      opened.length = found.length
      ∧ (∀ (i : Nat) (library : Library), opened[i]? = some library →
          found[i]? = some library.artifact)
      ∧ ∃ fs ∈ run.map Prod.fst, ∀ library ∈ opened,
          Library.ofArtifact fs library.artifact c.target c.abiVersion = .ok library)
    ∧ (∀ g, l.graph = some (.ok g) → ∃ opened, l.libraries = some (.ok opened)
      ∧ g.size = opened.length
      ∧ ∀ (i : Nat) (m : Module) (library : Library), g.get? i = some m →
          opened[i]? = some library →
          m.name = library.name ∧ m.libraryPath = library.path
          ∧ m.dependencies = List.range g.size)
    ∧ ∀ e, l.libraries = some (.error e) → l.graph = none ∨ l.graph = some (.error e) := by
  intro l
  have h := consistent_after c run
  refine ⟨?_, ?_, ?_, h.failure⟩
  · intro found hfound
    have hidentifiers := h.artifacts found hfound
    have hlength : found.length = c.identifiers.length := by
      rw [← hidentifiers, List.length_map]
    refine ⟨hlength, fun i artifact hi => ?_, fun fs => ?_⟩
    · rw [← hidentifiers, List.getElem?_map, hi]
      rfl
    · have hpositions := c.openByPosition_zipIdx fs [] found c.identifiers hlength
      rw [List.nil_append] at hpositions
      rw [value_openLibraries, opening, hfound, h.configuration]
      exact hpositions
  · intro opened found hopened hfound
    have hartifacts := h.libraries opened found hopened hfound
    refine ⟨by rw [← hartifacts, List.length_map], fun i library hi => ?_, h.origin opened hopened⟩
    rw [← hartifacts, List.getElem?_map, hi]
    rfl
  · intro g hg
    obtain ⟨opened, hopened, hall⟩ := h.graph g hg
    refine ⟨opened, hopened, hall.length_eq, fun i m library hm hlibrary => ?_⟩
    obtain ⟨hi, rfl⟩ := List.getElem?_eq_some_iff.1 (show g.modules[i]? = some m from hm)
    obtain ⟨hj, rfl⟩ := List.getElem?_eq_some_iff.1 hlibrary
    have hrepresents := hall.get hi hj
    exact ⟨hrepresents.name, hrepresents.path, hrepresents.dependencies⟩

end Loader

end Linkage
