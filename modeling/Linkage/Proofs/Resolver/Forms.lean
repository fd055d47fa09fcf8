import Linkage.Proofs.Layout
import Linkage.Proofs.Resolver

set_option autoImplicit false

/-! # What counts as a library

An unpacked library that is found is a directory with a manifest. A packed one is a regular
file, and its name has the library extension unless it is a candidate itself: a file that has
the name asked for, without an extension, is taken for an archive (`probe_cases`). It
satisfies the identifier exactly if nothing is found before it and its packed spelling is no
file (`Resolver.value_resolve_eq_bare_iff`), and then it hides what lies in later roots.
-/

namespace Linkage

variable {fs : FileSystem} {p : Path} {name : List Char} {layout : Layout}

/-! ## Packed spellings of paths -/

theorem Path.fileName_packedSpelling (h : p.fileName = some name) :
    p.packedSpelling.fileName = some (withExtension name) := by
  rw [packedSpelling_of_fileName h]
  exact fileName_withFileName p (isName_withExtension (isName_of_fileName h))

/-- A packed spelling has the library extension. -/
theorem Path.extension_packedSpelling (h : p.fileName = some name) :
    p.packedSpelling.extension = some libraryExtension := by
  rw [extension_eq_iff (fileName_packedSpelling h)]
  exact hasExtension_withExtension (isName_of_fileName h)

/-! ## One candidate -/

/-- What a path can be detected as. -/
theorem Layout.detect_eq_some_iff : Layout.detect fs p = some layout ↔
    layout = .packed p ∧ fs.isFile p = true
    ∨ layout = .unpacked p ∧ fs.isFile p = false ∧ fs.isDir p = true
      ∧ fs.isFile (p.join (Path.ofString manifestName)) = true := by
  unfold detect
  by_cases hfile : fs.isFile p = true
  · rw [if_pos hfile, Option.some_inj]
    constructor
    · rintro rfl
      exact Or.inl ⟨rfl, hfile⟩
    · rintro (⟨rfl, -⟩ | ⟨-, hnone, -⟩)
      · rfl
      · rw [hfile] at hnone
        cases hnone
  · rw [if_neg hfile, ← Bool.and_eq_true]
    by_cases hdirectory : (fs.isDir p && fs.isFile (p.join (Path.ofString manifestName))) = true
    · rw [if_pos hdirectory, Option.some_inj]
      constructor
      · rintro rfl
        exact Or.inr ⟨rfl, (Bool.not_eq_true _).mp hfile, hdirectory⟩
      · rintro (⟨-, hself⟩ | ⟨rfl, -⟩)
        · exact absurd hself hfile
        · rfl
    · rw [if_neg hdirectory]
      constructor
      · intro h
        cases h
      · rintro (⟨-, hself⟩ | ⟨-, -, h⟩)
        · exact absurd hself hfile
        · exact absurd h hdirectory

/-- What a look at a candidate can find: its packed spelling as a file, or else the candidate
itself as a file or a directory with a manifest. -/
theorem probe_cases : probe fs p = some layout ↔ p.fileName.isSome = true
    ∧ (layout = .packed p.packedSpelling ∧ fs.isFile p.packedSpelling = true
      ∨ fs.isFile p.packedSpelling = false ∧ Layout.detect fs p = some layout) := by
  cases hname : p.fileName with
  | none => simp [probe, hname]
  | some name =>
      rw [probe_eq fs (by rw [hname]; rfl)]
      by_cases hfile : fs.isFile p.packedSpelling = true
      · simp [hfile, eq_comm]
      · simp [hfile]

/-- A file without the library extension is found only at the candidate itself. -/
theorem probe_eq_bare_iff {q : Path} (hq : q.extension ≠ some libraryExtension) :
    probe fs p = some (.packed q) ↔ p.fileName.isSome = true ∧ q = p
      ∧ fs.isFile p = true ∧ fs.isFile p.packedSpelling = false := by
  rw [probe_cases, Layout.detect_eq_some_iff]
  constructor
  · rintro ⟨hname, ⟨hlayout, -⟩ | ⟨hfile, ⟨hlayout, hself⟩ | ⟨hlayout, -⟩⟩⟩
    · obtain ⟨name, hname⟩ := Option.isSome_iff_exists.1 hname
      obtain rfl := Layout.packed.inj hlayout
      exact absurd (Path.extension_packedSpelling hname) hq
    · exact ⟨hname, Layout.packed.inj hlayout, hself, hfile⟩
    · cases hlayout
  · rintro ⟨hname, rfl, hself, hfile⟩
    exact ⟨hname, Or.inr ⟨hfile, Or.inl ⟨rfl, hself⟩⟩⟩

namespace Resolver

variable {r : Resolver} {identifier : String} {artifact : Artifact}

/-! ## All candidates -/

/-- The paths that are looked at for an identifier, in order. -/
def candidates (r : Resolver) (identifier : String) : List Path :=
  if (Path.ofString identifier).isAbsolute then [Path.ofString identifier]
  else r.searchRoots.map (candidate identifier)

theorem value_search_eq_findSome? (fs : FileSystem) (identifier : String) (roots : List Path) :
    (search fs identifier roots).value
      = (roots.map (candidate identifier)).findSome? (probe fs) := by
  induction roots with
  | nil => rfl
  | cons root rest ih =>
      rw [search, Traced.value_bind, List.map_cons, List.findSome?_cons, candidate]
      cases probe fs (root.join (Path.ofString identifier)) with
      | none => exact ih
      | some layout => rfl

theorem conclude_eq_ok_iff {searched : List Path} {found : Option Layout} :
    (conclude identifier searched found).value = .ok artifact ↔
      artifact.identifier = identifier ∧ found = some artifact.layout := by
  cases found with
  | none =>
      constructor
      · intro h
        cases h
      · rintro ⟨-, h⟩
        cases h
  | some layout =>
      constructor
      · intro h
        cases h
        exact ⟨rfl, rfl⟩
      · rintro ⟨rfl, h⟩
        cases h
        rfl

/-- An identifier with a last name is resolved to the first library at one of its candidates. -/
theorem resolve_eq_ok_iff : (r.resolve fs identifier).value = .ok artifact ↔
    (Path.ofString identifier).fileName.isSome = true ∧ artifact.identifier = identifier
      ∧ (r.candidates identifier).findSome? (probe fs) = some artifact.layout := by
  cases hname : (Path.ofString identifier).fileName with
  | none =>
      have hnone : (Path.ofString identifier).fileName.isNone = true := by rw [hname]; rfl
      rw [resolve, if_pos hnone]
      constructor
      · intro h
        cases h
      · rintro ⟨h, -, -⟩
        cases h
  | some name =>
      have hsome : ¬(Path.ofString identifier).fileName.isNone = true := by simp [hname]
      rw [resolve, if_neg hsome, candidates]
      by_cases habsolute : (Path.ofString identifier).isAbsolute = true
      · rw [if_pos habsolute, if_pos habsolute, conclude_eq_ok_iff, List.findSome?_singleton]
        simp
      · rw [if_neg habsolute, if_neg habsolute, Traced.value_bind, conclude_eq_ok_iff,
          value_search_eq_findSome?]
        simp

/-- The candidates of an identifier have its last name. -/
theorem fileName_of_mem_candidates (hp : p ∈ r.candidates identifier)
    (hname : (Path.ofString identifier).fileName = some name) : p.fileName = some name := by
  unfold candidates at hp
  by_cases habsolute : (Path.ofString identifier).isAbsolute = true
  · rw [if_pos habsolute, List.mem_singleton] at hp
    rw [hp, hname]
  · rw [if_neg habsolute, List.mem_map] at hp
    obtain ⟨root, -, rfl⟩ := hp
    exact Path.fileName_join root ((Bool.not_eq_true _).mp habsolute) hname

/-- Exactly when an identifier is resolved to a file without the library extension: the file
is a candidate, nothing is found at the candidates before it, and its packed spelling is no
file. The candidates after it do not matter. -/
theorem value_resolve_eq_bare_iff (hp : p.extension ≠ some libraryExtension) :
    (r.resolve fs identifier).value = .ok ⟨identifier, .packed p⟩ ↔
      (Path.ofString identifier).fileName.isSome = true
      ∧ ∃ before later, r.candidates identifier = before ++ p :: later
        ∧ (∀ other ∈ before, probe fs other = none)
        ∧ fs.isFile p = true ∧ fs.isFile p.packedSpelling = false := by
  rw [resolve_eq_ok_iff, List.findSome?_eq_some_iff]
  constructor
  · rintro ⟨hname, -, before, q, later, hcandidates, hprobe, hbefore⟩
    obtain ⟨-, rfl, hself, hfile⟩ := (probe_eq_bare_iff hp).1 hprobe
    exact ⟨hname, before, later, hcandidates, hbefore, hself, hfile⟩
  · rintro ⟨hname, before, later, hcandidates, hbefore, hself, hfile⟩
    obtain ⟨name, hidentifier⟩ := Option.isSome_iff_exists.1 hname
    have hmem : p ∈ r.candidates identifier := by
      rw [hcandidates]
      simp
    have hlast : p.fileName.isSome = true := by
      rw [fileName_of_mem_candidates hmem hidentifier]
      rfl
    refine ⟨hname, rfl, before, p, later, hcandidates, ?_, hbefore⟩
    exact (probe_eq_bare_iff hp).2 ⟨hlast, rfl, hself, hfile⟩

/-- What is found for an identifier was found at one of its candidates. -/
theorem exists_candidate_of_resolve (h : (r.resolve fs identifier).value = .ok artifact) :
    ∃ p ∈ r.candidates identifier, probe fs p = some artifact.layout := by
  obtain ⟨-, -, hfound⟩ := resolve_eq_ok_iff.1 h
  obtain ⟨before, p, later, hcandidates, hprobe, -⟩ := List.findSome?_eq_some_iff.1 hfound
  refine ⟨p, ?_, hprobe⟩
  rw [hcandidates]
  simp

/-- **What counts as a library.**

* An unpacked library that is found is a directory with a manifest.
* A packed one is a regular file. It has the library extension if the identifier has it.
* A file without the extension is found exactly if it is a candidate itself, nothing is found
  at the candidates before it and its packed spelling is no file; whatever lies at later
  candidates is hidden by it. -/
theorem forms_of_resolve (r : Resolver) (fs : FileSystem) (identifier : String) :
    (∀ p, (r.resolve fs identifier).value = .ok ⟨identifier, .unpacked p⟩ →
      fs.isDir p = true ∧ fs.isFile (p.join (Path.ofString manifestName)) = true)
    ∧ (∀ p, (r.resolve fs identifier).value = .ok ⟨identifier, .packed p⟩ →
      fs.isFile p = true
      ∧ ((Path.ofString identifier).extension = some libraryExtension →
        p.extension = some libraryExtension))
    ∧ ∀ p, p.extension ≠ some libraryExtension →
      ((r.resolve fs identifier).value = .ok ⟨identifier, .packed p⟩ ↔
        (Path.ofString identifier).fileName.isSome = true
        ∧ ∃ before later, r.candidates identifier = before ++ p :: later
          ∧ (∀ other ∈ before, probe fs other = none)
          ∧ fs.isFile p = true ∧ fs.isFile p.packedSpelling = false) := by
  refine ⟨?_, ?_, fun p hp => value_resolve_eq_bare_iff hp⟩
  · intro p h
    obtain ⟨q, -, hprobe⟩ := exists_candidate_of_resolve h
    rw [probe_cases, Layout.detect_eq_some_iff] at hprobe
    obtain ⟨-, ⟨hlayout, -⟩ | ⟨-, ⟨hlayout, -⟩ | ⟨hlayout, -, hdirectory, hmanifest⟩⟩⟩ := hprobe
    · cases hlayout
    · cases hlayout
    · obtain rfl := Layout.unpacked.inj hlayout
      exact ⟨hdirectory, hmanifest⟩
  · intro p h
    obtain ⟨q, hq, hprobe⟩ := exists_candidate_of_resolve h
    obtain ⟨hname, -⟩ := resolve_eq_ok_iff.1 h
    obtain ⟨name, hname⟩ := Option.isSome_iff_exists.1 hname
    have hlast := fileName_of_mem_candidates hq hname
    rw [probe_cases, Layout.detect_eq_some_iff] at hprobe
    obtain ⟨-, ⟨hlayout, hfile⟩ | ⟨-, ⟨hlayout, hfile⟩ | ⟨hlayout, -⟩⟩⟩ := hprobe
    · obtain rfl := Layout.packed.inj hlayout
      exact ⟨hfile, fun _ => Path.extension_packedSpelling hlast⟩
    · obtain rfl := Layout.packed.inj hlayout
      refine ⟨hfile, fun hextension => ?_⟩
      rwa [Path.extension, hlast, ← hname]
    · cases hlayout

/-! ## A file that hides a library -/

/-- A repository with a file that has the name of a library, and the library itself in the
distribution. -/
def filesWithNotes : FileSystem :=
  ((FileSystem.empty [['w']]).install (Path.ofString "repo/foo") []).install
    (Path.ofString "dist/lib/foo.mlib") []

/-- The resolver for a repository and the distribution. -/
def resolverOfRepo : Resolver :=
  ofRoots [Path.ofString "repo"] ⟨Path.ofString "dist", Path.ofString "local"⟩

/-- The file is found in place of the library, which is found without the repository. -/
theorem resolve_file_without_extension :
    (resolverOfRepo.resolve filesWithNotes "foo").value
      = .ok ⟨"foo", .packed (Path.ofString "repo/foo")⟩
    ∧ (Path.ofString "repo/foo").extension = none
    ∧ ((⟨resolverOfRepo.searchRoots.tail⟩ : Resolver).resolve filesWithNotes "foo").value
      = .ok ⟨"foo", .packed (Path.ofString "dist/lib/foo.mlib")⟩ := by
  refine ⟨?_, ?_, ?_⟩
  · rfl
  · rfl
  · rfl

/-- The library in a directory, the file and, if it is asked for with its extension, the
library in the distribution. -/
theorem forms_of_resolve_foo :
    (resolverOfRepo.resolve filesOfRepo "foo").value
      = .ok ⟨"foo", .unpacked (Path.ofString "repo/foo")⟩
    ∧ filesOfRepo.isDir (Path.ofString "repo/foo") = true
    ∧ (resolverOfRepo.resolve filesWithNotes "foo.mlib").value
      = .ok ⟨"foo.mlib", .packed (Path.ofString "dist/lib/foo.mlib")⟩
    ∧ (Path.ofString "foo.mlib").extension = some libraryExtension
    ∧ (Path.ofString "dist/lib/foo.mlib").extension = some libraryExtension
    ∧ (Path.ofString "repo/foo").extension ≠ some libraryExtension
    ∧ (resolverOfRepo.resolve filesWithNotes "foo").value
      = .ok ⟨"foo", .packed (Path.ofString "repo/foo")⟩ := by
  have hdirectory : (resolverOfRepo.resolve filesOfRepo "foo").value
      = .ok ⟨"foo", .unpacked (Path.ofString "repo/foo")⟩ := by rfl
  have harchive : (resolverOfRepo.resolve filesWithNotes "foo.mlib").value
      = .ok ⟨"foo.mlib", .packed (Path.ofString "dist/lib/foo.mlib")⟩ := by rfl
  have hextension : (Path.ofString "foo.mlib").extension = some libraryExtension := by rfl
  have hnotes : (Path.ofString "repo/foo").extension ≠ some libraryExtension := by decide
  obtain ⟨hunpacked, -, -⟩ := forms_of_resolve resolverOfRepo filesOfRepo "foo"
  obtain ⟨-, hpacked, -⟩ := forms_of_resolve resolverOfRepo filesWithNotes "foo.mlib"
  obtain ⟨-, -, hbare⟩ := forms_of_resolve resolverOfRepo filesWithNotes "foo"
  refine ⟨hdirectory, (hunpacked _ hdirectory).1, harchive, hextension,
    (hpacked _ harchive).2 hextension, hnotes, (hbare _ hnotes).2 ⟨rfl, [], _, rfl, nofun, ?_, ?_⟩⟩
  · rfl
  · rfl

end Resolver

end Linkage
