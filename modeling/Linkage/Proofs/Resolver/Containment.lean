import Linkage.Proofs.Destination
import Linkage.Proofs.Resolver.Forms
import Mathlib.Data.List.Infix

set_option autoImplicit false

/-! # Where libraries lie relative to their root

An identifier without a last name, such as `.` or `a/..`, is refused before any root is
looked at (`Resolver.value_resolve_of_fileName_eq_none`). That alone does not keep a library
below its root: an identifier may go back and come down again, and `../repo` leads from a
root `repo` to that root. What is found under a root lies where the route of the identifier
leads from there, up to the spelling of the last name (`Resolver.place_of_resolve`). So it lies
strictly below the root if the route does not go back, and at or above the root exactly if
its names lead down again where the way back came from.
-/

namespace Linkage

variable {fs : FileSystem} {p : Path} {name : List Char} {identifier : String}

/-! ## One candidate -/

/-- A library that is found lies at its destination, and a packed one is no directory. -/
theorem locate_of_probe {layout : Layout} (h : probe fs p = some layout) :
    fs.locate layout.path = .ok (fs.destination layout.path)
      ∧ (layout.isPacked = true → fs.isDirectory (fs.destination layout.path) = false) := by
  obtain ⟨-, ⟨rfl, hfile⟩ | ⟨-, hdetect⟩⟩ := probe_cases.1 h
  · obtain ⟨hlocate, hdirectory⟩ := FileSystem.locate_of_isFile hfile
    exact ⟨hlocate, fun _ => hdirectory⟩
  · obtain ⟨rfl, hfile⟩ | ⟨rfl, -, hdir, -⟩ := Layout.detect_eq_some_iff.1 hdetect
    · obtain ⟨hlocate, hdirectory⟩ := FileSystem.locate_of_isFile hfile
      exact ⟨hlocate, fun _ => hdirectory⟩
    · exact ⟨FileSystem.locate_of_isDir hdir, nofun⟩

/-- A library that is found at a path lies where the path leads, up to its last name, which
may be in the packed spelling. -/
theorem destination_of_probe {layout : Layout} (hname : p.fileName = some name)
    (h : probe fs p = some layout) :
    ∃ last, layout.path.fileName = some last ∧ (last = name ∨ last = withExtension name)
      ∧ fs.destination layout.path = (fs.destination p).dropLast ++ [last] := by
  obtain ⟨-, ⟨rfl, -⟩ | ⟨-, hdetect⟩⟩ := probe_cases.1 h
  · refine ⟨withExtension name, Path.fileName_packedSpelling hname, Or.inr rfl, ?_⟩
    have hpacked := isName_withExtension (Path.isName_of_fileName hname)
    show fs.destination p.packedSpelling = _
    rw [Path.packedSpelling_of_fileName hname, FileSystem.destination_withFileName hname hpacked]
  · have hpath : layout.path = p := by
      obtain ⟨rfl, -⟩ | ⟨rfl, -⟩ := Layout.detect_eq_some_iff.1 hdetect
      · rfl
      · rfl
    rw [hpath]
    exact ⟨name, hname, Or.inl rfl, (FileSystem.destination_of_fileName hname).symm⟩

namespace Resolver

variable {r : Resolver} {artifact : Artifact}

/-! ## Refused identifiers -/

/-- An identifier without a last name is refused, and no root is looked at for it. -/
theorem value_resolve_of_fileName_eq_none (r : Resolver) (fs : FileSystem)
    (h : (Path.ofString identifier).fileName = none) :
    (r.resolve fs identifier).value = .error (.resolution identifier []) := by
  rw [resolve, h]
  rfl

/-! ## Places below and above a root -/

/-- A relative identifier is resolved in the first root that matches. -/
theorem exists_root_of_resolve (hrelative : (Path.ofString identifier).isAbsolute = false)
    (h : (r.resolve fs identifier).value = .ok artifact) :
    ∃ root name, r.searchRoots.find? (Matches fs identifier) = some root
      ∧ (Path.ofString identifier).fileName = some name
      ∧ probe fs (candidate identifier root) = some artifact.layout := by
  obtain ⟨hnamed, -, -⟩ := resolve_eq_ok_iff.1 h
  obtain ⟨name, hname⟩ := Option.isSome_iff_exists.1 hnamed
  have hsearched : IsSearched identifier := ⟨hrelative, hnamed⟩
  rw [value_resolve r fs hsearched] at h
  cases hfirst : r.searchRoots.find? (Matches fs identifier) with
  | none =>
      rw [hfirst] at h
      cases h
  | some root =>
      rw [hfirst] at h
      cases h
      have hmatches : Matches fs identifier root := by simpa using List.find?_some hfirst
      exact ⟨root, name, rfl, hname, by rw [probe_candidate fs hsearched, if_pos hmatches]⟩

/-- **Where libraries lie relative to their root.**

* An identifier without a last name is refused before any root is looked at.
* What a relative identifier is resolved to lies where its route leads from the first root
  that matches, under its own name or the packed spelling of it.
* It lies strictly below the root if the route does not go back, and at or above the root
  exactly if it goes back and its names lead down again where the way back came from.
* If the root lies in directories, what is found at or above it is no archive. -/
theorem place_of_resolve (r : Resolver) (fs : FileSystem) (identifier : String) :
    ((Path.ofString identifier).fileName = none →
      (r.resolve fs identifier).value = .error (.resolution identifier []))
    ∧ ∀ artifact, (Path.ofString identifier).isAbsolute = false →
      (r.resolve fs identifier).value = .ok artifact →
      ∃ root name last, r.searchRoots.find? (Matches fs identifier) = some root
        ∧ (Path.ofString identifier).fileName = some name
        ∧ artifact.path.fileName = some last ∧ (last = name ∨ last = withExtension name)
        ∧ let route := (Path.ofString identifier).route
          let names := route.names.dropLast ++ [last]
          let here := fs.destination root
          let place := fs.destination artifact.path
          fs.locate artifact.path = .ok place
          ∧ place = here.take (here.length - route.back) ++ names
          ∧ (route.back = 0 → here <+: place ∧ place ≠ here)
          ∧ (place <+: here ↔ 0 < route.back ∧ names <+: here.drop (here.length - route.back))
          ∧ ((∀ above, above <+: here → fs.isDirectory above = true) → place <+: here →
            artifact.layout.isPacked = false) := by
  refine ⟨value_resolve_of_fileName_eq_none r fs, fun artifact hrelative h => ?_⟩
  obtain ⟨root, name, hfirst, hname, hprobe⟩ := exists_root_of_resolve hrelative h
  have hcandidate : (candidate identifier root).fileName = some name :=
    Path.fileName_join root hrelative hname
  obtain ⟨last, hlast, hspelling, hplace⟩ := destination_of_probe hcandidate hprobe
  obtain ⟨hlocate, harchive⟩ := locate_of_probe hprobe
  refine ⟨root, name, last, hfirst, hname, hlast, hspelling, ?_⟩
  intro route names here place
  have hnames : route.names ≠ [] := by
    rw [← Path.names_route hname]
    simp
  have hleads : place = (⟨route.back, names⟩ : Route).leads here := by
    show fs.destination artifact.layout.path = _
    rw [hplace, candidate, FileSystem.destination_join root hrelative, Route.leads,
      List.dropLast_append_of_ne_nil hnames, List.append_assoc]
    rfl
  have hdown : names ≠ [] := by simp [names]
  have hbelow := fun hback => Route.isPrefix_leads ⟨route.back, names⟩ hback hdown here
  have hprefix := Route.leads_isPrefix_iff ⟨route.back, names⟩ hdown here
  rw [← hleads] at hbelow hprefix
  refine ⟨hlocate, hleads, hbelow, hprefix, ?_⟩
  intro habove hat
  have hdirectory := habove place hat
  cases hpacked : artifact.layout.isPacked with
  | false => rfl
  | true =>
      have hfile : fs.isDirectory place = false := harchive hpacked
      rw [hdirectory] at hfile
      cases hfile

/-! ## An identifier that leads to its root -/

/-- A repository that is an unpacked library itself. -/
def filesOfRoot : FileSystem :=
  (FileSystem.empty [['w']]).install (Path.ofString "repo/manifest") []

/-- The identifier has a last name and is relative, and still the root itself is found. -/
theorem resolve_root_itself :
    (Path.ofString "../repo").isAbsolute = false
    ∧ resolverOfRepo.searchRoots.find? (Matches filesOfRoot "../repo")
      = some (Path.ofString "repo")
    ∧ (resolverOfRepo.resolve filesOfRoot "../repo").value
      = .ok ⟨"../repo", .unpacked (Path.ofString "repo/../repo")⟩
    ∧ filesOfRoot.destination (Path.ofString "repo/../repo")
      = filesOfRoot.destination (Path.ofString "repo") := by
  refine ⟨?_, ?_, ?_, ?_⟩
  · rfl
  · rfl
  · rfl
  · rfl

/-- One identifier is refused, one leads below the root and one to the root itself. -/
theorem place_of_resolve_repo :
    (Path.ofString "foo/..").fileName = none
    ∧ (resolverOfRepo.resolve filesOfRoot "foo/..").value = .error (.resolution "foo/.." [])
    ∧ (Path.ofString "foo").isAbsolute = false
    ∧ (resolverOfRepo.resolve filesOfRepo "foo").value
      = .ok ⟨"foo", .unpacked (Path.ofString "repo/foo")⟩
    ∧ (Path.ofString "foo").route = ⟨0, [['f', 'o', 'o']]⟩
    ∧ filesOfRepo.destination (Path.ofString "repo")
      <+: filesOfRepo.destination (Path.ofString "repo/foo")
    ∧ (Path.ofString "../repo").isAbsolute = false
    ∧ (resolverOfRepo.resolve filesOfRoot "../repo").value
      = .ok ⟨"../repo", .unpacked (Path.ofString "repo/../repo")⟩
    ∧ (Path.ofString "../repo").route = ⟨1, [['r', 'e', 'p', 'o']]⟩
    ∧ (∀ above, above <+: filesOfRoot.destination (Path.ofString "repo") →
      filesOfRoot.isDirectory above = true)
    ∧ filesOfRoot.destination (Path.ofString "repo/../repo")
      <+: filesOfRoot.destination (Path.ofString "repo")
    ∧ (Layout.unpacked (Path.ofString "repo/../repo")).isPacked = false := by
  have hnone : (Path.ofString "foo/..").fileName = none := by rfl
  have hfoo : (Path.ofString "foo").isAbsolute = false := by rfl
  have hfooFound : (resolverOfRepo.resolve filesOfRepo "foo").value
      = .ok ⟨"foo", .unpacked (Path.ofString "repo/foo")⟩ := by rfl
  have hrepo : (Path.ofString "../repo").isAbsolute = false := by rfl
  have hrepoFound : (resolverOfRepo.resolve filesOfRoot "../repo").value
      = .ok ⟨"../repo", .unpacked (Path.ofString "repo/../repo")⟩ := by rfl
  have habove : ∀ above, above <+: filesOfRoot.destination (Path.ofString "repo") →
      filesOfRoot.isDirectory above = true := by
    intro above h
    have hall : ∀ above ∈ (filesOfRoot.destination (Path.ofString "repo")).inits,
        filesOfRoot.isDirectory above = true := by decide
    exact hall above ((List.mem_inits _ _).2 h)
  obtain ⟨hrefused, -⟩ := place_of_resolve resolverOfRepo filesOfRoot "foo/.."
  obtain ⟨-, hfooPlace⟩ := place_of_resolve resolverOfRepo filesOfRepo "foo"
  obtain ⟨-, hrepoPlace⟩ := place_of_resolve resolverOfRepo filesOfRoot "../repo"
  obtain ⟨root, name, last, hfirst, -, -, -, -, -, hbelow, -⟩ := hfooPlace _ hfoo hfooFound
  obtain ⟨root', name', last', hfirst', -, hlast', -, -, -, -, hat, harchive⟩ :=
    hrepoPlace _ hrepo hrepoFound
  -- the repository is the first root that matches, in both cases
  obtain rfl : Path.ofString "repo" = root := Option.some.inj hfirst
  obtain rfl : Path.ofString "repo" = root' := Option.some.inj hfirst'
  obtain rfl : ['r', 'e', 'p', 'o'] = last' := Option.some.inj hlast'
  have hprefix : filesOfRoot.destination (Path.ofString "repo/../repo")
      <+: filesOfRoot.destination (Path.ofString "repo") := hat.2 (by decide)
  exact ⟨hnone, hrefused hnone, hfoo, hfooFound, by rfl, (hbelow rfl).1, hrepo, hrepoFound, by rfl,
    habove, hprefix, harchive habove hprefix⟩

end Resolver

end Linkage
