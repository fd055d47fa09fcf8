import Linkage.Proofs.Path
import Linkage.Proofs.Traversal
import Linkage.Resolver

set_option autoImplicit false

/-! # The first root that matches

A root matches an identifier if one of three files is there: the packed spelling of the
candidate as a file, the candidate itself as a file, or the candidate as a directory with a
manifest (`Resolver.Matches`). A search ends at the first root that matches and takes the
packed spelling if it is there (`value_search`), so the roots before and after that one do
not matter. An absolute identifier is not searched for at all.
-/

namespace Linkage

/-- A path with its last name in the packed spelling. -/
def Path.packedSpelling (p : Path) : Path :=
  match p.fileName with
  | none => p
  | some name => p.withFileName (withExtension name)

theorem Path.packedSpelling_of_fileName {p : Path} {name : List Char}
    (h : p.fileName = some name) : p.packedSpelling = p.withFileName (withExtension name) := by
  rw [packedSpelling, h]

/-! ## One candidate -/

/-- Only a regular file is detected as an archive. -/
theorem Layout.filter_detect (fs : FileSystem) (p : Path) :
    (Layout.detect fs p).filter Layout.isPacked
      = if fs.isFile p = true then some (.packed p) else none := by
  unfold detect
  by_cases hfile : fs.isFile p = true
  · rw [if_pos hfile, if_pos hfile]
    rfl
  · rw [if_neg hfile, if_neg hfile]
    by_cases hdirectory : (fs.isDir p && fs.isFile (p.join (Path.ofString manifestName))) = true
    · rw [if_pos hdirectory]
      rfl
    · rw [if_neg hdirectory]
      rfl

/-- The packed spelling of a candidate is taken if it is a file. -/
theorem probe_eq (fs : FileSystem) {p : Path} (hname : p.fileName.isSome = true) :
    probe fs p = if fs.isFile p.packedSpelling = true then some (.packed p.packedSpelling)
      else Layout.detect fs p := by
  obtain ⟨name, hname⟩ := Option.isSome_iff_exists.1 hname
  unfold probe
  simp only [hname, Layout.filter_detect, Path.packedSpelling_of_fileName hname]
  by_cases hfile : fs.isFile (p.withFileName (withExtension name)) = true
  · rw [if_pos hfile, if_pos hfile]
  · rw [if_neg hfile, if_neg hfile]

namespace Resolver

/-! ## One root -/

/-- An identifier that is searched for: a relative path with a last name. -/
structure IsSearched (identifier : String) : Prop where
  relative : (Path.ofString identifier).isAbsolute = false
  named : (Path.ofString identifier).fileName.isSome = true

/-- The path of an identifier in a root. -/
def candidate (identifier : String) (root : Path) : Path := root.join (Path.ofString identifier)

/-- A root matches an identifier: its packed spelling there is a file, or the identifier as
given is a file or a directory with a manifest. -/
def Matches (fs : FileSystem) (identifier : String) (root : Path) : Prop :=
  fs.isFile (candidate identifier root).packedSpelling = true
  ∨ fs.isFile (candidate identifier root) = true
  ∨ fs.isDir (candidate identifier root) = true
    ∧ fs.isFile ((candidate identifier root).join (Path.ofString manifestName)) = true

instance (fs : FileSystem) (identifier : String) : DecidablePred (Matches fs identifier) :=
  fun _ => inferInstanceAs (Decidable (_ ∨ _ ∨ _ ∧ _))

/-- The library in a root that matches: the packed spelling if it is there, else what is at
the identifier as given. -/
def layoutIn (fs : FileSystem) (identifier : String) (root : Path) : Layout :=
  if fs.isFile (candidate identifier root).packedSpelling = true then
    .packed (candidate identifier root).packedSpelling
  else if fs.isFile (candidate identifier root) = true then .packed (candidate identifier root)
  else .unpacked (candidate identifier root)

/-- The files that decide whether a root matches are of the same kinds on two file systems. -/
structure SameIn (fs fs' : FileSystem) (identifier : String) (root : Path) : Prop where
  packed : fs'.isFile (candidate identifier root).packedSpelling
    = fs.isFile (candidate identifier root).packedSpelling
  file : fs'.isFile (candidate identifier root) = fs.isFile (candidate identifier root)
  directory : fs'.isDir (candidate identifier root) = fs.isDir (candidate identifier root)
  manifest : fs'.isFile ((candidate identifier root).join (Path.ofString manifestName))
    = fs.isFile ((candidate identifier root).join (Path.ofString manifestName))

variable {fs fs' : FileSystem} {identifier : String} {root : Path}

theorem SameIn.matches_iff (h : SameIn fs fs' identifier root) :
    Matches fs' identifier root ↔ Matches fs identifier root := by
  rw [Matches, Matches, h.packed, h.file, h.directory, h.manifest]

theorem SameIn.layoutIn_eq (h : SameIn fs fs' identifier root) :
    layoutIn fs' identifier root = layoutIn fs identifier root := by
  rw [layoutIn, layoutIn, h.packed, h.file]

/-- A look at a root finds something exactly if the root matches. -/
theorem probe_candidate (fs : FileSystem) (hsearched : IsSearched identifier) (root : Path) :
    probe fs (candidate identifier root)
      = if Matches fs identifier root then some (layoutIn fs identifier root) else none := by
  obtain ⟨name, hname⟩ := Option.isSome_iff_exists.1 hsearched.named
  -- the name under which the packed spelling is looked for is that of the identifier
  have hcandidate : (candidate identifier root).fileName = some name :=
    Path.fileName_join root hsearched.relative hname
  rw [probe_eq fs (by rw [hcandidate]; rfl)]
  unfold Matches layoutIn Layout.detect
  by_cases hpacked : fs.isFile (candidate identifier root).packedSpelling = true
  · simp [hpacked]
  · by_cases hfile : fs.isFile (candidate identifier root) = true
    · simp [hpacked, hfile]
    · simp [hpacked, hfile]

/-! ## All roots -/

/-- A search comes to the first root that matches. -/
theorem value_search (fs : FileSystem) (hsearched : IsSearched identifier) (roots : List Path) :
    (search fs identifier roots).value
      = (roots.find? (Matches fs identifier)).map (layoutIn fs identifier) := by
  -- on the roots: one that does not match is passed over by both
  induction roots with
  | nil => rfl
  | cons root rest ih =>
      have hprobe : probe fs (root.join (Path.ofString identifier))
          = if Matches fs identifier root then some (layoutIn fs identifier root) else none :=
        probe_candidate fs hsearched root
      simp only [search, Traced.value_bind, hprobe]
      by_cases hmatches : Matches fs identifier root
      · rw [if_pos hmatches, List.find?_cons_of_pos (by simpa using hmatches)]
        rfl
      · rw [if_neg hmatches, List.find?_cons_of_neg (by simpa using hmatches)]
        exact ih

/-- What a relative identifier is resolved to. -/
theorem value_resolve (r : Resolver) (fs : FileSystem) (hsearched : IsSearched identifier) :
    (r.resolve fs identifier).value = match r.searchRoots.find? (Matches fs identifier) with
      | some root => .ok ⟨identifier, layoutIn fs identifier root⟩
      | none => .error (.resolution identifier r.searchRoots) := by
  have hnamed : ¬(Path.ofString identifier).fileName.isNone = true := by
    rw [Option.isNone_iff_eq_none, ← Option.not_isSome_iff_eq_none, not_not]
    exact hsearched.named
  have hrelative : ¬(Path.ofString identifier).isAbsolute = true := by
    rw [hsearched.relative]
    nofun
  rw [resolve, if_neg hnamed, if_neg hrelative, Traced.value_bind, value_search fs hsearched]
  cases r.searchRoots.find? (Matches fs identifier) with
  | none => rfl
  | some root => rfl

/-- The roots before the first one that matches and those after it do not matter. -/
theorem value_resolve_of_first (hsearched : IsSearched identifier) {before : List Path}
    (hbefore : ∀ other ∈ before, ¬Matches fs identifier other)
    (hmatches : Matches fs identifier root) (later : List Path) :
    ((⟨before ++ root :: later⟩ : Resolver).resolve fs identifier).value
      = .ok ⟨identifier, layoutIn fs identifier root⟩ := by
  have hfind : (before ++ root :: later).find? (Matches fs identifier) = some root := by
    rw [List.find?_eq_some_iff_append]
    refine ⟨by simpa using hmatches, before, later, rfl, fun other hother => ?_⟩
    simpa using hbefore other hother
  rw [value_resolve _ fs hsearched, hfind]

/-- An absolute identifier names its library directly. -/
theorem resolve_of_isAbsolute (h : (Path.ofString identifier).isAbsolute = true)
    (r r' : Resolver) (fs : FileSystem) : r'.resolve fs identifier = r.resolve fs identifier := by
  unfold resolve
  simp only [h, if_true]

/-- However it is looked for, an identifier comes to a conclusion from what was found. -/
theorem exists_conclude (r : Resolver) (fs : FileSystem) (identifier : String) :
    ∃ searched found,
      (r.resolve fs identifier).value = (conclude identifier searched found).value := by
  unfold resolve
  simp only
  split
  · exact ⟨[], none, rfl⟩
  · split
    · exact ⟨_, _, rfl⟩
    · exact ⟨_, _, Traced.value_bind _ _⟩

/-- An identifier that is not resolved fails as such, whatever it was looked for. -/
theorem exists_of_resolve_eq_error {r : Resolver} {e : LoadError}
    (h : (r.resolve fs identifier).value = .error e) :
    ∃ searched, e = .resolution identifier searched := by
  obtain ⟨searched, found, hconclude⟩ := r.exists_conclude fs identifier
  rw [hconclude] at h
  cases found with
  | none =>
      cases h
      exact ⟨searched, rfl⟩
  | some layout => cases h

/-- An artifact carries the identifier it was resolved from. -/
theorem identifier_of_resolve {r : Resolver} {artifact : Artifact}
    (h : (r.resolve fs identifier).value = .ok artifact) : artifact.identifier = identifier := by
  obtain ⟨searched, found, hconclude⟩ := r.exists_conclude fs identifier
  rw [hconclude] at h
  cases found with
  | none => cases h
  | some layout =>
      cases h
      rfl

theorem value_resolveAll (r : Resolver) (fs : FileSystem) (identifiers : List String) :
    (r.resolveAll fs identifiers).value
      = identifiers.mapM fun identifier => (r.resolve fs identifier).value :=
  Traced.value_traverse _ _

/-- **The first root that matches decides.** The roots are searched in order, the
repositories before the two directories of the distribution.

* A relative identifier with a last name comes to the library in the first root that matches,
  and to a failure with all roots if none does.
* Which roots stand before that one, as long as they do not match, and which ones after it
  makes no difference; nor do the files elsewhere.
* An absolute identifier comes to the same under all roots.
* Several identifiers come to their artifacts in order, or to the failure of the first one
  that fails. -/
theorem resolve_first_match (fs : FileSystem) (repositories : List Path)
    (distribution : Distribution) :
    let r := ofRoots repositories distribution
    let roots := repositories ++ [distribution.home.join (Path.ofString "lib"),
      distribution.localDir.join (Path.ofString "lib")]
    (∀ identifier, IsSearched identifier →
      ((r.resolve fs identifier).value = match roots.find? (Matches fs identifier) with
        | some root => .ok ⟨identifier, layoutIn fs identifier root⟩
        | none => .error (.resolution identifier roots))
      ∧ ∀ root, roots.find? (Matches fs identifier) = some root →
        ∀ (fs' : FileSystem) (before later : List Path), SameIn fs fs' identifier root →
          (∀ other ∈ before, ¬Matches fs' identifier other) →
          ((⟨before ++ root :: later⟩ : Resolver).resolve fs' identifier).value
            = (r.resolve fs identifier).value)
    ∧ (∀ identifier, (Path.ofString identifier).isAbsolute = true →
      ∀ r' : Resolver, r'.resolve fs identifier = r.resolve fs identifier)
    ∧ ∀ identifiers,
      (∀ found, (r.resolveAll fs identifiers).value = .ok found ↔
        List.Forall₂ (fun identifier artifact => (r.resolve fs identifier).value = .ok artifact)
          identifiers found)
      ∧ ∀ e, (r.resolveAll fs identifiers).value = .error e ↔
        Traversal.FirstFailure (fun identifier => (r.resolve fs identifier).value)
          identifiers e := by
  intro r roots
  refine ⟨fun identifier hsearched => ⟨value_resolve r fs hsearched, ?_⟩, ?_, ?_⟩
  · intro root hfirst fs' before later hsame hbefore
    have hmatches : Matches fs identifier root := by simpa using List.find?_some hfirst
    have hvalue : (r.resolve fs identifier).value
        = match roots.find? (Matches fs identifier) with
          | some root => .ok ⟨identifier, layoutIn fs identifier root⟩
          | none => .error (.resolution identifier roots) := value_resolve r fs hsearched
    rw [value_resolve_of_first hsearched hbefore (hsame.matches_iff.2 hmatches) later,
      hsame.layoutIn_eq, hvalue, hfirst]
  · intro identifier habsolute r'
    exact resolve_of_isAbsolute habsolute r r' fs
  · intro identifiers
    rw [value_resolveAll]
    exact ⟨fun found => Traversal.mapM_eq_ok_iff, fun e => Traversal.mapM_eq_error_iff⟩

/-- A file system with an unpacked library in one directory. -/
def filesOfRepo : FileSystem :=
  (FileSystem.empty [['w']]).install (Path.ofString "repo/foo/manifest") []

/-- The same with a file of the packed name in another directory. -/
def filesOfOther : FileSystem := filesOfRepo.install (Path.ofString "other/foo.mlib") []

/-- The library is found behind a root that does not match, and also when the other root
comes to match behind its own. -/
theorem resolve_first_match_foo :
    let roots := [Path.ofString "other", Path.ofString "repo"]
    let r := ofRoots roots ⟨Path.ofString "dist", Path.ofString "local"⟩
    IsSearched "foo"
    ∧ (r.resolve filesOfRepo "foo").value = .ok ⟨"foo", .unpacked (Path.ofString "repo/foo")⟩
    ∧ SameIn filesOfRepo filesOfOther "foo" (Path.ofString "repo")
    ∧ (∀ other ∈ [Path.ofString "dist/lib"], ¬Matches filesOfOther "foo" other)
    ∧ ((⟨[Path.ofString "dist/lib"] ++ Path.ofString "repo" :: [Path.ofString "other"]⟩
        : Resolver).resolve filesOfOther "foo").value
      = .ok ⟨"foo", .unpacked (Path.ofString "repo/foo")⟩
    ∧ (Path.ofString "/w/repo/foo").isAbsolute = true
    ∧ (⟨[]⟩ : Resolver).resolve filesOfRepo "/w/repo/foo" = r.resolve filesOfRepo "/w/repo/foo"
    ∧ (r.resolveAll filesOfRepo ["foo", "bar"]).value = .error (.resolution "bar" r.searchRoots)
    := by
  intro roots r
  have hsearched : IsSearched "foo" := ⟨rfl, rfl⟩
  have hfirst : (roots ++ [(Path.ofString "dist").join (Path.ofString "lib"),
      (Path.ofString "local").join (Path.ofString "lib")]).find? (Matches filesOfRepo "foo")
      = some (Path.ofString "repo") := by rfl
  have hsame : SameIn filesOfRepo filesOfOther "foo" (Path.ofString "repo") :=
    ⟨by decide, by decide, by decide, by decide⟩
  have hbefore : ∀ other ∈ [Path.ofString "dist/lib"], ¬Matches filesOfOther "foo" other := by
    decide
  have habsolute : (Path.ofString "/w/repo/foo").isAbsolute = true := by rfl
  obtain ⟨hsearch, habs, hall⟩ := resolve_first_match filesOfRepo roots
    ⟨Path.ofString "dist", Path.ofString "local"⟩
  obtain ⟨hvalue, hstable⟩ := hsearch "foo" hsearched
  rw [hfirst] at hvalue
  have hfound : (r.resolve filesOfRepo "foo").value
      = .ok ⟨"foo", .unpacked (Path.ofString "repo/foo")⟩ := hvalue
  have hmissing : (r.resolve filesOfRepo "bar").value = .error (.resolution "bar" r.searchRoots) :=
    by rfl
  have hfoundAll : ∀ identifier ∈ ["foo"], ∃ artifact,
      (r.resolve filesOfRepo identifier).value = .ok artifact :=
    List.forall_mem_singleton.2 ⟨_, hfound⟩
  have hlist : ["foo", "bar"] = ["foo"] ++ "bar" :: [] := by rfl
  refine ⟨hsearched, hfound, hsame, hbefore, ?_, habsolute, habs "/w/repo/foo" habsolute ⟨[]⟩, ?_⟩
  · exact (hstable _ hfirst filesOfOther _ _ hsame hbefore).trans hfound
  · exact ((hall ["foo", "bar"]).2 _).2 ⟨["foo"], "bar", [], hlist, hfoundAll, hmissing⟩

end Resolver

end Linkage
