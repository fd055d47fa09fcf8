import Linkage.Proofs.Resolver.Forms

set_option autoImplicit false

/-! # Paths that were found

The path of a library that is found leads to the same library again. A path with the library
extension is its own packed spelling (`Path.packedSpelling_packedSpelling`), so a second look
at it finds the same file. At a path that was taken as it was given the second look repeats
the first one, which found no packed spelling (`probe_path`). If the path is absolute, it can
therefore stand for the identifier, whatever the search roots are
(`Resolver.resolve_path_of_resolve`).
-/

namespace Linkage

variable {fs : FileSystem} {p : Path} {name : List Char} {layout : Layout}

/-! ## Packed spellings -/

/-- The packed spelling of a path is its own packed spelling. -/
theorem Path.packedSpelling_packedSpelling (h : p.fileName = some name) :
    p.packedSpelling.packedSpelling = p.packedSpelling := by
  have hname : IsName name := isName_of_fileName h
  have hpacked : IsName (withExtension name) := isName_withExtension hname
  have hlast : p.packedSpelling.fileName = some (withExtension name) := fileName_packedSpelling h
  have hparent : p.packedSpelling.parent = p.parent := by
    rw [packedSpelling_of_fileName h]
    exact parent_withFileName h hpacked
  calc p.packedSpelling.packedSpelling
      = p.packedSpelling.withFileName (withExtension (withExtension name)) :=
        packedSpelling_of_fileName hlast
    _ = p.packedSpelling.withFileName (withExtension name) := by
        rw [withExtension_withExtension hname]
    _ = p.parent.join ⟨withExtension name⟩ := by
        rw [withFileName, hlast, ← hparent]
    _ = p.packedSpelling := by
        rw [packedSpelling_of_fileName h, withFileName, h]

/-! ## A second look -/

/-- What is found at a candidate lies where its path says. -/
theorem detect_path_of_probe (h : probe fs p = some layout) :
    Layout.detect fs layout.path = some layout := by
  obtain ⟨-, ⟨rfl, hfile⟩ | ⟨-, hdetect⟩⟩ := probe_cases.1 h
  · exact Layout.detect_eq_some_iff.2 (Or.inl ⟨rfl, hfile⟩)
  · have hpath : layout.path = p := by
      rcases Layout.detect_eq_some_iff.1 hdetect with ⟨rfl, -⟩ | ⟨rfl, -⟩
      · rfl
      · rfl
    rw [hpath]
    exact hdetect

/-- What is found at a candidate is found again at its own path. -/
theorem probe_path (h : probe fs p = some layout) : probe fs layout.path = some layout := by
  obtain ⟨hname, ⟨rfl, hfile⟩ | ⟨hfile, hdetect⟩⟩ := probe_cases.1 h
  · obtain ⟨name, hname⟩ := Option.isSome_iff_exists.1 hname
    have hself : p.packedSpelling.packedSpelling = p.packedSpelling :=
      Path.packedSpelling_packedSpelling hname
    refine probe_cases.2 ⟨?_, Or.inl ⟨?_, ?_⟩⟩
    · show p.packedSpelling.fileName.isSome = true
      rw [Path.fileName_packedSpelling hname]
      rfl
    · show Layout.packed p.packedSpelling = .packed p.packedSpelling.packedSpelling
      rw [hself]
    · show fs.isFile p.packedSpelling.packedSpelling = true
      rw [hself]
      exact hfile
  · -- the candidate itself, whose packed spelling is no file at the second look either
    have hpath : layout.path = p := by
      rcases Layout.detect_eq_some_iff.1 hdetect with ⟨rfl, -⟩ | ⟨rfl, -⟩
      · rfl
      · rfl
    rw [hpath]
    exact probe_cases.2 ⟨hname, Or.inr ⟨hfile, hdetect⟩⟩

namespace Resolver

/-- An absolute path is resolved to what a look at it finds, under all search roots. -/
theorem value_resolve_text (r : Resolver) (habsolute : p.isAbsolute = true)
    (h : probe fs p = some layout) : (r.resolve fs p.text).value = .ok ⟨p.text, layout⟩ := by
  have htext : Path.ofString p.text = p := by
    rw [Path.ofString, Path.text, String.toList_ofList]
  have hcandidates : r.candidates p.text = [p] := by
    rw [candidates, htext, if_pos habsolute]
  have hname : p.fileName.isSome = true := (probe_cases.1 h).1
  apply resolve_eq_ok_iff.2
  refine ⟨?_, rfl, ?_⟩
  · rw [htext]
    exact hname
  · rw [hcandidates, List.findSome?_singleton]
    exact h

/-- **The path of a library that is found leads to it again.** A library lies at its path in
the form in which it was found. If the path is absolute, its text is an identifier of the same
library, whatever the search roots are. -/
theorem resolve_path_of_resolve (r : Resolver) (fs : FileSystem) (identifier : String)
    (artifact : Artifact) (h : (r.resolve fs identifier).value = .ok artifact) :
    Layout.detect fs artifact.path = some artifact.layout
    ∧ (artifact.path.isAbsolute = true → ∀ r' : Resolver,
      (r'.resolve fs artifact.path.text).value = .ok ⟨artifact.path.text, artifact.layout⟩) := by
  obtain ⟨p, -, hprobe⟩ := exists_candidate_of_resolve h
  constructor
  · exact detect_path_of_probe hprobe
  · intro habsolute r'
    exact value_resolve_text r' habsolute (probe_path hprobe)

/-- The resolver for one absolute search root. -/
def resolverOfAbsoluteRepo : Resolver := ⟨[Path.ofString "/w/repo/"]⟩

/-- A directory that is found under a name with blank segments behind it. -/
theorem resolve_path_of_resolve_foo :
    (resolverOfAbsoluteRepo.resolve filesOfRepo "foo/./").value
      = .ok ⟨"foo/./", .unpacked (Path.ofString "/w/repo/foo/./")⟩
    ∧ Layout.detect filesOfRepo (Path.ofString "/w/repo/foo/./")
      = some (.unpacked (Path.ofString "/w/repo/foo/./"))
    ∧ (Path.ofString "/w/repo/foo/./").isAbsolute = true
    ∧ ((⟨[]⟩ : Resolver).resolve filesOfRepo "/w/repo/foo/./").value
      = .ok ⟨"/w/repo/foo/./", .unpacked (Path.ofString "/w/repo/foo/./")⟩ := by
  have hfound : (resolverOfAbsoluteRepo.resolve filesOfRepo "foo/./").value
      = .ok ⟨"foo/./", .unpacked (Path.ofString "/w/repo/foo/./")⟩ := by rfl
  have habsolute : (Path.ofString "/w/repo/foo/./").isAbsolute = true := by rfl
  obtain ⟨hdetect, hagain⟩ := resolve_path_of_resolve _ _ _ _ hfound
  exact ⟨hfound, hdetect, habsolute, hagain habsolute ⟨[]⟩⟩

end Resolver

end Linkage
