import Linkage.Proofs.Destination
import Linkage.Proofs.FileSystem.Unchanged
import Linkage.Proofs.Packing.InPlace
import Linkage.Proofs.Resolver.Forms

set_option autoImplicit false

/-! # The default output

The default output of a directory has its parent and the packed spelling of its name
(`defaultOutput_of_fileName`). A name without the library extension is not its own packed
spelling, so the output lies beside the directory. A name with the extension is, and then the
output is a path of the directory itself (`FileSystem.locate_withFileName_self`), where no file
can be written (`FileSystem.place_of_isDir`).
-/

namespace Linkage

open Traversal (exists_of_bind_eq_ok)

namespace FileSystem

variable {fs : FileSystem} {p q : Path} {here found : Location} {name : List Char}

/-! ## The last name once more -/

theorem acceptText_eq_ok_iff : acceptText p = .ok () ↔
    '\x00' ∉ p.chars ∧ p.chars ≠ [] ∧ (Utf8.encode p.chars).length ≤ 4095 := by
  unfold acceptText
  by_cases hnul : '\x00' ∈ p.chars
  · rw [if_pos (List.contains_iff_mem.2 hnul)]
    simp [hnul]
  · rw [if_neg (by simpa using hnul)]
    by_cases hempty : p.chars = []
    · simp [hempty]
    · rw [if_neg (by simpa using hempty)]
      by_cases hlength : (Utf8.encode p.chars).length > 4095
      · rw [if_pos hlength]
        simp [hlength]
      · rw [if_neg hlength]
        simp [hnul, hempty, Nat.not_lt.1 hlength]

/-- What is left of an accepted text is accepted too, if it is anything. -/
theorem acceptText_of_sublist (hsub : q.chars.Sublist p.chars) (hne : q.chars ≠ [])
    (h : acceptText p = .ok ()) : acceptText q = .ok () := by
  obtain ⟨hnul, -, hlength⟩ := acceptText_eq_ok_iff.1 h
  have hbytes : (Utf8.encode q.chars).length ≤ (Utf8.encode p.chars).length :=
    Utf8.length_encode_le_of_sublist hsub
  exact acceptText_eq_ok_iff.2 ⟨fun hmem => hnul (hsub.subset hmem), hne, by omega⟩

/-- A path still leads to the same location when it is given its last name once more. -/
theorem locate_withFileName_self (hp : p.fileName = some name) (h : fs.locate p = .ok here) :
    fs.locate (p.withFileName name) = .ok here := by
  have hname : Path.IsName name := Path.isName_of_fileName hp
  obtain ⟨⟨⟩, haccept, hwalk⟩ := exists_of_bind_eq_ok h
  obtain ⟨front, blanks, blanks', hsegments, hblanks, hblanks', hreplaced⟩ :=
    Path.exists_segments_withFileName hp hname
  have hne : (p.withFileName name).chars ≠ [] :=
    Path.chars_ne_nil_of_fileName (Path.fileName_withFileName p hname)
  have haccept' : acceptText (p.withFileName name) = .ok () :=
    acceptText_of_sublist (Path.sublist_chars_withFileName hp) hne haccept
  have hstart : fs.start (p.withFileName name) = fs.start p :=
    start_of_isAbsolute_eq (Path.isAbsolute_withFileName hp hname)
  -- the blank segments on either side of the name lead nowhere
  rw [hsegments, List.foldlM_append, List.foldlM_append] at hwalk
  obtain ⟨above, habove, hlast⟩ := exists_of_bind_eq_ok hwalk
  obtain ⟨above', hfront, hstay⟩ := exists_of_bind_eq_ok habove
  obtain rfl := eq_of_walk_blanks hblanks hstay
  obtain ⟨found, hfound, hstay'⟩ := exists_of_bind_eq_ok hlast
  obtain rfl := eq_of_walk_blanks hblanks' hstay'
  rw [locate, haccept', hreplaced, hstart]
  show (front ++ [name]).foldlM fs.enter (fs.start p) = _
  rw [List.foldlM_append, hfront]
  show [name].foldlM fs.enter above' = _
  rw [List.foldlM_cons, hfound]
  rfl

/-! ## Writing to directories -/

/-- A path is what remains of it without slashes at its end, followed by empty segments. -/
theorem exists_segments_finalSlash (p : Path) :
    ∃ empties, p.segments = (finalSlash p).1 ++ empties
      ∧ ∀ segment ∈ empties, Path.isBlank segment = true := by
  refine ⟨(p.segments.reverse.takeWhile (· == [])).reverse, ?_, fun segment hsegment => ?_⟩
  · show p.segments = (p.segments.reverse.dropWhile (· == [])).reverse ++ _
    rw [← List.reverse_append, List.takeWhile_append_dropWhile, List.reverse_reverse]
  · have hempty : (segment == []) = true :=
      List.all_eq_true.1 List.all_takeWhile segment (List.mem_reverse.1 hsegment)
    rw [Path.isBlank, hempty]
    rfl

/-- No file can be put where a path leads to a directory. -/
theorem place_of_isDir (h : fs.isDir p = true) : fs.place p = .error .isDirectory := by
  have hlocate : fs.locate p = .ok (fs.destination p) := locate_of_isDir h
  have hdirectory : fs.isDirectory (fs.destination p) = true := by
    rwa [isDir, hlocate] at h
  obtain ⟨⟨⟩, haccept, hwalk⟩ := exists_of_bind_eq_ok hlocate
  obtain ⟨kept, slash, hfinal⟩ : ∃ kept slash, finalSlash p = (kept, slash) := ⟨_, _, rfl⟩
  obtain ⟨empties, hsegments, hempties⟩ := exists_segments_finalSlash p
  rw [hfinal] at hsegments
  rw [hsegments, List.foldlM_append] at hwalk
  obtain ⟨found, hkept, hstay⟩ := exists_of_bind_eq_ok hwalk
  rw [eq_of_walk_blanks hempties hstay] at hkept
  unfold place
  rw [haccept, hfinal]
  show (kept.dropLast.foldlM fs.enter (fs.start p) >>= _) = _
  rcases List.eq_nil_or_concat' kept with rfl | ⟨front, last, rfl⟩
  · rfl
  · rw [List.foldlM_append] at hkept
    obtain ⟨above, habove, hlast⟩ := exists_of_bind_eq_ok hkept
    obtain ⟨there, hlast, hthere⟩ := exists_of_bind_eq_ok hlast
    cases hthere
    obtain ⟨habove', hstep⟩ := enter_eq_ok_iff.1 hlast
    rw [List.dropLast_concat, habove, List.getLast?_concat]
    show (if !fs.isDirectory above then _
      else if slash || Path.isBlank last || last == ['.', '.'] then _ else _) = _
    rw [if_neg (by simp [habove'])]
    by_cases hrefused : (slash || Path.isBlank last || last == ['.', '.']) = true
    · rw [if_pos hrefused]
    · rw [if_neg hrefused]
      rcases hstep with ⟨hblank, -⟩ | ⟨-, rfl, -⟩ | ⟨-, -, hchild, -⟩
      · simp [hblank] at hrefused
      · simp at hrefused
      · rw [hchild]
        exact if_pos hdirectory

theorem write_of_isDir (h : fs.isDir p = true) (contents : Bytes) :
    fs.write p contents = .error .isDirectory := by
  rw [write, place_of_isDir h]
  rfl

end FileSystem

/-! ## The default output -/

section DefaultOutput

variable {fs : FileSystem} {dir : Path} {name : List Char}

theorem defaultOutput_of_fileName (h : dir.fileName = some name) :
    defaultOutput dir = .ok (dir.withFileName (withExtension name)) := by
  refine defaultOutput_eq_ok_iff.2 ⟨by rw [h]; rfl, Path.packedSpelling_of_fileName h⟩

/-- Under another name a path does not lead to the directory. -/
theorem FileSystem.locate_withFileName_ne (h : dir.fileName = some name) {other : List Char}
    (hother : Path.IsName other) (hne : other ≠ name) (hdir : fs.isDir dir = true) :
    fs.locate (dir.withFileName other) ≠ fs.locate dir := by
  rw [locate_of_isDir hdir]
  intro hlocate
  have hsame : (fs.destination dir).dropLast ++ [other] = fs.destination dir := by
    rw [← destination_withFileName h hother]
    exact destination_of_locate hlocate
  rw [← destination_of_fileName h, List.dropLast_concat] at hsame
  exact hne (List.singleton_inj.1 (List.append_cancel_left hsame))

/-- Packing to a directory comes to the refusal of the write, if it comes that far. -/
theorem writeLibrary_of_isDir {output : Path} (houtput : fs.isDir output = true) :
    writeLibrary fs dir output
      = packLibrary fs dir >>= fun _ => .error (.output output .isDirectory) := by
  unfold writeLibrary
  congr 1
  funext contents
  rw [FileSystem.write_of_isDir houtput]
  rfl

/-- **The default output lies beside the directory**, unless the directory has the library
extension itself. For every directory with a name there is a default output, with the same
parent, with the library extension and with the packed spelling of the name as its last name.
That differs from the name of the directory exactly if the directory lacks the extension, and
then the output does not lead to the directory. Otherwise it is the directory that the output
leads to, and packing to it fails at the latest when the archive is written. -/
theorem defaultOutput_beside (dir : Path) (name : List Char) (h : dir.fileName = some name) :
    ∃ output, defaultOutput dir = .ok output
      ∧ output.parent = dir.parent
      ∧ output.fileName = some (withExtension name)
      ∧ output.extension = some libraryExtension
      ∧ (output.fileName = dir.fileName ↔ dir.extension = some libraryExtension)
      ∧ ∀ fs : FileSystem, fs.isDir dir = true →
        (fs.locate output = fs.locate dir ↔ dir.extension = some libraryExtension)
        ∧ (dir.extension = some libraryExtension → writeLibrary fs dir output
          = packLibrary fs dir >>= fun _ => .error (.output output .isDirectory)) := by
  have hname : Path.IsName name := Path.isName_of_fileName h
  have hpacked : Path.IsName (withExtension name) := isName_withExtension hname
  have hlast : (dir.withFileName (withExtension name)).fileName = some (withExtension name) :=
    Path.fileName_withFileName dir hpacked
  have hsame : dir.extension = some libraryExtension ↔ withExtension name = name :=
    (Path.extension_eq_iff h).trans withExtension_eq_self_iff.symm
  refine ⟨_, defaultOutput_of_fileName h, Path.parent_withFileName h hpacked, hlast,
    (Path.extension_eq_iff hlast).2 (hasExtension_withExtension hname), ?_, fun fs hdir => ?_⟩
  · rw [hlast, h, Option.some_inj, hsame]
  · have hlocate : withExtension name = name →
        fs.locate (dir.withFileName (withExtension name)) = fs.locate dir := by
      intro heq
      have hfound := FileSystem.locate_of_isDir hdir
      rw [heq, hfound]
      exact FileSystem.locate_withFileName_self h hfound
    rw [hsame]
    refine ⟨⟨fun hequal => ?_, hlocate⟩, fun heq => writeLibrary_of_isDir ?_⟩
    · by_contra hne
      exact FileSystem.locate_withFileName_ne h hpacked hne hdir hequal
    · rw [FileSystem.isDir, hlocate heq]
      exact hdir

/-- A library in a directory that has the library extension. -/
def filesOfExtended : FileSystem :=
  (FileSystem.empty [['w']]).installLibrary (Path.ofString "foo.mlib") fooManifest fooMetadata

/-- Its default output is the directory, where no file can be put. -/
theorem defaultOutput_extended :
    Layout.detect filesOfExtended (Path.ofString "foo.mlib")
      = some (.unpacked (Path.ofString "foo.mlib"))
    ∧ (Path.ofString "foo.mlib").fileName = some "foo.mlib".toList
    ∧ defaultOutput (Path.ofString "foo.mlib") = .ok (Path.ofString "foo.mlib")
    ∧ filesOfExtended.place (Path.ofString "foo.mlib") = .error .isDirectory :=
  ⟨by rfl, by rfl, by rfl, by rfl⟩

/-- A directory without the extension, and the one that has it with blank segments behind it. -/
theorem defaultOutput_beside_foo :
    (Path.ofString "repo/foo").fileName = some "foo".toList
    ∧ filesToPack.isDir (Path.ofString "repo/foo") = true
    ∧ defaultOutput (Path.ofString "repo/foo") = .ok (Path.ofString "repo/foo.mlib")
    ∧ filesToPack.locate (Path.ofString "repo/foo.mlib")
      ≠ filesToPack.locate (Path.ofString "repo/foo")
    ∧ (Path.ofString "foo.mlib/./").fileName = some "foo.mlib".toList
    ∧ filesOfExtended.isDir (Path.ofString "foo.mlib/./") = true
    ∧ defaultOutput (Path.ofString "foo.mlib/./") = .ok (Path.ofString "foo.mlib")
    ∧ filesOfExtended.locate (Path.ofString "foo.mlib")
      = filesOfExtended.locate (Path.ofString "foo.mlib/./") := by
  have hfoo : (Path.ofString "repo/foo").fileName = some "foo".toList := by rfl
  have hextended : (Path.ofString "foo.mlib/./").fileName = some "foo.mlib".toList := by rfl
  have hfooDir : filesToPack.isDir (Path.ofString "repo/foo") = true := by rfl
  have hextendedDir : filesOfExtended.isDir (Path.ofString "foo.mlib/./") = true := by rfl
  have hfooOutput : defaultOutput (Path.ofString "repo/foo")
      = .ok (Path.ofString "repo/foo.mlib") := by rfl
  have hextendedOutput : defaultOutput (Path.ofString "foo.mlib/./")
      = .ok (Path.ofString "foo.mlib") := by rfl
  obtain ⟨output, houtput, -, -, -, -, hbeside⟩ := defaultOutput_beside _ _ hfoo
  obtain rfl : output = _ := Except.ok.inj (houtput.symm.trans hfooOutput)
  obtain ⟨output', houtput', -, -, -, -, hself⟩ := defaultOutput_beside _ _ hextended
  obtain rfl : output' = _ := Except.ok.inj (houtput'.symm.trans hextendedOutput)
  refine ⟨hfoo, hfooDir, hfooOutput, fun hequal => ?_, hextended, hextendedDir, hextendedOutput, ?_⟩
  · have hextension := (hbeside _ hfooDir).1.1 hequal
    exact absurd hextension (by decide)
  · exact (hself _ hextendedDir).1.2 (by rfl)

end DefaultOutput

end Linkage
