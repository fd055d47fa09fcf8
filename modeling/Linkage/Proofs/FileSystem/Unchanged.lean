import Linkage.Proofs.FileSystem
import Linkage.Proofs.Path.Names

set_option autoImplicit false

/-! # What a change leaves alone

Changing a file changes nothing for the paths that do not lead to it. A walk that comes to an
end elsewhere has not come by the file, since it goes on from directories only
(`SameBut.walk_eq_ok`). So the other names in a directory mean what they meant before
(`SameBut.contentsOr_join`).
-/

namespace Linkage.FileSystem

open Traversal (exists_of_bind_eq_ok)

variable {fs fs' : FileSystem} {here found spot : Location} {name : List Char}

/-- Two file systems are the same but for what a location holds. -/
structure SameBut (spot : Location) (fs fs' : FileSystem) : Prop where
  workingDirectory : fs'.workingDirectory = fs.workingDirectory
  entry : ∀ here, here ≠ spot → fs'.entry here = fs.entry here

/-- The segments of a path can be walked, and they lead to a location. -/
def LeadsTo (fs : FileSystem) (p : Path) (here : Location) : Prop :=
  p.segments.foldlM fs.enter (fs.start p) = .ok here

theorem sameBut_put (fs : FileSystem) (spot : Location) (entry : Entry) :
    SameBut spot fs (fs.put spot entry) where
  workingDirectory := rfl
  entry _ hhere := if_neg hhere

namespace SameBut

theorem isDirectory_eq (h : SameBut spot fs fs') (hhere : here ≠ spot) :
    fs'.isDirectory here = fs.isDirectory here := by
  rw [isDirectory, isDirectory, h.entry here hhere]

theorem start_eq (h : SameBut spot fs fs') (p : Path) : fs'.start p = fs.start p := by
  rw [start, start, h.workingDirectory]

/-- A step that does not lead to the location is the same. -/
theorem enter_eq (h : SameBut spot fs fs') (hhere : here ≠ spot) (hnext : here ++ [name] ≠ spot) :
    fs'.enter here name = fs.enter here name := by
  have hchild : fs'.child here name = fs.child here name := by
    rw [child, child, h.isDirectory_eq hhere]
  unfold enter
  rw [h.isDirectory_eq hhere, hchild]
  cases hfound : fs.child here name with
  | error e => rfl
  | ok found =>
      obtain ⟨-, -, rfl⟩ := child_eq_ok_iff.1 hfound
      show (if _ then _ else if _ then _ else if _ then _ else
        if (fs'.entry (here ++ [name])).isSome then _ else _) = _
      rw [h.entry _ hnext]
      rfl

/-- A step is possible as before unless it leads to the location. -/
theorem enter_eq_ok (h : SameBut spot fs fs') (hhere : here ≠ spot) (hfound : found ≠ spot)
    (hstep : fs.enter here name = .ok found) : fs'.enter here name = .ok found := by
  rw [enter_eq_ok_iff] at hstep ⊢
  rw [h.isDirectory_eq hhere]
  obtain ⟨hdirectory, hstay | hback | ⟨hblank, hname, hchild, hsome⟩⟩ := hstep
  · exact ⟨hdirectory, Or.inl hstay⟩
  · exact ⟨hdirectory, Or.inr (Or.inl hback)⟩
  · refine ⟨hdirectory, Or.inr (Or.inr ⟨hblank, hname, ?_, ?_⟩)⟩
    · rw [child_eq_ok_iff] at hchild ⊢
      rw [h.isDirectory_eq hhere]
      exact hchild
    · rw [h.entry found hfound]
      exact hsome

/-- A walk that ends elsewhere than in a file goes the same way without the file. -/
theorem walk_eq_ok (h : SameBut spot fs fs') (hspot : fs.isDirectory spot = false)
    {segments : List (List Char)} (hfound : found ≠ spot)
    (hwalk : segments.foldlM fs.enter here = .ok found) :
    segments.foldlM fs'.enter here = .ok found := by
  -- on the segments: the next step starts in a directory, and the last one ends elsewhere
  induction segments generalizing here with
  | nil => exact hwalk
  | cons segment rest ih =>
      obtain ⟨next, hnext, hrest⟩ := exists_of_bind_eq_ok hwalk
      have hne : ∀ {there}, fs.isDirectory there = true → there ≠ spot := by
        rintro there hdirectory rfl
        rw [hspot] at hdirectory
        cases hdirectory
      have hnextNe : next ≠ spot := by
        cases rest with
        | nil =>
            cases hrest
            exact hfound
        | cons second rest =>
            obtain ⟨there, hsecond, -⟩ := exists_of_bind_eq_ok hrest
            exact hne (enter_eq_ok_iff.1 hsecond).1
      rw [List.foldlM_cons, h.enter_eq_ok (hne (enter_eq_ok_iff.1 hnext).1) hnextNe hnext]
      exact ih hrest

end SameBut

/-- Blank segments lead nowhere else. -/
theorem eq_of_walk_blanks {blanks : List (List Char)}
    (hblanks : ∀ segment ∈ blanks, Path.isBlank segment = true)
    (hwalk : blanks.foldlM fs.enter here = .ok found) : here = found := by
  induction blanks generalizing here with
  | nil => exact Except.ok.inj hwalk
  | cons segment rest ih =>
      obtain ⟨next, hnext, hrest⟩ := exists_of_bind_eq_ok hwalk
      obtain ⟨hsegment, hlater⟩ := List.forall_mem_cons.1 hblanks
      obtain ⟨-, ⟨-, rfl⟩ | ⟨hblank, -⟩ | ⟨hblank, -⟩⟩ := enter_eq_ok_iff.1 hnext
      · exact ih hlater hrest
      · exact absurd hsegment hblank
      · exact absurd hsegment hblank

theorem eq_of_enter (hname : Path.IsName name) (hstep : fs.enter here name = .ok found) :
    here ++ [name] = found := by
  obtain ⟨-, ⟨hblank, -⟩ | ⟨-, hback, -⟩ | ⟨-, -, hchild, -⟩⟩ := enter_eq_ok_iff.1 hstep
  · rw [hname.notBlank] at hblank
    cases hblank
  · exact absurd hback hname.notBack
  · exact (child_eq_ok_iff.1 hchild).2.2

/-- A name that is joined to a path is the step after those of the path. -/
theorem locate_join {dir : Path} (hdir : fs.LeadsTo dir here) (hname : Path.IsName name) :
    fs.locate (dir.join ⟨name⟩) = acceptText (dir.join ⟨name⟩) >>= fun _ => fs.enter here name := by
  obtain ⟨front, blanks, hsegments, hblanks, hjoin⟩ :=
    Path.exists_segments_join dir hname.isAbsolute
  have hfront : front.foldlM fs.enter (fs.start dir) = .ok here := by
    rw [LeadsTo, hsegments, List.foldlM_append] at hdir
    obtain ⟨there, hthere, hwalk⟩ := exists_of_bind_eq_ok hdir
    rw [hthere, eq_of_walk_blanks hblanks hwalk]
  have hstart : fs.start (dir.join ⟨name⟩) = fs.start dir := by
    rw [start, start, Path.isAbsolute_join dir hname.isAbsolute]
  rw [locate, hjoin, hname.segments, hstart, List.foldlM_append, hfront]
  congr 1
  funext _
  show [name].foldlM fs.enter here = _
  rw [List.foldlM_cons]
  cases fs.enter here name with
  | error e => rfl
  | ok found => rfl

/-- **Another name in the directory of a file** is read as before, whatever was done to the
file. -/
theorem SameBut.contentsOr_join {dir : Path} {file : List Char}
    (h : SameBut (here ++ [file]) fs fs') (hspot : fs.isDirectory (here ++ [file]) = false)
    (hdir : fs.LeadsTo dir here) (hname : Path.IsName name) (hne : name ≠ file)
    (onDirectory : SystemError) :
    fs'.contentsOr onDirectory (dir.join ⟨name⟩) = fs.contentsOr onDirectory (dir.join ⟨name⟩) := by
  have hhere : here ≠ here ++ [file] := by simp
  have hnext : here ++ [name] ≠ here ++ [file] := by simpa using hne
  have hdir' : fs'.LeadsTo dir here := by
    rw [LeadsTo, h.start_eq]
    exact h.walk_eq_ok hspot hhere hdir
  rw [contentsOr, contentsOr, locate_join hdir hname, locate_join hdir' hname,
    h.enter_eq hhere hnext]
  cases acceptText (dir.join ⟨name⟩) with
  | error e => rfl
  | ok _ =>
      show (fs.enter here name >>= _) = (fs.enter here name >>= _)
      cases hfound : fs.enter here name with
      | error e => rfl
      | ok found =>
          obtain rfl := eq_of_enter hname hfound
          simp only [bind, Except.bind, h.isDirectory_eq hnext, h.entry _ hnext]

end Linkage.FileSystem
