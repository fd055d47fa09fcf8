import Linkage.FileSystem
import Linkage.Proofs.Traversal
import Mathlib.Data.List.Basic

set_option autoImplicit false

/-! # Reading what was written

Writing puts a file at the location that a path leads to and changes nothing else. A walk
stands in a directory at each of its steps, and a location that is written to is not a
directory, so every walk that was possible before goes the same way afterwards (`walk_put`).
The path that was written to therefore leads to the new file (`locate_put`), and reading or
mapping it gives the contents that were written.
-/

namespace Linkage.FileSystem

open Traversal (exists_of_bind_eq_ok)

variable {fs : FileSystem} {here found spot above : Location} {entry : Entry}

/-! ## Steps of a walk -/

theorem child_eq_ok_iff {name : List Char} :
    fs.child here name = .ok found ↔ fs.isDirectory here = true
      ∧ (Utf8.encode name).length ≤ 255 ∧ here ++ [name] = found := by
  unfold child
  by_cases hdirectory : fs.isDirectory here = true
  · by_cases hlength : (Utf8.encode name).length > 255
    · rw [if_pos hdirectory, if_pos hlength]
      constructor
      · intro h
        cases h
      · rintro ⟨-, hle, -⟩
        omega
    · rw [if_pos hdirectory, if_neg hlength, Except.ok.injEq]
      exact ⟨fun h => ⟨hdirectory, by omega, h⟩, fun h => h.2.2⟩
  · rw [if_neg hdirectory]
    constructor
    · intro h
      cases h
    · rintro ⟨h, -, -⟩
      exact absurd h hdirectory

/-- What a step of a walk can be: staying, going back, or entering a name that exists. Each
of them is taken in a directory. -/
theorem enter_eq_ok_iff {segment : List Char} :
    fs.enter here segment = .ok found ↔ fs.isDirectory here = true
      ∧ (Path.isBlank segment = true ∧ here = found
        ∨ ¬Path.isBlank segment = true ∧ segment = ['.', '.'] ∧ here.dropLast = found
        ∨ ¬Path.isBlank segment = true ∧ segment ≠ ['.', '.']
          ∧ fs.child here segment = .ok found ∧ (fs.entry found).isSome = true) := by
  unfold enter
  by_cases hdirectory : fs.isDirectory here = true
  · rw [if_neg (by simp [hdirectory])]
    by_cases hblank : Path.isBlank segment = true
    · simp [hdirectory, hblank]
    · by_cases hback : segment = ['.', '.']
      · have hdots : Path.isBlank ['.', '.'] = false := rfl
        simp [hdirectory, hback, hdots]
      · rw [if_neg hblank, if_neg hback]
        simp only [hdirectory, hblank, hback, ne_eq, not_false_eq_true, true_and, false_and,
          false_or, Bool.false_eq_true]
        constructor
        · intro h
          obtain ⟨there, hthere, h⟩ := exists_of_bind_eq_ok h
          by_cases hsome : (fs.entry there).isSome = true
          · rw [if_pos hsome] at h
            cases h
            exact ⟨hthere, hsome⟩
          · rw [if_neg hsome] at h
            cases h
        · rintro ⟨hthere, hsome⟩
          rw [hthere]
          exact if_pos hsome
  · rw [if_pos (by simpa using hdirectory)]
    constructor
    · intro h
      cases h
    · rintro ⟨h, -⟩
      exact absurd h hdirectory

/-! ## Walks after a change -/

theorem isDirectory_put_of_ne (hne : here ≠ spot) :
    (fs.put spot entry).isDirectory here = fs.isDirectory here := by
  simp [isDirectory, put, hne]

/-- Putting an entry where no directory is leaves the directories as they are. -/
theorem isDirectory_put (hspot : fs.isDirectory spot = false)
    (hhere : fs.isDirectory here = true) : (fs.put spot entry).isDirectory here = true := by
  have hne : here ≠ spot := by
    rintro rfl
    rw [hspot] at hhere
    cases hhere
  rw [isDirectory_put_of_ne hne, hhere]

/-- A file that is put where no directory is makes none: the place is not the root. -/
theorem isDirectory_put_file {contents : Bytes} (hspot : fs.isDirectory spot = false) :
    (fs.put spot (.file contents)).isDirectory spot = false := by
  simp only [isDirectory, Bool.or_eq_false_iff, beq_eq_false_iff_ne] at hspot ⊢
  exact ⟨hspot.1, by simp [put]⟩

theorem isSome_entry_put (h : (fs.entry here).isSome = true) :
    ((fs.put spot entry).entry here).isSome = true := by
  unfold put
  by_cases hhere : here = spot
  · simp [hhere]
  · simpa [hhere] using h

/-- A step of a walk is possible after the change if it was before. -/
theorem enter_put (hspot : fs.isDirectory spot = false) {segment : List Char}
    (h : fs.enter here segment = .ok found) :
    (fs.put spot entry).enter here segment = .ok found := by
  rw [enter_eq_ok_iff] at h ⊢
  obtain ⟨hhere, hstep⟩ := h
  refine ⟨isDirectory_put hspot hhere, ?_⟩
  rcases hstep with hstay | hback | ⟨hblank, hname, hchild, hsome⟩
  · exact Or.inl hstay
  · exact Or.inr (Or.inl hback)
  · rw [child_eq_ok_iff] at hchild
    refine Or.inr (Or.inr ⟨hblank, hname, ?_, isSome_entry_put hsome⟩)
    exact child_eq_ok_iff.2 ⟨isDirectory_put hspot hhere, hchild.2⟩

/-- A walk goes the same way after the change. -/
theorem walk_put (hspot : fs.isDirectory spot = false) {segments : List (List Char)}
    (h : segments.foldlM fs.enter here = .ok above) :
    segments.foldlM (fs.put spot entry).enter here = .ok above := by
  -- on the segments: the change lies in no directory that a step is taken in
  induction segments generalizing here with
  | nil => exact h
  | cons segment rest ih =>
      obtain ⟨next, hnext, hrest⟩ := exists_of_bind_eq_ok h
      rw [List.foldlM_cons, enter_put hspot hnext]
      exact ih hrest

/-! ## Places -/

/-- Without a slash at its end a path keeps all its segments. -/
theorem finalSlash_of_eq_false {p : Path} {kept : List (List Char)}
    (h : finalSlash p = (kept, false)) : kept = p.segments := by
  obtain ⟨hkept, hslash⟩ := Prod.mk.inj h
  have hlength : (p.segments.reverse.dropWhile (· == [])).length = p.segments.reverse.length := by
    simpa using hslash
  rw [← hkept, (List.dropWhile_suffix _).eq_of_length hlength, List.reverse_reverse]

/-- A path that can be written to ends in a name, in an existing directory and not one
itself. -/
theorem exists_of_place {p : Path} (h : fs.place p = .ok spot) :
    acceptText p = .ok () ∧ ∃ front name above, p.segments = front ++ [name]
      ∧ ¬Path.isBlank name = true ∧ name ≠ ['.', '.']
      ∧ front.foldlM fs.enter (fs.start p) = .ok above
      ∧ fs.child above name = .ok spot ∧ fs.isDirectory spot = false := by
  obtain ⟨kept, slash, hfinal⟩ : ∃ kept slash, finalSlash p = (kept, slash) := ⟨_, _, rfl⟩
  unfold place at h
  rw [hfinal] at h
  obtain ⟨⟨⟩, haccept, h⟩ := exists_of_bind_eq_ok h
  obtain ⟨above, habove, h⟩ := exists_of_bind_eq_ok h
  refine ⟨haccept, ?_⟩
  cases hlast : kept.getLast? with
  | none =>
      rw [hlast] at h
      cases h
  | some name =>
      simp only [hlast] at h
      split at h
      · cases h
      · split at h
        · cases h
        · next hrefused =>
            simp only [Bool.or_eq_true, beq_iff_eq, not_or, Bool.not_eq_true] at hrefused
            obtain ⟨⟨hslash, hblank⟩, hback⟩ := hrefused
            rw [hslash] at hfinal
            rw [finalSlash_of_eq_false hfinal] at hlast habove
            obtain ⟨found, hfound, h⟩ := exists_of_bind_eq_ok h
            split at h
            · cases h
            · next hdirectory =>
                cases h
                refine ⟨p.segments.dropLast, name, above, ?_, ?_, hback, habove, hfound, ?_⟩
                · exact (List.dropLast_append_getLast? _ hlast).symm
                · simpa using hblank
                · simpa using hdirectory

/-- A path leads to the file that was put at its place. -/
theorem locate_put {p : Path} {contents : Bytes} (h : fs.place p = .ok spot) :
    (fs.put spot (.file contents)).locate p = .ok spot := by
  obtain ⟨haccept, front, name, above, hsegments, hblank, hback, habove, hchild, hspot⟩ :=
    exists_of_place h
  have hlast : (fs.put spot (.file contents)).enter above name = .ok spot := by
    obtain ⟨hdirectory, hlength, hfound⟩ := child_eq_ok_iff.1 hchild
    have hafter : (fs.put spot (.file contents)).isDirectory above = true :=
      isDirectory_put hspot hdirectory
    refine enter_eq_ok_iff.2 ⟨hafter, Or.inr (Or.inr ⟨hblank, hback, ?_, ?_⟩)⟩
    · exact child_eq_ok_iff.2 ⟨hafter, hlength, hfound⟩
    · simp [put]
  have hwalk : front.foldlM (fs.put spot (.file contents)).enter (fs.start p) = .ok above :=
    walk_put hspot habove
  rw [locate, haccept, hsegments]
  show (front ++ [name]).foldlM (fs.put spot (.file contents)).enter (fs.start p) = _
  rw [List.foldlM_append, hwalk]
  show [name].foldlM (fs.put spot (.file contents)).enter above = _
  rw [List.foldlM_cons, hlast]
  rfl

/-! ## Written files -/

theorem write_eq_ok_iff {after : FileSystem} {p : Path} {contents : Bytes} :
    fs.write p contents = .ok after
      ↔ ∃ spot, fs.place p = .ok spot ∧ fs.put spot (.file contents) = after := by
  constructor
  · intro h
    obtain ⟨spot, hspot, h⟩ := exists_of_bind_eq_ok h
    exact ⟨spot, hspot, Except.ok.inj h⟩
  · rintro ⟨spot, hspot, rfl⟩
    rw [write, hspot]
    rfl

/-- After writing, the path leads to a file with the contents that were written. -/
theorem exists_of_write {after : FileSystem} {p : Path} {contents : Bytes}
    (h : fs.write p contents = .ok after) :
    ∃ spot, after.locate p = .ok spot ∧ after.entry spot = some (.file contents)
      ∧ after.isDirectory spot = false := by
  obtain ⟨spot, hspot, rfl⟩ := write_eq_ok_iff.1 h
  obtain ⟨-, -, -, -, -, -, -, -, -, hdirectory⟩ := exists_of_place hspot
  exact ⟨spot, locate_put hspot, by simp [put], isDirectory_put_file hdirectory⟩

section Write

variable {after : FileSystem} {p : Path} {contents : Bytes}

theorem isFile_of_write (h : fs.write p contents = .ok after) : after.isFile p = true := by
  obtain ⟨spot, hlocate, hentry, hdirectory⟩ := exists_of_write h
  simp [isFile, hlocate, hentry, hdirectory, Entry.isRegular]

theorem contentsOr_of_write (h : fs.write p contents = .ok after) (onDirectory : SystemError) :
    after.contentsOr onDirectory p = .ok contents := by
  obtain ⟨spot, hlocate, hentry, hdirectory⟩ := exists_of_write h
  rw [contentsOr, hlocate]
  show (if after.isDirectory spot = true then _ else _) = _
  rw [if_neg (by simp [hdirectory]), hentry]

/-- A written file is mapped with the contents that were written. -/
theorem mapFile_of_write (h : fs.write p contents = .ok after) :
    after.mapFile p = .ok contents :=
  contentsOr_of_write h .noDevice

end Write

end Linkage.FileSystem
