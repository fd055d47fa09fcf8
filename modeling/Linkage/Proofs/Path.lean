import Linkage.Path
import Mathlib.Data.List.Basic

set_option autoImplicit false

/-! # Joined paths

The segments of a relative path stand at the end of every path that it is joined to
(`exists_segments_join`). The last name of a path is looked for from its end, so joining
leaves the last name of a relative path as it is (`fileName_join`): a library keeps its name
under every directory it is looked up in.
-/

namespace Linkage.Path

/-! ## Segments -/

theorem splitSlash_ne_nil (text : List Char) : splitSlash text ≠ [] := by
  cases text with
  | nil => simp [splitSlash]
  | cons c rest =>
      simp only [splitSlash]
      split
      · simp
      · split
        · simp
        · simp

/-- Two texts with a slash between them have the segments of both. -/
theorem splitSlash_append_slash (first second : List Char) :
    splitSlash (first ++ '/' :: second) = splitSlash first ++ splitSlash second := by
  -- on the first text, whose last segment the slash ends
  induction first with
  | nil => simp [splitSlash]
  | cons c rest ih =>
      rw [List.cons_append, splitSlash, splitSlash, ih]
      by_cases hc : c = '/'
      · rw [if_pos hc, if_pos hc, List.cons_append]
      · rw [if_neg hc, if_neg hc]
        obtain ⟨segment, segments, hrest⟩ := List.exists_cons_of_ne_nil (splitSlash_ne_nil rest)
        rw [hrest]
        rfl

/-- A path that a relative one is joined to keeps its segments in front of it, but for blank
ones at its end. -/
theorem exists_segments_join (p : Path) {q : Path} (hq : q.isAbsolute = false) :
    ∃ front blanks, p.segments = front ++ blanks ∧ (∀ segment ∈ blanks, isBlank segment = true)
      ∧ (p.join q).segments = front ++ q.segments := by
  unfold join
  by_cases hempty : p.chars = []
  · refine ⟨[], [[]], ?_, ?_, ?_⟩
    · rw [segments, hempty]
      rfl
    · simp [isBlank]
    · rw [if_pos (by simp [hempty]), List.nil_append]
  · rw [if_neg (by simp [hq, hempty])]
    by_cases hslash : p.chars.getLast? = some '/'
    · obtain ⟨front, hp⟩ : ∃ front, p.chars = front ++ ['/'] :=
        ⟨_, (List.dropLast_append_getLast? _ hslash).symm⟩
      refine ⟨splitSlash front, [[]], ?_, ?_, ?_⟩
      · rw [segments, hp]
        exact splitSlash_append_slash _ _
      · simp [isBlank]
      · rw [if_pos (by simp [hslash]), segments, hp, List.append_assoc]
        exact splitSlash_append_slash _ _
    · refine ⟨p.segments, [], by rw [List.append_nil], by simp, ?_⟩
      rw [if_neg (by simpa using hslash)]
      exact splitSlash_append_slash _ _

/-! ## The last name -/

theorem exists_trimmed_join (p : Path) {q : Path} (hq : q.isAbsolute = false)
    (hnames : q.trimmed ≠ []) : ∃ front, (p.join q).trimmed = q.trimmed ++ front := by
  obtain ⟨front, -, -, -, hfront⟩ := exists_segments_join p hq
  refine ⟨front.reverse, ?_⟩
  have hstop : ¬(q.segments.reverse.dropWhile isBlank).isEmpty = true := by
    rw [List.isEmpty_iff]
    exact hnames
  rw [trimmed, hfront, List.reverse_append, List.dropWhile_append, if_neg hstop]
  rfl

/-- **A relative path keeps its last name** wherever it is joined to. -/
theorem fileName_join (p : Path) {q : Path} (hq : q.isAbsolute = false) {name : List Char}
    (hname : q.fileName = some name) : (p.join q).fileName = some name := by
  unfold fileName at hname ⊢
  cases hnames : q.trimmed with
  | nil =>
      rw [hnames] at hname
      cases hname
  | cons last before =>
      obtain ⟨front, hfront⟩ := exists_trimmed_join p hq (by rw [hnames]; simp)
      rw [hnames] at hname
      rw [hfront, hnames]
      exact hname

end Linkage.Path
