import Linkage.Proofs.Path
import Mathlib.Data.List.TakeWhile

set_option autoImplicit false

/-! # Names and steps of a path

A path that has a last name ends in it, up to blank segments
(`exists_segments_of_fileName`). The segments that are not blank are the steps of the path
(`steps`): a relative path that is joined adds its own steps (`steps_join`), the parent lacks
the last one (`steps_parent`), and replacing the last name replaces the last step
(`steps_withFileName`) and leaves the parent as it is (`parent_withFileName`). The segments in
front of the name stay then, but for blank ones beside it (`exists_segments_withFileName`).
-/

namespace Linkage.Path

variable {p q : Path} {name : List Char}

/-! ## Segments have no slashes -/

theorem slash_notMem_of_mem_splitSlash {text segment : List Char}
    (h : segment ∈ splitSlash text) : '/' ∉ segment := by
  induction text generalizing segment with
  | nil =>
      rw [splitSlash, List.mem_singleton] at h
      simp [h]
  | cons c rest ih =>
      rw [splitSlash] at h
      by_cases hc : c = '/'
      · rw [if_pos hc, List.mem_cons] at h
        rcases h with rfl | h
        · simp
        · exact ih h
      · rw [if_neg hc] at h
        obtain ⟨first, others, hrest⟩ := List.exists_cons_of_ne_nil (splitSlash_ne_nil rest)
        simp only [hrest, List.mem_cons] at h
        rcases h with rfl | h
        · have hfirst : '/' ∉ first := ih (hrest ▸ List.mem_cons_self)
          simp [hfirst, Ne.symm hc]
        · exact ih (hrest ▸ List.mem_cons_of_mem _ h)

theorem splitSlash_of_notMem {text : List Char} (h : '/' ∉ text) : splitSlash text = [text] := by
  induction text with
  | nil => rfl
  | cons c rest ih =>
      rw [List.mem_cons, not_or] at h
      rw [splitSlash, if_neg (Ne.symm h.1), ih h.2]

/-- Segments without slashes are the segments of the path they make. -/
theorem segments_ofSegments {segments : List (List Char)} (hne : segments ≠ [])
    (h : ∀ segment ∈ segments, '/' ∉ segment) : (ofSegments segments).segments = segments := by
  show splitSlash (['/'].intercalate segments) = segments
  induction segments with
  | nil => exact absurd rfl hne
  | cons first rest ih =>
      obtain ⟨hfirst, hrest⟩ := List.forall_mem_cons.1 h
      cases rest with
      | nil => rw [List.intercalate_singleton, splitSlash_of_notMem hfirst]
      | cons second others =>
          rw [List.intercalate_cons_cons, List.append_assoc, List.singleton_append,
            splitSlash_append_slash, splitSlash_of_notMem hfirst, ih (by simp) hrest]
          rfl

theorem intercalate_splitSlash (text : List Char) : ['/'].intercalate (splitSlash text) = text := by
  -- on the text: a slash starts a segment, another character belongs to the first one
  induction text with
  | nil => rfl
  | cons c rest ih =>
      obtain ⟨first, others, hrest⟩ := List.exists_cons_of_ne_nil (splitSlash_ne_nil rest)
      rw [hrest] at ih
      rw [splitSlash, hrest]
      by_cases hc : c = '/'
      · rw [if_pos hc, List.intercalate_cons_cons, ih, hc]
        rfl
      · rw [if_neg hc]
        show ['/'].intercalate ((c :: first) :: others) = c :: rest
        cases others with
        | nil =>
            rw [List.intercalate_singleton] at ih ⊢
            rw [ih]
        | cons second others =>
            rw [List.intercalate_cons_cons] at ih ⊢
            rw [← ih]
            rfl

/-- The segments of a path make up its text. -/
@[simp] theorem ofSegments_segments (p : Path) : ofSegments p.segments = p := by
  rw [segments, ofSegments, intercalate_splitSlash]

/-- A path is absolute if its first segment is empty and not the only one. -/
theorem isAbsolute_iff : p.isAbsolute = true ↔ p.segments.head? = some [] ∧ p.segments ≠ [[]] := by
  unfold isAbsolute segments
  cases p.chars with
  | nil => simp [splitSlash]
  | cons c rest =>
      obtain ⟨first, others, hrest⟩ := List.exists_cons_of_ne_nil (splitSlash_ne_nil rest)
      by_cases hc : c = '/'
      · simp [splitSlash, hc, hrest]
      · simp [splitSlash, hc, hrest]

/-! ## Last names -/

/-- A name that a directory can hold an entry under. -/
structure IsName (name : List Char) : Prop where
  notBlank : isBlank name = false
  notBack : name ≠ ['.', '.']
  noSlash : '/' ∉ name

/-- A path with a last name has only blank segments behind it. -/
theorem exists_segments_of_fileName (h : p.fileName = some name) :
    ∃ blanks, p.segments = p.trimmed.tail.reverse ++ name :: blanks
      ∧ (∀ segment ∈ blanks, isBlank segment = true) ∧ IsName name := by
  obtain ⟨rest, htrimmed, hback⟩ :
      ∃ rest, p.trimmed = name :: rest ∧ name ≠ ['.', '.'] := by
    unfold fileName at h
    cases hnames : p.trimmed with
    | nil =>
        rw [hnames] at h
        cases h
    | cons last rest =>
        simp only [hnames] at h
        split at h
        · cases h
        · next hback =>
            cases h
            exact ⟨rest, rfl, hback⟩
  have hsegments : p.segments
      = rest.reverse ++ name :: (p.segments.reverse.takeWhile isBlank).reverse := by
    have hsplit := List.takeWhile_append_dropWhile (p := isBlank) (l := p.segments.reverse)
    rw [show p.segments.reverse.dropWhile isBlank = name :: rest from htrimmed] at hsplit
    have hreverse := congrArg List.reverse hsplit
    rw [List.reverse_reverse, List.reverse_append, List.reverse_cons, List.append_assoc] at hreverse
    exact hreverse.symm
  refine ⟨_, by rw [htrimmed]; exact hsegments, ?_, ?_, hback, ?_⟩
  · intro segment hsegment
    exact List.all_eq_true.1 List.all_takeWhile segment (List.mem_reverse.1 hsegment)
  · have hhead := List.head?_dropWhile_not isBlank p.segments.reverse
    rw [show p.segments.reverse.dropWhile isBlank = name :: rest from htrimmed] at hhead
    exact hhead
  · have hmem : name ∈ p.segments := by
      rw [hsegments]
      simp
    exact slash_notMem_of_mem_splitSlash hmem

theorem isName_of_fileName (h : p.fileName = some name) : IsName name := by
  obtain ⟨-, -, -, hname⟩ := exists_segments_of_fileName h
  exact hname

theorem chars_ne_nil_of_fileName (h : p.fileName = some name) : p.chars ≠ [] := by
  intro hempty
  rw [fileName, trimmed, segments, hempty] at h
  cases h

theorem IsName.segments (h : IsName name) : (⟨name⟩ : Path).segments = [name] :=
  splitSlash_of_notMem h.noSlash

theorem IsName.ne_nil (h : IsName name) : name ≠ [] := by
  rintro rfl
  exact absurd h.notBlank (by decide)

/-- A name alone is a relative path. -/
theorem IsName.isAbsolute (h : IsName name) : (⟨name⟩ : Path).isAbsolute = false := by
  rw [← Bool.not_eq_true, isAbsolute_iff, h.segments]
  rintro ⟨hhead, -⟩
  exact h.ne_nil (Option.some.inj hhead)

/-- A name alone is its own last name. -/
theorem IsName.fileName (h : IsName name) : (⟨name⟩ : Path).fileName = some name := by
  have htrimmed : (⟨name⟩ : Path).trimmed = [name] := by
    rw [trimmed, h.segments, List.reverse_singleton,
      List.dropWhile_cons_of_neg (by simp [h.notBlank])]
  rw [Path.fileName, htrimmed]
  exact if_neg h.notBack

/-- The last name is what it was replaced with. -/
theorem fileName_withFileName (p : Path) (h : IsName name) :
    (p.withFileName name).fileName = some name := by
  unfold withFileName
  cases p.fileName with
  | none => exact fileName_join _ h.isAbsolute h.fileName
  | some _ => exact fileName_join _ h.isAbsolute h.fileName

/-! ## Steps -/

/-- The segments of a path that lead somewhere: all but the blank ones. -/
def steps (p : Path) : List (List Char) := p.segments.filter fun segment => !isBlank segment

theorem filter_of_blank {blanks : List (List Char)}
    (h : ∀ segment ∈ blanks, isBlank segment = true) :
    (blanks.filter fun segment => !isBlank segment) = [] := by
  rw [List.filter_eq_nil_iff]
  intro segment hsegment
  simp [h segment hsegment]

theorem IsName.steps (h : IsName name) : (⟨name⟩ : Path).steps = [name] := by
  rw [Path.steps, h.segments]
  simp [h.notBlank]

/-- A relative path adds its steps to those of the path it is joined to. -/
theorem steps_join (p : Path) (hq : q.isAbsolute = false) :
    (p.join q).steps = p.steps ++ q.steps := by
  obtain ⟨front, blanks, hp, hblanks, hjoin⟩ := exists_segments_join p hq
  rw [steps, hjoin, List.filter_append, steps, hp, List.filter_append, filter_of_blank hblanks,
    List.append_nil]
  rfl

theorem isAbsolute_join (p : Path) (hq : q.isAbsolute = false) :
    (p.join q).isAbsolute = p.isAbsolute := by
  unfold join
  by_cases hempty : p.chars = []
  · rw [if_pos (by simp [hempty]), hq, isAbsolute, hempty]
    rfl
  · obtain ⟨c, rest, hp⟩ := List.exists_cons_of_ne_nil hempty
    rw [if_neg (by simp [hq, hempty])]
    by_cases hslash : p.chars.getLast? = some '/'
    · rw [if_pos (by simp [hslash]), isAbsolute, isAbsolute, hp]
      rfl
    · rw [if_neg (by simpa using hslash), isAbsolute, isAbsolute, hp]
      rfl

/-! ## Parents -/

@[simp] theorem steps_anchor (p : Path) : p.anchor.steps = [] := by
  unfold anchor
  split
  · rfl
  · split
    · rfl
    · rfl

@[simp] theorem isAbsolute_anchor (p : Path) : p.anchor.isAbsolute = p.isAbsolute := by
  unfold anchor
  by_cases habsolute : p.isAbsolute = true
  · rw [if_pos habsolute, habsolute]
    rfl
  · rw [if_neg habsolute, (Bool.not_eq_true _).mp habsolute]
    split
    · rfl
    · rfl

/-- The parent of a path is its anchor, if there are only blank segments in front of the last
name, or else consists of the segments up to the last one that is not blank. -/
theorem parent_cases (h : p.fileName = some name) :
    (p.parent = p.anchor ∧ ∀ segment ∈ p.trimmed.tail, isBlank segment = true)
    ∨ ∃ front last blanks, p.trimmed.tail.reverse = front ++ [last] ++ blanks
      ∧ p.parent.segments = front ++ [last] ∧ isBlank last = false
      ∧ ∀ segment ∈ blanks, isBlank segment = true := by
  have hsplit := List.takeWhile_append_dropWhile (p := isBlank) (l := p.trimmed.tail)
  have hblanks : ∀ segment ∈ p.trimmed.tail.takeWhile isBlank, isBlank segment = true :=
    List.all_eq_true.1 List.all_takeWhile
  cases hrest : p.trimmed.tail.dropWhile isBlank with
  | nil =>
      rw [hrest, List.append_nil] at hsplit
      refine Or.inl ⟨by rw [parent, hrest], ?_⟩
      rwa [hsplit] at hblanks
  | cons last before =>
      have hlast : isBlank last = false := by
        have hhead := List.head?_dropWhile_not isBlank p.trimmed.tail
        rw [hrest] at hhead
        exact hhead
      have hfront : p.trimmed.tail.reverse
          = before.reverse ++ [last] ++ (p.trimmed.tail.takeWhile isBlank).reverse := by
        have hreverse := congrArg List.reverse hsplit
        rw [hrest, List.reverse_append, List.reverse_cons] at hreverse
        exact hreverse.symm
      obtain ⟨blanks, hsegments, -, -⟩ := exists_segments_of_fileName h
      have hslashes : ∀ segment ∈ (last :: before).reverse, '/' ∉ segment := by
        intro segment hsegment
        have hmem : segment ∈ p.segments := by
          rw [hsegments, hfront, ← List.reverse_cons]
          exact List.mem_append_left _ (List.mem_append_left _ hsegment)
        exact slash_notMem_of_mem_splitSlash hmem
      refine Or.inr ⟨before.reverse, last, _, hfront, ?_, hlast, ?_⟩
      · rw [parent, hrest]
        show (ofSegments (last :: before).reverse).segments = _
        rw [segments_ofSegments (by simp) hslashes, List.reverse_cons]
      · intro segment hsegment
        exact hblanks segment (List.mem_reverse.1 hsegment)

/-- The parent lacks the last step. -/
theorem steps_parent (h : p.fileName = some name) : p.steps = p.parent.steps ++ [name] := by
  obtain ⟨blanks, hsegments, hblanks, hname⟩ := exists_segments_of_fileName h
  have hsteps : p.steps
      = (p.trimmed.tail.reverse.filter fun segment => !isBlank segment) ++ [name] := by
    rw [steps, hsegments, List.filter_append, List.filter_cons_of_pos (by simp [hname.notBlank]),
      filter_of_blank hblanks]
  rw [hsteps]
  rcases parent_cases h with ⟨hparent, htail⟩ | ⟨front, last, rest, hfront, hparent, -, hrest⟩
  · rw [hparent, steps_anchor, filter_of_blank fun segment hsegment =>
      htail segment (List.mem_reverse.1 hsegment)]
  · rw [hfront, steps, hparent, List.filter_append,
      filter_of_blank hrest, List.append_nil]

theorem isAbsolute_parent (h : p.fileName = some name) : p.parent.isAbsolute = p.isAbsolute := by
  obtain ⟨blanks, hsegments, -, hname⟩ := exists_segments_of_fileName h
  rcases parent_cases h with ⟨hparent, -⟩ | ⟨front, last, rest, hfront, hparent, hlast, -⟩
  · simp [hparent]
  · -- both begin with the same segment, and neither is a single empty one
    have hhead : p.parent.segments.head? = p.segments.head? := by
      rw [hsegments, hfront, hparent]
      cases front with
      | nil => rfl
      | cons first others => rfl
    have hparentLong : p.parent.segments ≠ [[]] := by
      rw [hparent]
      intro hsingle
      have hmem : last ∈ [([] : List Char)] := hsingle ▸ by simp
      rw [List.mem_singleton.1 hmem] at hlast
      exact absurd hlast (by decide)
    have hlong : p.segments ≠ [[]] := by
      rw [hsegments]
      intro hsingle
      have hmem : name ∈ [([] : List Char)] := hsingle ▸ by simp
      exact hname.ne_nil (List.mem_singleton.1 hmem)
    rw [Bool.eq_iff_iff, isAbsolute_iff, isAbsolute_iff, hhead]
    simp [hparentLong, hlong]

/-! ## Replaced names -/

/-- Replacing the last name replaces the last step. -/
theorem steps_withFileName {old : List Char} (hp : p.fileName = some old) (h : IsName name) :
    (p.withFileName name).steps = p.steps.dropLast ++ [name] := by
  rw [withFileName, hp]
  show (p.parent.join ⟨name⟩).steps = _
  rw [steps_join _ h.isAbsolute, h.steps, steps_parent hp, List.dropLast_concat]

theorem isAbsolute_withFileName {old : List Char} (hp : p.fileName = some old)
    (h : IsName name) : (p.withFileName name).isAbsolute = p.isAbsolute := by
  rw [withFileName, hp]
  show (p.parent.join ⟨name⟩).isAbsolute = _
  rw [isAbsolute_join _ h.isAbsolute, isAbsolute_parent hp]

/-- A path that ends in no blank segment keeps all of its segments in front of a name. -/
theorem segments_join_of_last {front : List (List Char)} {last : List Char}
    (hp : p.segments = front ++ [last]) (hlast : isBlank last = false) (h : IsName name) :
    (p.join ⟨name⟩).segments = p.segments ++ [name] := by
  obtain ⟨kept, rest, hsplit, hrest, hjoin⟩ := exists_segments_join p h.isAbsolute
  have hnone : rest = [] := by
    rcases List.eq_nil_or_concat' rest with hnil | ⟨others, final, rfl⟩
    · exact hnil
    · rw [hp, ← List.append_assoc] at hsplit
      have hfinal : last = final := List.singleton_inj.1 (List.append_inj' hsplit rfl).2
      have hblank : isBlank final = true := hrest final (by simp)
      rw [← hfinal, hlast] at hblank
      cases hblank
  rw [hjoin, h.segments, hsplit, hnone, List.append_nil]

/-- A path whose segments are those of a path that ends in no blank one, and a name, has that
path as its parent. -/
theorem parent_of_segments {front : List (List Char)} {last : List Char}
    (hp : p.segments = front ++ [last]) (hlast : isBlank last = false)
    (hq : q.segments = p.segments ++ [name]) (h : IsName name) : q.parent = p := by
  have hbefore : p.segments.reverse = last :: front.reverse := by
    rw [hp, List.reverse_append, List.reverse_singleton, List.singleton_append]
  have htrimmed : q.trimmed = name :: p.segments.reverse := by
    rw [trimmed, hq, List.reverse_append, List.reverse_singleton, List.singleton_append,
      List.dropWhile_cons_of_neg (by simp [h.notBlank])]
  have hrest : q.trimmed.tail.dropWhile isBlank = last :: front.reverse := by
    rw [htrimmed, List.tail_cons, hbefore, List.dropWhile_cons_of_neg (by simp [hlast])]
  rw [parent, hrest]
  show ofSegments (last :: front.reverse).reverse = p
  rw [← hbefore, List.reverse_reverse, ofSegments_segments]

/-- A path with only blank segments before its last name has its anchor as its parent. -/
theorem parent_of_blanks {blanks : List (List Char)} (hq : q.segments = blanks ++ [name])
    (hblanks : ∀ segment ∈ blanks, isBlank segment = true) (h : IsName name) :
    q.parent = q.anchor := by
  have htrimmed : q.trimmed = name :: blanks.reverse := by
    rw [trimmed, hq, List.reverse_append, List.reverse_singleton, List.singleton_append,
      List.dropWhile_cons_of_neg (by simp [h.notBlank])]
  have hrest : q.trimmed.tail.dropWhile isBlank = [] := by
    rw [htrimmed, List.tail_cons, List.dropWhile_eq_nil_iff]
    intro segment hsegment
    exact hblanks segment (List.mem_reverse.1 hsegment)
  rw [parent, hrest]

/-- The blank segment that stands in front of a name in the anchor of a path, if there is one. -/
def lead (p : Path) : List (List Char) :=
  if p.isAbsolute then [[]] else if p.segments.head? == some ['.'] then [['.']] else []

theorem isBlank_of_mem_lead {segment : List Char} (h : segment ∈ p.lead) :
    isBlank segment = true := by
  unfold lead at h
  split at h
  · rw [List.mem_singleton.1 h]
    rfl
  · split at h
    · rw [List.mem_singleton.1 h]
      rfl
    · cases h

theorem segments_join_anchor (p : Path) (h : IsName name) :
    (p.anchor.join ⟨name⟩).segments = p.lead ++ [name] := by
  unfold anchor lead
  by_cases habsolute : p.isAbsolute = true
  · have hjoin : (⟨['/']⟩ : Path).join ⟨name⟩ = ⟨'/' :: name⟩ := by
      simp [join, h.isAbsolute]
    rw [if_pos habsolute, if_pos habsolute, hjoin]
    show splitSlash ('/' :: name) = _
    rw [splitSlash, if_pos rfl, splitSlash_of_notMem h.noSlash]
    rfl
  · rw [if_neg habsolute, if_neg habsolute]
    by_cases hhead : (p.segments.head? == some ['.']) = true
    · have hjoin : (⟨['.']⟩ : Path).join ⟨name⟩ = ⟨['.'] ++ '/' :: name⟩ := by
        simp [join, h.isAbsolute]
      rw [if_pos hhead, if_pos hhead, hjoin]
      show splitSlash (['.'] ++ '/' :: name) = _
      rw [splitSlash_append_slash, splitSlash_of_notMem h.noSlash]
      rfl
    · have hjoin : (⟨[]⟩ : Path).join ⟨name⟩ = ⟨name⟩ := by simp [join]
      rw [if_neg hhead, if_neg hhead, hjoin]
      exact h.segments

/-- A name that is joined to an anchor has the anchor as its parent. -/
theorem parent_join_anchor (p : Path) (h : IsName name) :
    (p.anchor.join ⟨name⟩).parent = p.anchor := by
  have hsegments := segments_join_anchor p h
  have habsolute : (p.anchor.join ⟨name⟩).isAbsolute = p.isAbsolute := by
    simp [isAbsolute_join _ h.isAbsolute]
  have hdot : (some name == some ['.']) = false := by
    rw [beq_eq_false_iff_ne]
    rintro ⟨⟩
    exact absurd h.notBlank (by decide)
  rw [parent_of_blanks hsegments (fun _ => isBlank_of_mem_lead) h, anchor, habsolute, hsegments,
    anchor, lead]
  split
  · rfl
  · split
    · rfl
    · rw [List.nil_append, List.head?_cons, hdot]
      rfl

/-- Replacing the last name leaves the parent as it is. -/
theorem parent_withFileName {old : List Char} (hp : p.fileName = some old) (h : IsName name) :
    (p.withFileName name).parent = p.parent := by
  rw [withFileName, hp]
  show (p.parent.join ⟨name⟩).parent = p.parent
  rcases parent_cases hp with ⟨hanchor, -⟩ | ⟨front, last, blanks, -, hparent, hlast, -⟩
  · rw [hanchor]
    exact parent_join_anchor p h
  · exact parent_of_segments hparent hlast (segments_join_of_last hparent hlast h) h

/-- A path with a last name begins as its anchor does. -/
theorem lead_isPrefix {old : List Char} (hp : p.fileName = some old) :
    p.lead <+: p.trimmed.tail.reverse := by
  obtain ⟨blanks, hsegments, -, hold⟩ := exists_segments_of_fileName hp
  -- what a path starts with, when it is not its last name, stands in front of that
  have hstart : ∀ first, p.segments.head? = some first → first ≠ old →
      [first] <+: p.trimmed.tail.reverse := by
    intro first hhead hne
    rw [hsegments] at hhead
    cases hfront : p.trimmed.tail.reverse with
    | nil =>
        rw [hfront] at hhead
        exact absurd (Option.some.inj hhead).symm hne
    | cons segment rest =>
        rw [hfront] at hhead
        rw [← Option.some.inj hhead]
        exact ⟨rest, rfl⟩
  unfold lead
  split
  · next habsolute => exact hstart [] (isAbsolute_iff.1 habsolute).1 hold.ne_nil.symm
  · split
    · next hhead =>
        refine hstart ['.'] (eq_of_beq hhead) ?_
        rintro rfl
        exact absurd hold.notBlank (by decide)
    · exact List.nil_prefix

/-- Replacing the last name keeps the segments in front of it, but for blank ones on either
side of it. -/
theorem exists_segments_withFileName {old : List Char} (hp : p.fileName = some old)
    (h : IsName name) : ∃ front blanks blanks', p.segments = front ++ blanks ++ old :: blanks'
      ∧ (∀ segment ∈ blanks, isBlank segment = true)
      ∧ (∀ segment ∈ blanks', isBlank segment = true)
      ∧ (p.withFileName name).segments = front ++ [name] := by
  obtain ⟨blanks', hsegments, hblanks', -⟩ := exists_segments_of_fileName hp
  rw [withFileName, hp]
  show ∃ front blanks blanks', _ ∧ _ ∧ _ ∧ (p.parent.join ⟨name⟩).segments = _
  rcases parent_cases hp with ⟨hanchor, htail⟩ |
    ⟨front, last, blanks, hfront, hparent, hlast, hblanks⟩
  · obtain ⟨blanks, hsplit⟩ := lead_isPrefix hp
    have hblanks : ∀ segment ∈ blanks, isBlank segment = true := by
      intro segment hsegment
      refine htail segment (List.mem_reverse.1 ?_)
      rw [← hsplit]
      exact List.mem_append_right _ hsegment
    refine ⟨p.lead, blanks, blanks', ?_, hblanks, hblanks', ?_⟩
    · rw [hsplit, hsegments]
    · rw [hanchor, segments_join_anchor p h]
  · refine ⟨front ++ [last], blanks, blanks', ?_, hblanks, hblanks', ?_⟩
    · rw [← hfront, hsegments]
    · rw [segments_join_of_last hparent hlast h, hparent]

/-- With fewer segments a path has fewer characters. -/
theorem sublist_chars_ofSegments {segments segments' : List (List Char)}
    (h : segments.Sublist segments') :
    (ofSegments segments).chars.Sublist (ofSegments segments').chars := by
  show (['/'].intercalate segments).Sublist (['/'].intercalate segments')
  induction h with
  | slnil => exact .slnil
  | @cons segments segments' segment h ih =>
      cases segments' with
      | nil =>
          rw [List.sublist_nil.1 h]
          exact List.nil_sublist _
      | cons next rest =>
          rw [List.intercalate_cons_cons]
          exact ih.trans (List.sublist_append_right _ _)
  | @cons_cons segments segments' segment h ih =>
      cases segments' with
      | nil => rw [List.sublist_nil.1 h]
      | cons next rest =>
          rw [List.intercalate_cons_cons]
          cases segments with
          | nil =>
              rw [List.intercalate_singleton, List.append_assoc]
              exact List.sublist_append_left _ _
          | cons next' rest' =>
              rw [List.intercalate_cons_cons]
              exact ih.append_left _

/-- Giving a path its last name once more adds no character. -/
theorem sublist_chars_withFileName (hp : p.fileName = some name) :
    (p.withFileName name).chars.Sublist p.chars := by
  obtain ⟨front, blanks, blanks', hsegments, -, -, hreplaced⟩ :=
    exists_segments_withFileName hp (isName_of_fileName hp)
  have hname : [name].Sublist (blanks ++ name :: blanks') :=
    List.singleton_sublist.2 (List.mem_append_right _ List.mem_cons_self)
  have hfewer : (p.withFileName name).segments.Sublist p.segments := by
    rw [hsegments, hreplaced, List.append_assoc]
    exact hname.append_left front
  have hchars := sublist_chars_ofSegments hfewer
  rwa [ofSegments_segments, ofSegments_segments] at hchars

end Linkage.Path
