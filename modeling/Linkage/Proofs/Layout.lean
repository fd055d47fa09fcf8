import Linkage.Layout
import Linkage.Proofs.Path.Names
import Linkage.Proofs.Text.Reading

set_option autoImplicit false

/-! # Packed spellings

The extension of a name is what stands behind its last dot, unless that dot starts the name
(`Path.extensionOf_eq_some_iff`). So a name with the library extension added has that extension
(`hasExtension_withExtension`), whatever dots it had before, and is a name again
(`isName_withExtension`). Adding it twice adds it once (`withExtension_withExtension`), and
names with the same packed spelling are equal but for the extension
(`withExtension_eq_withExtension_iff`).
-/

namespace Linkage

variable {name : List Char}

/-! ## Extensions -/

/-- The extension of a name is what was added behind a dot. -/
theorem Path.extensionOf_append {extension : List Char} (hname : name ≠ [])
    (hdot : '.' ∉ extension) :
    extensionOf (name ++ '.' :: extension) = some extension := by
  have hreverse : (name ++ '.' :: extension).reverse
      = extension.reverse ++ '.' :: name.reverse := by
    simp
  have hdot' : '.' ∉ extension.reverse := fun h => hdot (List.mem_reverse.1 h)
  obtain ⟨htake, hdrop⟩ := Text.span_at hdot' name.reverse
  unfold extensionOf
  rw [hreverse, hdrop, htake, List.reverse_reverse]
  split
  · next h => cases h
  · next h =>
      -- the dot would start the name
      rw [List.cons.injEq, List.reverse_eq_nil_iff] at h
      exact absurd h.2 hname
  · rfl

/-- A name with an extension consists of something, its last dot and the extension. -/
theorem Path.exists_stem_of_extensionOf {extension : List Char}
    (h : extensionOf name = some extension) :
    '.' ∉ extension ∧ ∃ stem, stem ≠ [] ∧ name = stem ++ '.' :: extension := by
  have hsplit := List.takeWhile_append_dropWhile (p := (· != '.')) (l := name.reverse)
  have hhead := List.head?_dropWhile_not (· != '.') name.reverse
  have hdotless : ∀ c ∈ name.reverse.takeWhile (· != '.'), (c != '.') = true :=
    List.all_eq_true.1 List.all_takeWhile
  unfold extensionOf at h
  -- on what is left of the name, backwards, from its last dot on
  cases hdrop : name.reverse.dropWhile (· != '.') with
  | nil =>
      rw [hdrop] at h
      cases h
  | cons dot before =>
      rw [hdrop] at h hhead hsplit
      obtain rfl : dot = '.' := by simpa using hhead
      cases before with
      | nil => cases h
      | cons c rest =>
          obtain rfl : (name.reverse.takeWhile (· != '.')).reverse = extension :=
            Option.some.inj h
          refine ⟨fun hmem => ?_, (c :: rest).reverse, by simp, ?_⟩
          · exact absurd (hdotless '.' (List.mem_reverse.1 hmem)) (by decide)
          · calc name = (name.reverse.takeWhile (· != '.') ++ '.' :: c :: rest).reverse := by
                  rw [hsplit, List.reverse_reverse]
              _ = (c :: rest).reverse ++ '.' :: (name.reverse.takeWhile (· != '.')).reverse := by
                  simp

/-- A name has an extension exactly if something stands in front of its last dot, and then the
extension is what stands behind it. -/
theorem Path.extensionOf_eq_some_iff {extension : List Char} :
    extensionOf name = some extension ↔
      '.' ∉ extension ∧ ∃ stem, stem ≠ [] ∧ name = stem ++ '.' :: extension := by
  constructor
  · exact exists_stem_of_extensionOf
  · rintro ⟨hdot, stem, hstem, rfl⟩
    exact extensionOf_append hstem hdot

/-- A name has the library extension if it is its extension. -/
theorem hasExtension_iff (h : Path.IsName name) :
    hasExtension name = true ↔ Path.extensionOf name = some libraryExtension := by
  rw [hasExtension, Path.extension, h.fileName, beq_iff_eq]
  rfl

/-- A path has the library extension if its last name has it. -/
theorem Path.extension_eq_iff {p : Path} (h : p.fileName = some name) :
    p.extension = some libraryExtension ↔ hasExtension name = true := by
  rw [hasExtension_iff (isName_of_fileName h), extension, h]
  rfl

/-- A name has the library extension exactly if it ends in the extension and its dot, and has
something in front of them: a hidden file that is named by the extension alone has none. -/
theorem hasExtension_iff_isSuffix (h : Path.IsName name) :
    hasExtension name = true ↔
      '.' :: libraryExtension <:+ name ∧ ('.' :: libraryExtension).length < name.length := by
  rw [hasExtension_iff h, Path.extensionOf_eq_some_iff]
  constructor
  · rintro ⟨-, stem, hstem, rfl⟩
    have hpos := List.length_pos_iff.2 hstem
    refine ⟨List.suffix_append _ _, ?_⟩
    rw [List.length_append]
    omega
  · rintro ⟨⟨stem, rfl⟩, hlonger⟩
    refine ⟨by decide, stem, ?_, rfl⟩
    rintro rfl
    exact absurd hlonger (Nat.lt_irrefl _)

/-! ## The packed spelling of a name -/

/-- The packed spelling of a name is the name itself or, if it lacks the extension, the name with
the extension added. -/
theorem withExtension_cases (name : List Char) :
    (hasExtension name = true ∧ withExtension name = name)
    ∨ (hasExtension name = false ∧ withExtension name = name ++ '.' :: libraryExtension) := by
  unfold withExtension
  by_cases h : hasExtension name = true
  · exact Or.inl ⟨h, if_pos h⟩
  · exact Or.inr ⟨(Bool.not_eq_true _).mp h, if_neg h⟩

/-- A name stays a name with the library extension added. -/
theorem isName_append (h : Path.IsName name) :
    Path.IsName (name ++ '.' :: libraryExtension) := by
  -- it is longer than any text that is no name but has no slash
  have hlong : ∀ short : List Char, short.length ≤ 5 → name ++ '.' :: libraryExtension ≠ short := by
    rintro short hshort rfl
    have hpos := List.length_pos_iff.2 h.ne_nil
    rw [List.length_append] at hshort
    change name.length + 5 ≤ 5 at hshort
    omega
  refine ⟨?_, hlong _ (by decide), ?_⟩
  · rw [Path.isBlank, Bool.or_eq_false_iff, beq_eq_false_iff_ne, beq_eq_false_iff_ne]
    exact ⟨hlong _ (by decide), hlong _ (by decide)⟩
  · simp [h.noSlash, libraryExtension]

/-- The packed spelling of a name is a name. -/
theorem isName_withExtension (h : Path.IsName name) : Path.IsName (withExtension name) := by
  rcases withExtension_cases name with ⟨-, hspelling⟩ | ⟨-, hspelling⟩
  · rw [hspelling]
    exact h
  · rw [hspelling]
    exact isName_append h

/-- The packed spelling of a name has the library extension. -/
@[simp] theorem hasExtension_withExtension (h : Path.IsName name) :
    hasExtension (withExtension name) = true := by
  rcases withExtension_cases name with ⟨hextension, hspelling⟩ | ⟨-, hspelling⟩
  · rw [hspelling]
    exact hextension
  · rw [hspelling, hasExtension_iff (isName_append h)]
    exact Path.extensionOf_append h.ne_nil (by decide)

/-- Only a name that has the extension already is its own packed spelling. -/
theorem withExtension_eq_self_iff : withExtension name = name ↔ hasExtension name = true := by
  rcases withExtension_cases name with ⟨hextension, hspelling⟩ | ⟨hnone, hspelling⟩
  · exact iff_of_true hspelling hextension
  · rw [hspelling, List.append_right_eq_self, hnone]
    exact iff_of_false (List.cons_ne_nil _ _) Bool.false_ne_true

/-- A packed spelling is its own packed spelling. -/
@[simp] theorem withExtension_withExtension (h : Path.IsName name) :
    withExtension (withExtension name) = withExtension name := by
  rw [withExtension_eq_self_iff]
  exact hasExtension_withExtension h

/-! ## Names with the same packed spelling -/

/-- A name without the extension has the same packed spelling when it is given the extension. -/
theorem withExtension_append (h : Path.IsName name) (hnone : hasExtension name = false) :
    withExtension (name ++ '.' :: libraryExtension) = withExtension name := by
  rcases withExtension_cases name with ⟨hextension, -⟩ | ⟨-, hspelling⟩
  · rw [hnone] at hextension
    cases hextension
  · rw [← hspelling]
    exact withExtension_withExtension h

/-- Names with the same packed spelling are equal, or one of them lacks the extension and the
other one is its packed spelling. -/
theorem eq_or_eq_append_of_withExtension_eq {other : List Char}
    (h : withExtension name = withExtension other) :
    name = other
    ∨ (hasExtension name = false ∧ other = name ++ '.' :: libraryExtension)
    ∨ (hasExtension other = false ∧ name = other ++ '.' :: libraryExtension) := by
  -- the two names can differ only if the extension was added to one of them alone
  rcases withExtension_cases name with ⟨hname, hspelling⟩ | ⟨hname, hspelling⟩
  · rcases withExtension_cases other with ⟨hother, hspelling'⟩ | ⟨hother, hspelling'⟩
    · rw [hspelling, hspelling'] at h
      exact Or.inl h
    · rw [hspelling, hspelling'] at h
      exact Or.inr (Or.inr ⟨hother, h⟩)
  · rcases withExtension_cases other with ⟨hother, hspelling'⟩ | ⟨hother, hspelling'⟩
    · rw [hspelling, hspelling'] at h
      exact Or.inr (Or.inl ⟨hname, h.symm⟩)
    · rw [hspelling, hspelling'] at h
      exact Or.inl (List.append_cancel_right h)

/-- Exactly which names have the same packed spelling. -/
theorem withExtension_eq_withExtension_iff {other : List Char} (hname : Path.IsName name)
    (hother : Path.IsName other) : withExtension name = withExtension other ↔
      name = other
      ∨ (hasExtension name = false ∧ other = name ++ '.' :: libraryExtension)
      ∨ (hasExtension other = false ∧ name = other ++ '.' :: libraryExtension) := by
  constructor
  · exact eq_or_eq_append_of_withExtension_eq
  · rintro (rfl | ⟨hnone, rfl⟩ | ⟨hnone, rfl⟩)
    · rfl
    · exact (withExtension_append hname hnone).symm
    · exact withExtension_append hother hnone

/-- **Packed spellings of names.**

* The packed spelling of a name is a name with the library extension, and its own packed
  spelling.
* A name is its own packed spelling exactly if it ends in the dot and the library extension and
  is longer than they are.
* Two names have the same packed spelling exactly if they are equal, or one of them lacks the
  extension and the other one is that name with the extension added. -/
theorem packedSpelling_of_name (name : List Char) (h : Path.IsName name) :
    Path.IsName (withExtension name)
    ∧ hasExtension (withExtension name) = true
    ∧ withExtension (withExtension name) = withExtension name
    ∧ (withExtension name = name ↔
      '.' :: libraryExtension <:+ name ∧ ('.' :: libraryExtension).length < name.length)
    ∧ ∀ other, Path.IsName other → (withExtension name = withExtension other ↔
      name = other
      ∨ (hasExtension name = false ∧ other = name ++ '.' :: libraryExtension)
      ∨ (hasExtension other = false ∧ name = other ++ '.' :: libraryExtension)) := by
  refine ⟨isName_withExtension h, hasExtension_withExtension h, withExtension_withExtension h, ?_,
    fun other hother => withExtension_eq_withExtension_iff h hother⟩
  rw [withExtension_eq_self_iff]
  exact hasExtension_iff_isSuffix h

/-- A hidden file that is named by the extension alone is given the extension once more. It
shares its packed spelling with the file named so, but not with one that has two dots. -/
theorem packedSpelling_of_hidden_name :
    Path.IsName ".mlib".toList ∧ Path.IsName ".mlib.mlib".toList ∧ Path.IsName "..mlib".toList
    ∧ withExtension ".mlib".toList ≠ ".mlib".toList
    ∧ withExtension "..mlib".toList = "..mlib".toList
    ∧ withExtension ".mlib".toList = withExtension ".mlib.mlib".toList
    ∧ withExtension ".mlib".toList ≠ withExtension "..mlib".toList := by
  have hhidden : Path.IsName ".mlib".toList := ⟨by decide, by decide, by decide⟩
  have htwice : Path.IsName ".mlib.mlib".toList := ⟨by decide, by decide, by decide⟩
  have hdots : Path.IsName "..mlib".toList := ⟨by decide, by decide, by decide⟩
  obtain ⟨-, -, -, hself, hsame⟩ := packedSpelling_of_name _ hhidden
  obtain ⟨-, -, -, hselfDots, -⟩ := packedSpelling_of_name _ hdots
  refine ⟨hhidden, htwice, hdots, fun heq => ?_, hselfDots.2 ⟨?_, by decide⟩, ?_, fun heq => ?_⟩
  · exact absurd (hself.1 heq).2 (by decide)
  · exact ⟨['.'], rfl⟩
  · exact (hsame _ htwice).2 (Or.inr (Or.inl ⟨by decide, by decide⟩))
  · rcases (hsame _ hdots).1 heq with hequal | ⟨-, hequal⟩ | ⟨-, hequal⟩
    · exact absurd hequal (by decide)
    · exact absurd hequal (by decide)
    · exact absurd hequal (by decide)

end Linkage
