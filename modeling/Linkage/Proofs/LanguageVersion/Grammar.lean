import Linkage.Proofs.LanguageVersion
import Mathlib.Data.List.TakeWhile

set_option autoImplicit false

/-! # The texts of versions

A version may be spelled with plus signs and zeros in front of its numbers
(`LanguageVersion.Spells`). The texts that spell numbers of 32 bits are those that are read
(`ofString?_eq_some_iff`), and one of them is canonical: the text that the version is printed
as (`isCanonical_and_ofString?_iff`). So versions are compared by their canonical texts.
-/

namespace Linkage.LanguageVersion

variable {v w : LanguageVersion}

/-- A text spells two numbers with a dot between them, the first dot that there is. -/
def Spells (major minor : Nat) (text : List Char) : Prop :=
  ∃ first second, text = first ++ '.' :: second ∧ '.' ∉ first
    ∧ Decimal.Spells major first ∧ Decimal.Spells minor second

/-- A text has two plain numbers, without signs and needless zeros, with a dot between them. -/
def IsCanonical (text : List Char) : Prop :=
  ∃ first second, text = first ++ '.' :: second ∧ Decimal.IsPlain first ∧ Decimal.IsPlain second

/-! ## Reading -/

/-- A number is read if it fits 32 bits. -/
theorem number?_eq_some_iff {part : List Char} {n : UInt32} :
    number? part = some n ↔ Decimal.Spells n.toNat part := by
  rw [number?, Option.bind_eq_some_iff]
  constructor
  · rintro ⟨m, hm, h⟩
    split at h
    · next hlt =>
        cases h
        rw [UInt32.toNat_ofNat_of_lt' hlt]
        exact Decimal.unsigned?_eq_some_iff.1 hm
    · cases h
  · intro h
    refine ⟨n.toNat, Decimal.unsigned?_eq_some_iff.2 h, ?_⟩
    rw [if_pos n.toNat_lt, UInt32.ofNat_toNat]

/-- A text with a dot is divided at its first dot. -/
theorem ofChars?_append {first second : List Char} (h : '.' ∉ first) :
    ofChars? (first ++ '.' :: second)
      = (number? first).bind fun major => (number? second).map fun minor => ⟨major, minor⟩ := by
  obtain ⟨htake, hdrop⟩ := Text.span_at h second
  rw [ofChars?, hdrop, htake]
  show (number? first >>= fun major => number? second >>= fun minor => some (mk major minor)) = _
  cases number? first with
  | none => rfl
  | some major =>
      cases number? second with
      | none => rfl
      | some minor => rfl

theorem ofChars?_of_notMem {text : List Char} (h : '.' ∉ text) : ofChars? text = none := by
  have hdrop : text.dropWhile (· != '.') = [] := by
    rw [List.dropWhile_eq_nil_iff]
    intro c hc
    rw [bne_iff_ne]
    rintro rfl
    exact h hc
  rw [ofChars?, hdrop]

/-- The texts that are read as a version are those that spell it. -/
theorem ofString?_eq_some_iff {s : String} :
    ofString? s = some v ↔ Spells v.major.toNat v.minor.toNat s.toList := by
  rw [ofString?]
  by_cases hdot : '.' ∈ s.toList
  · obtain ⟨first, second, htext, hfirst⟩ := List.eq_append_cons_of_mem hdot
    rw [htext, ofChars?_append hfirst, Option.bind_eq_some_iff]
    constructor
    · rintro ⟨major, hmajor, h⟩
      obtain ⟨minor, hminor, rfl⟩ := Option.map_eq_some_iff.1 h
      exact ⟨first, second, rfl, hfirst, number?_eq_some_iff.1 hmajor,
        number?_eq_some_iff.1 hminor⟩
    · rintro ⟨first', second', hsame, hfirst', hmajor, hminor⟩
      obtain ⟨rfl, rfl⟩ := Text.append_cons_inj hfirst hfirst' hsame
      exact ⟨v.major, number?_eq_some_iff.2 hmajor, by rw [number?_eq_some_iff.2 hminor]; rfl⟩
  · rw [ofChars?_of_notMem hdot]
    constructor
    · intro h
      cases h
    · rintro ⟨first, second, htext, -⟩
      rw [htext] at hdot
      exact absurd (List.mem_append_right _ List.mem_cons_self) hdot

/-- A text is refused if it does not spell two numbers of 32 bits. -/
theorem ofString?_eq_none_iff {s : String} :
    ofString? s = none ↔ ∀ major minor, Spells major minor s.toList →
      4294967295 < major ∨ 4294967295 < minor := by
  constructor
  · intro h major minor hspells
    by_contra hsmall
    rw [not_or, Nat.not_lt, Nat.not_lt] at hsmall
    have hmajor : (UInt32.ofNat major).toNat = major :=
      UInt32.toNat_ofNat_of_lt' (Nat.lt_succ_of_le hsmall.1)
    have hminor : (UInt32.ofNat minor).toNat = minor :=
      UInt32.toNat_ofNat_of_lt' (Nat.lt_succ_of_le hsmall.2)
    have hread : ofString? s = some ⟨UInt32.ofNat major, UInt32.ofNat minor⟩ := by
      rw [ofString?_eq_some_iff, hmajor, hminor]
      exact hspells
    rw [h] at hread
    cases hread
  · intro h
    cases hread : ofString? s with
    | none => rfl
    | some v =>
        have hmajor := v.major.toNat_lt
        have hminor := v.minor.toNat_lt
        have hlarge := h _ _ (ofString?_eq_some_iff.1 hread)
        omega

/-! ## Canonical texts -/

/-- A canonical text spells the version that it is printed from, and it is the only one. -/
theorem isCanonical_and_ofString?_iff {s : String} :
    IsCanonical s.toList ∧ ofString? s = some v ↔ s = v.text := by
  constructor
  · rintro ⟨⟨first, second, htext, hfirst, hsecond⟩, hread⟩
    obtain ⟨first', second', hsame, hdot', hmajor, hminor⟩ := ofString?_eq_some_iff.1 hread
    have hdot : '.' ∉ first := hfirst.1.notMem rfl
    obtain ⟨rfl, rfl⟩ := Text.append_cons_inj hdot hdot' (htext.symm.trans hsame)
    have hfirst := (Decimal.isPlain_and_value_iff).1 ⟨hfirst, hmajor.value_eq hfirst.1⟩
    have hsecond := (Decimal.isPlain_and_value_iff).1 ⟨hsecond, hminor.value_eq hsecond.1⟩
    refine String.toList_inj.1 ?_
    rw [htext, toList_text, hfirst, hsecond]
  · rintro rfl
    refine ⟨⟨_, _, toList_text v, ?_, ?_⟩, ofString?_text v⟩
    · exact Decimal.isPlain_toDigits _
    · exact Decimal.isPlain_toDigits _

/-- Versions compare as equal if they are. -/
theorem compare_eq_iff : compare v w = .eq ↔ v = w := by
  rw [compare, Ordering.then_eq_eq, Nat.compare_eq_eq, Nat.compare_eq_eq, UInt32.toNat_inj,
    UInt32.toNat_inj]
  cases v
  cases w
  rw [mk.injEq]

/-- **The texts of versions.** A text is read as a version exactly if it is two numbers of at
most 4294967295 with a dot between them, the first dot there is, each an optional plus sign
and digits. The text of a version is the only text of it without signs and needless zeros. So
two texts that are read compare as equal exactly if their canonical texts are the same. -/
theorem grammar_and_normal_form :
    (∀ s v, ofString? s = some v ↔ Spells v.major.toNat v.minor.toNat s.toList)
    ∧ (∀ s, ofString? s = none ↔ ∀ major minor, Spells major minor s.toList →
        4294967295 < major ∨ 4294967295 < minor)
    ∧ (∀ v, ofString? v.text = some v)
    ∧ (∀ s v, IsCanonical s.toList ∧ ofString? s = some v ↔ s = v.text)
    ∧ ∀ s t v w, ofString? s = some v → ofString? t = some w →
        (compare v w = .eq ↔ v.text = w.text) := by
  refine ⟨fun _ _ => ofString?_eq_some_iff, fun _ => ofString?_eq_none_iff, ofString?_text,
    fun _ _ => isCanonical_and_ofString?_iff, fun _ _ v w _ _ => ?_⟩
  rw [compare_eq_iff, text_inj]

theorem grammar_and_normal_form_padded :
    ofString? "+01.002" = some ⟨1, 2⟩ ∧ ofString? "1.2" = some ⟨1, 2⟩
    ∧ Spells 1 2 "+01.002".toList ∧ IsCanonical "1.2".toList
    ∧ (compare ⟨1, 2⟩ ⟨1, 2⟩ = .eq ↔ text ⟨1, 2⟩ = text ⟨1, 2⟩) := by
  obtain ⟨hspells, -, -, hcanonical, hcompare⟩ := grammar_and_normal_form
  have hpadded : ofString? "+01.002" = some ⟨1, 2⟩ := by decide
  have hplain : ofString? "1.2" = some ⟨1, 2⟩ := by decide
  exact ⟨hpadded, hplain, (hspells _ _).1 hpadded, ((hcanonical "1.2" ⟨1, 2⟩).2 (by decide)).1,
    hcompare _ _ _ _ hpadded hplain⟩

end Linkage.LanguageVersion
