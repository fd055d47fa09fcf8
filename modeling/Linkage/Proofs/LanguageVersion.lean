import Linkage.LanguageVersion
import Linkage.Proofs.Decimal.Spelling
import Linkage.Proofs.Text.Reading
import Mathlib.Data.Prod.Lex

set_option autoImplicit false

/-! # Versions and their order

There is no dot among the digits of a number, so the text of a version is divided where it
was put together, and reading it gives the version back (`LanguageVersion.ofString?_text`).

Versions are ordered as pairs of numbers, not as texts: 1.10 comes after 1.9. The order is a
total one, and a version is newer than another exactly if it is above it
(`LanguageVersion.newerThan_iff`). Different versions have different texts.
-/

namespace Linkage

/-! ## Versions -/

namespace LanguageVersion

theorem toList_text (v : LanguageVersion) :
    v.text.toList = Nat.toDigits 10 v.major.toNat ++ '.' :: Nat.toDigits 10 v.minor.toNat := by
  have hmajor : (toString v.major.toNat).toList = _ := Nat.toList_repr
  have hminor : (toString v.minor.toNat).toList = _ := Nat.toList_repr
  rw [text, String.toList_append, String.toList_append, hmajor, hminor, List.append_assoc]
  rfl

@[simp] theorem number?_toDigits (n : UInt32) : number? (Nat.toDigits 10 n.toNat) = some n := by
  rw [number?, Decimal.unsigned?_toDigits, Option.bind_some, if_pos n.toNat_lt]
  simp

/-- A version is read back from its text. -/
@[simp] theorem ofString?_text (v : LanguageVersion) : ofString? v.text = some v := by
  have hdot : '.' ∉ Nat.toDigits 10 v.major.toNat := (Decimal.isDigits_toDigits _).notMem rfl
  obtain ⟨htake, hdrop⟩ := Text.span_at hdot (Nat.toDigits 10 v.minor.toNat)
  rw [ofString?, toList_text, ofChars?, hdrop, htake]
  simp

/-! ## The order -/

variable {v w : LanguageVersion}

/-- The two numbers of a version, compared from left to right. -/
def key (v : LanguageVersion) : Nat ×ₗ Nat := toLex (v.major.toNat, v.minor.toNat)

theorem key_injective : Function.Injective key := by
  intro v w h
  have hnumbers : (v.major.toNat, v.minor.toNat) = (w.major.toNat, w.minor.toNat) :=
    toLex_inj.1 h
  obtain ⟨hmajor, hminor⟩ := Prod.mk.inj hnumbers
  cases v
  cases w
  rw [mk.injEq]
  exact ⟨UInt32.toNat_inj.1 hmajor, UInt32.toNat_inj.1 hminor⟩

instance : LinearOrder LanguageVersion := LinearOrder.lift' key key_injective

/-- The major numbers decide, and where they are the same the minor ones. -/
theorem lt_iff : v < w ↔ v.major.toNat < w.major.toNat
    ∨ v.major.toNat = w.major.toNat ∧ v.minor.toNat < w.minor.toNat :=
  Prod.Lex.toLex_lt_toLex

/-- To be newer is to be above. -/
theorem newerThan_iff : v.newerThan w = true ↔ w < v := by
  unfold newerThan LanguageVersion.compare
  rw [beq_iff_eq, Ordering.then_eq_gt, Nat.compare_eq_gt, Nat.compare_eq_eq, Nat.compare_eq_gt,
    lt_iff]
  constructor
  · rintro (hmajor | ⟨hmajor, hminor⟩)
    · exact Or.inl hmajor
    · exact Or.inr ⟨hmajor.symm, hminor⟩
  · rintro (hmajor | ⟨hmajor, hminor⟩)
    · exact Or.inl hmajor
    · exact Or.inr ⟨hmajor.symm, hminor⟩

example : (⟨1, 9⟩ : LanguageVersion) < ⟨1, 10⟩ := by decide

/-- A version is determined by its text. -/
theorem text_inj : v.text = w.text ↔ v = w := by
  constructor
  · intro h
    have hread : some v = some w := by
      rw [← ofString?_text v, h, ofString?_text]
    exact Option.some.inj hread
  · rintro rfl
    rfl

end LanguageVersion

end Linkage
