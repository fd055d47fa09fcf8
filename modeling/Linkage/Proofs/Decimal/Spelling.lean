import Linkage.Numerals
import Mathlib.Data.List.Basic

set_option autoImplicit false

/-! # Numbers and their spellings

A number has many spellings: there may be a plus sign and zeros in front of its digits.
`Decimal.Spells` says which texts these are, and they are the ones that are read as the
number (`unsigned?_eq_some_iff`). Just one of them is plain, without sign and needless zeros,
and that is the text the number is printed as (`isPlain_and_value_iff`).
-/

namespace Linkage.Decimal

/-! ## Digits -/

/-- A text consists of decimal digits, of which there is at least one. -/
def IsDigits (text : List Char) : Prop := text ≠ [] ∧ ∀ c ∈ text, c.isDigit = true

theorem isDigits_iff {text : List Char} :
    IsDigits text ↔ (text != [] && text.all Char.isDigit) = true := by
  rw [IsDigits, Bool.and_eq_true, bne_iff_ne, List.all_eq_true]

theorem isDigits_toDigits (n : Nat) : IsDigits (Nat.toDigits 10 n) :=
  ⟨Nat.toDigits_ne_nil, fun _ hc => Nat.isDigit_of_mem_toDigits (by omega) (by omega) hc⟩

theorem IsDigits.notMem {text : List Char} (h : IsDigits text) {c : Char}
    (hc : c.isDigit = false) : c ∉ text := by
  intro hmem
  rw [h.2 c hmem] at hc
  cases hc

theorem value_eq_ofDigitChars (digits : List Char) :
    value digits = Nat.ofDigitChars 10 digits 0 := by
  have hstep : (fun n c => n * 10 + digit c) = fun n c => 10 * n + (c.toNat - '0'.toNat) := by
    funext n c
    rw [Nat.mul_comm, digit]
  rw [value, hstep]
  rfl

theorem natural?_eq_some_iff {text : List Char} {n : Nat} :
    natural? text = some n ↔ IsDigits text ∧ Nat.ofDigitChars 10 text 0 = n := by
  rw [natural?, isDigits_iff, value_eq_ofDigitChars]
  split
  · next h => simp [h]
  · next h => simp [h]

/-! ## Spellings -/

/-- A text spells a number: digits with this value, with or without a plus sign in front. -/
def Spells (n : Nat) (text : List Char) : Prop :=
  ∃ digits, IsDigits digits ∧ Nat.ofDigitChars 10 digits 0 = n
    ∧ (text = digits ∨ text = '+' :: digits)

/-- The texts that are read as a number are those that spell it. -/
theorem unsigned?_eq_some_iff {text : List Char} {n : Nat} :
    unsigned? text = some n ↔ Spells n text := by
  unfold unsigned?
  split
  · next digits =>
      rw [natural?_eq_some_iff]
      constructor
      · rintro ⟨hdigits, hvalue⟩
        exact ⟨digits, hdigits, hvalue, Or.inr rfl⟩
      · rintro ⟨digits', hdigits, hvalue, rfl | htext⟩
        · exact absurd List.mem_cons_self (hdigits.notMem rfl)
        · cases htext
          exact ⟨hdigits, hvalue⟩
  · next hsign =>
      rw [natural?_eq_some_iff]
      constructor
      · rintro ⟨hdigits, hvalue⟩
        exact ⟨text, hdigits, hvalue, Or.inl rfl⟩
      · rintro ⟨digits, hdigits, hvalue, rfl | htext⟩
        · exact ⟨hdigits, hvalue⟩
        · exact absurd htext (hsign digits)

/-- A number is read back from its digits. -/
@[simp] theorem unsigned?_toDigits (n : Nat) : unsigned? (Nat.toDigits 10 n) = some n :=
  unsigned?_eq_some_iff.2 ⟨_, isDigits_toDigits n, Nat.ofDigitChars_ten_toDigits, Or.inl rfl⟩

/-- Digits spell their value and nothing else. -/
theorem Spells.value_eq {text : List Char} {n : Nat} (h : Spells n text) (hdigits : IsDigits text) :
    Nat.ofDigitChars 10 text 0 = n := by
  obtain ⟨digits, -, hvalue, rfl | rfl⟩ := h
  · exact hvalue
  · exact absurd List.mem_cons_self (hdigits.notMem rfl)

/-! ## Plain spellings -/

/-- A text consists of digits, and starts with a zero only if that is all of it. -/
def IsPlain (text : List Char) : Prop :=
  IsDigits text ∧ (text.head? = some '0' → text = ['0'])

theorem digitChar_of_isDigit {c : Char} (h : c.isDigit = true) :
    (c.toNat - '0'.toNat).digitChar = c ∧ c.toNat - '0'.toNat < 10 := by
  have hbounds : 48 ≤ c.toNat ∧ c.toNat ≤ 57 := by
    simpa [Char.isDigit, UInt32.le_iff_toNat_le] using h
  have hlt : c.toNat - '0'.toNat < 10 := by
    show c.toNat - 48 < 10
    omega
  refine ⟨Char.toNat_inj.1 ?_, hlt⟩
  rw [Nat.toNat_digitChar_of_lt_ten hlt]
  show 48 + (c.toNat - 48) = c.toNat
  omega

/-- Digits behind those of a positive number go on with the number. -/
theorem toDigits_append {text : List Char} (hdigits : ∀ c ∈ text, c.isDigit = true) {n : Nat}
    (hn : 0 < n) : Nat.toDigits 10 n ++ text = Nat.toDigits 10 (Nat.ofDigitChars 10 text n) := by
  induction text generalizing n with
  | nil => rw [List.append_nil, Nat.ofDigitChars_nil]
  | cons c rest ih =>
      obtain ⟨hc, hrest⟩ := List.forall_mem_cons.1 hdigits
      obtain ⟨hchar, hlt⟩ := digitChar_of_isDigit hc
      have hstep : Nat.toDigits 10 n ++ [c] = Nat.toDigits 10 (10 * n + (c.toNat - '0'.toNat)) := by
        rw [← Nat.toDigits_append_toDigits (by omega) hn hlt, Nat.toDigits_of_lt_base hlt, hchar]
      rw [List.append_cons, hstep, ih hrest (by omega), Nat.ofDigitChars_cons]

/-- A plain text is what its value is printed as. -/
theorem IsPlain.eq_toDigits {text : List Char} (h : IsPlain text) :
    text = Nat.toDigits 10 (Nat.ofDigitChars 10 text 0) := by
  obtain ⟨⟨hne, hdigits⟩, hzero⟩ := h
  cases text with
  | nil => exact absurd rfl hne
  | cons c rest =>
      obtain ⟨hc, hrest⟩ := List.forall_mem_cons.1 hdigits
      obtain ⟨hchar, hlt⟩ := digitChar_of_isDigit hc
      have hfirst : Nat.toDigits 10 (c.toNat - '0'.toNat) = [c] := by
        rw [Nat.toDigits_of_lt_base hlt, hchar]
      rw [Nat.ofDigitChars_cons, Nat.mul_zero, Nat.zero_add]
      rcases Nat.eq_zero_or_pos (c.toNat - '0'.toNat) with hd | hd
      · -- a zero in front is the whole text
        have hc0 : c = '0' := by
          rw [← hchar, hd]
          rfl
        have hall := hzero (congrArg some hc0)
        rw [List.cons.injEq] at hall
        rw [hall.2, Nat.ofDigitChars_nil, hfirst]
      · rw [← toDigits_append hrest hd, hfirst, List.singleton_append]

theorem isPlain_toDigits (n : Nat) : IsPlain (Nat.toDigits 10 n) := by
  refine ⟨isDigits_toDigits n, ?_⟩
  induction n using Nat.strongRecOn with
  | ind n ih =>
      rw [Nat.toDigits_eq_if (by omega)]
      split
      · intro hhead
        have hn : n = 0 := by simpa using hhead
        rw [hn]
        rfl
      · next hn =>
          intro hhead
          rw [List.head?_append_of_ne_nil _ Nat.toDigits_ne_nil] at hhead
          have hfront := ih (n / 10) (by omega) hhead
          -- the digits in front would have the value zero
          have hvalue : Nat.ofDigitChars 10 (Nat.toDigits 10 (n / 10)) 0 = n / 10 :=
            Nat.ofDigitChars_ten_toDigits
          rw [hfront] at hvalue
          have hzero : Nat.ofDigitChars 10 ['0'] 0 = 0 := rfl
          omega

/-- **Plain spellings are the printed ones.** -/
theorem isPlain_and_value_iff {text : List Char} {n : Nat} :
    IsPlain text ∧ Nat.ofDigitChars 10 text 0 = n ↔ text = Nat.toDigits 10 n := by
  constructor
  · rintro ⟨hplain, rfl⟩
    exact hplain.eq_toDigits
  · rintro rfl
    exact ⟨isPlain_toDigits n, Nat.ofDigitChars_ten_toDigits⟩

end Linkage.Decimal
