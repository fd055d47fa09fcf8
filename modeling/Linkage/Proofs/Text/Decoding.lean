import Linkage.Proofs.Text.Utf8
import Mathlib.Tactic.IntervalCases

set_option autoImplicit false

/-! # Decoding what was encoded

The decoder reads every character back from its bytes, whatever follows them
(`decodeFrom_encodeChar`). The cases are the lengths of the encoding: the leading byte puts
the decoder inside a character with the bits it has, and every further byte adds six bits.
The range for the first of these never excludes a byte of a character: below it would be a
character with a shorter encoding, above it a surrogate or nothing at all.
-/

namespace Linkage.Utf8

variable {done : List Char} {rest : Bytes}

/-! ## Leading bytes -/

theorem lead_two {n : Nat} (hlow : 2 ≤ n) (hhigh : n < 32) :
    lead (UInt8.ofNat (n + 192)) = some (.inside 1 0x80 0xBF 1 n) := by
  interval_cases n <;> rfl

theorem lead_three {n : Nat} (h : n < 16) :
    lead (UInt8.ofNat (n + 224))
      = some (.inside 2 (if n = 0 then 0xA0 else 0x80) (if n = 13 then 0x9F else 0xBF) 1 n) := by
  interval_cases n <;> rfl

theorem lead_four {n : Nat} (h : n ≤ 4) :
    lead (UInt8.ofNat (n + 240))
      = some (.inside 3 (if n = 0 then 0x90 else 0x80) (if n = 4 then 0x8F else 0xBF) 1 n) := by
  interval_cases n <;> rfl

/-! ## Steps of the decoder -/

theorem toNat_ofNat {n : Nat} (h : n < 256) : (UInt8.ofNat n).toNat = n :=
  UInt8.toNat_ofNat_of_lt h

theorem decodeFrom_ascii {n : Nat} (h : n < 128) :
    decodeFrom .ready done (UInt8.ofNat n :: rest)
      = decodeFrom .ready (Char.ofNat n :: done) rest := by
  have hn : (UInt8.ofNat n).toNat = n := toNat_ofNat (by omega)
  rw [decodeFrom, if_pos, hn]
  rw [UInt8.lt_iff_toNat_lt, hn]
  exact h

theorem decodeFrom_lead {n : Nat} {state : State} (hlow : 128 ≤ n) (hhigh : n < 256)
    (h : lead (UInt8.ofNat n) = some state) :
    decodeFrom .ready done (UInt8.ofNat n :: rest) = decodeFrom state done rest := by
  have hn : (UInt8.ofNat n).toNat = n := toNat_ofNat hhigh
  rw [decodeFrom, if_neg, h]
  rw [UInt8.lt_iff_toNat_lt, hn]
  exact Nat.not_lt.2 hlow

section Continuation

variable {low high : UInt8} {seen value bits : Nat}

/-- The last byte of a character completes it. -/
theorem decodeFrom_last (hbits : bits < 64) (hlow : low.toNat ≤ bits + 128)
    (hhigh : bits + 128 ≤ high.toNat) :
    decodeFrom (.inside 1 low high seen value) done (UInt8.ofNat (bits + 128) :: rest)
      = decodeFrom .ready (Char.ofNat (value * 64 + bits) :: done) rest := by
  have hb : (UInt8.ofNat (bits + 128)).toNat = bits + 128 := toNat_ofNat (by omega)
  rw [decodeFrom, if_pos, hb]
  · simp
  · rw [UInt8.le_iff_toNat_le, UInt8.le_iff_toNat_le, hb]
    exact ⟨hlow, hhigh⟩

/-- A byte before the last one adds its bits. -/
theorem decodeFrom_next {due : Nat} (hbits : bits < 64) (hlow : low.toNat ≤ bits + 128)
    (hhigh : bits + 128 ≤ high.toNat) :
    decodeFrom (.inside (due + 2) low high seen value) done (UInt8.ofNat (bits + 128) :: rest)
      = decodeFrom (.inside (due + 1) 0x80 0xBF (seen + 1) (value * 64 + bits)) done rest := by
  have hb : (UInt8.ofNat (bits + 128)).toNat = bits + 128 := toNat_ofNat (by omega)
  rw [decodeFrom, if_pos, hb]
  · simp
  · rw [UInt8.le_iff_toNat_le, UInt8.le_iff_toNat_le, hb]
    exact ⟨hlow, hhigh⟩

end Continuation

/-! ## Characters -/

/-- A character is no surrogate, and it is in the range of code points. -/
theorem toNat_cases (c : Char) : c.toNat < 0xD800 ∨ 0xDFFF < c.toNat ∧ c.toNat < 0x110000 := by
  rcases c.valid with h | ⟨hlow, hhigh⟩
  · exact Or.inl h
  · exact Or.inr ⟨hlow, hhigh⟩

/-- The decoder reads a character back from its bytes. -/
theorem decodeFrom_encodeChar (c : Char) :
    decodeFrom .ready done (String.utf8EncodeChar c ++ rest)
      = decodeFrom .ready (c :: done) rest := by
  have hvalid := toNat_cases c
  have hval : c.val.toNat = c.toNat := rfl
  have hc : Char.ofNat c.toNat = c := Char.ofNat_toNat c
  rw [String.utf8EncodeChar]
  simp only [hval]
  generalize c.toNat = v at *
  split_ifs with hone htwo hthree
  · rw [List.singleton_append, decodeFrom_ascii (by omega), hc]
  · have hlead : v / 64 % 32 = v / 64 := Nat.mod_eq_of_lt (by omega)
    have hv : v / 64 * 64 + v % 64 = v := Nat.div_add_mod' v 64
    simp only [List.cons_append, List.nil_append, hlead]
    rw [decodeFrom_lead (by omega) (by omega) (lead_two (by omega) (by omega)),
      decodeFrom_last (by omega), hv, hc]
    · simp
    · simp; omega
  · -- the second byte of three leaves out shorter encodings and surrogates
    have hlead : v / 4096 % 16 = v / 4096 := Nat.mod_eq_of_lt (by omega)
    have hv : (v / 4096 * 64 + v / 64 % 64) * 64 + v % 64 = v := by omega
    simp only [List.cons_append, List.nil_append, hlead]
    rw [decodeFrom_lead (by omega) (by omega) (lead_three (by omega)), decodeFrom_next (by omega),
      decodeFrom_last (by omega), hv, hc]
    · simp
    · simp; omega
    · split_ifs
      · simp; omega
      · simp
    · split_ifs
      · simp; omega
      · simp; omega
  · -- the second byte of four leaves out shorter encodings and what lies above the range
    have hlead : v / 262144 % 8 = v / 262144 := Nat.mod_eq_of_lt (by omega)
    have hv : ((v / 262144 * 64 + v / 4096 % 64) * 64 + v / 64 % 64) * 64 + v % 64 = v := by omega
    simp only [List.cons_append, List.nil_append, hlead]
    rw [decodeFrom_lead (by omega) (by omega) (lead_four (by omega)), decodeFrom_next (by omega),
      decodeFrom_next (by omega), decodeFrom_last (by omega), hv, hc]
    · simp
    · simp; omega
    · simp
    · simp; omega
    · split_ifs
      · simp; omega
      · simp
    · split_ifs
      · simp; omega
      · simp; omega

/-- **Decoding undoes encoding.** -/
@[simp] theorem decode_encode (text : List Char) : decode (encode text) = ⟨text, none⟩ := by
  have hfrom : ∀ done, decodeFrom .ready done (encode text) = ⟨done.reverse ++ text, none⟩ := by
    induction text with
    | nil =>
        intro done
        show decodeFrom .ready done [] = _
        rw [decodeFrom, List.append_nil]
    | cons c text ih =>
        intro done
        rw [encode_cons, decodeFrom_encodeChar, ih, List.reverse_cons, List.append_assoc]
        rfl
  exact hfrom []

end Linkage.Utf8
