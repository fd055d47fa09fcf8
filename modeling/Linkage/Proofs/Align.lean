import Linkage.Align
import Mathlib.Data.Nat.Init

set_option autoImplicit false

/-! # Rounding up to a multiple

The next multiple of an alignment at or above an address is a matter of numbers
(`IsNextMultiple`): there is just one, and it is less than an alignment away. Words come to it
by going to the last address before the multiple that follows, and clearing the low bits there.
The other bits make up a multiple (`toNat_clear_low`), so where rounding up has an answer, the
answer is the next multiple (`alignUp?_eq_some_iff`).

An alignment divides the number of words, so the next multiple is a word exactly if the
address and the alignment come to at most that number (`IsNextMultiple.lt_iff_of_dvd`).
Rounding up needs their sum to be a word itself (`exists_alignUp?_iff`), which it is not at the
last multiple.
-/

namespace Linkage

/-! ## The next multiple -/

/-- The least multiple of an alignment that is not below an address. -/
structure IsNextMultiple (align addr result : Nat) : Prop where
  dvd : align ∣ result
  le : addr ≤ result
  least : ∀ other, align ∣ other → addr ≤ other → result ≤ other

namespace IsNextMultiple

variable {align addr addr' result result' : Nat}

theorem unique (h : IsNextMultiple align addr result) (h' : IsNextMultiple align addr result') :
    result = result' :=
  Nat.le_antisymm (h.least _ h'.dvd h'.le) (h'.least _ h.dvd h.le)

/-- A multiple is its own next multiple. -/
theorem of_dvd (h : align ∣ addr) : IsNextMultiple align addr addr :=
  ⟨h, Nat.le_refl addr, fun _ _ hle => hle⟩

/-- A higher address has no lower next multiple. -/
theorem mono (h : IsNextMultiple align addr result) (h' : IsNextMultiple align addr' result')
    (hle : addr ≤ addr') : result ≤ result' :=
  h.least _ h'.dvd (Nat.le_trans hle h'.le)

/-- The multiple is the last one up to the address before the multiple that follows it. -/
theorem of_div_mul (halign : 0 < align) (addr : Nat) :
    IsNextMultiple align addr ((addr + align - 1) / align * align) where
  dvd := Nat.dvd_mul_left align _
  le := by
    have hsplit := Nat.div_add_mod' (addr + align - 1) align
    have hmod : (addr + align - 1) % align < align := Nat.mod_lt _ halign
    omega
  least other hother hle := by
    obtain ⟨count, rfl⟩ := hother
    have hnext : align * (count + 1) = align * count + align := Nat.mul_succ align count
    have hcount : (addr + align - 1) / align < count + 1 := by
      apply Nat.div_lt_of_lt_mul
      omega
    calc (addr + align - 1) / align * align
        ≤ count * align := Nat.mul_le_mul_right align (Nat.le_of_lt_succ hcount)
      _ = align * count := Nat.mul_comm count align

theorem lt_add (halign : 0 < align) (h : IsNextMultiple align addr result) :
    result < addr + align := by
  have hsplit := Nat.div_add_mod' (addr + align - 1) align
  rw [h.unique (of_div_mul halign addr)]
  omega

/-- Below a common multiple of alignments there is room for one more of each. -/
theorem lt_iff_of_dvd {size : Nat} (halign : 0 < align) (hsize : align ∣ size)
    (h : IsNextMultiple align addr result) : result < size ↔ addr + align ≤ size := by
  constructor
  · intro hlt
    have hroom : align ≤ size - result := Nat.le_of_dvd (by omega) (Nat.dvd_sub hsize h.dvd)
    have hle := h.le
    omega
  · intro hle
    have hlt := h.lt_add halign
    omega

end IsNextMultiple

/-! ## Alignments -/

variable {addr align r : UInt64}

theorem isPowerOfTwo_iff : isPowerOfTwo align = true ↔ align.toNat.isPowerOfTwo := by
  rw [isPowerOfTwo, List.any_eq_true]
  constructor
  · rintro ⟨k, -, hk⟩
    exact ⟨k, eq_of_beq hk⟩
  · rintro ⟨k, hk⟩
    -- a word is less than the first power that is none
    have hlt : Nat.pow 2 k < Nat.pow 2 64 := by
      have hsize := align.toNat_lt_size
      rw [hk] at hsize
      exact hsize
    refine ⟨k, ?_, beq_iff_eq.2 hk⟩
    exact List.mem_range.2 ((Nat.pow_lt_pow_iff_right (by omega)).1 hlt)

/-- An alignment divides the number of words. -/
theorem dvd_size_of_isPowerOfTwo (halign : align.toNat.isPowerOfTwo) :
    align.toNat ∣ UInt64.size := by
  obtain ⟨k, hk, hpower⟩ := List.any_eq_true.1 (isPowerOfTwo_iff.2 halign)
  rw [eq_of_beq hpower]
  exact Nat.pow_dvd_pow 2 (Nat.le_of_lt (List.mem_range.1 hk))

/-! ## Clearing low bits -/

theorem toNat_sub_one (hpos : 0 < align.toNat) : (align - 1).toNat = align.toNat - 1 :=
  UInt64.toNat_sub_of_le align 1 (UInt64.le_iff_toNat_le.2 hpos)

/-- A word is made up of its bits inside a mask and those outside. -/
theorem and_not_add_and (word mask : UInt64) : (word &&& ~~~mask) + (word &&& mask) = word := by
  have hdisjoint : word.toBitVec &&& ~~~mask.toBitVec &&& (word.toBitVec &&& mask.toBitVec)
      = 0#64 :=
    calc word.toBitVec &&& ~~~mask.toBitVec &&& (word.toBitVec &&& mask.toBitVec)
        = word.toBitVec &&& (mask.toBitVec &&& ~~~mask.toBitVec) := by ac_nf
      _ = word.toBitVec &&& 0#64 := by rw [BitVec.and_not_self]; rfl
      _ = 0#64 := BitVec.and_zero
  rw [← UInt64.toBitVec_inj, UInt64.toBitVec_add, UInt64.toBitVec_and, UInt64.toBitVec_and,
    UInt64.toBitVec_not, BitVec.add_eq_or_of_and_eq_zero _ _ hdisjoint,
    ← BitVec.and_or_distrib_left, BitVec.not_or_self, BitVec.and_allOnes]

/-- Clearing the bits below a power of two leaves the multiple of it that the others make up. -/
theorem toNat_clear_low (word : UInt64) (halign : align.toNat.isPowerOfTwo) :
    (word &&& ~~~(align - 1)).toNat = word.toNat / align.toNat * align.toNat := by
  have hlow : (word &&& (align - 1)).toNat = word.toNat % align.toNat := by
    rw [UInt64.toNat_and, toNat_sub_one (Nat.pos_of_isPowerOfTwo halign)]
    obtain ⟨k, hk⟩ := halign
    rw [hk]
    exact Nat.and_two_pow_sub_one_eq_mod word.toNat k
  have hle : word &&& (align - 1) ≤ word := by
    rw [UInt64.le_iff_toNat_le, hlow]
    exact Nat.mod_le _ _
  -- clearing bits is taking them away, since no borrow reaches the others
  have hclear : word &&& ~~~(align - 1) = word - (word &&& (align - 1)) := by
    rw [← UInt64.add_sub_cancel (word &&& ~~~(align - 1)) (word &&& (align - 1)),
      and_not_add_and]
  rw [hclear, UInt64.toNat_sub_of_le _ _ hle, hlow, Nat.div_mul_self_eq_mod_sub_self]

/-! ## Rounding up -/

theorem toNat_add_sub_one (hpos : 0 < align.toNat)
    (hsum : addr.toNat + align.toNat < UInt64.size) :
    (addr + align - 1).toNat = addr.toNat + align.toNat - 1 := by
  have hadd : (addr + align).toNat = addr.toNat + align.toNat := by
    rw [UInt64.toNat_add]
    exact Nat.mod_eq_of_lt hsum
  have hone : (1 : UInt64) ≤ addr + align := by
    rw [UInt64.le_iff_toNat_le, hadd]
    show 1 ≤ _
    omega
  rw [UInt64.toNat_sub_of_le _ _ hone, hadd]
  rfl

/-- Rounding up answers with the next multiple, if the alignment is a power of two and
the sum of address and alignment is a word. -/
theorem alignUp?_eq_some_iff : alignUp? addr align = some r ↔
    align.toNat.isPowerOfTwo ∧ addr.toNat + align.toNat < UInt64.size
      ∧ IsNextMultiple align.toNat addr.toNat r.toNat := by
  unfold alignUp?
  by_cases hcheck : align.toNat.isPowerOfTwo ∧ addr.toNat + align.toNat < UInt64.size
  · obtain ⟨halign, hsum⟩ := hcheck
    have hpos : 0 < align.toNat := Nat.pos_of_isPowerOfTwo halign
    have hresult : IsNextMultiple align.toNat addr.toNat
        ((addr + align - 1) &&& ~~~(align - 1)).toNat := by
      rw [toNat_clear_low _ halign, toNat_add_sub_one hpos hsum]
      exact IsNextMultiple.of_div_mul hpos addr.toNat
    rw [if_pos (by simp [isPowerOfTwo_iff.2 halign, hsum]), Option.some.injEq]
    constructor
    · rintro rfl
      exact ⟨halign, hsum, hresult⟩
    · rintro ⟨-, -, hr⟩
      exact UInt64.toNat_inj.1 (hresult.unique hr)
  · rw [if_neg (by rwa [Bool.and_eq_true, isPowerOfTwo_iff, decide_eq_true_iff])]
    constructor
    · intro h
      cases h
    · rintro ⟨halign, hsum, -⟩
      exact absurd ⟨halign, hsum⟩ hcheck

/-- A buffer is filled up to the next multiple of an alignment. -/
theorem fillUp?_of_isNextMultiple {next : Nat} {buffer : Bytes} (halign : align.toNat.isPowerOfTwo)
    (hroom : buffer.length + align.toNat < UInt64.size)
    (hnext : IsNextMultiple align.toNat buffer.length next) (filling : UInt8) :
    fillUp? align filling buffer
      = some (buffer ++ List.replicate (next - buffer.length) filling) := by
  have hlt := hnext.lt_add (Nat.pos_of_isPowerOfTwo halign)
  have hword : (UInt64.ofNat buffer.length).toNat = buffer.length :=
    UInt64.toNat_ofNat_of_lt' (by omega)
  have hword' : (UInt64.ofNat next).toNat = next := UInt64.toNat_ofNat_of_lt' (by omega)
  have halignUp : alignUp? (UInt64.ofNat buffer.length) align = some (UInt64.ofNat next) := by
    rw [alignUp?_eq_some_iff, hword, hword']
    exact ⟨halign, hroom, hnext⟩
  rw [fillUp?, halignUp, Option.map_some, hword']

theorem exists_alignUp?_iff : (∃ r, alignUp? addr align = some r) ↔
    align.toNat.isPowerOfTwo ∧ addr.toNat + align.toNat < UInt64.size := by
  constructor
  · rintro ⟨r, hr⟩
    obtain ⟨halign, hsum, -⟩ := alignUp?_eq_some_iff.1 hr
    exact ⟨halign, hsum⟩
  · rintro ⟨halign, hsum⟩
    have hpos : 0 < align.toNat := Nat.pos_of_isPowerOfTwo halign
    obtain ⟨least, hleast⟩ : ∃ least, IsNextMultiple align.toNat addr.toNat least :=
      ⟨_, .of_div_mul hpos _⟩
    have hlt : least < UInt64.size := Nat.lt_trans (hleast.lt_add hpos) hsum
    refine ⟨UInt64.ofNat least, alignUp?_eq_some_iff.2 ⟨halign, hsum, ?_⟩⟩
    rwa [UInt64.toNat_ofNat_of_lt' hlt]

theorem alignUp?_eq_none_iff : alignUp? addr align = none ↔
    (align.toNat.isPowerOfTwo → UInt64.size ≤ addr.toNat + align.toNat) := by
  rw [← Option.not_isSome_iff_eq_none, Option.isSome_iff_exists, exists_alignUp?_iff, not_and,
    Nat.not_lt]

/-- **Rounding up gives the next multiple** of a power of two, whenever the sum of address and
alignment is a word, and has no answer otherwise. To round an answer up once more gives the same
answer, under the same condition on the sum. A higher address has no lower answer, and a multiple
is its own answer. To a number that is no power of two nothing is rounded up. -/
theorem rounds_to_next_multiple (align : UInt64) :
    (align.toNat.isPowerOfTwo →
      (∀ addr, (∃ r, alignUp? addr align = some r) ↔ addr.toNat + align.toNat < UInt64.size)
      ∧ ∀ addr r, alignUp? addr align = some r →
        IsNextMultiple align.toNat addr.toNat r.toNat
        ∧ (∀ r', alignUp? r align = some r' ↔ r' = r ∧ r.toNat + align.toNat < UInt64.size)
        ∧ (∀ addr' r', addr ≤ addr' → alignUp? addr' align = some r' → r ≤ r')
        ∧ (align.toNat ∣ addr.toNat → r = addr))
    ∧ (¬align.toNat.isPowerOfTwo → ∀ addr, alignUp? addr align = none) := by
  refine ⟨fun halign => ⟨fun addr => ?_, fun addr r hr => ?_⟩, fun halign addr => ?_⟩
  · rw [exists_alignUp?_iff]
    exact and_iff_right halign
  · obtain ⟨-, -, hnext⟩ := alignUp?_eq_some_iff.1 hr
    refine ⟨hnext, fun r' => ?_, fun addr' r' hle hr' => ?_, fun hdvd => ?_⟩
    · rw [alignUp?_eq_some_iff]
      constructor
      · rintro ⟨-, hsum, hagain⟩
        exact ⟨UInt64.toNat_inj.1 (hagain.unique (.of_dvd hnext.dvd)), hsum⟩
      · rintro ⟨rfl, hsum⟩
        exact ⟨halign, hsum, .of_dvd hnext.dvd⟩
    · obtain ⟨-, -, hnext'⟩ := alignUp?_eq_some_iff.1 hr'
      exact UInt64.le_iff_toNat_le.2 (hnext.mono hnext' (UInt64.le_iff_toNat_le.1 hle))
    · exact UInt64.toNat_inj.1 (hnext.unique (.of_dvd hdvd))
  · exact alignUp?_eq_none_iff.2 fun h => absurd h halign

/-- An address near the last one, with an alignment and with a number that is none. -/
theorem rounds_to_next_multiple_eight :
    (8 : UInt64).toNat.isPowerOfTwo ∧ ¬(6 : UInt64).toNat.isPowerOfTwo
    ∧ alignUp? 18446744073709551599 8 = some 18446744073709551600
    ∧ IsNextMultiple 8 18446744073709551599 18446744073709551600
    ∧ alignUp? 18446744073709551600 8 = some 18446744073709551600
    ∧ alignUp? 18446744073709551599 6 = none := by
  have height : (8 : UInt64).toNat.isPowerOfTwo := ⟨3, rfl⟩
  have hsix : ¬(6 : UInt64).toNat.isPowerOfTwo := by
    rw [← isPowerOfTwo_iff]
    decide
  obtain ⟨hanswers, hrounds⟩ := (rounds_to_next_multiple 8).1 height
  obtain ⟨r, hr⟩ := (hanswers 18446744073709551599).2 (by decide)
  have hnext : IsNextMultiple 8 18446744073709551599 18446744073709551600 := ⟨by decide, by decide,
    fun other hdvd hle => by omega⟩
  obtain ⟨hmultiple, hagain, -, -⟩ := hrounds _ r hr
  obtain rfl : r = 18446744073709551600 := UInt64.toNat_inj.1 (hmultiple.unique hnext)
  have hsecond := (hagain _).2 ⟨rfl, by decide⟩
  exact ⟨height, hsix, hr, hnext, hsecond, (rounds_to_next_multiple 6).2 hsix _⟩

/-- **Where rounding up falls short.** If the next multiple is a word, it is the answer, unless
the address and the alignment come to the number of words exactly. Then the address is the last
multiple of all, and there is no answer though it is its own next multiple. -/
theorem answer_of_fits (addr align next : UInt64) (halign : align.toNat.isPowerOfTwo)
    (hnext : IsNextMultiple align.toNat addr.toNat next.toNat) :
    alignUp? addr align
      = (if addr.toNat + align.toNat = UInt64.size then none else some next)
    ∧ (addr.toNat + align.toNat = UInt64.size → next = addr) := by
  have hpos : 0 < align.toNat := Nat.pos_of_isPowerOfTwo halign
  have hsize := dvd_size_of_isPowerOfTwo halign
  have hle : addr.toNat + align.toNat ≤ UInt64.size :=
    (hnext.lt_iff_of_dvd hpos hsize).1 next.toNat_lt_size
  constructor
  · by_cases hlast : addr.toNat + align.toNat = UInt64.size
    · rw [if_pos hlast]
      exact alignUp?_eq_none_iff.2 fun _ => Nat.le_of_eq hlast.symm
    · rw [if_neg hlast]
      exact alignUp?_eq_some_iff.2 ⟨halign, Nat.lt_of_le_of_ne hle hlast, hnext⟩
  · intro hlast
    have hdvd : align.toNat ∣ addr.toNat := by
      rw [← Nat.dvd_add_self_right, hlast]
      exact hsize
    exact UInt64.toNat_inj.1 (hnext.unique (.of_dvd hdvd))

/-- The last multiple of 8 has no answer. -/
theorem no_answer_at_last_multiple :
    (8 : UInt64).toNat.isPowerOfTwo
    ∧ IsNextMultiple 8 18446744073709551608 18446744073709551608
    ∧ 18446744073709551608 < UInt64.size
    ∧ alignUp? 18446744073709551608 8 = none := by
  exact ⟨⟨3, rfl⟩, .of_dvd (by decide), by decide, rfl⟩

/-- Just below the last multiple of 8 rounding up has an answer; at the last one it has none. -/
theorem answer_of_fits_eight :
    (8 : UInt64).toNat.isPowerOfTwo
    ∧ IsNextMultiple 8 18446744073709551607 18446744073709551608
    ∧ alignUp? 18446744073709551607 8 = some 18446744073709551608
    ∧ alignUp? 18446744073709551608 8 = none := by
  have height : (8 : UInt64).toNat.isPowerOfTwo := ⟨3, rfl⟩
  have hnext : IsNextMultiple 8 18446744073709551607 18446744073709551608 := ⟨by decide, by decide,
    fun other hdvd hle => by omega⟩
  have hlast : IsNextMultiple 8 18446744073709551608 18446744073709551608 := .of_dvd (by decide)
  obtain ⟨hanswer, -⟩ := answer_of_fits 18446744073709551607 8 18446744073709551608 height hnext
  obtain ⟨hnone, -⟩ := answer_of_fits 18446744073709551608 8 18446744073709551608 height hlast
  exact ⟨height, hnext, hanswer, hnone⟩

end Linkage
