import Linkage.Text.Utf8
import Mathlib.Data.List.Basic

set_option autoImplicit false

/-! # Characters and bytes

A text has at least as many bytes as characters, and as many only if all its characters are
ASCII (`length_encode_eq_iff`). Such a text is written byte by character
(`encode_of_isAscii`). Texts are determined by their bytes (`encode_inj`).
-/

namespace Linkage.Utf8

/-- Whether every character of a text is written as one byte. -/
def IsAscii (text : List Char) : Prop := ∀ c ∈ text, c.utf8Size = 1

instance (text : List Char) : Decidable (IsAscii text) :=
  decidable_of_iff ((text.all fun c => c.utf8Size == 1) = true) (by simp [IsAscii])

theorem isAscii_replicate {c : Char} (hc : c.utf8Size = 1) (n : Nat) :
    IsAscii (List.replicate n c) := by
  intro d hd
  rw [List.eq_of_mem_replicate hd, hc]

@[simp] theorem encode_nil : encode [] = [] := rfl

@[simp] theorem encode_cons (c : Char) (text : List Char) :
    encode (c :: text) = String.utf8EncodeChar c ++ encode text :=
  List.flatMap_cons

@[simp] theorem encode_append (first second : List Char) :
    encode (first ++ second) = encode first ++ encode second :=
  List.flatMap_append

theorem length_encode_cons (c : Char) (text : List Char) :
    (encode (c :: text)).length = c.utf8Size + (encode text).length := by
  rw [encode_cons, List.length_append, String.length_utf8EncodeChar]

theorem length_le_length_encode (text : List Char) : text.length ≤ (encode text).length := by
  induction text with
  | nil => exact Nat.le_refl 0
  | cons c rest ih =>
      have hc := c.utf8Size_pos
      rw [length_encode_cons, List.length_cons]
      omega

/-- With fewer characters a text has no more bytes. -/
theorem length_encode_le_of_sublist {text text' : List Char} (h : text.Sublist text') :
    (encode text).length ≤ (encode text').length := by
  induction h with
  | slnil => exact Nat.le_refl _
  | cons c _ ih =>
      rw [length_encode_cons]
      omega
  | cons_cons c _ ih =>
      rw [length_encode_cons, length_encode_cons]
      omega

theorem length_encode_eq_iff (text : List Char) :
    (encode text).length = text.length ↔ IsAscii text := by
  induction text with
  | nil => simp [IsAscii, encode]
  | cons c rest ih =>
      have hc := c.utf8Size_pos
      have hrest := length_le_length_encode rest
      rw [length_encode_cons, List.length_cons, IsAscii, List.forall_mem_cons]
      constructor
      · intro h
        exact ⟨by omega, ih.1 (by omega)⟩
      · rintro ⟨hone, hascii⟩
        rw [hone, ih.2 hascii]
        omega

theorem encode_of_isAscii {text : List Char} (h : IsAscii text) :
    encode text = text.map fun c => c.val.toUInt8 := by
  induction text with
  | nil => rfl
  | cons c rest ih =>
      obtain ⟨hc, hrest⟩ := List.forall_mem_cons.1 h
      rw [encode_cons, String.utf8EncodeChar_eq_singleton hc, ih hrest]
      rfl

/-- The byte of an ASCII character is its code point. -/
theorem toNat_toUInt8_of_utf8Size_eq_one {c : Char} (h : c.utf8Size = 1) :
    c.val.toUInt8.toNat = c.toNat := by
  have hle : c.val.toNat ≤ 127 := UInt32.le_iff_toNat_le.1 (Char.utf8Size_eq_one_iff.1 h)
  rw [UInt32.toNat_toUInt8]
  exact Nat.mod_eq_of_lt (by omega)

theorem encode_replicate_space (n : Nat) :
    encode (List.replicate n ' ') = List.replicate n 0x20 := by
  rw [encode_of_isAscii (isAscii_replicate rfl n), List.map_replicate]
  rfl

/-- ASCII characters have different bytes. -/
theorem toUInt8_inj {c d : Char} (hc : c.utf8Size = 1) (hd : d.utf8Size = 1) :
    c.val.toUInt8 = d.val.toUInt8 ↔ c = d := by
  constructor
  · intro h
    have htoNat : c.toNat = d.toNat := by
      rw [← toNat_toUInt8_of_utf8Size_eq_one hc, h, toNat_toUInt8_of_utf8Size_eq_one hd]
    exact Char.ext (UInt32.toNat_inj.1 htoNat)
  · rintro rfl
    rfl

/-- A text has a byte of an ASCII character only where it has the character. -/
theorem mem_of_mem_encode {text : List Char} (h : IsAscii text) {d : Char} (hd : d.utf8Size = 1)
    (hmem : d.val.toUInt8 ∈ encode text) : d ∈ text := by
  rw [encode_of_isAscii h] at hmem
  obtain ⟨c, hc, hcd⟩ := List.mem_map.1 hmem
  rwa [← (toUInt8_inj (h c hc) hd).1 hcd]

/-- Different texts have different bytes. -/
theorem encode_inj {first second : List Char} : encode first = encode second ↔ first = second := by
  constructor
  · intro h
    have hbytes : (String.ofList first).toByteArray = (String.ofList second).toByteArray := by
      rw [String.toByteArray_ofList, String.toByteArray_ofList]
      exact congrArg List.toByteArray h
    have htext := congrArg String.toList (String.toByteArray_inj.1 hbytes)
    rwa [String.toList_ofList, String.toList_ofList] at htext
  · rintro rfl
    rfl

end Linkage.Utf8
