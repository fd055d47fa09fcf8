import Linkage.Archive.Reader
import Linkage.Archive.Writer
import Linkage.Proofs.Text.Reading
import Linkage.Proofs.Text.Utf8

set_option autoImplicit false

/-! # Headers

A header that the writer makes is four parts one after the other: the name field, fields
that do not depend on the entry, the size field and the terminator (`header_eq`). It has its
60 bytes exactly if the name is ASCII and the size has at most ten digits
(`length_header_eq_iff`), and then the reader finds the parts where it looks for them, the
size among them (`number?_sizeField`).
-/

namespace Linkage.Archive

open Utf8 (IsAscii)

/-! ## Fields -/

/-- The name field of an entry. -/
def nameField (name : String) : Bytes := Utf8.encode (field 16 (name ++ "/"))

/-- The fields that are equal in all headers. -/
def fixedFields : Bytes :=
  Utf8.encode (field 12 "0") ++ Utf8.encode (field 6 "0") ++ Utf8.encode (field 6 "0")
    ++ Utf8.encode (field 8 "644")

/-- The size field of an entry. -/
def sizeField (size : Nat) : Bytes := Utf8.encode (field 10 (toString size))

theorem header_eq (name : String) (size : Nat) :
    header name size = nameField name ++ (fixedFields ++ (sizeField size ++ terminator)) := by
  simp [header, nameField, fixedFields, sizeField]

theorem length_fixedFields : fixedFields.length = 32 := by decide +kernel

/-- A field is its text and spaces. -/
theorem encode_field (width : Nat) (text : String) :
    Utf8.encode (field width text)
      = Utf8.encode text.toList ++ List.replicate (width - text.toList.length) space := by
  rw [field, Utf8.encode_append, Utf8.encode_replicate_space]
  rfl

/-! ## Names -/

theorem isValidName_iff (name : String) :
    isValidName name = true ↔ name ≠ "" ∧ byteLength name ≤ 15 ∧ '/' ∉ name.toList := by
  rw [isValidName, Bool.and_eq_true, Bool.and_eq_true, bne_iff_ne, decide_eq_true_iff, and_assoc]
  simp [maxNameLength]

theorem nameField_eq (name : String) :
    nameField name = Utf8.encode name.toList
      ++ slash :: List.replicate (15 - name.toList.length) space := by
  have hwidth : 16 - (name ++ "/").toList.length = 15 - name.toList.length := by
    rw [String.toList_append, List.length_append]
    show 16 - (name.toList.length + 1) = _
    omega
  rw [nameField, encode_field, hwidth, String.toList_append, Utf8.encode_append, List.append_assoc]
  rfl

/-- A valid name fills the name field up to its width, or beyond it if it is not ASCII. -/
theorem length_nameField_eq_iff {name : String} (h : isValidName name = true) :
    (nameField name).length = 16 ↔ IsAscii name.toList := by
  obtain ⟨-, hlength, -⟩ := (isValidName_iff name).1 h
  have hle := Utf8.length_le_length_encode name.toList
  rw [byteLength] at hlength
  rw [← Utf8.length_encode_eq_iff, nameField_eq, List.length_append, List.length_cons,
    List.length_replicate]
  omega

theorem le_length_nameField {name : String} (h : isValidName name = true) :
    16 ≤ (nameField name).length := by
  obtain ⟨-, hlength, -⟩ := (isValidName_iff name).1 h
  have hle := Utf8.length_le_length_encode name.toList
  rw [byteLength] at hlength
  rw [nameField_eq, List.length_append, List.length_cons, List.length_replicate]
  omega

/-- Without a slash among the characters of a name there is none among its bytes. -/
theorem slash_notMem_encode {name : String} (h : isValidName name = true)
    (hascii : IsAscii name.toList) : slash ∉ Utf8.encode name.toList := by
  obtain ⟨-, -, hslash⟩ := (isValidName_iff name).1 h
  intro hmem
  have hd : ('/' : Char).utf8Size = 1 := rfl
  exact hslash (Utf8.mem_of_mem_encode hascii hd hmem)

theorem encode_ne_nil {name : String} (h : isValidName name = true) :
    Utf8.encode name.toList ≠ [] := by
  obtain ⟨hname, -, -⟩ := (isValidName_iff name).1 h
  have hle := Utf8.length_le_length_encode name.toList
  intro hnil
  rw [hnil, List.length_nil] at hle
  have htext : name.toList = [] := List.length_eq_zero_iff.1 (by omega)
  exact hname (String.toList_eq_nil_iff.1 htext)

/-- The name in a name field goes up to the slash. -/
theorem shortName_nameField {name : String} (h : isValidName name = true)
    (hascii : IsAscii name.toList) : shortName (nameField name) = Utf8.encode name.toList := by
  have hslash := slash_notMem_encode h hascii
  have hhead : ¬(nameField name).head? = some slash := by
    obtain ⟨first, rest, hname⟩ := List.exists_cons_of_ne_nil (encode_ne_nil h)
    rw [nameField_eq, hname, List.cons_append, List.head?_cons, Option.some_inj]
    rintro rfl
    exact hslash (hname ▸ List.mem_cons_self)
  have hcontains : (nameField name).contains slash = true := by
    rw [nameField_eq]
    simp
  have htake : (nameField name).takeWhile (· != slash) = Utf8.encode name.toList := by
    rw [nameField_eq]
    exact (Text.span_at hslash _).1
  rw [shortName, hcontains, htake]
  simp [hhead]

/-- A name field is never taken for a reference to a long name. In particular the name `#1`
is not, although its field starts like one: the byte after the slash is a space. -/
theorem named_nameField {name : String} (h : isValidName name = true)
    (hascii : IsAscii name.toList) (table : Bytes) (size : Nat) (body : Bytes) :
    Member.named table (nameField name) size body
      = .ok ⟨Utf8.encode name.toList, size, body⟩ := by
  have hslash := slash_notMem_encode h hascii
  have hnonempty := encode_ne_nil h
  have hshort := shortName_nameField h hascii
  have hfield := nameField_eq name
  unfold Member.named
  split
  · next b rest hstart =>
      rw [hfield] at hstart
      cases hname : Utf8.encode name.toList with
      | nil => exact absurd hname hnonempty
      | cons first _ =>
          rw [hname, List.cons_append] at hstart
          obtain ⟨rfl, -⟩ := List.cons.inj hstart
          exact absurd (hname ▸ List.mem_cons_self) hslash
  · next b rest hstart =>
      have hdigit : ¬isDigit b = true := by
        rw [hfield] at hstart
        -- the slash in the third place can only be the one that ends the name
        rcases hname : Utf8.encode name.toList with _ | ⟨first, _ | ⟨second, _ | ⟨third, tail⟩⟩⟩
        · exact absurd hname hnonempty
        · rw [hname] at hstart
          simp [slash] at hstart
        · rw [hname] at hstart
          simp only [List.cons_append, List.nil_append, List.cons.injEq] at hstart
          have hb : b ∈ List.replicate (15 - name.toList.length) space := by
            rw [hstart.2.2.2]
            exact List.mem_cons_self
          rw [List.eq_of_mem_replicate hb]
          decide
        · rw [hname] at hstart
          simp only [List.cons_append, List.cons.injEq] at hstart
          have hthird : third = slash := hstart.2.2.1
          exact absurd (by simp [hname, hthird]) hslash
      rw [if_neg hdigit, hshort]
  · rw [hshort]

/-! ## Sizes -/

/-- The digits of a number as bytes. -/
def digits (n : Nat) : Bytes := (Nat.toDigits 10 n).map fun c => c.val.toUInt8

theorem isAscii_toDigits (n : Nat) : IsAscii (Nat.toDigits 10 n) := by
  intro c hc
  have hdigit := Char.isDigit_iff_toNat.1 (Nat.isDigit_of_mem_toDigits (by omega) (by omega) hc)
  rw [Char.utf8Size_eq_one_iff, UInt32.le_iff_toNat_le]
  exact Nat.le_trans hdigit.2 (by decide)

theorem sizeField_eq (size : Nat) :
    sizeField size = digits size ++ List.replicate (10 - (digits size).length) space := by
  have htext : (toString size).toList = Nat.toDigits 10 size := Nat.toList_repr
  rw [sizeField, encode_field, htext, Utf8.encode_of_isAscii (isAscii_toDigits size), digits,
    List.length_map]

theorem length_digits_le_iff (n : Nat) : (digits n).length ≤ 10 ↔ n < 10000000000 := by
  rw [digits, List.length_map]
  exact Nat.length_toDigits_le_iff (by omega) (by omega)

theorem length_sizeField_eq_iff (size : Nat) :
    (sizeField size).length = 10 ↔ size < 10000000000 := by
  rw [← length_digits_le_iff, sizeField_eq, List.length_append, List.length_replicate]
  omega

theorem le_length_sizeField (size : Nat) : 10 ≤ (sizeField size).length := by
  rw [sizeField_eq, List.length_append, List.length_replicate]
  omega

theorem isDigit_iff (b : UInt8) : isDigit b = true ↔ 48 ≤ b.toNat ∧ b.toNat ≤ 57 := by
  rw [isDigit, Bool.and_eq_true, decide_eq_true_iff, decide_eq_true_iff, UInt8.le_iff_toNat_le,
    UInt8.le_iff_toNat_le]
  rfl

theorem isDigit_of_mem_digits {n : Nat} {b : UInt8} (h : b ∈ digits n) : isDigit b = true := by
  obtain ⟨c, hc, rfl⟩ := List.mem_map.1 h
  have hdigit := Char.isDigit_iff_toNat.1 (Nat.isDigit_of_mem_toDigits (by omega) (by omega) hc)
  rw [isDigit_iff, Utf8.toNat_toUInt8_of_utf8Size_eq_one (isAscii_toDigits n c hc)]
  exact hdigit

theorem ne_space_of_isDigit {b : UInt8} (h : isDigit b = true) : (b != space) = true := by
  rw [isDigit_iff] at h
  rw [bne_iff_ne]
  rintro rfl
  have hspace : space.toNat = 32 := rfl
  omega

/-- Reading digits as a number, byte by byte. -/
theorem foldl_digits {text : List Char} (h : IsAscii text) (start : Nat) :
    (text.map fun c => c.val.toUInt8).foldl (fun n b => n * 10 + (b.toNat - 0x30)) start
      = Nat.ofDigitChars 10 text start := by
  induction text generalizing start with
  | nil => rw [Nat.ofDigitChars_nil]; rfl
  | cons c rest ih =>
      obtain ⟨hc, hrest⟩ := List.forall_mem_cons.1 h
      rw [List.map_cons, List.foldl_cons, ih hrest, Nat.ofDigitChars_cons,
        Utf8.toNat_toUInt8_of_utf8Size_eq_one hc, Nat.mul_comm]
      rfl

/-- The size field gives its size back. -/
theorem number?_sizeField (size : Nat) : number? (sizeField size) = some size := by
  obtain ⟨first, rest, hdigits⟩ : ∃ first rest, digits size = first :: rest :=
    List.exists_cons_of_ne_nil (by simp [digits])
  have hfirst : isDigit first = true := isDigit_of_mem_digits (hdigits ▸ List.mem_cons_self)
  have htake : (sizeField size).takeWhile (· != space) = digits size := by
    rw [sizeField_eq, List.takeWhile_append_of_pos
      fun b hb => ne_space_of_isDigit (isDigit_of_mem_digits hb)]
    simp
  have hhead : ((sizeField size).head? != some space) = true := by
    rw [sizeField_eq, hdigits]
    simpa using ne_space_of_isDigit hfirst
  have hall : (digits size).all isDigit = true :=
    List.all_eq_true.2 fun b hb => isDigit_of_mem_digits hb
  have hvalue : (digits size).foldl (fun n b => n * 10 + (b.toNat - 0x30)) 0 = size := by
    rw [digits, foldl_digits (isAscii_toDigits size), Nat.ofDigitChars_ten_toDigits]
  unfold number?
  simp only [htake, hhead, hall, hvalue, Bool.and_self, if_true]

/-! ## Lengths -/

/-- **The header of a valid name has its length** exactly if the name is ASCII and the size
has at most ten digits. -/
theorem length_header_eq_iff {name : String} (h : isValidName name = true) (size : Nat) :
    (header name size).length = headerLength ↔ IsAscii name.toList ∧ size < 10000000000 := by
  have hname := le_length_nameField h
  have hsize := le_length_sizeField size
  have hlength : (header name size).length
      = (nameField name).length + 32 + (sizeField size).length + 2 := by
    rw [header_eq, List.length_append, List.length_append, List.length_append, length_fixedFields]
    show _ + (32 + (_ + 2)) = _
    omega
  rw [← length_nameField_eq_iff h, ← length_sizeField_eq_iff, hlength, headerLength]
  omega

end Linkage.Archive
