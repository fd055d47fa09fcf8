import Linkage.Proofs.Json.Reading
import Linkage.Proofs.Text.Decoding
import Linkage.Proofs.Toml.Rendering
import Linkage.Toml.Scalar

set_option autoImplicit false

/-! # Strings and integers are read back

A string is read piece by piece, as in JSON. An integer is read as its digits, and no other
form of scalar starts in the same way: a date has a hyphen or a colon behind its first digits,
and a number that is no integer goes on with a point or an exponent, while an integer is
followed by something that may come after a value (`IsBoundary`). What is read is the integer if
it fits 64 bits, and nothing otherwise (`readScalar_integer`).
-/

namespace Linkage.Toml

open Json (IsHexDigit SpellsUnit value?_of_spellsUnit eq_four_of_spellsUnit digit?_of_isHexDigit)

/-! ## Blanks and boundaries -/

theorem isText_of_isOrdinary {c : Char} (h : IsOrdinary c) : isText c = true := by
  rcases h with rfl | ⟨hlow, hhigh⟩
  · rfl
  · simp [isText, hlow, hhigh]

theorem IsBlankText.all {blanks : List Char} (h : IsBlankText blanks) :
    ∀ c ∈ blanks, isBlank c = true := by
  intro c hc
  rcases h c hc with rfl | rfl <;> rfl

@[simp] theorem skipBlank_append {blanks : List Char} (h : IsBlankText blanks) (rest : List Char) :
    skipBlank (blanks ++ rest) = skipBlank rest :=
  List.dropWhile_append_of_pos h.all

@[simp] theorem skipBlank_cons {c : Char} (h : isBlank c = false) (rest : List Char) :
    skipBlank (c :: rest) = c :: rest :=
  List.dropWhile_cons_of_neg (by simp [h])

/-- The characters that may come after a value. -/
def boundaries : List Char := [' ', '\t', '\n', '\r', '#', ',', ']']

/-- A text may come after a value. -/
def IsBoundary (rest : List Char) : Prop := ∀ c, rest.head? = some c → c ∈ boundaries

theorem isBoundary_cons {c : Char} (h : c ∈ boundaries) (rest : List Char) :
    IsBoundary (c :: rest) := by
  intro d hd
  cases hd
  exact h

theorem IsBoundary.ne {c d : Char} {rest : List Char} (h : IsBoundary (c :: rest))
    (hd : d ∉ boundaries) : c ≠ d := by
  rintro rfl
  exact hd (h c rfl)

theorem IsBoundary.isDigit_eq_false {c : Char} {rest : List Char} (h : IsBoundary (c :: rest)) :
    c.isDigit = false := by
  have hall : ∀ d ∈ boundaries, d.isDigit = false := by simp [boundaries]
  exact hall c (h c rfl)

/-! ## Strings -/

theorem codePoint?_of_value {c : Char} {digits : List Char}
    (h : Hexadecimal.value? digits = some c.toNat) : codePoint? digits = some c := by
  have hvalid : c.toNat < 0xD800 ∨ 0xE000 ≤ c.toNat ∧ c.toNat < 0x110000 := by
    have hcases := Utf8.toNat_cases c
    omega
  simp only [codePoint?, h, Option.bind_eq_bind, Option.bind_some]
  rw [if_pos hvalid, Char.ofNat_toNat]

theorem value?_append_of_spellsUnit {high low : Nat} {digits digits' : List Char}
    (hhigh : SpellsUnit high digits) (hlow : SpellsUnit low digits') :
    Hexadecimal.value? (digits ++ digits') = some (high * 0x10000 + low) := by
  obtain ⟨d₁, d₂, d₃, d₄, c₁, c₂, c₃, c₄, h₁, h₂, h₃, h₄, rfl, rfl⟩ := hhigh
  obtain ⟨e₁, e₂, e₃, e₄, b₁, b₂, b₃, b₄, k₁, k₂, k₃, k₄, rfl, rfl⟩ := hlow
  simp only [List.cons_append, List.nil_append, Hexadecimal.value?, List.mapM_cons, List.mapM_nil,
    digit?_of_isHexDigit h₁, digit?_of_isHexDigit h₂, digit?_of_isHexDigit h₃,
    digit?_of_isHexDigit h₄, digit?_of_isHexDigit k₁, digit?_of_isHexDigit k₂,
    digit?_of_isHexDigit k₃, digit?_of_isHexDigit k₄, Option.bind_eq_bind, Option.bind_some,
    Option.pure_def, Option.map_some, List.foldl_cons, List.foldl_nil, Option.some.injEq]
  omega

/-- Whichever way a character is spelled, the reader takes it up. -/
theorem readBasic_piece (done rest : List Char) {c : Char} {piece : List Char}
    (h : SpellsChar c piece) : readBasic done (piece ++ rest) = readBasic (c :: done) rest := by
  cases h with
  | literal hordinary hquote hbackslash =>
      have hkeep : (isText c && c != '\\') = true := by
        simp [isText_of_isOrdinary hordinary, hbackslash]
      rw [List.singleton_append, readBasic.eq_def]
      -- none of the patterns of the reader but the last one fits
      split
      · next h => cases h
      · next h => exact absurd (List.cons.inj h).1 hquote
      · next h => exact absurd (List.cons.inj h).1 hbackslash
      · next h => exact absurd (List.cons.inj h).1 hbackslash
      · next h => exact absurd (List.cons.inj h).1 hbackslash
      · next h =>
          obtain ⟨rfl, rfl⟩ := List.cons.inj h
          exact if_pos hkeep
  | short letter h =>
      simp only [shortEscapes, List.mem_cons, Prod.mk.injEq, List.not_mem_nil, or_false] at h
      rcases h with ⟨rfl, rfl⟩ | ⟨rfl, rfl⟩ | ⟨rfl, rfl⟩ | ⟨rfl, rfl⟩ | ⟨rfl, rfl⟩ | ⟨rfl, rfl⟩
        | ⟨rfl, rfl⟩ <;> rfl
  | four digits h =>
      obtain ⟨a, b, c', d, rfl⟩ := eq_four_of_spellsUnit h
      simp only [List.cons_append, List.nil_append]
      rw [readBasic, codePoint?_of_value (value?_of_spellsUnit h)]
  | eight high low digits digits' hhigh hlow hc =>
      have hvalue := value?_append_of_spellsUnit hhigh hlow
      obtain ⟨a, b, c', d, rfl⟩ := eq_four_of_spellsUnit hhigh
      obtain ⟨e, f, g, h, rfl⟩ := eq_four_of_spellsUnit hlow
      rw [← hc] at hvalue
      simp only [List.cons_append, List.nil_append] at hvalue ⊢
      rw [readBasic, codePoint?_of_value hvalue]

/-- A basic string is read back. -/
theorem readShortString_of_spells {s : String} {text : List Char} (h : SpellsString s text)
    (rest : List Char) : readShortString (text ++ rest) = some (s, rest) := by
  obtain ⟨pieces, hpieces, rfl⟩ := h
  rw [List.append_assoc, List.cons_append, List.singleton_append, readShortString,
    Text.read_pieces (fun done rest => readBasic_piece done rest) hpieces, readBasic]
  simp

/-- The first character of a spelling is not a quote. -/
theorem SpellsChar.exists_cons {c : Char} {piece : List Char} (h : SpellsChar c piece) :
    ∃ first later, piece = first :: later ∧ first ≠ '"' := by
  cases h with
  | literal hordinary hquote hbackslash => exact ⟨c, [], rfl, hquote⟩
  | short letter h => exact ⟨'\\', _, rfl, by decide⟩
  | four digits h => exact ⟨'\\', _, rfl, by decide⟩
  | eight high low digits digits' hhigh hlow hc => exact ⟨'\\', _, rfl, by decide⟩

/-- A basic string does not look like one of several lines: an empty one is not followed by
a third quote. -/
theorem readScalar_string {s : String} {text : List Char} (h : SpellsString s text)
    {rest : List Char} (hrest : IsBoundary rest) :
    readScalar (text ++ rest) = some (.string s, rest) := by
  have hread := readShortString_of_spells h rest
  obtain ⟨pieces, hpieces, rfl⟩ := h
  have hstring : readString ('"' :: pieces.flatten ++ ['"'] ++ rest) = some (s, rest) := by
    rw [← hread, readString.eq_def]
    split
    · next later heq =>
        generalize s.toList = characters at hpieces
        cases hpieces with
        | nil =>
            cases rest with
            | nil => cases heq
            | cons c rest =>
                have hquote : c = '"' ∧ rest = later := by simpa using heq
                exact absurd hquote.1 (hrest.ne (by decide))
        | @cons c piece _ _ hc _ =>
            obtain ⟨first, later', rfl, hfirst⟩ := hc.exists_cons
            rw [List.flatten_cons] at heq
            exact absurd (List.cons.inj (List.cons.inj heq).2).1 hfirst
    · next later heq => cases heq
    · rfl
  rw [List.append_assoc, List.cons_append] at hstring ⊢
  rw [readScalar, hstring, Option.map_some]

/-! ## Digits -/

theorem moreDigits_append {p : Char → Bool} (hp : p '_' = false) {digits text : List Char}
    (h : SpellsMore digits text) (hdigits : ∀ c ∈ digits, p c = true) {rest : List Char}
    (hrest : ∀ c, rest.head? = some c → p c = false ∧ c ≠ '_') :
    moreDigits p (text ++ rest) = (digits, rest) := by
  -- on the run: an underscore is passed only together with the digit behind it
  induction h with
  | nil =>
      cases rest with
      | nil => rfl
      | cons c rest =>
          obtain ⟨hc, hline⟩ := hrest c rfl
          rw [List.nil_append, moreDigits.eq_def]
          split
          · next h => exact absurd (List.cons.inj h).1 hline
          · next h =>
              obtain ⟨rfl, rfl⟩ := List.cons.inj h
              rw [if_neg (by simp [hc])]
          · next h => cases h
  | @digit digits text c _ ih =>
      obtain ⟨hc, hmore⟩ := List.forall_mem_cons.1 hdigits
      have hline : c ≠ '_' := by
        rintro rfl
        rw [hp] at hc
        cases hc
      rw [List.cons_append, moreDigits.eq_def]
      split
      · next h => exact absurd (List.cons.inj h).1 hline
      · next h =>
          obtain ⟨rfl, rfl⟩ := List.cons.inj h
          rw [if_pos hc, ih hmore]
      · next h => cases h
  | @underscore digits text c _ ih =>
      obtain ⟨hc, hmore⟩ := List.forall_mem_cons.1 hdigits
      rw [List.cons_append, List.cons_append, moreDigits, if_pos hc, ih hmore]

theorem readDigits_append {p : Char → Bool} (hp : p '_' = false) {digits text : List Char}
    (h : SpellsRun digits text) (hdigits : ∀ c ∈ digits, p c = true) {rest : List Char}
    (hrest : ∀ c, rest.head? = some c → p c = false ∧ c ≠ '_') :
    readDigits p (text ++ rest) = some (digits, rest) := by
  obtain ⟨c, digits, text, hmore, rfl, rfl⟩ := h
  obtain ⟨hc, hdigits⟩ := List.forall_mem_cons.1 hdigits
  rw [List.cons_append, readDigits, if_pos hc, moreDigits_append hp hmore hdigits hrest]

/-- The digits of a numeral are read up to what comes after a value. -/
theorem readWhole_of_spells {n : Nat} {text : List Char} (h : SpellsNumeral n text)
    {rest : List Char} (hrest : IsBoundary rest) :
    ∃ digits, Decimal.value digits = n ∧ readWhole (text ++ rest) = some (digits, rest) := by
  obtain ⟨digits, hrun, ⟨⟨-, hdigits⟩, hzero⟩, hvalue⟩ := h
  refine ⟨digits, by rw [Decimal.value_eq_ofDigitChars, hvalue], ?_⟩
  have hread : readDigits Char.isDigit (text ++ rest) = some (digits, rest) := by
    refine readDigits_append (by decide) hrun hdigits fun c hc => ?_
    obtain ⟨later, rfl⟩ := List.head?_eq_some_iff.1 hc
    exact ⟨hrest.isDigit_eq_false, hrest.ne (by decide)⟩
  obtain ⟨c, digits', text', hmore, rfl, rfl⟩ := hrun
  rw [← hread, readWhole.eq_def]
  split
  · next later heq =>
      -- a zero in front is all there is
      obtain ⟨rfl, rfl⟩ := List.cons.inj heq
      obtain ⟨-, rfl⟩ := List.cons.inj (hzero rfl)
      cases hmore
      exact hread.symm
  · rfl

/-! ## No dates, no fractions -/

theorem expect_eq_none {c : Char} {cs : List Char} (h : cs.head? ≠ some c) :
    expect c cs = none := by
  cases cs with
  | nil => rfl
  | cons d rest =>
      rw [List.head?_cons, ne_eq, Option.some.injEq] at h
      exact if_neg h

/-- No separator comes after a field, if there is none behind the first character of a text
and what follows may come after a value. -/
theorem expect_of_readField {count low high n : Nat} {text rest after : List Char} {c : Char}
    (hcount : 0 < count) (htext : c ∉ text.tail) (hrest : IsBoundary rest) (hc : c ∉ boundaries)
    (h : readField count low high (text ++ rest) = some (n, after)) : expect c after = none := by
  obtain ⟨⟨hlength, hdigits, -⟩, h⟩ := (Option.ite_none_right_eq_some ..).1 h
  cases h
  refine expect_eq_none fun hhead => ?_
  rcases Nat.lt_or_ge text.length count with hlt | hge
  · -- the field would go on with what follows
    cases rest with
    | nil =>
        rw [List.append_nil, List.length_take] at hlength
        omega
    | cons d rest =>
        have hmem : d ∈ (text ++ d :: rest).take count := by
          rw [List.mem_take_iff_getElem]
          exact ⟨text.length, by simp; omega, by simp⟩
        have hdigit := List.all_eq_true.1 hdigits d hmem
        rw [hrest.isDigit_eq_false] at hdigit
        cases hdigit
  · rw [List.drop_append_of_le_length hge, List.head?_append, Option.or_eq_some_iff] at hhead
    rcases hhead with hhead | ⟨-, hhead⟩
    · refine htext ?_
      rw [← List.drop_one]
      exact List.drop_subset_drop_left text hcount (List.mem_of_mem_head? hhead)
    · exact hc (hrest c hhead)

theorem readDatetime_eq_none {text rest : List Char} (hdash : '-' ∉ text.tail)
    (hcolon : ':' ∉ text.tail) (hrest : IsBoundary rest) : readDatetime (text ++ rest) = none := by
  have hdate : skipDate (text ++ rest) = none := by
    rw [skipDate]
    cases hfield : readField 4 0 9999 (text ++ rest) with
    | none => rfl
    | some field =>
        have hafter := expect_of_readField (by decide) hdash hrest (by decide) hfield
        simp only [Option.bind_eq_bind, Option.bind_some, hafter, Option.bind_none]
  have htime : skipTime (text ++ rest) = none := by
    rw [skipTime]
    cases hfield : readField 2 0 23 (text ++ rest) with
    | none => rfl
    | some field =>
        have hafter := expect_of_readField (by decide) hcolon hrest (by decide) hfield
        simp only [Option.bind_eq_bind, Option.bind_some, hafter, Option.bind_none]
  rw [readDatetime, hdate]
  simp only [htime, Option.map_none]

/-- A text goes on neither as a fraction nor as an exponent. -/
def EndsNumber (rest : List Char) : Prop :=
  rest.head? ≠ some '.' ∧ rest.head? ≠ some 'e' ∧ rest.head? ≠ some 'E'

theorem IsBoundary.endsNumber {rest : List Char} (h : IsBoundary rest) : EndsNumber rest :=
  ⟨fun hc => absurd (h _ hc) (by decide), fun hc => absurd (h _ hc) (by decide),
    fun hc => absurd (h _ hc) (by decide)⟩

theorem readDecimal_eq_none {negative : Bool} {cs cs' digits rest : List Char}
    (hsign : readSign cs = (negative, cs')) (hwhole : readWhole cs' = some (digits, rest))
    (hrest : EndsNumber rest) : readDecimal cs = none := by
  obtain ⟨hpoint, hlower, hupper⟩ := hrest
  have hfraction : readFraction rest = none := by
    unfold readFraction
    split
    · exact absurd rfl hpoint
    · rfl
  have hexponent : readExponent rest = none := by
    cases rest with
    | nil => rfl
    | cons c rest =>
        rw [List.head?_cons, ne_eq, Option.some.injEq] at hlower hupper
        exact if_neg (by simp [hlower, hupper])
  simp only [readDecimal, hsign, Option.bind_eq_bind, hwhole, Option.bind_some, hfraction,
    hexponent, Option.map_none, Option.bind_none]

theorem readSpecial_eq_none {negative : Bool} {cs rest : List Char} {c : Char}
    (hsign : readSign cs = (negative, c :: rest)) (hc : c.isDigit = true) :
    readSpecial cs = none := by
  rw [readSpecial, hsign]
  split
  · next heq =>
      cases heq
      cases hc
  · next heq =>
      cases heq
      cases hc
  · rfl

/-! ## Integers -/

/-- An integer fits 64 bits. -/
def fitsWord (n : Int) : Bool := decide (-2 ^ 63 ≤ n ∧ n < 2 ^ 63)

theorem integer?_false (n : Nat) :
    integer? false n = if fitsWord n then some (.integer n) else none := by
  have hsize : UInt64.size / 2 = 2 ^ 63 := rfl
  have hiff : n < UInt64.size / 2 ↔ fitsWord n = true := by
    rw [hsize, fitsWord, decide_eq_true_iff]
    omega
  simp only [integer?, hiff, Bool.false_eq_true, if_false]

theorem integer?_true (n : Nat) :
    integer? true n = if fitsWord (-n) then some (.integer (-n)) else none := by
  have hsize : UInt64.size / 2 = 2 ^ 63 := rfl
  have hiff : n ≤ UInt64.size / 2 ↔ fitsWord (-n) = true := by
    rw [hsize, fitsWord, decide_eq_true_iff]
    omega
  simp only [integer?, hiff, if_true]

theorem SpellsMore.mem {digits text : List Char} (h : SpellsMore digits text) {c : Char}
    (hc : c ∈ text) : c ∈ digits ∨ c = '_' := by
  induction h with
  | nil => cases hc
  | digit d _ ih =>
      rcases List.mem_cons.1 hc with rfl | hc
      · exact .inl List.mem_cons_self
      · exact (ih hc).imp_left (List.mem_cons_of_mem d)
  | underscore d _ ih =>
      rcases List.mem_cons.1 hc with rfl | hc
      · exact .inr rfl
      · rcases List.mem_cons.1 hc with rfl | hc
        · exact .inl List.mem_cons_self
        · exact (ih hc).imp_left (List.mem_cons_of_mem d)

/-- A run has only characters that its digits have, besides underscores. -/
theorem SpellsRun.notMem {digits text : List Char} (h : SpellsRun digits text) {c : Char}
    (hc : c ∉ digits) (hline : c ≠ '_') : c ∉ text := by
  obtain ⟨d, digits, text, hmore, rfl, rfl⟩ := h
  rw [List.mem_cons, not_or] at hc ⊢
  exact ⟨hc.1, fun hmem => (hmore.mem hmem).elim hc.2 hline⟩

theorem SpellsNumeral.exists_digit {n : Nat} {text : List Char} (h : SpellsNumeral n text) :
    ∃ c later, text = c :: later ∧ c.isDigit = true := by
  obtain ⟨digits, ⟨c, digits', later, -, rfl, rfl⟩, hplain, -⟩ := h
  exact ⟨c, later, rfl, hplain.1.2 c List.mem_cons_self⟩

theorem SpellsNumeral.notMem {n : Nat} {text : List Char} (h : SpellsNumeral n text) {c : Char}
    (hc : c.isDigit = false) (hline : c ≠ '_') : c ∉ text := by
  obtain ⟨digits, hrun, hplain, -⟩ := h
  exact hrun.notMem (hplain.1.notMem hc) hline

/-- A numeral with a zero in front is a zero. -/
theorem SpellsNumeral.eq_nil_of_zero {n : Nat} {later : List Char}
    (h : SpellsNumeral n ('0' :: later)) : later = [] := by
  obtain ⟨digits, ⟨c, digits', text, hmore, rfl, htext⟩, hplain, -⟩ := h
  cases htext
  obtain ⟨-, rfl⟩ := List.cons.inj (hplain.2 rfl)
  cases hmore
  rfl

/-- The characters that strings and booleans start with. -/
def wordStarts : List Char := ['"', '\x27', 't', 'f']

/-- What starts as a number and is of no other form is read as an integer. -/
theorem readScalar_eq_readInteger {c : Char} {cs : List Char} (h : c ∉ wordStarts)
    (hdatetime : readDatetime (c :: cs) = none) (hdecimal : readDecimal (c :: cs) = none)
    (hspecial : readSpecial (c :: cs) = none) : readScalar (c :: cs) = readInteger (c :: cs) := by
  unfold readScalar
  split
  · next heq => exact absurd (by rw [(List.cons.inj heq).1]; decide) h
  · next heq => exact absurd (by rw [(List.cons.inj heq).1]; decide) h
  · next heq => exact absurd (by rw [(List.cons.inj heq).1]; decide) h
  · next heq => exact absurd (by rw [(List.cons.inj heq).1]; decide) h
  · simp only [firstOf, List.findSome?_cons, List.findSome?_nil, hdatetime, hdecimal, hspecial]
    cases readInteger (c :: cs) <;> rfl

/-- A text is the sign of a decimal integer, or there is none; `true` for minus. -/
inductive IsSign : List Char → Bool → Prop
  | none : IsSign [] false
  | plus : IsSign ['+'] false
  | minus : IsSign ['-'] true

theorem readSign_append {sign : List Char} {negative : Bool} (h : IsSign sign negative)
    {c : Char} (hc : c.isDigit = true) (rest : List Char) :
    readSign (sign ++ c :: rest) = (negative, c :: rest) := by
  cases h with
  | none =>
      rw [List.nil_append]
      unfold readSign
      split
      · next heq => exact absurd hc (by rw [(List.cons.inj heq).1]; decide)
      · next heq => exact absurd hc (by rw [(List.cons.inj heq).1]; decide)
      · rfl
  | plus => rfl
  | minus => rfl

/-- A text that starts as no number in another base is read as one in decimal. -/
theorem readInteger_of_sign {negative : Bool} {cs cs' digits rest : List Char}
    (hmark : ∀ mark later, cs = '0' :: mark :: later → mark ∉ bases.map Prod.fst)
    (hsign : readSign cs = (negative, cs')) (hwhole : readWhole cs' = some (digits, rest)) :
    readInteger cs = (integer? negative (Decimal.value digits)).map fun v => (v, rest) := by
  unfold readInteger
  split
  · exact absurd (by decide) (hmark _ _ rfl)
  · exact absurd (by decide) (hmark _ _ rfl)
  · exact absurd (by decide) (hmark _ _ rfl)
  · simp only [hsign, hwhole, Option.bind_eq_bind, Option.bind_some]
    cases integer? negative (Decimal.value digits) <;> rfl

/-- Behind a zero in front of a numeral there is no mark of a base. -/
theorem SpellsNumeral.notMem_bases {n : Nat} {text rest : List Char} (h : SpellsNumeral n text)
    (hrest : IsBoundary rest) {mark : Char} {later : List Char}
    (htext : text ++ rest = '0' :: mark :: later) : mark ∉ bases.map Prod.fst := by
  obtain ⟨c, digits, rfl, -⟩ := h.exists_digit
  obtain ⟨rfl, hlater⟩ := List.cons.inj htext
  obtain rfl := h.eq_nil_of_zero
  have hlater : rest = mark :: later := hlater
  have hall : ∀ d ∈ boundaries, d ∉ bases.map Prod.fst := by simp [boundaries, bases]
  exact hall mark (hrest mark (by rw [hlater, List.head?_cons]))

/-- A decimal integer is read as such. -/
theorem readScalar_decimal {sign text rest : List Char} {negative : Bool} {n : Nat}
    (hsign : IsSign sign negative) (h : SpellsNumeral n text) (hrest : IsBoundary rest) :
    readScalar (sign ++ text ++ rest) = (integer? negative n).map fun v => (v, rest) := by
  have hdash : '-' ∉ text := h.notMem (by decide) (by decide)
  have hcolon : ':' ∉ text := h.notMem (by decide) (by decide)
  obtain ⟨digits, rfl, hwhole⟩ := readWhole_of_spells h hrest
  obtain ⟨c, later, rfl, hc⟩ := h.exists_digit
  have hread : readSign (sign ++ c :: later ++ rest) = (negative, c :: later ++ rest) := by
    rw [List.append_assoc]
    exact readSign_append hsign hc _
  have hstart : ∃ d cs, sign ++ c :: later ++ rest = d :: cs ∧ d ∉ wordStarts
      ∧ ∀ e ∉ c :: later, e ∉ (sign ++ c :: later).tail := by
    cases hsign with
    | none =>
        refine ⟨c, _, rfl, fun hmem => ?_, fun e he hmem => he (List.mem_cons_of_mem c hmem)⟩
        have hall : ∀ d ∈ wordStarts, d.isDigit = false := by simp [wordStarts]
        rw [hall c hmem] at hc
        cases hc
    | plus => exact ⟨'+', _, rfl, by decide, fun _ he => he⟩
    | minus => exact ⟨'-', _, rfl, by decide, fun _ he => he⟩
  have hmark : ∀ mark after, sign ++ c :: later ++ rest = '0' :: mark :: after →
      mark ∉ bases.map Prod.fst := by
    intro mark after heq
    cases hsign with
    | none => exact h.notMem_bases hrest heq
    | plus => cases heq
    | minus => cases heq
  have hinteger := readInteger_of_sign hmark hread hwhole
  have hdecimal := readDecimal_eq_none hread hwhole hrest.endsNumber
  have hspecial := readSpecial_eq_none hread hc
  obtain ⟨d, cs, heq, hd, htail⟩ := hstart
  have hdatetime := readDatetime_eq_none (htail _ hdash) (htail _ hcolon) hrest
  rw [heq] at hinteger hdatetime hdecimal hspecial ⊢
  rw [readScalar_eq_readInteger hd hdatetime hdecimal hspecial, hinteger]

theorem valueIn_of_forall₂ {base : Nat} {values : List Nat} {digits : List Char}
    (h : List.Forall₂ IsHexDigit values digits) :
    valueIn base digits = values.foldl (fun n d => n * base + d) 0 := by
  have hfold : ∀ n, digits.foldl (fun n c => n * base + (Hexadecimal.digit? c).getD 0) n
      = values.foldl (fun n d => n * base + d) n := by
    induction h with
    | nil => exact fun _ => rfl
    | cons hdigit _ ih =>
        intro n
        rw [List.foldl_cons, List.foldl_cons, digit?_of_isHexDigit hdigit, Option.getD_some, ih]
  exact hfold 0

/-- Digits in a base are read up to what comes after a value. -/
theorem readBased_append {base : Nat} {values : List Nat} {digits text rest : List Char}
    (hvalues : ∀ d ∈ values, d < base) (hdigits : List.Forall₂ IsHexDigit values digits)
    (hrun : SpellsRun digits text) (hrest : IsBoundary rest) :
    readBased base (text ++ rest)
      = (integer? false (values.foldl (fun n d => n * base + d) 0)).map fun v => (v, rest) := by
  have hall : ∀ c ∈ digits, (Hexadecimal.digit? c).any (· < base) = true := by
    clear hrun
    induction hdigits with
    | nil => exact List.forall_mem_nil _
    | cons hdigit _ ih =>
        obtain ⟨hd, hvalues⟩ := List.forall_mem_cons.1 hvalues
        rw [List.forall_mem_cons, digit?_of_isHexDigit hdigit]
        exact ⟨decide_eq_true hd, ih hvalues⟩
  have hread : readDigits (fun c => (Hexadecimal.digit? c).any (· < base)) (text ++ rest)
      = some (digits, rest) := by
    refine readDigits_append rfl hrun hall fun c hc => ⟨?_, ?_⟩
    · have hnone : ∀ d ∈ boundaries, Hexadecimal.digit? d = none := by
        simp [boundaries, Hexadecimal.digit?]
      rw [hnone c (hrest c hc), Option.any_none]
    · rintro rfl
      exact absurd (hrest _ hc) (by decide)
  simp only [readBased, hread, Option.bind_eq_bind, Option.bind_some, valueIn_of_forall₂ hdigits]
  cases integer? false _ <;> rfl

/-- An integer in another base is read as such. -/
theorem readScalar_based {mark : Char} {base : Nat} (hbase : (mark, base) ∈ bases)
    {values : List Nat} {digits text rest : List Char} (hvalues : ∀ d ∈ values, d < base)
    (hdigits : List.Forall₂ IsHexDigit values digits) (hrun : SpellsRun digits text)
    (hrest : IsBoundary rest) :
    readScalar ('0' :: mark :: text ++ rest)
      = (integer? false (values.foldl (fun n d => n * base + d) 0)).map fun v => (v, rest) := by
  have hinteger : readInteger ('0' :: mark :: text ++ rest) = readBased base (text ++ rest) := by
    simp only [bases, List.mem_cons, Prod.mk.injEq, List.not_mem_nil, or_false] at hbase
    rcases hbase with ⟨rfl, rfl⟩ | ⟨rfl, rfl⟩ | ⟨rfl, rfl⟩ <;> rfl
  have hmark : mark ≠ '-' ∧ mark ≠ ':' ∧ EndsNumber (mark :: text ++ rest) := by
    simp only [bases, List.mem_cons, Prod.mk.injEq, List.not_mem_nil, or_false] at hbase
    rcases hbase with ⟨rfl, -⟩ | ⟨rfl, -⟩ | ⟨rfl, -⟩ <;> simp [EndsNumber]
  have htail : ∀ c, c ≠ mark → Hexadecimal.digit? c = none → c ≠ '_' →
      c ∉ ('0' :: mark :: text).tail := by
    intro c hc hnone hline hmem
    refine (List.mem_cons.1 hmem).elim hc (hrun.notMem (fun hmem => ?_) hline)
    obtain ⟨i, hi, rfl⟩ := List.getElem_of_mem hmem
    have hdigit := digit?_of_isHexDigit (hdigits.get (by rw [hdigits.length_eq]; exact hi) hi)
    rw [List.get_eq_getElem, hnone] at hdigit
    cases hdigit
  have hdatetime := readDatetime_eq_none (htail '-' hmark.1.symm rfl (by decide))
    (htail ':' hmark.2.1.symm rfl (by decide)) hrest
  have hdecimal : readDecimal ('0' :: mark :: text ++ rest) = none :=
    readDecimal_eq_none rfl rfl hmark.2.2
  have hspecial : readSpecial ('0' :: mark :: text ++ rest) = none := readSpecial_eq_none rfl rfl
  have hscalar : readScalar ('0' :: mark :: text ++ rest)
      = readInteger ('0' :: mark :: text ++ rest) :=
    readScalar_eq_readInteger (by decide) hdatetime hdecimal hspecial
  rw [hscalar, hinteger, readBased_append hvalues hdigits hrun hrest]

/-- **Integers are read back.** An integer that fits 64 bits is read as what it is, and any
other one is refused. -/
theorem readScalar_integer {n : Int} {text : List Char} (h : SpellsInteger n text)
    {rest : List Char} (hrest : IsBoundary rest) :
    readScalar (text ++ rest) = if fitsWord n then some (.integer n, rest) else none := by
  have hpositive : ∀ m : Nat, (integer? false m).map (fun v => (v, rest))
      = if fitsWord m then some (.integer m, rest) else none := by
    intro m
    rw [integer?_false]
    split <;> rfl
  cases h with
  | unsigned n text h =>
      rw [← hpositive n]
      exact readScalar_decimal .none h hrest
  | positive n text h =>
      rw [← hpositive n]
      exact readScalar_decimal .plus h hrest
  | negative n text h =>
      have hread := readScalar_decimal .minus h hrest
      rw [List.singleton_append] at hread
      rw [hread, integer?_true]
      split <;> rfl
  | based mark base hbase values digits text hvalues hdigits hrun =>
      rw [← hpositive, readScalar_based hbase hvalues hdigits hrun hrest]

end Linkage.Toml
