import Linkage.Json.Value
import Linkage.Proofs.Decimal.Spelling
import Linkage.Proofs.Text.Reading

set_option autoImplicit false

/-! # Numbers in JSON texts

A number is spelled as an optional minus, digits without needless zeros, an optional fraction
and an optional exponent (`NumberText.Spells`). Nothing marks its end but that the text does not
go on with it (`EndsNumber`), and then it is read back part by part (`readNumber_of_renders`).
Printed integers are spelled in this way if they fit 64 bits (`rendersNumber_integer`).
-/

namespace Linkage.Json

open Decimal (IsDigits IsPlain)

/-! ## Spellings -/

/-- A text is the fraction of a number, with its point. -/
inductive SpellsFraction : Option (List Char) → List Char → Prop
  | absent : SpellsFraction none []
  | digits (digits : List Char) (h : IsDigits digits) : SpellsFraction (some digits) ('.' :: digits)

/-- The signs of an exponent. A plus may be left out. -/
def exponentSigns (negative : Bool) : List (List Char) :=
  if negative then [['-']] else [[], ['+']]

/-- A text is the exponent of a number, with its letter in either case and its sign. -/
inductive SpellsExponent : Option (Bool × List Char) → List Char → Prop
  | absent : SpellsExponent none []
  | digits (letter : Char) (negative : Bool) (sign digits : List Char)
      (hletter : letter = 'e' ∨ letter = 'E') (hsign : sign ∈ exponentSigns negative)
      (h : IsDigits digits) : SpellsExponent (some (negative, digits)) (letter :: (sign ++ digits))

/-- The minus of a negative number. -/
def minusSign (negative : Bool) : List Char := if negative then ['-'] else []

/-- A text consists of the parts of a number one after the other. -/
def NumberText.Spells (t : NumberText) (text : List Char) : Prop :=
  IsPlain t.whole ∧ ∃ fraction exponent, SpellsFraction t.fraction fraction
    ∧ SpellsExponent t.exponent exponent
    ∧ text = minusSign t.negative ++ (t.whole ++ (fraction ++ exponent))

/-- A text is a number. -/
def RendersNumber (n : Number) (text : List Char) : Prop :=
  ∃ t : NumberText, t.Spells text ∧ t.toNumber = some n

/-- The digits of an integer that fits 64 bits are its text. -/
theorem rendersNumber_integer {value : Int} (hlow : -(UInt64.size / 2 : Int) ≤ value)
    (hhigh : value < UInt64.size) : RendersNumber (.integer value) (toString value).toList := by
  have hspells : ∀ negative n, NumberText.Spells ⟨negative, Nat.toDigits 10 n, none, none⟩
      (minusSign negative ++ Nat.toDigits 10 n) :=
    fun negative n => ⟨Decimal.isPlain_toDigits n, [], [], .absent, .absent, by simp⟩
  have hvalue : ∀ n, Decimal.value (Nat.toDigits 10 n) = n := by
    intro n
    rw [Decimal.value_eq_ofDigitChars, Nat.ofDigitChars_ten_toDigits]
  have hrepr : ∀ n : Nat, n.repr.toList = Nat.toDigits 10 n := fun n => Nat.toList_repr
  cases value with
  | ofNat n =>
      refine ⟨⟨false, Nat.toDigits 10 n, none, none⟩, ?_, ?_⟩
      · show NumberText.Spells _ n.repr.toList
        rw [hrepr]
        exact hspells false n
      · have hn : n < UInt64.size := Int.ofNat_lt.1 hhigh
        simp [NumberText.toNumber, hvalue, hn]
  | negSucc n =>
      refine ⟨⟨true, Nat.toDigits 10 (n + 1), none, none⟩, ?_, ?_⟩
      · show NumberText.Spells _ ("-" ++ (n + 1).repr).toList
        rw [String.toList_append, hrepr]
        exact hspells true (n + 1)
      · have hn : n + 1 ≤ UInt64.size / 2 := by
          rw [Int.negSucc_eq] at hlow
          omega
        simp [NumberText.toNumber, hvalue, hn, Int.negSucc_eq]

/-! ## The start of a number -/

theorem exists_start_of_rendersNumber {n : Number} {text : List Char} (h : RendersNumber n text) :
    ∃ c, (c = '-' ∨ c.isDigit = true) ∧ ∃ later, text = c :: later := by
  obtain ⟨⟨negative, whole, _, _⟩, ⟨⟨⟨hne, hdigits⟩, -⟩, fraction, exponent, -, -, rfl⟩, -⟩ := h
  cases negative with
  | true => exact ⟨'-', Or.inl rfl, _, rfl⟩
  | false =>
      cases whole with
      | nil => exact absurd rfl hne
      | cons c whole => exact ⟨c, Or.inr (hdigits c List.mem_cons_self), _, rfl⟩

/-! ## Reading the parts -/

/-- A text does not go on with digits. -/
def EndsDigits (rest : List Char) : Prop := ∀ c, rest.head? = some c → c.isDigit = false

/-- A text does not go on with a number. -/
def EndsNumber (rest : List Char) : Prop :=
  ∀ c, rest.head? = some c → c.isDigit = false ∧ c ≠ '.' ∧ c ≠ 'e' ∧ c ≠ 'E'

theorem endsNumber_cons {c : Char} (rest : List Char)
    (h : c.isDigit = false ∧ c ≠ '.' ∧ c ≠ 'e' ∧ c ≠ 'E') : EndsNumber (c :: rest) := by
  intro d hd
  cases hd
  exact h

variable {rest : List Char}

theorem readDigits_append {digits : List Char} (h : IsDigits digits) (hrest : EndsDigits rest) :
    readDigits (digits ++ rest) = some (digits, rest) := by
  obtain ⟨hne, hdigits⟩ := h
  rw [readDigits, Text.takeWhile_append_of_head hdigits hrest,
    Text.dropWhile_append_of_head hdigits hrest]
  cases digits with
  | nil => exact absurd rfl hne
  | cons c digits => rfl

/-- Digits without needless zeros are the whole part of a number. -/
theorem readWhole_append {whole : List Char} (h : IsPlain whole) (hrest : EndsDigits rest) :
    readWhole (whole ++ rest) = some (whole, rest) := by
  rw [readWhole, readDigits_append h.1 hrest]
  split
  · next c more later heq =>
      obtain ⟨rfl, rfl⟩ := Prod.mk.inj (Option.some.inj heq)
      cases h.2 rfl
  · rfl

theorem readFraction_append {fraction : Option (List Char)} {text : List Char}
    (h : SpellsFraction fraction text) (hrest : EndsDigits rest) (hpoint : rest.head? ≠ some '.') :
    readFraction (text ++ rest) = some (fraction, rest) := by
  cases h with
  | absent =>
      rw [List.nil_append]
      unfold readFraction
      split
      · exact absurd rfl hpoint
      · rfl
  | digits digits h =>
      rw [List.cons_append, readFraction, readDigits_append h hrest]
      rfl

theorem readExponentSign_append {negative : Bool} {sign digits : List Char}
    (hsign : sign ∈ exponentSigns negative) (h : IsDigits digits) :
    readExponentSign (sign ++ (digits ++ rest)) = (negative, digits ++ rest) := by
  obtain ⟨hne, hdigits⟩ := h
  cases negative with
  | true =>
      obtain rfl := List.mem_singleton.1 hsign
      rfl
  | false =>
      simp only [exponentSigns, Bool.false_eq_true, if_false, List.mem_cons, List.not_mem_nil,
        or_false] at hsign
      rcases hsign with rfl | rfl
      · -- a digit is no sign
        cases digits with
        | nil => exact absurd rfl hne
        | cons c digits =>
            have hc := hdigits c List.mem_cons_self
            rw [List.nil_append, List.cons_append]
            unfold readExponentSign
            split
            · next heq =>
                obtain ⟨rfl, -⟩ := List.cons.inj heq
                cases hc
            · next heq =>
                obtain ⟨rfl, -⟩ := List.cons.inj heq
                cases hc
            · rfl
      · rfl

theorem readExponent_append {exponent : Option (Bool × List Char)} {text : List Char}
    (h : SpellsExponent exponent text) (hrest : EndsNumber rest) :
    readExponent (text ++ rest) = some (exponent, rest) := by
  cases h with
  | absent =>
      cases rest with
      | nil => rfl
      | cons c rest =>
          obtain ⟨-, -, hlower, hupper⟩ := hrest c rfl
          rw [List.nil_append, readExponent, if_neg (by simp [hlower, hupper])]
  | digits letter negative sign digits hletter hsign h =>
      have hread := readDigits_append h fun c hc => (hrest c hc).1
      rw [List.cons_append, List.append_assoc, readExponent, if_pos (by simpa using hletter),
        readExponentSign_append hsign h]
      simp only [hread, Option.map_some]

/-! ## Reading numbers -/

theorem SpellsExponent.head?_append {exponent : Option (Bool × List Char)} {text : List Char}
    (h : SpellsExponent exponent text) (hrest : EndsNumber rest) :
    ∀ c, (text ++ rest).head? = some c → c.isDigit = false ∧ c ≠ '.' := by
  intro c hc
  cases h with
  | absent => exact ⟨(hrest c hc).1, (hrest c hc).2.1⟩
  | digits letter negative sign digits hletter hsign h =>
      cases hc
      rcases hletter with rfl | rfl
      · exact ⟨rfl, by decide⟩
      · exact ⟨rfl, by decide⟩

theorem SpellsFraction.endsDigits_append {fraction : Option (List Char)} {text : List Char}
    (h : SpellsFraction fraction text) (hrest : EndsDigits rest) : EndsDigits (text ++ rest) := by
  cases h with
  | absent => exact hrest
  | digits digits h =>
      intro c hc
      cases hc
      rfl

theorem readUnsigned_of_spells {t : NumberText} {fraction exponent : List Char}
    (hwhole : IsPlain t.whole) (hfraction : SpellsFraction t.fraction fraction)
    (hexponent : SpellsExponent t.exponent exponent) {n : Number} (hn : t.toNumber = some n)
    (hrest : EndsNumber rest) :
    readUnsigned t.negative (t.whole ++ (fraction ++ (exponent ++ rest))) = some (n, rest) := by
  -- what follows each part does not go on with it
  have hbehind := hexponent.head?_append hrest
  have hends : EndsDigits (exponent ++ rest) := fun c hc => (hbehind c hc).1
  have hpoint : (exponent ++ rest).head? ≠ some '.' := fun hc => (hbehind '.' hc).2 rfl
  rw [readUnsigned, readWhole_append hwhole (hfraction.endsDigits_append hends)]
  simp only [Option.bind_eq_bind, Option.bind_some, readFraction_append hfraction hends hpoint,
    readExponent_append hexponent hrest, hn]
  rfl

/-- **Numbers are read back** from each of their spellings, if the text does not go on with
the number. -/
theorem readNumber_of_renders {n : Number} {text : List Char} (h : RendersNumber n text)
    (hrest : EndsNumber rest) : readNumber (text ++ rest) = some (n, rest) := by
  obtain ⟨⟨negative, whole, fraction, exponent⟩, ⟨hwhole, fractionText, exponentText, hfraction,
    hexponent, rfl⟩, hn⟩ := h
  have hread := readUnsigned_of_spells hwhole hfraction hexponent hn hrest
  simp only [List.append_assoc]
  cases negative with
  | true => exact hread
  | false =>
      -- a digit is no sign
      rw [← hread, minusSign, if_neg Bool.false_ne_true, List.nil_append]
      obtain ⟨⟨hne, hdigits⟩, -⟩ := hwhole
      cases whole with
      | nil => exact absurd rfl hne
      | cons c whole =>
          have hc := hdigits c List.mem_cons_self
          rw [List.cons_append]
          unfold readNumber
          split
          · next heq =>
              obtain ⟨rfl, -⟩ := List.cons.inj heq
              cases hc
          · rfl

end Linkage.Json
