import Linkage.Proofs.Toml.Scalars
import Linkage.Toml.Reader

set_option autoImplicit false

/-! # Values are read back

Between the parts of an array there may be blanks, line breaks and comments, and all of these
may come after a value (`IsFiller.isBoundary`). So each string in an array is read up to what
follows it, and an array item by item (`readItems_of_spells`). Any other value is a scalar
(`readValue_of_spells`).
-/

namespace Linkage.Toml

/-! ## Text between the parts of an array -/

theorem isBoundary_append {text rest : List Char} (h : ∀ c, text.head? = some c → c ∈ boundaries)
    (hrest : IsBoundary rest) : IsBoundary (text ++ rest) := by
  cases text with
  | nil => exact hrest
  | cons c text => exact isBoundary_cons (h c rfl) _

theorem IsBlankText.isBoundary {blanks : List Char} (h : IsBlankText blanks) :
    IsBoundary blanks := by
  intro c hc
  rcases h c (List.mem_of_mem_head? hc) with rfl | rfl <;> decide

theorem IsNewline.isBoundary {newline : List Char} (h : IsNewline newline) :
    IsBoundary newline := by
  rcases h with rfl | rfl <;> exact isBoundary_cons (by decide) _

theorem IsLineRest.isBoundary {text : List Char} (h : IsLineRest text) : IsBoundary text := by
  obtain ⟨blanks, comment, hblanks, rfl | ⟨words, -, rfl⟩, rfl⟩ := h
  · rw [List.append_nil]
    exact hblanks.isBoundary
  · exact isBoundary_append hblanks.isBoundary (isBoundary_cons (by decide) _)

theorem IsFiller.isBoundary {text : List Char} (h : IsFiller text) : IsBoundary text := by
  induction h with
  | blank h => exact h.isBoundary
  | line hfirst hnewline _ ih =>
      rw [List.append_assoc]
      exact isBoundary_append hfirst.isBoundary (isBoundary_append hnewline.isBoundary ih)

theorem skipFiller_blank {blanks : List Char} (h : IsBlankText blanks) (rest : List Char) :
    skipFiller false (blanks ++ rest) = skipFiller false rest := by
  induction blanks with
  | nil => rfl
  | cons c blanks ih =>
      obtain ⟨hc, hblanks⟩ := List.forall_mem_cons.1 h
      rw [← ih hblanks]
      rcases hc with rfl | rfl <;> rfl

theorem skipFiller_newline {newline : List Char} (h : IsNewline newline) (inComment : Bool)
    (rest : List Char) : skipFiller inComment (newline ++ rest) = skipFiller false rest := by
  rcases h with rfl | rfl <;> rfl

theorem skipFiller_words {words : List Char} (h : ∀ c ∈ words, IsOrdinary c) (rest : List Char) :
    skipFiller true (words ++ rest) = skipFiller true rest := by
  induction words with
  | nil => rfl
  | cons c words ih =>
      obtain ⟨hc, hwords⟩ := List.forall_mem_cons.1 h
      have htext := isText_of_isOrdinary hc
      rw [← ih hwords, List.cons_append, skipFiller.eq_def]
      split
      · next heq => cases heq
      · next heq =>
          rw [(List.cons.inj heq).1] at htext
          cases htext
      · next heq =>
          rw [(List.cons.inj heq).1] at htext
          cases htext
      · next heq =>
          obtain ⟨rfl, rfl⟩ := List.cons.inj heq
          rw [if_pos rfl, if_pos htext]

/-- What may stand between the parts of an array is skipped up to the next part. -/
theorem skipFiller_append {filler : List Char} (h : IsFiller filler) (rest : List Char) :
    skipFiller false (filler ++ rest) = skipFiller false rest := by
  induction h with
  | blank h => exact skipFiller_blank h rest
  | @line first newline text hfirst hnewline _ ih =>
      obtain ⟨blanks, comment, hblanks, rfl | ⟨words, hwords, rfl⟩, rfl⟩ := hfirst
      · rw [List.append_nil, List.append_assoc, List.append_assoc, skipFiller_blank hblanks,
          skipFiller_newline hnewline, ih]
      · rw [List.append_assoc, List.append_assoc, List.append_assoc, skipFiller_blank hblanks,
          List.cons_append]
        show skipFiller true (words ++ (newline ++ (text ++ rest))) = _
        rw [skipFiller_words hwords, skipFiller_newline hnewline, ih]

/-! ## Arrays -/

/-- A reader that reads basic strings as values. -/
def ReadsStrings (read : Reader Value) : Prop :=
  ∀ {s : String} {text rest : List Char}, SpellsString s text → IsBoundary rest →
    read (text ++ rest) = some (.string s, rest)

theorem SpellsString.exists_cons {s : String} {text : List Char} (h : SpellsString s text) :
    ∃ later, text = '"' :: later := by
  obtain ⟨pieces, -, rfl⟩ := h
  exact ⟨_, rfl⟩

/-- An item is read up to the character behind what follows it. -/
theorem readItems_item {read : Reader Value} (hread : ReadsStrings read) {s : String}
    {before item after rest : List Char} (hbefore : IsFiller before) (hitem : SpellsString s item)
    (hafter : IsFiller after) {c : Char} (hc : c = ',' ∨ c = ']') (count : Nat) :
    readItems read (count + 1) (before ++ item ++ after ++ c :: rest)
      = if c = ']' then some ([.string s], rest)
        else (readItems read count rest).map fun (items, rest) => (.string s :: items, rest) := by
  have hquote : ∀ later, skipFiller false ('"' :: later) = some ('"' :: later) := fun _ => rfl
  have hboundary : c ∈ boundaries := by rcases hc with rfl | rfl <;> decide
  have hfirst := hread hitem (isBoundary_append hafter.isBoundary (isBoundary_cons hboundary rest))
  obtain ⟨later, rfl⟩ := hitem.exists_cons
  simp only [List.append_assoc, List.cons_append] at hfirst ⊢
  simp only [readItems, skipFiller_append hbefore, hquote, Option.bind_eq_bind, Option.bind_some]
  split
  · next heq => cases heq
  · rw [hfirst, Option.bind_some, skipFiller_append hafter]
    rcases hc with rfl | rfl
    · show (readItems read count rest).bind _ = _
      cases readItems read count rest <;> rfl
    · rfl

/-- The items of an array of strings are read back. -/
theorem readItems_of_spells {read : Reader Value} (hread : ReadsStrings read) {items : List String}
    {inner : List Char} (h : SpellsItems items inner) (rest : List Char) {count : Nat}
    (hcount : inner.length < count) :
    readItems read count (inner ++ ']' :: rest) = some (items.map .string, rest) := by
  -- on the items: behind a comma the reader starts again
  induction h generalizing count with
  | nil h =>
      obtain ⟨count, rfl⟩ : ∃ n, count = n + 1 := ⟨count - 1, by omega⟩
      rw [readItems, skipFiller_append h]
      rfl
  | last hbefore hitem hafter =>
      obtain ⟨count, rfl⟩ : ∃ n, count = n + 1 := ⟨count - 1, by omega⟩
      rw [readItems_item hread hbefore hitem hafter (.inr rfl)]
      rfl
  | cons hbefore hitem hafter _ ih =>
      obtain ⟨count, rfl⟩ : ∃ n, count = n + 1 := ⟨count - 1, by omega⟩
      simp only [List.length_append, List.length_cons] at hcount
      rw [List.append_assoc, List.cons_append,
        readItems_item hread hbefore hitem hafter (.inl rfl), ih (by omega)]
      rfl

/-! ## Values -/

/-- A value is an integer that fits 64 bits, or no integer. -/
def Value.fits : Value → Bool
  | .integer n => fitsWord n
  | _ => true

theorem readValue_eq_readScalar {c : Char} (hbracket : c ≠ '[') (hbrace : c ≠ '\x7b')
    (rest : List Char) (count depth : Nat) :
    readValue count depth (c :: rest) = readScalar (c :: rest) := by
  cases depth with
  | zero => rfl
  | succ depth =>
      unfold readValue
      split
      · next heq => exact absurd (List.cons.inj heq).1 hbracket
      · next heq => exact absurd (List.cons.inj heq).1 hbrace
      · rfl

theorem readsStrings_readValue (count depth : Nat) : ReadsStrings (readValue count depth) := by
  intro s text rest h hrest
  have hread := readScalar_string h hrest
  obtain ⟨later, rfl⟩ := h.exists_cons
  rw [← hread]
  exact readValue_eq_readScalar (by decide) (by decide) _ count depth

theorem SpellsInteger.exists_cons {n : Int} {text : List Char} (h : SpellsInteger n text) :
    ∃ c later, text = c :: later ∧ c ∉ [' ', '\t', '[', '\x7b'] := by
  cases h with
  | unsigned n text h =>
      obtain ⟨c, later, rfl, hc⟩ := h.exists_digit
      have hall : ∀ d ∈ [' ', '\t', '[', '\x7b'], d.isDigit = false := by simp
      refine ⟨c, later, rfl, fun hmem => ?_⟩
      rw [hall c hmem] at hc
      cases hc
  | positive n text h => exact ⟨'+', text, rfl, by decide⟩
  | negative n text h => exact ⟨'-', text, rfl, by decide⟩
  | based mark base hbase values digits text hvalues hdigits hrun =>
      exact ⟨'0', mark :: text, rfl, by decide⟩

/-- No value starts with a blank. -/
theorem SpellsValue.exists_cons {v : Value} {text : List Char} (h : SpellsValue v text) :
    ∃ c later, text = c :: later ∧ isBlank c = false := by
  cases h with
  | string h =>
      obtain ⟨later, rfl⟩ := h.exists_cons
      exact ⟨'"', later, rfl, rfl⟩
  | integer h =>
      obtain ⟨c, later, rfl, hc⟩ := h.exists_cons
      refine ⟨c, later, rfl, ?_⟩
      simp only [List.mem_cons, not_or] at hc
      simp [isBlank, hc]
  | boolean b => cases b with
      | true => exact ⟨'t', _, rfl, rfl⟩
      | false => exact ⟨'f', _, rfl, rfl⟩
  | array h => exact ⟨'[', _, rfl, rfl⟩

/-- A value is read back, unless it is an integer that does not fit. -/
theorem readValue_of_spells {v : Value} {text : List Char} (h : SpellsValue v text)
    {rest : List Char} (hrest : IsBoundary rest) {count : Nat} (hcount : text.length ≤ count)
    (depth : Nat) :
    readValue count (depth + 1) (text ++ rest) = if v.fits then some (v, rest) else none := by
  cases h with
  | string h => exact readsStrings_readValue count (depth + 1) h hrest
  | @integer n text h =>
      have hread := readScalar_integer h hrest
      obtain ⟨c, later, rfl, hc⟩ := h.exists_cons
      simp only [List.mem_cons, not_or] at hc
      rw [List.cons_append, readValue_eq_readScalar hc.2.2.1 hc.2.2.2.1]
      exact hread
  | boolean b => cases b <;> rfl
  | @array items inner h =>
      simp only [List.length_append, List.length_cons, List.length_nil] at hcount
      have hinner : inner.length < count := by omega
      have hitems := readItems_of_spells (readsStrings_readValue count depth) h rest hinner
      rw [List.append_assoc, List.cons_append, List.singleton_append, readValue, hitems]
      rfl

end Linkage.Toml
