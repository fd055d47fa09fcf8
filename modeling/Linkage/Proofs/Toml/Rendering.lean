import Linkage.Proofs.Decimal.Spelling
import Linkage.Proofs.Json.Rendering
import Linkage.Toml.Document

set_option autoImplicit false

/-! # Texts that spell a document

A document whose assignments all stand at the top has many texts: its lines may be blank or
end in comments, the characters of a string may stand for themselves or be escaped in several
ways, an integer may have a sign, underscores or the mark of another base, and an array may
go over several lines. `Toml.SpellsDocument` says which texts these are, for values that are
basic strings, integers, booleans and arrays of basic strings, with the assignments in the
order in which they stand in the text. Integers may have any size here.
-/

namespace Linkage.Toml

open Json (IsHexDigit SpellsUnit)

/-! ## Characters and lines -/

/-- A character may stand for itself in strings and comments: it is a tab or no control. -/
def IsOrdinary (c : Char) : Prop := c = '\t' ∨ 0x20 ≤ c.toNat ∧ c.toNat ≠ 0x7F

instance : DecidablePred IsOrdinary := fun _ => inferInstanceAs (Decidable (_ ∨ _))

/-- There are only spaces and tabs in a text. -/
def IsBlankText (text : List Char) : Prop := ∀ c ∈ text, c = ' ' ∨ c = '\t'

/-- A text is a comment. -/
def IsComment (text : List Char) : Prop :=
  ∃ words, (∀ c ∈ words, IsOrdinary c) ∧ text = '#' :: words

/-- A text may stand at the end of a line: blanks, and possibly a comment. -/
def IsLineRest (text : List Char) : Prop :=
  ∃ blanks comment, IsBlankText blanks ∧ (comment = [] ∨ IsComment comment)
    ∧ text = blanks ++ comment

/-- A text is a line break. -/
def IsNewline (text : List Char) : Prop := text = ['\n'] ∨ text = ['\r', '\n']

/-- A text may stand between the parts of an array: blanks, line breaks and comments. -/
inductive IsFiller : List Char → Prop
  | blank {text : List Char} (h : IsBlankText text) : IsFiller text
  | line {first newline text : List Char} (hfirst : IsLineRest first)
      (hnewline : IsNewline newline) (h : IsFiller text) : IsFiller (first ++ newline ++ text)

/-! ## Strings -/

/-- The letters of short escapes and the characters they stand for. -/
def shortEscapes : List (Char × Char) :=
  [('b', '\x08'), ('t', '\t'), ('n', '\n'), ('f', '\x0c'), ('r', '\r'), ('"', '"'), ('\\', '\\')]

/-- The ways to write a character of a basic string: as itself unless it is a control, a quote
or a backslash; with a short escape; or with four or eight hexadecimal digits. -/
inductive SpellsChar (c : Char) : List Char → Prop
  | literal (hordinary : IsOrdinary c) (hquote : c ≠ '"') (hbackslash : c ≠ '\\') :
      SpellsChar c [c]
  | short (letter : Char) (h : (letter, c) ∈ shortEscapes) : SpellsChar c ['\\', letter]
  | four (digits : List Char) (h : SpellsUnit c.toNat digits) :
      SpellsChar c ('\\' :: 'u' :: digits)
  | eight (high low : Nat) (digits digits' : List Char) (hhigh : SpellsUnit high digits)
      (hlow : SpellsUnit low digits') (hc : c.toNat = high * 0x10000 + low) :
      SpellsChar c ('\\' :: 'U' :: digits ++ digits')

/-- A text is a basic string. -/
def SpellsString (s : String) (text : List Char) : Prop :=
  ∃ pieces, List.Forall₂ SpellsChar s.toList pieces ∧ text = '"' :: pieces.flatten ++ ['"']

/-! ## Integers -/

/-- A text goes on with some digits in order, each perhaps with an underscore before it. -/
inductive SpellsMore : List Char → List Char → Prop
  | nil : SpellsMore [] []
  | digit {digits text : List Char} (c : Char) (h : SpellsMore digits text) :
      SpellsMore (c :: digits) (c :: text)
  | underscore {digits text : List Char} (c : Char) (h : SpellsMore digits text) :
      SpellsMore (c :: digits) ('_' :: c :: text)

/-- A text has some digits in order, with single underscores between some of them. -/
def SpellsRun (digits text : List Char) : Prop :=
  ∃ c digits' text', SpellsMore digits' text' ∧ digits = c :: digits' ∧ text = c :: text'

/-- A text is a decimal number without sign and needless zeros. -/
def SpellsNumeral (n : Nat) (text : List Char) : Prop :=
  ∃ digits, SpellsRun digits text ∧ Decimal.IsPlain digits ∧ Nat.ofDigitChars 10 digits 0 = n

/-- The marks of bases other than ten. -/
def bases : List (Char × Nat) := [('x', 16), ('o', 8), ('b', 2)]

/-- A text is an integer: in decimal and possibly with a sign, or in another base after its
mark. -/
inductive SpellsInteger : Int → List Char → Prop
  | unsigned (n : Nat) (text : List Char) (h : SpellsNumeral n text) : SpellsInteger n text
  | positive (n : Nat) (text : List Char) (h : SpellsNumeral n text) :
      SpellsInteger n ('+' :: text)
  | negative (n : Nat) (text : List Char) (h : SpellsNumeral n text) :
      SpellsInteger (-n) ('-' :: text)
  | based (mark : Char) (base : Nat) (hbase : (mark, base) ∈ bases) (values : List Nat)
      (digits text : List Char) (hvalues : ∀ d ∈ values, d < base)
      (hdigits : List.Forall₂ IsHexDigit values digits) (hrun : SpellsRun digits text) :
      SpellsInteger (values.foldl (fun n d => n * base + d) 0 : Nat) ('0' :: mark :: text)

/-! ## Values -/

/-- A text is the inner part of an array of strings: commas stand between the items, and
possibly one behind the last. -/
inductive SpellsItems : List String → List Char → Prop
  | nil {text : List Char} (h : IsFiller text) : SpellsItems [] text
  | last {s : String} {before item after : List Char} (hbefore : IsFiller before)
      (hitem : SpellsString s item) (hafter : IsFiller after) :
      SpellsItems [s] (before ++ item ++ after)
  | cons {s : String} {items : List String} {before item after later : List Char}
      (hbefore : IsFiller before) (hitem : SpellsString s item) (hafter : IsFiller after)
      (hlater : SpellsItems items later) :
      SpellsItems (s :: items) (before ++ item ++ after ++ ',' :: later)

/-- A text is a value. -/
inductive SpellsValue : Value → List Char → Prop
  | string {s : String} {text : List Char} (h : SpellsString s text) :
      SpellsValue (.string s) text
  | integer {n : Int} {text : List Char} (h : SpellsInteger n text) :
      SpellsValue (.integer n) text
  | boolean (b : Bool) :
      SpellsValue (.boolean b) (if b then "true".toList else "false".toList)
  | array {items : List String} {inner : List Char} (h : SpellsItems items inner) :
      SpellsValue (.array (items.map .string)) ('[' :: inner ++ [']'])

/-! ## Documents -/

/-- A text is a key: bare, or in quotes of either kind. -/
inductive SpellsKey (key : String) : List Char → Prop
  | bare (hne : key.toList ≠ [])
      (h : ∀ c ∈ key.toList, c.isAlphanum = true ∨ c = '-' ∨ c = '_') : SpellsKey key key.toList
  | basic (text : List Char) (h : SpellsString key text) : SpellsKey key text
  | literal (h : ∀ c ∈ key.toList, IsOrdinary c ∧ c ≠ '\x27') :
      SpellsKey key ('\x27' :: key.toList ++ ['\x27'])

/-- A text is an assignment, without blanks around it. -/
def SpellsAssignment (entry : String × Value) (text : List Char) : Prop :=
  ∃ key before after value, SpellsKey entry.1 key ∧ IsBlankText before ∧ IsBlankText after
    ∧ SpellsValue entry.2 value ∧ text = key ++ before ++ '=' :: (after ++ value)

/-- A text is a line without its line break, with the assignment in it if there is one. -/
inductive SpellsLine : Option (String × Value) → List Char → Prop
  | blank {text : List Char} (h : IsLineRest text) : SpellsLine none text
  | assignment {entry : String × Value} {indent text rest : List Char}
      (hindent : IsBlankText indent) (h : SpellsAssignment entry text) (hrest : IsLineRest rest) :
      SpellsLine (some entry) (indent ++ text ++ rest)

/-- A text consists of lines with these assignments in order. -/
inductive SpellsLines : List (String × Value) → List Char → Prop
  | last {entry : Option (String × Value)} {line : List Char} (h : SpellsLine entry line) :
      SpellsLines entry.toList line
  | cons {entry : Option (String × Value)} {entries : List (String × Value)}
      {line newline text : List Char} (hline : SpellsLine entry line)
      (hnewline : IsNewline newline) (h : SpellsLines entries text) :
      SpellsLines (entry.toList ++ entries) (line ++ newline ++ text)

/-- A text is a document with these assignments in order. A byte order mark may stand in front
of it. -/
def SpellsDocument (entries : List (String × Value)) (text : List Char) : Prop :=
  SpellsLines entries text ∨ ∃ lines, SpellsLines entries lines ∧ text = '\ufeff' :: lines

/-! ## Spellings that exist

Whatever the characters of a string are, it can be spelled by their code points, and a number by
its decimal digits.
-/

theorem exists_spellsUnit {n : Nat} (h : n < 0x10000) : ∃ digits, SpellsUnit n digits := by
  have hdigit : ∀ d < 16, ∃ c, IsHexDigit d c := by
    intro d hd
    have hlength : Json.lowerDigits.length = 16 := rfl
    exact ⟨_, .inl (List.getElem?_eq_getElem (by rwa [hlength]))⟩
  obtain ⟨a, ha⟩ := hdigit (n / 4096) (by omega)
  obtain ⟨b, hb⟩ := hdigit (n / 256 % 16) (by omega)
  obtain ⟨c, hc⟩ := hdigit (n / 16 % 16) (by omega)
  obtain ⟨d, hd⟩ := hdigit (n % 16) (by omega)
  exact ⟨_, _, _, _, _, a, b, c, d, ha, hb, hc, hd, by omega, rfl⟩

theorem exists_spellsString (s : String) : ∃ text, SpellsString s text := by
  have hchar : ∀ c : Char, ∃ piece, SpellsChar c piece := by
    intro c
    have hlt : c.toNat < 0x110000 := by
      rcases c.valid with h | ⟨-, h⟩
      · exact Nat.lt_trans h (by decide)
      · exact h
    obtain ⟨high, hhigh⟩ := exists_spellsUnit (n := c.toNat / 0x10000) (by omega)
    obtain ⟨low, hlow⟩ := exists_spellsUnit (n := c.toNat % 0x10000) (by omega)
    exact ⟨_, .eight _ _ high low hhigh hlow (by omega)⟩
  have hpieces : ∃ pieces, List.Forall₂ SpellsChar s.toList pieces := by
    induction s.toList with
    | nil => exact ⟨[], .nil⟩
    | cons c characters ih =>
        obtain ⟨piece, hpiece⟩ := hchar c
        obtain ⟨pieces, hpieces⟩ := ih
        exact ⟨piece :: pieces, .cons hpiece hpieces⟩
  obtain ⟨pieces, hpieces⟩ := hpieces
  exact ⟨_, pieces, hpieces, rfl⟩

theorem spellsNumeral_toDigits (n : Nat) : SpellsNumeral n (Nat.toDigits 10 n) := by
  have hmore : ∀ digits, SpellsMore digits digits := by
    intro digits
    induction digits with
    | nil => exact .nil
    | cons c digits ih => exact .digit c ih
  refine ⟨Nat.toDigits 10 n, ?_, Decimal.isPlain_toDigits n, Nat.ofDigitChars_ten_toDigits⟩
  obtain ⟨c, digits, hdigits⟩ := List.exists_cons_of_ne_nil (Nat.toDigits_ne_nil (n := n) (b := 10))
  exact ⟨c, digits, digits, hmore digits, hdigits, hdigits⟩

theorem exists_spellsItems (items : List String) : ∃ text, SpellsItems items text := by
  have hempty : IsFiller [] := .blank (List.forall_mem_nil _)
  induction items with
  | nil => exact ⟨[], .nil hempty⟩
  | cons s items ih =>
      obtain ⟨item, hitem⟩ := exists_spellsString s
      obtain ⟨later, hlater⟩ := ih
      exact ⟨_, .cons hempty hitem hempty hlater⟩

/-- Strings that stand for themselves need nothing but quotes. -/
theorem spellsString_literal {s : String}
    (h : ∀ c ∈ s.toList, IsOrdinary c ∧ c ≠ '"' ∧ c ≠ '\\') :
    SpellsString s ('"' :: s.toList ++ ['"']) := by
  refine ⟨s.toList.map fun c => [c], ?_, ?_⟩
  · rw [List.forall₂_map_right_iff, List.forall₂_same]
    exact fun c hc => .literal (h c hc).1 (h c hc).2.1 (h c hc).2.2
  · rw [← List.flatMap_def, List.flatMap_singleton']

/-- A line with a bare key, and one blank on each side of the equals sign. -/
theorem spellsLine_bare {key : String} {v : Value} {value : List Char} (hne : key.toList ≠ [])
    (hkey : key.toList.all (fun c => c.isAlphanum || c == '-' || c == '_') = true)
    (h : SpellsValue v value) :
    SpellsLine (some (key, v)) (key.toList ++ ' ' :: '=' :: ' ' :: value) := by
  have hblank : IsBlankText [' '] := by simp [IsBlankText]
  have hassignment : SpellsAssignment (key, v) (key.toList ++ ' ' :: '=' :: ' ' :: value) :=
    ⟨_, _, _, _, .bare hne (by simpa [or_assoc] using hkey), hblank, hblank, h, by simp⟩
  have hrest : IsLineRest [] := ⟨[], [], List.forall_mem_nil _, .inl rfl, rfl⟩
  have hline := SpellsLine.assignment (List.forall_mem_nil _ : IsBlankText []) hassignment hrest
  rwa [List.nil_append, List.append_nil] at hline

end Linkage.Toml
