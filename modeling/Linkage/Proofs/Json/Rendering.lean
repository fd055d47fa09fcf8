import Linkage.Json.Reader
import Linkage.Proofs.Json.Numbers
import Mathlib.Tactic.IntervalCases

set_option autoImplicit false

/-! # Texts that render a value

A value has many texts: there may be blanks between the tokens, the characters of a string
may stand for themselves or be escaped in several ways, and a number may be spelled in several
ways too. `Json.Renders` says which texts these are. Members are rendered in the order that
they have in the value. What `print` writes of strings and integers, and of the lists and
objects made of them, is one of these texts.
-/

namespace Linkage.Json

/-! ## Strings -/

/-- The hexadecimal digits in lower case. -/
def lowerDigits : List Char :=
  ['0', '1', '2', '3', '4', '5', '6', '7', '8', '9', 'a', 'b', 'c', 'd', 'e', 'f']

/-- The hexadecimal digits in upper case. -/
def upperDigits : List Char :=
  ['0', '1', '2', '3', '4', '5', '6', '7', '8', '9', 'A', 'B', 'C', 'D', 'E', 'F']

/-- A character is the hexadecimal digit of a number below 16, in either case. -/
def IsHexDigit (d : Nat) (c : Char) : Prop :=
  lowerDigits[d]? = some c ∨ upperDigits[d]? = some c

/-- Four hexadecimal digits spell a number. -/
def SpellsUnit (n : Nat) (digits : List Char) : Prop :=
  ∃ d₁ d₂ d₃ d₄ c₁ c₂ c₃ c₄, IsHexDigit d₁ c₁ ∧ IsHexDigit d₂ c₂ ∧ IsHexDigit d₃ c₃
    ∧ IsHexDigit d₄ c₄ ∧ n = ((d₁ * 16 + d₂) * 16 + d₃) * 16 + d₄ ∧ digits = [c₁, c₂, c₃, c₄]

/-- The letters of short escapes and the characters they stand for. -/
def shortEscapes : List (Char × Char) :=
  [('"', '"'), ('\\', '\\'), ('/', '/'), ('b', '\x08'), ('f', '\x0c'), ('n', '\n'), ('r', '\r'),
   ('t', '\t')]

/-- The ways to write a character of a string: as itself unless it is a control, a quote or a
backslash; with a short escape; or with the hexadecimal digits of its UTF-16 units. -/
inductive SpellsChar (c : Char) : List Char → Prop
  | literal (hcontrol : 0x20 ≤ c.toNat) (hquote : c ≠ '"') (hbackslash : c ≠ '\\') :
      SpellsChar c [c]
  | short (letter : Char) (h : (letter, c) ∈ shortEscapes) : SpellsChar c ['\\', letter]
  | unit (digits : List Char) (h : SpellsUnit c.toNat digits) : SpellsChar c ('\\' :: 'u' :: digits)
  | pair (first second : Nat) (digits digits' : List Char) (hfirst : SpellsUnit first digits)
      (hsecond : SpellsUnit second digits') (hlead : 0xD800 ≤ first ∧ first < 0xDC00)
      (htrail : 0xDC00 ≤ second ∧ second < 0xE000)
      (hc : c.toNat = 0x10000 + (first - 0xD800) * 0x400 + (second - 0xDC00)) :
      SpellsChar c ('\\' :: 'u' :: digits ++ '\\' :: 'u' :: digits')

/-- A text is a string in quotes. -/
def RendersString (s : String) (text : List Char) : Prop :=
  ∃ pieces, List.Forall₂ SpellsChar s.toList pieces ∧ text = '"' :: pieces.flatten ++ ['"']

/-! ## Values -/

/-- There is nothing but blanks in a text. -/
def IsBlankText (text : List Char) : Prop := ∀ c ∈ text, isBlank c = true

/-- A text has blanks around a part that fulfils a condition. -/
def Padded (condition : List Char → Prop) (text : List Char) : Prop :=
  ∃ before core after, IsBlankText before ∧ condition core ∧ IsBlankText after
    ∧ text = before ++ core ++ after

/-- A text is a member of an object, with a condition on the text of the value. -/
def RendersMember (key : String) (condition : List Char → Prop) (text : List Char) : Prop :=
  ∃ first second, Padded (RendersString key) first ∧ Padded condition second
    ∧ text = first ++ ':' :: second

mutual

/-- A text renders a value, without blanks around it. -/
def Renders : Json → List Char → Prop
  | null => fun text => text = "null".toList
  | boolean true => fun text => text = "true".toList
  | boolean false => fun text => text = "false".toList
  | number n => RendersNumber n
  | string s => RendersString s
  | array items closed => fun text =>
      closed = true ∧ ∃ inner, RendersItems items inner ∧ text = '[' :: inner ++ [']']
  | object members closed => fun text =>
      closed = true ∧ ∃ inner, RendersMembers members inner ∧ text = '\x7b' :: inner ++ ['\x7d']
  | malformed => fun _ => False

/-- A text is the inner part of an array. -/
def RendersItems : List Json → List Char → Prop
  | [] => IsBlankText
  | [item] => Padded (Renders item)
  | item :: rest => fun text => ∃ first later, Padded (Renders item) first
      ∧ RendersItems rest later ∧ text = first ++ ',' :: later

/-- A text is the inner part of an object. -/
def RendersMembers : List (String × Json) → List Char → Prop
  | [] => IsBlankText
  | [(key, value)] => RendersMember key (Renders value)
  | (key, value) :: rest => fun text => ∃ first later, RendersMember key (Renders value) first
      ∧ RendersMembers rest later ∧ text = first ++ ',' :: later

end

/-- A text renders a value, with blanks around it. -/
def RendersText (value : Json) : List Char → Prop := Padded (Renders value)

/-! ## Printed texts -/

theorem Padded.of_core {condition : List Char → Prop} {core : List Char} (h : condition core) :
    Padded condition core :=
  ⟨[], core, [], by simp [IsBlankText], h, by simp [IsBlankText], by simp⟩

theorem spellsUnit_hex4 {n : Nat} (h : n < 32) : SpellsUnit n (hex4 n) := by
  have hdigit : ∀ d < 16, IsHexDigit d (lowerDigits.getD d '0') := by
    intro d hd
    left
    interval_cases d <;> rfl
  have hhex : hex4 n
      = ['0', '0', lowerDigits.getD (n / 16) '0', lowerDigits.getD (n % 16) '0'] := by
    interval_cases n <;> rfl
  exact ⟨0, 0, n / 16, n % 16, _, _, _, _, hdigit 0 (by omega), hdigit 0 (by omega),
    hdigit _ (by omega), hdigit _ (by omega), by omega, hhex⟩

/-- Printed characters are spelled in one of the ways. -/
theorem spellsChar_escapeChar (c : Char) : SpellsChar c (escapeChar c) := by
  unfold escapeChar
  split_ifs with hquote h8 h9 h10 h12 h13 hcontrol
  · rw [Bool.or_eq_true, decide_eq_true_iff, decide_eq_true_iff] at hquote
    rcases hquote with rfl | rfl
    · exact .short '"' (by decide)
    · exact .short '\\' (by decide)
  · exact .short 'b' (by rw [h8]; decide)
  · exact .short 't' (by rw [h9]; decide)
  · exact .short 'n' (by rw [h10]; decide)
  · exact .short 'f' (by rw [h12]; decide)
  · exact .short 'r' (by rw [h13]; decide)
  · exact .unit _ (spellsUnit_hex4 hcontrol)
  · rw [Bool.or_eq_true, decide_eq_true_iff, decide_eq_true_iff, not_or] at hquote
    exact .literal (Nat.not_lt.1 hcontrol) hquote.1 hquote.2

theorem rendersString_print (s : String) : RendersString s (printString s) := by
  refine ⟨s.toList.map escapeChar, ?_, by rw [printString, List.flatMap_def]⟩
  rw [List.forall₂_map_right_iff, List.forall₂_same]
  exact fun c _ => spellsChar_escapeChar c

/-- Integers that fit 64 bits are printed in one of their spellings. -/
theorem renders_print_integer {value : Int} (hlow : -(UInt64.size / 2 : Int) ≤ value)
    (hhigh : value < UInt64.size) :
    Renders (number (.integer value)) (print (number (.integer value))) :=
  rendersNumber_integer hlow hhigh

/-- Printed items render an array if each of them renders its value. -/
theorem rendersItems_print {items : List Json} (h : ∀ item ∈ items, Renders item (print item)) :
    RendersItems items (printItems items) := by
  induction items with
  | nil => simp [RendersItems, printItems, IsBlankText]
  | cons item rest ih =>
      obtain ⟨hitem, hrest⟩ := List.forall_mem_cons.1 h
      cases rest with
      | nil => exact Padded.of_core hitem
      | cons next rest => exact ⟨print item, _, Padded.of_core hitem, ih hrest, rfl⟩

/-- Printed members render an object if each of the values is rendered. -/
theorem rendersMembers_print {members : List (String × Json)}
    (h : ∀ member ∈ members, Renders member.2 (print member.2)) :
    RendersMembers members (printMembers members) := by
  induction members with
  | nil => simp [RendersMembers, printMembers, IsBlankText]
  | cons member rest ih =>
      obtain ⟨key, value⟩ := member
      obtain ⟨hvalue, hrest⟩ := List.forall_mem_cons.1 h
      have hmember : RendersMember key (Renders value) (printString key ++ ':' :: print value) :=
        ⟨printString key, print value, Padded.of_core (rendersString_print key),
          Padded.of_core hvalue, rfl⟩
      cases rest with
      | nil => exact hmember
      | cons next rest =>
          refine ⟨_, _, hmember, ih hrest, ?_⟩
          simp [printMembers]

theorem renders_print_ofItems {items : List Json} (h : ∀ item ∈ items, Renders item (print item)) :
    Renders (ofItems items) (print (ofItems items)) :=
  ⟨rfl, printItems items, rendersItems_print h, rfl⟩

theorem renders_print_ofMembers {members : List (String × Json)}
    (h : ∀ member ∈ members, Renders member.2 (print member.2)) :
    Renders (ofMembers members) (print (ofMembers members)) :=
  ⟨rfl, printMembers members, rendersMembers_print h, rfl⟩

end Linkage.Json
