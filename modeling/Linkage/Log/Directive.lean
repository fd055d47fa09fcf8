import Linkage.Numerals
import Linkage.Pattern.Reader
import Linkage.Pattern.Search
import Linkage.Text.Utf8

set_option autoImplicit false

/-! # Directives of a filter

A directive says which events it is about and how urgent they have to be:

    origin[step{field=value}]=level

Every part may be left out. What stands alone is a level if it can be, else an origin, and
without a level everything is let through. A value is a pattern, and the field's text has to
match it up to its end.

Blanks around a directive are skipped when its marks are looked for. The places of the marks
are counted from the first character that is no blank, in bytes, but the parts between them
are cut out of the text with the blanks: after a blank the parts are shifted. A place may then
lie inside a character, and such a text cannot be cut.
-/

namespace Linkage

/-- Why a text is no filter. -/
inductive FilterFault where
  | malformed
  /-- A part would begin or end inside a character. -/
  | insideCharacter
deriving DecidableEq

/-- What a directive asks of the value of a field. -/
inductive Condition where
  /-- To be a truth value or a number, which no text is. -/
  | constant
  /-- To match a pattern, given with its text. -/
  | pattern (text : List Char) (p : Pattern)
deriving DecidableEq

/-- A field that a directive asks for, and what it asks of its value. -/
structure FieldCondition where
  name : String
  value : Option Condition
deriving DecidableEq

/-- A directive. Its rank is that of the chattiest level that it lets through. -/
structure Directive where
  origin : Option (List Char)
  step : Option (List Char)
  field : Option FieldCondition
  rank : Nat
deriving DecidableEq

/-! ## Conditions on fields -/

namespace Condition

/-- Whether a text is nothing or an exponent. -/
def isExponent : List Char → Bool
  | [] => true
  | e :: cs =>
      let digits := match cs with
        | '+' :: digits => digits
        | '-' :: digits => digits
        | digits => digits
      (e == 'e' || e == 'E') && (Decimal.natural? digits).isSome

/-- Whether a text spells a number without a sign: digits, with a point among them or beside
them, and an exponent; or one of the words for what is no finite number. -/
def isMagnitude (cs : List Char) : Bool :=
  let whole := cs.takeWhile Char.isDigit
  let rest := cs.drop whole.length
  let (fraction, rest) := match rest with
    | '.' :: rest => (rest.takeWhile Char.isDigit, rest.dropWhile Char.isDigit)
    | rest => ([], rest)
  whole ++ fraction != [] && isExponent rest
    || ["inf", "infinity", "nan"].contains (String.ofList (cs.map Char.toLower))

/-- Whether a text spells a truth value or a number. -/
def isConstant (text : List Char) : Bool :=
  text == "true".toList || text == "false".toList ||
    match text with
    | '+' :: cs => isMagnitude cs
    | '-' :: cs => isMagnitude cs
    | cs => isMagnitude cs

/-- Reads a condition. -/
def parse? (text : List Char) : Option Condition :=
  if isConstant text then some constant else (Pattern.parse? text).map (pattern text)

/-- Whether a text meets a condition. -/
def holds : Condition → String → Bool
  | constant, _ => false
  | pattern _ p, text => p.matchesEnd text.toList

end Condition

/-- Reads the field that a directive asks for: a name, and a value after an equals sign.
What follows another equals sign does not count. -/
def FieldCondition.parse? (text : List Char) : Option FieldCondition :=
  let name := text.takeWhile (· != '=')
  match text.drop name.length with
  | [] => if name == [] then none else some ⟨String.ofList name, none⟩
  | _ :: rest =>
      (Condition.parse? (rest.takeWhile (· != '='))).map fun value =>
        ⟨String.ofList name, some value⟩

namespace Directive

/-! ## Reading -/

/-- The rank of a level by its number or by its name in any case. -/
def rank? (name : List Char) : Option Nat :=
  match (Decimal.unsigned? name).filter (· ≤ 5) with
  | some rank => some rank
  | none =>
      [("off", 0), ("error", 1), ("warn", 2), ("info", 3), ("debug", 4), ("trace", 5)].lookup
        (String.ofList (name.map Char.toLower))

/-- The rank after an equals sign; an empty one lets everything through. -/
def rankAfter? (name : List Char) : Option Nat := if name == [] then some 5 else rank? name

/-- Whether a directive without a step may start with a character. -/
def isStart (c : Char) : Bool :=
  c == '-' || c == ':' || c == '_' || Alphanumeric.isAlphanumeric c

/-- A part of a text that has to be there. -/
def need {α : Type} (fault : FilterFault) : Option α → Except FilterFault α
  | some a => .ok a
  | none => .error fault

/-- The part of a text between two places. -/
def cut (text : List Char) (first last : Nat) : Except FilterFault (List Char) :=
  need .insideCharacter (Utf8.slice? first last text)

/-- The rank of the level that begins at a place and goes up to the end of the text. -/
def rankFrom (text : List Char) (place : Nat) : Except FilterFault Nat := do
  let name ← cut text place (Utf8.size text)
  need .malformed (rankAfter? name)

/-- The end of a directive after the bracket of its step, which ends at a place. -/
def rankAtEnd (text : List Char) (place : Nat) : List Char → Except FilterFault Nat
  | [] => .ok 5
  | '=' :: _ => rankFrom text (place + 1)
  | _ => .error .malformed

/-- The field in a step, which begins at a place, and what follows it. -/
def readField (text : List Char) (origin step : Option (List Char)) (place : Nat)
    (rest : List Char) : Except FilterFault Directive := do
  let content := rest.takeWhile (· != '\x7d')
  let last := place + Utf8.size content
  match rest.drop content.length with
  | _ :: more => do
      let field ← need .malformed (FieldCondition.parse? (← cut text place last))
      match more with
      | ']' :: more => return ⟨origin, step, some field, ← rankAtEnd text (last + 2) more⟩
      | _ => throw .malformed
  | [] => throw .malformed

/-- The step, which begins at a place, and what follows it. -/
def readStep (text : List Char) (origin : Option (List Char)) (place : Nat)
    (rest : List Char) : Except FilterFault Directive := do
  let name := rest.takeWhile fun c => c != ']' && c != '\x7b'
  let last := place + Utf8.size name
  match rest.drop name.length with
  | ']' :: more => do
      let step ← cut text place last
      return ⟨origin, some step, none, ← rankAtEnd text (last + 1) more⟩
  | _ :: more => do
      let step ← cut text place last
      readField text origin (if step == [] then none else some step) (last + 1) more
  | [] => throw .malformed

/-- Reads a directive. -/
def parse (text : List Char) : Except FilterFault Directive := do
  let body := Blank.trim text
  let name := body.takeWhile fun c => c != '=' && c != '['
  match body, body.drop name.length with
  | [], _ => throw .malformed
  | '[' :: rest, _ => readStep text none 1 rest
  | c :: _, marked =>
      if !isStart c then throw .malformed
      let last := Utf8.size name
      match marked with
      | '[' :: rest => do readStep text (some (← cut text 0 last)) (last + 1) rest
      | '=' :: _ => do
          return ⟨some (← cut text 0 last), none, none, ← rankFrom text (last + 1)⟩
      | _ =>
          match rank? text with
          | some rank => return ⟨none, none, none, rank⟩
          | none => return ⟨some text, none, none, 5⟩

/-! ## What a directive is about -/

/-- What a directive is about. A later directive about the same replaces it. -/
def scope (d : Directive) : Option (List Char) × Option (List Char) × Option FieldCondition :=
  (d.origin, d.step, d.field)

/-- Whether a directive is about an origin. -/
def covers (d : Directive) (origin : String) : Bool :=
  (d.origin.getD []).isPrefixOf origin.toList

/-- How narrow a directive is: one with an origin counts more than one without. -/
def weight (d : Directive) : Nat := (d.origin.map fun name => name.length + 1).getD 0

/-- Whether the first of two directives is at least as narrow as the second: it has the longer
origin, or at equal length it asks for a field and the other does not, or for a field whose
name comes later. -/
def isNarrow (d other : Directive) : Bool :=
  other.weight < d.weight || other.weight == d.weight &&
    match other.field, d.field with
    | none, _ => true
    | some _, none => false
    | some f, some g => !decide (g.name < f.name)

end Directive

end Linkage
