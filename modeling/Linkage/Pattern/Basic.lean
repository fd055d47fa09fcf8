import Linkage.Text.Classes

set_option autoImplicit false

/-! # Patterns

What a pattern allows at one place is a set of characters, built from ranges of code points
by the operations on sets. The named sets are about ASCII only.

A pattern describes pieces of text. Where it can match in several ways, these are ranked: of
two alternatives the first one is preferred, and repeating goes on as long as it can
(`greedy`) or stops as soon as it can.
-/

namespace Linkage

/-! ## Sets of characters -/

/-- A set of characters. -/
inductive Charset where
  | ranges (rs : List (Nat × Nat))
  | union (s t : Charset)
  | intersection (s t : Charset)
  | difference (s t : Charset)
  | symmetric (s t : Charset)
  | complement (s : Charset)
  /-- The set with the other case of each of its ASCII letters. -/
  | anyCase (s : Charset)
deriving DecidableEq

namespace Charset

/-- Whether a character belongs to a set. -/
def mem : Charset → Char → Bool
  | ranges rs, c => liesIn rs c
  | union s t, c => s.mem c || t.mem c
  | intersection s t, c => s.mem c && t.mem c
  | difference s t, c => s.mem c && !t.mem c
  | symmetric s t, c => s.mem c != t.mem c
  | complement s, c => !s.mem c
  | anyCase s, c => s.mem c || s.mem c.toLower || s.mem c.toUpper

/-- The set without characters. -/
def empty : Charset := ranges []

/-- The characters between two, ends included. -/
def between (first last : Char) : Charset := ranges [(first.toNat, last.toNat)]

/-- The set of one character. -/
def single (c : Char) : Charset := between c c

/-- The sets that have a name. -/
def named : List (String × Charset) :=
  [("alnum", ranges [(0x30, 0x39), (0x41, 0x5A), (0x61, 0x7A)]),
   ("alpha", ranges [(0x41, 0x5A), (0x61, 0x7A)]),
   ("ascii", ranges [(0, 0x7F)]),
   ("blank", ranges [(0x9, 0x9), (0x20, 0x20)]),
   ("cntrl", ranges [(0, 0x1F), (0x7F, 0x7F)]),
   ("digit", ranges [(0x30, 0x39)]),
   ("graph", ranges [(0x21, 0x7E)]),
   ("lower", ranges [(0x61, 0x7A)]),
   ("print", ranges [(0x20, 0x7E)]),
   ("punct", ranges [(0x21, 0x2F), (0x3A, 0x40), (0x5B, 0x60), (0x7B, 0x7E)]),
   ("space", ranges [(0x9, 0xD), (0x20, 0x20)]),
   ("upper", ranges [(0x41, 0x5A)]),
   ("word", ranges [(0x30, 0x39), (0x41, 0x5A), (0x5F, 0x5F), (0x61, 0x7A)]),
   ("xdigit", ranges [(0x30, 0x39), (0x41, 0x46), (0x61, 0x66)])]

/-- The set with a name, empty if there is none. -/
def ofName (name : String) : Charset := (named.lookup name).getD empty

end Charset

/-! ## Pieces of text -/

/-- Conditions on what lies around a place. Words are of ASCII letters, digits and underscores. -/
inductive Anchor where
  | textStart
  | textEnd
  | lineStart
  | lineEnd
  /-- As `lineStart`, where a carriage return ends a line too, alone or with a line feed. -/
  | breakStart
  /-- As `lineEnd`, where a carriage return ends a line too, alone or with a line feed. -/
  | breakEnd
  | wordEdge
  | noWordEdge
  | wordStart
  | wordEnd
deriving DecidableEq

/-- A description of pieces of text. -/
inductive Pattern where
  | empty
  | char (s : Charset)
  | anchor (a : Anchor)
  | sequence (p q : Pattern)
  | choice (p q : Pattern)
  | optional (greedy : Bool) (p : Pattern)
  /-- One piece or more, one after the other. -/
  | repeated (greedy : Bool) (p : Pattern)
  /-- Any number of pieces, one after the other, none of them empty. -/
  | loop (greedy : Bool) (p : Pattern)
deriving DecidableEq

namespace Pattern

/-- Whether a pattern may match without taking a character. -/
def mayBeEmpty : Pattern → Bool
  | empty | anchor _ | optional _ _ | loop _ _ => true
  | char _ => false
  | sequence p q => p.mayBeEmpty && q.mayBeEmpty
  | choice p q => p.mayBeEmpty || q.mayBeEmpty
  | repeated _ p => p.mayBeEmpty

/-- Any number of pieces, one after the other. If a piece may be empty, the first one is taken
apart from the others, so that it is preferred where it should be. -/
def anyNumber (greedy : Bool) (p : Pattern) : Pattern :=
  if p.mayBeEmpty then optional greedy (repeated greedy p) else loop greedy p

end Pattern

/-- A place in a text: the character before it and the one after it. -/
structure Place where
  before : Option Char
  after : Option Char

namespace Place

/-- Whether a character is part of a word. -/
def isWordChar (c : Char) : Bool := (Charset.ofName "word").mem c

/-- Whether a condition holds at a place. -/
def satisfies (x : Place) : Anchor → Bool
  | .textStart => x.before.isNone
  | .textEnd => x.after.isNone
  | .lineStart => x.before.all (· == '\n')
  | .lineEnd => x.after.all (· == '\n')
  | .breakStart => x.before.all fun c => c == '\n' || c == '\r' && x.after != some '\n'
  | .breakEnd => x.after.all fun c => c == '\r' || c == '\n' && x.before != some '\r'
  | .wordEdge => x.before.any isWordChar != x.after.any isWordChar
  | .noWordEdge => x.before.any isWordChar == x.after.any isWordChar
  | .wordStart => !x.before.any isWordChar && x.after.any isWordChar
  | .wordEnd => x.before.any isWordChar && !x.after.any isWordChar

end Place

end Linkage
