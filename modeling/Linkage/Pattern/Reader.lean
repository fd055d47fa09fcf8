import Linkage.Pattern.Basic
import Linkage.Text.Classes
import Linkage.Numerals

set_option autoImplicit false

/-! # Reading patterns

The text of a pattern is read from left to right. Characters stand for themselves, apart from

    .  [ ]  ( )  |  *  +  ?  ^  $  \

and an opening brace, which would have to close a count and never does. A group may set
options for what is in it, or for what follows up to the end of the group around it.

Patterns are about characters; with the option `u` off they are about bytes, and then what
could match a byte that is no ASCII character is refused. The sets of digits, blanks and word
characters, word edges, and letters in either case exist for ASCII only, so they need that
option off.
-/

namespace Linkage.Pattern

/-! ## Options -/

/-- The options in force at a place of the pattern. -/
structure Options where
  /-- Letters match in either case. -/
  anyCase : Bool
  /-- Line ends count as ends for `^` and `$`. -/
  multiLine : Bool
  /-- The dot matches line ends too. -/
  dotAll : Bool
  /-- Repeating stops as soon as it can, and goes on if marked. -/
  reluctant : Bool
  /-- The pattern is about characters and not about bytes. -/
  unicode : Bool
  /-- Carriage returns count as line ends. -/
  carriage : Bool
  /-- Blanks in the pattern are skipped, and comments. -/
  spaced : Bool

namespace Options

/-- The options at the start. -/
def initial : Options := ⟨false, false, false, false, true, false, false⟩

/-- Sets the option with a letter. -/
def set? (o : Options) (value : Bool) : Char → Option Options
  | 'i' => some { o with anyCase := value }
  | 'm' => some { o with multiLine := value }
  | 's' => some { o with dotAll := value }
  | 'U' => some { o with reluctant := value }
  | 'u' => some { o with unicode := value }
  | 'R' => some { o with carriage := value }
  | 'x' => some { o with spaced := value }
  | _ => none

/-- Sets options by their letters; those after a minus sign are put off. -/
def setAll? : Bool → Options → List Char → Option Options
  | _, o, [] => some o
  | _, o, '-' :: letters => setAll? false o letters
  | value, o, c :: letters => do setAll? value (← o.set? value c) letters

/-- Reads the letters of options. None occurs twice, and a minus sign is not the last one. -/
def read? (o : Options) (letters : List Char) : Option Options :=
  if letters.eraseDups.length = letters.length && letters.getLast? != some '-' then
    setAll? true o letters
  else none

end Options

/-- The text after blanks and comments; `inComment` says that it begins in a comment. -/
def skipBlanks : Bool → List Char → List Char
  | _, [] => []
  | true, c :: cs => skipBlanks (c != '\n') cs
  | false, c :: cs =>
      if Blank.isBlank c then skipBlanks false cs
      else if c == '#' then skipBlanks true cs
      else c :: cs

/-- The text from the next character that counts. -/
def skip (o : Options) (cs : List Char) : List Char := if o.spaced then skipBlanks false cs else cs

/-! ## Escapes -/

/-- What a backslash and the characters after it stand for. -/
inductive Atom where
  /-- A character; `byte` says that it was written as two hexadecimal digits. -/
  | char (c : Char) (byte : Bool)
  | set (s : Charset)
  | anchor (a : Anchor)

/-- A set that is known for ASCII only. -/
def asciiSet (o : Options) (name : String) : Option Atom :=
  if o.unicode then none else some (.set (Charset.ofName name))

/-- An anchor that is known for ASCII only. -/
def asciiAnchor (o : Options) (a : Anchor) : Option Atom :=
  if o.unicode then none else some (.anchor a)

/-- Takes hexadecimal digits, and the blanks after each. -/
def takeDigits (o : Options) : Nat → List Char → Option (List Char × List Char)
  | 0, cs => some ([], cs)
  | _ + 1, [] => none
  | n + 1, c :: cs => do
      let (digits, rest) ← takeDigits o n (skip o cs)
      return (c :: digits, rest)

/-- The character with a code point in hexadecimal digits. -/
def readCodePoint (o : Options) (count : Nat) (cs : List Char) : Option (Atom × List Char) := do
  let (digits, rest) ← takeDigits o count (skip o cs)
  let n ← Hexadecimal.value? digits
  if n.isValidChar then return (.char (Char.ofNat n) (count == 2), rest) else none

/-- What follows a backslash. ASCII characters other than letters and digits stand for
themselves there. -/
def readEscape (o : Options) : List Char → Option (Atom × List Char)
  | [] => none
  | 'x' :: rest => readCodePoint o 2 rest
  | 'u' :: rest => readCodePoint o 4 rest
  | 'U' :: rest => readCodePoint o 8 rest
  | c :: rest => do
      let atom ← match c with
        | 'a' => some (.char '\x07' false)
        | 'f' => some (.char '\x0c' false)
        | 't' => some (.char '\t' false)
        | 'n' => some (.char '\n' false)
        | 'r' => some (.char '\r' false)
        | 'v' => some (.char '\x0b' false)
        | 'd' => asciiSet o "digit"
        | 's' => asciiSet o "space"
        | 'w' => asciiSet o "word"
        | 'A' => some (.anchor .textStart)
        | 'z' => some (.anchor .textEnd)
        | 'b' => asciiAnchor o .wordEdge
        | 'B' => asciiAnchor o .noWordEdge
        | '<' => asciiAnchor o .wordStart
        | '>' => asciiAnchor o .wordEnd
        | c => if c.toNat < 0x80 && !c.isAlphanum then some (.char c false) else none
      return (atom, rest)

/-! ## Single characters -/

/-- A set in either case, if that is asked for. -/
def folded (o : Options) (s : Charset) : Charset := if o.anyCase then s.anyCase else s

/-- The pattern of a character that stands for itself. -/
def literal (o : Options) (c : Char) (byte : Bool) : Option Pattern :=
  if o.unicode then if o.anyCase then none else some (.char (.single c))
  else if byte && 0x80 ≤ c.toNat then none
  else some (.char (folded o (.single c)))

/-- The pattern of the dot. -/
def dot (o : Options) : Option Pattern :=
  if !o.unicode then none
  else if o.dotAll then some (.char (.complement .empty))
  else if o.carriage then some (.char (.complement (.union (.single '\n') (.single '\r'))))
  else some (.char (.complement (.single '\n')))

/-- The anchor at the start. -/
def startAnchor (o : Options) : Anchor :=
  if !o.multiLine then .textStart else if o.carriage then .breakStart else .lineStart

/-- The anchor at the end. -/
def endAnchor (o : Options) : Anchor :=
  if !o.multiLine then .textEnd else if o.carriage then .breakEnd else .lineEnd

/-- The pattern of an escape. -/
def Atom.pattern (o : Options) : Atom → Option Pattern
  | char c byte => literal o c byte
  | set s => some (.char s)
  | anchor a => some (.anchor a)

/-! ## Sets in brackets -/

/-- The operations between sets in brackets; the set before is on the left. -/
inductive SetOperation where
  | intersection
  | difference
  | symmetric

/-- The result of an operation. -/
def SetOperation.apply : SetOperation → Charset → Charset → Charset
  | intersection => .intersection
  | difference => .difference
  | symmetric => .symmetric

/-- An open bracket: whether its set is to be complemented, what stands before it in the
bracket around it, and the operation that waits for its right side. -/
structure Bracket where
  negated : Bool
  outer : Charset
  pending : Option (SetOperation × Charset)

/-- The set in a bracket so far, its last part included. -/
def Bracket.total (o : Options) (b : Bracket) (part : Charset) : Charset :=
  match b.pending with
  | none => part
  | some (operation, left) => operation.apply (folded o left) (folded o part)

/-- The set of a bracket. -/
def Bracket.close (o : Options) (b : Bracket) (part : Charset) : Charset :=
  let s := folded o (b.total o part)
  if b.negated then .complement s else s

/-- A part of a set in brackets. Either case is known for bytes only. -/
def setItem (o : Options) (s : Charset) : Option Charset :=
  if o.unicode && o.anyCase then none else some s

/-- Whether a character can be in a set in brackets. -/
def isMember (o : Options) (c : Char) : Bool := o.unicode || c.toNat < 0x80

/-- Whether there are minus signs at the start of a set, and the text after them. -/
def leadingDashes (o : Options) : Nat → List Char → Bool × List Char
  | fuel + 1, '-' :: cs => (true, (leadingDashes o fuel (skip o cs)).2)
  | _, cs => (false, cs)

/-- What follows an opening bracket: a caret complements the set, and minus signs or one
closing bracket stand for themselves. -/
def openBracket (o : Options) (outer : Charset) (cs : List Char) :
    Option (Bracket × Charset × List Char) := do
  let cs := skip o cs
  let (negated, cs) := match cs with
    | '^' :: rest => (true, skip o rest)
    | cs => (false, cs)
  if negated && !o.unicode then none
  let b : Bracket := ⟨negated, outer, none⟩
  match leadingDashes o cs.length cs, cs with
  | (true, rest), _ => return (b, ← setItem o (.single '-'), rest)
  | _, ']' :: rest => return (b, ← setItem o (.single ']'), skip o rest)
  | _, cs => return (b, .empty, cs)

/-- The name of a set, between colons, with the bracket after it; a caret before the name
complements the set. -/
def namedSet? (cs : List Char) : Option (Bool × Charset × List Char) :=
  match cs with
  | ':' :: rest =>
      let (negated, rest) := match rest with
        | '^' :: rest => (true, rest)
        | rest => (false, rest)
      let name := rest.takeWhile (· != ':')
      match rest.drop name.length, Charset.named.lookup (String.ofList name) with
      | ':' :: ']' :: rest, some s => some (negated, s, rest)
      | _, _ => none
  | _ => none

/-- The first character that counts after a minus sign, which blanks do not hide. -/
def afterDash (o : Options) (cs : List Char) : Option Char :=
  if !o.spaced then cs.head?
  else
    match cs.dropWhile Blank.isBlank with
    | '#' :: rest => (rest.dropWhile Blank.isBlank).head?
    | rest => rest.head?

/-- A character or an escape in a set. -/
def readAtom (o : Options) : List Char → Option (Atom × List Char)
  | [] => none
  | '\\' :: rest => readEscape o rest
  | c :: rest => some (.char c false, rest)

/-- A character in a set, as the end of a range. -/
def Atom.rangeEnd? (o : Options) : Atom → Option Char
  | char c _ => if isMember o c then some c else none
  | _ => none

/-- A character, a range or the set of an escape, in brackets. -/
def readItem (o : Options) (cs : List Char) : Option (Charset × List Char) := do
  let (atom, rest) ← readAtom o cs
  match skip o rest with
  | [] => none
  | '-' :: more =>
      if afterDash o more == some ']' || afterDash o more == some '-' then
        single atom ('-' :: more)
      else
        let (other, rest) ← readAtom o (skip o more)
        let first ← atom.rangeEnd? o
        let last ← other.rangeEnd? o
        if first ≤ last then return (← setItem o (.between first last), rest) else none
  | rest => single atom rest
where
  single (atom : Atom) (rest : List Char) : Option (Charset × List Char) :=
    match atom with
    | .char c _ => do
        if isMember o c then return (← setItem o (.single c), rest) else none
    | .set s => do return (← setItem o s, rest)
    | .anchor _ => none

/-- The rest of a set in brackets; `part` is what was read of the innermost bracket since its
start or its last operation. -/
def readBrackets (o : Options) :
    Nat → List Bracket → Charset → List Char → Option (Charset × List Char)
  | fuel + 1, b :: outside, part, cs =>
      let operate (operation : SetOperation) (rest : List Char) :=
        readBrackets o fuel
          ({ b with pending := some (operation, b.total o part) } :: outside) .empty rest
      match skip o cs with
      | ']' :: rest =>
          match outside with
          | [] => some (b.close o part, rest)
          | outside => readBrackets o fuel outside (.union b.outer (b.close o part)) rest
      | '[' :: rest =>
          match namedSet? rest with
          | some (negated, s, rest) => do
              if negated && !o.unicode then none
              let s ← setItem o (if negated then .complement s else s)
              readBrackets o fuel (b :: outside) (.union part s) rest
          | none => do
              let (inner, first, rest) ← openBracket o part rest
              readBrackets o fuel (inner :: b :: outside) first rest
      | '&' :: '&' :: rest => operate .intersection rest
      | '-' :: '-' :: rest => operate .difference rest
      | '~' :: '~' :: rest => operate .symmetric rest
      | cs => do
          let (item, rest) ← readItem o cs
          readBrackets o fuel (b :: outside) (.union part item) rest
  | _, _, _, _ => none

/-- A set from after its opening bracket. -/
def readSet (o : Options) (cs : List Char) : Option (Pattern × List Char) := do
  let (b, first, rest) ← openBracket o .empty cs
  let (s, rest) ← readBrackets o (rest.length + 1) [b] first rest
  return (.char s, rest)

/-! ## Groups and sequences -/

/-- A part of a sequence. Only a piece can be repeated. -/
inductive Item where
  | piece (p : Pattern)
  | setting

/-- The pieces of a sequence, last one first, one after the other. -/
def joined (items : List Item) : Pattern :=
  items.foldr (fun item before =>
    match item with
    | .piece p => if before = .empty then p else .sequence before p
    | .setting => before) .empty

/-- Alternatives in order. -/
def chosen : List Pattern → Pattern
  | [] => .empty
  | [p] => p
  | p :: ps => .choice p (chosen ps)

/-- A group that is being read: the options at its start, the alternatives before the present
one and the items of this one, both with the last one first. -/
structure Group where
  options : Options
  branches : List Pattern
  items : List Item

/-- The pattern of a group. -/
def Group.close (g : Group) : Pattern := chosen (joined g.items :: g.branches).reverse

/-- Where reading stands: the options in force, the group being read, those around it, and the
names of groups. -/
structure State where
  options : Options
  group : Group
  outside : List Group
  names : List (List Char)

namespace State

/-- Nothing read yet. -/
def initial : State := ⟨.initial, ⟨.initial, [], []⟩, [], []⟩

/-- Takes up an item of the present sequence. -/
def push (s : State) (item : Item) : State :=
  { s with group := { s.group with items := item :: s.group.items } }

/-- Takes up a piece, if there is one. -/
def pushPiece (s : State) (p : Option Pattern) (rest : List Char) :
    Option (State × List Char) :=
  p.map fun p => (s.push (.piece p), rest)

/-- Begins a group in which some options are in force. -/
def enter (s : State) (o : Options) : State :=
  { s with options := o, group := ⟨s.options, [], []⟩, outside := s.group :: s.outside }

/-- Ends the present group; the options at its start are in force again. -/
def leave (s : State) : Option State :=
  match s.outside with
  | [] => none
  | g :: outside =>
      let after : State := { s with options := s.group.options, group := g, outside := outside }
      some (after.push (.piece s.group.close))

/-- Begins an alternative. -/
def alternate (s : State) : State :=
  { s with group := { s.group with
      branches := joined s.group.items :: s.group.branches, items := [] } }

/-- Repeats the last item, unless a question mark follows, as greedily as it can. -/
def repeatLast (s : State) (how : Bool → Pattern → Pattern) (rest : List Char) :
    Option (State × List Char) :=
  match s.group.items with
  | .piece p :: items =>
      let (marked, rest) := match rest with
        | '?' :: rest => (true, rest)
        | rest => (false, rest)
      let piece := how (marked == s.options.reluctant) p
      some ({ s with group := { s.group with items := .piece piece :: items } }, rest)
  | _ => none

end State

/-- Whether a text can be the name of a group. -/
def isName : List Char → Bool
  | [] => false
  | c :: cs =>
      (c == '_' || Alphanumeric.isLetter c)
        && cs.all fun c => ['_', '.', '[', ']'].contains c || Alphanumeric.isAlphanumeric c

/-- The name of a group up to its closing bracket. No two groups share one. -/
def readName (s : State) (cs : List Char) : Option (State × List Char) :=
  let name := cs.takeWhile (· != '>')
  match cs.drop name.length with
  | '>' :: rest =>
      if isName name && !s.names.contains name then
        some ({ s.enter s.options with names := name :: s.names }, rest)
      else none
  | _ => none

/-- What follows an opening parenthesis. Looking ahead or behind is not possible. -/
def readGroup (s : State) (cs : List Char) : Option (State × List Char) :=
  match skip s.options cs with
  | '?' :: '=' :: _ => none
  | '?' :: '!' :: _ => none
  | '?' :: '<' :: '=' :: _ => none
  | '?' :: '<' :: '!' :: _ => none
  | '?' :: 'P' :: '<' :: rest => readName s rest
  | '?' :: '<' :: rest => readName s rest
  | '?' :: rest =>
      let letters := rest.takeWhile fun c => c != ':' && c != ')'
      match s.options.read? letters, rest.drop letters.length with
      | some o, ':' :: rest => some (s.enter o, rest)
      | some o, ')' :: rest =>
          if letters == [] then none else some ({ s with options := o }.push .setting, rest)
      | _, _ => none
  | rest => some (s.enter s.options, rest)

/-- Takes up the next part of the text, which begins with a character that counts. -/
def readPart (s : State) (c : Char) (rest : List Char) : Option (State × List Char) :=
  match c with
  | '(' => readGroup s rest
  | ')' => s.leave.map fun s => (s, rest)
  | '|' => some (s.alternate, rest)
  | '[' => (readSet s.options rest).map fun (p, rest) => (s.push (.piece p), rest)
  | '*' => s.repeatLast anyNumber rest
  | '+' => s.repeatLast repeated rest
  | '?' => s.repeatLast optional rest
  | '\x7b' => none
  | '\\' => do
      let (atom, rest) ← readEscape s.options rest
      s.pushPiece (atom.pattern s.options) rest
  | '.' => s.pushPiece (dot s.options) rest
  | '^' => s.pushPiece (some (.anchor (startAnchor s.options))) rest
  | '$' => s.pushPiece (some (.anchor (endAnchor s.options))) rest
  | c => s.pushPiece (literal s.options c false) rest

/-- Reads the rest of a pattern; each part takes up at least one character. -/
def readFrom : Nat → State → List Char → Option Pattern
  | 0, _, _ => none
  | fuel + 1, s, cs =>
      match skip s.options cs with
      | [] => if s.outside.isEmpty then some s.group.close else none
      | c :: rest => do
          let (s, rest) ← readPart s c rest
          readFrom fuel s rest

/-- Reads a pattern. -/
def parse? (text : List Char) : Option Pattern := readFrom (text.length + 1) .initial text

end Linkage.Pattern
