import Linkage.Toml.Document
import Linkage.Toml.Scalar

set_option autoImplicit false

/-! # Reading TOML text

A document is a sequence of lines, each blank, a header or an assignment, with an optional
comment at its end; only strings and arrays go over several lines. Values nest at most
eighty levels deep, and so do dotted keys. Each level reads its parts with the reader of the
level below.
-/

namespace Linkage.Toml

/-! ## Keys -/

/-- Whether a character may stand in a key without quotes. -/
def isBare (c : Char) : Bool := c.isAlphanum || c == '-' || c == '_'

/-- A key without dots. -/
def readSimpleKey (cs : List Char) : Option (String × List Char) :=
  match cs with
  | '"' :: _ => readShortString cs
  | '\x27' :: _ => readShortString cs
  | _ =>
      match cs.takeWhile isBare with
      | [] => none
      | name => some (String.ofList name, cs.dropWhile isBare)

/-- The parts of a dotted key, with blanks around them. -/
def readKeyParts : Nat → Reader (List String)
  | 0, _ => none
  | fuel + 1, cs =>
      match readSimpleKey (skipBlank cs) with
      | none => none
      | some (part, rest) =>
          match skipBlank rest with
          | '.' :: rest => (readKeyParts fuel rest).map fun (parts, rest) => (part :: parts, rest)
          | rest => some ([part], rest)

/-- How deep keys and values may nest. -/
def maxDepth : Nat := 80

/-- A dotted key: the way to its table and its last part. -/
def readKey (cs : List Char) : Option ((List String × String) × List Char) :=
  match readKeyParts maxDepth cs with
  | some (parts, rest) =>
      if parts.length < maxDepth then
        parts.getLast?.map fun last => ((parts.dropLast, last), rest)
      else none
  | none => none

/-! ## Values -/

/-- The text after a comment, if the text starts with one. -/
def skipComment : List Char → List Char
  | '#' :: rest => rest.dropWhile isText
  | cs => cs

/-- The text after blanks, line breaks and comments, as they may stand in an array. A
comment has to end with its line; `inComment` says that one is going on. -/
def skipFiller (inComment : Bool) : List Char → Option (List Char)
  | [] => if inComment then none else some []
  | '\n' :: rest => skipFiller false rest
  | '\r' :: '\n' :: rest => skipFiller false rest
  | c :: rest =>
      if inComment then if isText c then skipFiller true rest else none
      else if isBlank c then skipFiller false rest
      else if c == '#' then skipFiller true rest
      else some (c :: rest)

/-- The items of an array up to its closing bracket, with a comma between them and possibly
one after the last. -/
def readItems (readValue : Reader Value) : Nat → Reader (List Value)
  | 0, _ => none
  | count + 1, cs => do
      match ← skipFiller false cs with
      | ']' :: rest => some ([], rest)
      | cs =>
          let (item, rest) ← readValue cs
          match ← skipFiller false rest with
          | ']' :: rest => some ([item], rest)
          | ',' :: rest =>
              let (items, rest) ← readItems readValue count rest
              some (item :: items, rest)
          | _ => none

/-- A dotted key, an equals sign and a value. -/
def readAssignment (readValue : Reader Value) : Reader ((List String × String) × Value) :=
  fun cs => do
  let (key, rest) ← readKey cs
  let rest ← expect '=' rest
  let (value, rest) ← readValue (skipBlank rest)
  return ((key, value), rest)

/-- The assignments of a table between braces up to the closing brace, on one line and with
commas only between them. -/
def readPairs (readValue : Reader Value) :
    Nat → Reader (List (List String × Value))
  | 0, _ => none
  | count + 1, cs =>
      match readAssignment readValue cs with
      | none => none
      | some (((path, key), value), rest) =>
          let pair := (path ++ [key], value)
          match skipBlank rest with
          | '\x7d' :: rest => some ([pair], rest)
          | ',' :: rest =>
              (readPairs readValue count rest).map fun (pairs, rest) => (pair :: pairs, rest)
          | _ => none

/-- A table between braces, from after the opening one. -/
def readInlineTable (readValue : Reader Value) (count : Nat) : Reader Value := fun cs =>
  match skipBlank cs with
  | '\x7d' :: rest => some (.inlineTable false [], rest)
  | cs => do
      let (pairs, rest) ← readPairs readValue count cs
      return (← inlineTable? pairs, rest)

/-- A value that contains at most `depth` levels of arrays and tables, each with fewer than
`count` parts. -/
def readValue (count : Nat) : Nat → Reader Value
  | 0, cs => readScalar cs
  | depth + 1, cs =>
      match cs with
      | '[' :: rest =>
          (readItems (readValue count depth) count rest).map fun (items, rest) =>
            (.array items, rest)
      | '\x7b' :: rest => readInlineTable (readValue count depth) count rest
      | _ => readScalar cs

/-! ## Documents -/

/-- The text after the end of a line, before which blanks and a comment may stand. The end
of the text ends a line too. -/
def lineEnd? (cs : List Char) : Option (List Char) :=
  match skipComment (skipBlank cs) with
  | [] => some []
  | rest => newline? rest

/-- One line of a document. -/
def readLine (count : Nat) (d : Document) (cs : List Char) : Option (Document × List Char) :=
  match cs with
  | '[' :: '[' :: rest => do
      let ((path, key), rest) ← readKey rest
      let rest ← expect ']' rest >>= expect ']'
      return (← d.openElement path key, ← lineEnd? rest)
  | '[' :: rest => do
      let ((path, key), rest) ← readKey rest
      let rest ← expect ']' rest
      return (← d.openTable path key, ← lineEnd? rest)
  | _ => do
      let (((path, key), value), rest) ← readAssignment (readValue count (maxDepth - 1)) cs
      return (← d.assign path key value, ← lineEnd? rest)

/-- The lines of a document. -/
def readLines (count : Nat) : Nat → Document → List Char → Option Document
  | 0, _, _ => none
  | lines + 1, d, cs =>
      match skipLines cs with
      | [] => some d
      | '#' :: rest =>
          match lineEnd? ('#' :: rest) with
          | none => none
          | some rest => readLines count lines d rest
      | cs =>
          match readLine count d cs with
          | none => none
          | some (d, rest) => readLines count lines d rest

/-- A byte order mark at the start of a text does not count. -/
def skipMark : List Char → List Char
  | '\ufeff' :: rest => rest
  | cs => cs

/-- The entries of the document that a whole text spells. -/
def parse? (cs : List Char) : Option Entries :=
  let cs := skipMark cs
  (readLines (cs.length + 1) (cs.length + 1) .empty cs).bind Document.close

end Linkage.Toml
