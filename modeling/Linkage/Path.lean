set_option autoImplicit false

/-! # Path texts

A path is its text. The slashes divide the text into segments, and the segments determine
the text: `/a/b` is `["", "a", "b"]` and `a/` is `["a", ""]`. Empty segments and `.` name
no step of their own; they are called blank. A path keeps them as written: joining and
replacing the last name change the text only where they have to.
-/

namespace Linkage

/-- A path, absolute if its text starts with a slash. -/
structure Path where
  chars : List Char
deriving DecidableEq

namespace Path

/-- The path with the given text. -/
def ofString (text : String) : Path := ⟨text.toList⟩

/-- The text of a path. -/
def text (p : Path) : String := String.ofList p.chars

/-! ## Segments -/

/-- The pieces of a text between its slashes; there is always one more than slashes. -/
def splitSlash : List Char → List (List Char)
  | [] => [[]]
  | c :: cs =>
      if c = '/' then [] :: splitSlash cs
      else
        match splitSlash cs with
        | [] => [[c]]
        | s :: rest => (c :: s) :: rest

/-- The segments of a path. -/
def segments (p : Path) : List (List Char) := splitSlash p.chars

/-- The path with the given segments. -/
def ofSegments (segments : List (List Char)) : Path := ⟨['/'].intercalate segments⟩

/-- A segment that stays where it is: empty or a single dot. -/
def isBlank (segment : List Char) : Bool := segment == [] || segment == ['.']

/-- Whether a path starts at the root. -/
def isAbsolute (p : Path) : Bool := p.chars.head? == some '/'

/-! ## Joining and the last name -/

/-- The path `q` taken from `p`: `q` itself if it is absolute, else both texts with one
slash between them where `p` does not end in one already. -/
def join (p q : Path) : Path :=
  if q.isAbsolute || p.chars == [] then q
  else if p.chars.getLast? == some '/' then ⟨p.chars ++ q.chars⟩
  else ⟨p.chars ++ '/' :: q.chars⟩

/-- The segments from the last one that is not blank, backwards. -/
def trimmed (p : Path) : List (List Char) := p.segments.reverse.dropWhile isBlank

/-- The last name of a path. A path that ends in `..` or that has only blank segments
has none. -/
def fileName (p : Path) : Option (List Char) :=
  match p.trimmed with
  | [] => none
  | s :: _ => if s = ['.', '.'] then none else some s

/-- What remains of a path whose names are all gone: the root, the leading dot or nothing. -/
def anchor (p : Path) : Path :=
  if p.isAbsolute then ⟨['/']⟩
  else if p.segments.head? == some ['.'] then ⟨['.']⟩
  else ⟨[]⟩

/-- The path without its last name and without blank segments before that. -/
def parent (p : Path) : Path :=
  match p.trimmed.tail.dropWhile isBlank with
  | [] => p.anchor
  | rest => ofSegments rest.reverse

/-- The path above a path. There is none above the root and above the empty path. -/
def parent? (p : Path) : Option Path :=
  match p.trimmed with
  | [] => if p.isAbsolute || p.chars == [] then none else some ⟨[]⟩
  | _ => some p.parent

/-- The path with its last name replaced, or with the name added if there is none. -/
def withFileName (p : Path) (name : List Char) : Path :=
  match p.fileName with
  | none => p.join ⟨name⟩
  | some _ => p.parent.join ⟨name⟩

/-! ## Extensions -/

/-- The part of a file name after its last dot, unless that dot starts the name. -/
def extensionOf (name : List Char) : Option (List Char) :=
  match name.reverse.dropWhile (· != '.') with
  | [] | ['.'] => none
  | _ => some (name.reverse.takeWhile (· != '.')).reverse

/-- The extension of the last name. -/
def extension (p : Path) : Option (List Char) := p.fileName.bind extensionOf

end Path

end Linkage
