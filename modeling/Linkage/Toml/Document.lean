set_option autoImplicit false

/-! # TOML documents

A document is a table whose entries keep the order in which they were opened. Besides values
it holds tables that headers and dotted keys make, and arrays of such tables. How a table
came about decides what may still be added to it: an `implicit` table has only been passed
through on the way to another one, and a `dotted` one was made by a dotted key.

A document grows while its text is read. Assignments go to the table that is open; a header
closes it and opens another one. A closed table takes its place among the entries of the
document only then, so a table that was passed through before it gets a header of its own
moves behind the entries made in between.

No key is assigned twice, no table gets two headers, and a dotted key neither reaches into a
table that has a header nor does a header open a table that dotted keys made.
-/

namespace Linkage.Toml

/-- A table written between braces: how it came about, and its entries in order. -/
inductive Value where
  | string (value : String)
  | integer (value : Int)
  | floating (value : Float)
  | boolean (value : Bool)
  | datetime
  | array (items : List Value)
  | inlineTable (dotted : Bool) (entries : List (String × Value))

/-- An entry of a table that headers open. -/
inductive Item where
  | value (value : Value)
  | table (implicit dotted : Bool) (entries : List (String × Item))
  | tables (elements : List (List (String × Item)))

/-- The entries of a table in order. -/
abbrev Entries := List (String × Item)

/-! ## Entries by key -/

/-- The entry with a key. -/
def find? {α : Type} (key : String) (entries : List (String × α)) : Option α :=
  entries.lookup key

/-- The entries with the entry of a key replaced, or added at the end if there is none. -/
def set {α : Type} (key : String) (a : α) : List (String × α) → List (String × α)
  | [] => [(key, a)]
  | (k, b) :: rest => if k = key then (key, a) :: rest else (k, b) :: set key a rest

/-- The entries without the entry of a key. -/
def erase {α : Type} (key : String) (entries : List (String × α)) : List (String × α) :=
  entries.filter fun entry => entry.1 != key

/-! ## Tables between braces -/

/-- The entries of a table between braces with one more assignment to a dotted key. -/
def assignInline : List String → Value → List (String × Value) → Option (List (String × Value))
  | [], _, _ => none
  | [key], value, entries =>
      match find? key entries with
      | none => some (set key value entries)
      | some _ => none
  | key :: path, value, entries =>
      match find? key entries with
      | none =>
          (assignInline path value []).map fun inner => set key (.inlineTable true inner) entries
      | some (.inlineTable true inner) =>
          (assignInline path value inner).map fun inner => set key (.inlineTable true inner) entries
      | some _ => none

/-- The table between braces with the given assignments. -/
def inlineTable? (assignments : List (List String × Value)) : Option Value :=
  (assignments.foldlM (fun entries (path, value) => assignInline path value entries) []).map
    fun entries => .inlineTable false entries

/-! ## Ways through tables -/

/-- Changes the entries at the end of a way through tables. Tables that are missing on the
way are made; `dotted` says whether the way is that of a dotted key. The way leads through
the last element of an array of tables. The change is told whether the table it is made to
was made by a dotted key. -/
def descend (dotted : Bool) (change : Bool → Entries → Option Entries) :
    List String → Bool → Entries → Option Entries
  | [], madeDotted, entries => change madeDotted entries
  | key :: path, _, entries =>
      match find? key entries with
      | none =>
          (descend dotted change path dotted []).map fun inner =>
            set key (.table true dotted inner) entries
      | some (.value _) => none
      | some (.tables elements) =>
          match elements.getLast? with
          | none => none
          | some last =>
              (descend dotted change path false last).map fun inner =>
                set key (.tables (elements.dropLast ++ [inner])) entries
      | some (.table implicit madeDotted inner) =>
          if dotted && !implicit then none
          else
            (descend dotted change path madeDotted inner).map fun inner =>
              set key (.table implicit madeDotted inner) entries

/-! ## The state of a document -/

/-- Which table is open: the one the document starts with, one with a header, or the next
element of an array of tables. -/
inductive Header where
  | top
  | table (path : List String) (key : String)
  | element (path : List String) (key : String)

/-- A document while it is read: the closed tables, the header of the open one, and its
entries. -/
structure Document where
  closed : Entries
  header : Header
  entries : Entries

namespace Document

/-- A document before its first line. -/
def empty : Document := ⟨[], .top, []⟩

/-- Assigns a value in the open table. A dotted key may go on only in a table that dotted
keys made. -/
def assign (d : Document) (path : List String) (key : String) (value : Value) : Option Document :=
  let insert := fun madeDotted (entries : Entries) =>
    if madeDotted == path.isEmpty then none
    else
      match find? key entries with
      | some _ => none
      | none => some (set key (.value value) entries)
  (descend true insert path false d.entries).map fun entries => { d with entries := entries }

/-- Puts a closed table in its place. -/
def placeTable (key : String) (table : Entries) (_ : Bool) (entries : Entries) : Option Entries :=
  match find? key entries with
  | none => some (set key (.table false false table) entries)
  | some (.table true _ _) => some (set key (.table false false table) entries)
  | some _ => none

/-- Adds a closed table to an array of tables. -/
def placeElement (key : String) (table : Entries) (_ : Bool) (entries : Entries) :
    Option Entries :=
  match find? key entries with
  | none => some (set key (.tables [table]) entries)
  | some (.tables elements) => some (set key (.tables (elements ++ [table])) entries)
  | some _ => none

/-- The entries of a document after its open table is closed. -/
def close (d : Document) : Option Entries :=
  match d.header with
  | .top => some d.entries
  | .table path key => descend false (placeTable key d.entries) path false d.closed
  | .element path key => descend false (placeElement key d.entries) path false d.closed

/-- The entries that a table has before its header, if it may have one. -/
def reopened (key : String) (entries : Entries) : Option Entries :=
  match find? key entries with
  | none => some []
  | some (.table true false inner) => some inner
  | some _ => none

/-- The entries at the end of a way that exists. -/
def follow : List String → Entries → Option Entries
  | [], entries => some entries
  | key :: path, entries =>
      match find? key entries with
      | some (.table _ _ inner) => follow path inner
      | some (.tables elements) => elements.getLast?.bind (follow path)
      | _ => none

/-- Closes the open table and opens the one of a header. A table that was only passed
through so far is taken out and goes on with its entries. -/
def openTable (d : Document) (path : List String) (key : String) : Option Document := do
  let closed ← d.close
  let closed ← descend false (fun _ entries => some entries) path false closed
  let entries ← follow path closed >>= reopened key
  let closed ← descend false (fun _ entries => some (erase key entries)) path false closed
  return ⟨closed, .table path key, entries⟩

/-- Closes the open table and opens the next element of an array of tables. The array takes
its place at once, the element only when it is closed. -/
def openElement (d : Document) (path : List String) (key : String) : Option Document := do
  let closed ← d.close
  let claim := fun (_ : Bool) (entries : Entries) =>
    match find? key entries with
    | none => some (set key (.tables []) entries)
    | some (.tables _) => some entries
    | some _ => none
  let closed ← descend false claim path false closed
  return ⟨closed, .element path key, []⟩

end Document

end Linkage.Toml
