import Linkage.Align
import Linkage.Path
import Linkage.Text.Utf8

set_option autoImplicit false

/-! # File systems

A file system is a table from locations to entries, seen from a working directory. A
location is the list of names that leads from the root to an entry. A path text is walked
segment by segment: every segment, blank ones included, needs a directory to stand in, `..`
goes back one name, and a name has to exist. There are no links, so the location found
determines the entry.

Failures carry the system's own wording and number.
-/

namespace Linkage

/-- The names that lead from the root to an entry. -/
abbrev Location := List (List Char)

/-- Why the system refuses a path. -/
inductive SystemError where
  | notFound
  | noDevice
  | notDirectory
  | isDirectory
  | nameTooLong
  | nulInName
  /-- Any other refusal, in the system's words. -/
  | other (message : String)
deriving DecidableEq

/-- The system's wording. -/
def SystemError.message : SystemError → String
  | .notFound => "No such file or directory (os error 2)"
  | .noDevice => "No such device (os error 19)"
  | .notDirectory => "Not a directory (os error 20)"
  | .isDirectory => "Is a directory (os error 21)"
  | .nameTooLong => "File name too long (os error 36)"
  | .nulInName => "file name contained an unexpected NUL byte"
  | .other message => message

/-- What a location holds. -/
inductive Entry where
  | file (contents : Bytes)
  | directory
  /-- A name that the system does not let be read. It may still tell that there is a regular
  file (`seen`). -/
  | withheld (seen : Bool) (error : SystemError)
deriving DecidableEq

/-- Whether an entry shows itself as a regular file. -/
def Entry.isRegular : Entry → Bool
  | file _ => true
  | directory => false
  | withheld seen _ => seen

/-- The entries of a file system, and the directory that relative paths start from. The
root is a directory without being listed. -/
structure FileSystem where
  entry : Location → Option Entry
  workingDirectory : Location

namespace FileSystem

/-! ## Walking a path -/

/-- Whether a location is a directory. -/
def isDirectory (fs : FileSystem) (here : Location) : Bool :=
  here == [] || fs.entry here == some .directory

/-- The location of a name below `here`, whether it exists or not. -/
def child (fs : FileSystem) (here : Location) (name : List Char) : Except SystemError Location :=
  if fs.isDirectory here then
    if (Utf8.encode name).length > 255 then .error .nameTooLong else .ok (here ++ [name])
  else .error .notDirectory

/-- One step of a walk. -/
def enter (fs : FileSystem) (here : Location) (segment : List Char) :
    Except SystemError Location :=
  if !fs.isDirectory here then .error .notDirectory
  else if Path.isBlank segment then .ok here
  else if segment = ['.', '.'] then .ok here.dropLast
  else do
    let found ← fs.child here segment
    if (fs.entry found).isSome then .ok found else .error .notFound

/-- The directory that a path starts from. -/
def start (fs : FileSystem) (p : Path) : Location :=
  if p.isAbsolute then [] else fs.workingDirectory

/-- Whether a path text can be handed to the system at all. -/
def acceptText (p : Path) : Except SystemError Unit :=
  if p.chars.contains '\x00' then .error .nulInName
  else if p.chars == [] then .error .notFound
  else if (Utf8.encode p.chars).length > 4095 then .error .nameTooLong
  else .ok ()

/-- The existing location that a path leads to. -/
def locate (fs : FileSystem) (p : Path) : Except SystemError Location := do
  acceptText p
  p.segments.foldlM fs.enter (fs.start p)

/-! ## Looking -/

/-- Whether a path leads to a regular file. -/
def isFile (fs : FileSystem) (p : Path) : Bool :=
  match fs.locate p with
  | .ok found => (fs.entry found).any Entry.isRegular && !fs.isDirectory found
  | .error _ => false

/-- Whether a path leads to a directory. -/
def isDir (fs : FileSystem) (p : Path) : Bool :=
  match fs.locate p with
  | .ok found => fs.isDirectory found
  | .error _ => false

/-- The contents of the file at a path; `onDirectory` is the answer for a directory. -/
def contentsOr (fs : FileSystem) (onDirectory : SystemError) (p : Path) :
    Except SystemError Bytes := do
  let found ← fs.locate p
  if fs.isDirectory found then .error onDirectory
  else
    match fs.entry found with
    | some (.file contents) => .ok contents
    | some (.withheld _ error) => .error error
    | _ => .error .notFound

/-- Reads a whole file. -/
def read (fs : FileSystem) (p : Path) : Except SystemError Bytes :=
  fs.contentsOr .isDirectory p

/-- Maps a file into memory. A directory can be opened, but no memory stands behind it. -/
def mapFile (fs : FileSystem) (p : Path) : Except SystemError Bytes :=
  fs.contentsOr .noDevice p

/-! ## Changing -/

/-- The file system with one entry replaced. -/
def put (fs : FileSystem) (here : Location) (entry : Entry) : FileSystem :=
  { fs with entry := fun there => if there = here then some entry else fs.entry there }

/-- The segments of a path without the empty ones at its end, and whether there were any. -/
def finalSlash (p : Path) : List (List Char) × Bool :=
  let kept := (p.segments.reverse.dropWhile (· == [])).reverse
  (kept, kept.length != p.segments.length)

/-- The location at which writing to a path puts the file: a name in an existing directory
that is not a directory itself. A path that can only mean a directory is refused. -/
def place (fs : FileSystem) (p : Path) : Except SystemError Location := do
  acceptText p
  let (segments, slash) := finalSlash p
  let above ← segments.dropLast.foldlM fs.enter (fs.start p)
  match segments.getLast? with
  | none => .error .isDirectory
  | some name =>
      if !fs.isDirectory above then .error .notDirectory
      else if slash || Path.isBlank name || name == ['.', '.'] then .error .isDirectory
      else do
        let found ← fs.child above name
        if fs.isDirectory found then .error .isDirectory else .ok found

/-- Writes a whole file, replacing what was there. The directories above have to exist. -/
def write (fs : FileSystem) (p : Path) (contents : Bytes) : Except SystemError FileSystem := do
  return fs.put (← fs.place p) (.file contents)

/-- One step of a walk that makes the directories it misses. -/
def enterOrMake (state : FileSystem × Location) (segment : List Char) :
    FileSystem × Location :=
  let (fs, here) := state
  match fs.enter here segment with
  | .ok found => (fs, found)
  | .error _ => (fs.put (here ++ [segment]) .directory, here ++ [segment])

/-- The file system with a directory at a path, and those above it. -/
def makeDirectory (fs : FileSystem) (p : Path) : FileSystem :=
  (p.segments.foldl enterOrMake (fs, fs.start p)).1

/-- Writes a file, making the directories above it. -/
def install (fs : FileSystem) (p : Path) (contents : Bytes) : FileSystem :=
  let (above, here) := p.segments.dropLast.foldl enterOrMake (fs, fs.start p)
  match p.segments.getLast? with
  | none => above
  | some name => above.put (here ++ [name]) (.file contents)

/-- The file system without a path and all that lies below it. -/
def remove (fs : FileSystem) (p : Path) : FileSystem :=
  match fs.locate p with
  | .error _ => fs
  | .ok found =>
      { fs with entry := fun there => if found.isPrefixOf there then none else fs.entry there }

/-- A file system that holds nothing but its working directory and the ones above it. -/
def empty (workingDirectory : Location) : FileSystem where
  entry there := if there.isPrefixOf workingDirectory then some .directory else none
  workingDirectory := workingDirectory

end FileSystem

end Linkage
