import Linkage.Archive.Reader
import Linkage.Layout
import Linkage.LoadError
import Linkage.Text.Utf8

set_option autoImplicit false

/-! # Entries of a library

A container gives access to the entries of a library by name, whichever form the library
has. An archive is read as far as the entry that is asked for; what comes after it does not
matter.
-/

namespace Linkage

/-- A library whose entries can be read. -/
inductive Container where
  | archive (path : Path) (archive : Archive)
  | directory (path : Path)

namespace Container

/-- Why the container or an entry in it cannot be read. -/
inductive Corruption where
  | unreadable (error : SystemError)
  | tooShort
  | notArchive
  | badArchive (error : Archive.Error)
  | missingEntry (name : String)
  | unreadableEntry (name : String) (error : SystemError)
deriving DecidableEq

/-- The wording of a corruption. -/
def Corruption.message : Corruption → String
  | unreadable error => error.message
  | tooShort => "file too short"
  | notArchive => "not a library archive"
  | badArchive error => error.message
  | missingEntry name => "missing entry '" ++ name ++ "'"
  | unreadableEntry name error => "cannot read '" ++ name ++ "': " ++ error.message

/-- The archive in the contents of a file. -/
def ofBytes (contents : Bytes) : Except Corruption Archive :=
  if contents.length < Archive.magic.length then .error .tooShort
  else if contents.take Archive.magic.length != Archive.magic then .error .notArchive
  else
    match Archive.ofBody (contents.drop Archive.magic.length) with
    | .ok a => .ok a
    | .error e => .error (.badArchive e)

/-- A member's name without the slashes and spaces at its end. -/
def trimName (name : Bytes) : Bytes :=
  (name.reverse.dropWhile fun b => b == Archive.space || b == Archive.slash).reverse

/-- The data of the first of some members with a name. -/
def entryIn (name : String) : List (Except Archive.Error Archive.Member) → Except Corruption Bytes
  | [] => .error (.missingEntry name)
  | .error e :: _ => .error (.badArchive e)
  | .ok member :: rest =>
      if trimName member.name = Utf8.encode name.toList then
        match member.data with
        | .ok data => .ok data
        | .error e => .error (.badArchive e)
      else entryIn name rest

/-- The failure that a corruption of the library at a path amounts to. -/
def corrupt {α : Type} (path : Path) : Except Corruption α → Except LoadError α
  | .ok a => .ok a
  | .error c => .error (.corrupt path c.message)

/-- Opens the container of a library. A directory is looked at only when an entry is read. -/
def ofLayout (fs : FileSystem) : Layout → Except LoadError Container
  | .unpacked path => .ok (.directory path)
  | .packed path =>
      corrupt path <|
        match fs.mapFile path with
        | .error e => .error (.unreadable e)
        | .ok contents => (ofBytes contents).map (.archive path)

/-- The contents of an entry. -/
def entry (fs : FileSystem) (name : String) : Container → Except LoadError Bytes
  | .archive path a => corrupt path (entryIn name a.members)
  | .directory path =>
      corrupt path <|
        match fs.read (path.join (Path.ofString name)) with
        | .ok contents => .ok contents
        | .error e => .error (.unreadableEntry name e)

end Container

end Linkage
