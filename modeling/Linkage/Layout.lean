import Linkage.FileSystem

set_option autoImplicit false

/-! # The two forms of a library

A library lies on disk as a packed archive file or as an unpacked directory. Both forms hold
the same entries under the same names: the manifest and the metadata of the module.
-/

namespace Linkage

/-- The extension of packed libraries. -/
def libraryExtension : List Char := ['m', 'l', 'i', 'b']

/-- The entry that describes the library. -/
def manifestName : String := "manifest"

/-- The entry that describes the module. -/
def metadataName : String := "module.json"

/-- Whether the last name in a text has the library extension. -/
def hasExtension (name : List Char) : Bool := Path.extension ⟨name⟩ == some libraryExtension

/-- The packed spelling of a name: the extension is added unless it is there. -/
def withExtension (name : List Char) : List Char :=
  if hasExtension name then name else name ++ '.' :: libraryExtension

/-- Where the entries of a library lie. -/
inductive Layout where
  | packed (path : Path)
  | unpacked (path : Path)
deriving DecidableEq

namespace Layout

/-- The path of the archive or directory. -/
def path : Layout → Path
  | packed p => p
  | unpacked p => p

/-- Whether a layout is an archive. -/
def isPacked : Layout → Bool
  | packed _ => true
  | unpacked _ => false

/-- The form of the library at a path: a regular file is taken for an archive, and a
directory counts if it holds a manifest file. -/
def detect (fs : FileSystem) (p : Path) : Option Layout :=
  if fs.isFile p then some (packed p)
  else if fs.isDir p && fs.isFile (p.join (Path.ofString manifestName)) then some (unpacked p)
  else none

end Layout

end Linkage
