import Linkage.Archive.Writer
import Linkage.Layout
import Linkage.Log.Traced
import Linkage.Manifest

set_option autoImplicit false

/-! # Packing libraries

Packing turns the unpacked form of a library into the packed one. Only a manifest that can
be read is packed; the metadata goes into the archive as it is.
-/

namespace Linkage

/-- Why a library cannot be packed. -/
inductive PackError where
  | manifest (dir : Path) (error : SystemError)
  | refused (dir : Path) (problem : Manifest.Problem)
  | metadata (dir : Path) (error : SystemError)
  | archive (error : Archive.WriteError)
  | noName (dir : Path)
  | output (path : Path) (error : SystemError)
deriving DecidableEq

/-- The wording of an error and of what caused it, outermost first. -/
def PackError.chain : PackError → List String
  | manifest dir error => ["failed to read manifest of " ++ dir.text, error.message]
  | refused dir problem => ["refusing to pack " ++ dir.text, problem.message]
  | metadata dir error => ["failed to read metadata of " ++ dir.text, error.message]
  | archive (.invalidName name) => ["invalid archive member name '" ++ name ++ "'"]
  | archive .headerLength => []
  | noName dir => ["cannot derive a library name from " ++ dir.text]
  | output path error => ["failed to write " ++ path.text, error.message]

/-- The bytes of the packed form of the library in a directory. -/
def packLibrary (fs : FileSystem) (dir : Path) : Except PackError Bytes := do
  let manifest ← (fs.read (dir.join (Path.ofString manifestName))).mapError (.manifest dir)
  let _ ← (Manifest.parse manifest).mapError (.refused dir)
  let metadata ← (fs.read (dir.join (Path.ofString metadataName))).mapError (.metadata dir)
  (Archive.write [(manifestName, manifest), (metadataName, metadata)]).mapError .archive

/-- Where a directory is packed to by default: beside it, under its packed spelling. -/
def defaultOutput (dir : Path) : Except PackError Path :=
  match dir.fileName with
  | none => .error (.noName dir)
  | some name => .ok (dir.withFileName (withExtension name))

/-- The file system with the packed form of a directory written to a path. -/
def writeLibrary (fs : FileSystem) (dir output : Path) : Except PackError FileSystem := do
  let contents ← packLibrary fs dir
  (fs.write output contents).mapError (.output output)

/-- Packs a directory and reports it. -/
def packInto (fs : FileSystem) (dir output : Path) : Traced (Except PackError FileSystem) :=
  match writeLibrary fs dir output with
  | .error e => pure (.error e)
  | .ok after => do
      Traced.report (.packed dir output)
      pure (.ok after)

end Linkage
