import Linkage.Container
import Linkage.Manifest
import Linkage.Metadata
import Linkage.Module
import Linkage.Resolver

set_option autoImplicit false

/-! # Readable libraries

A library is opened by reading its manifest, and it is only opened if it fits: first the
binary interface, then the target. The metadata of its module is read later, and it has to
be about this library and for a language version that is not too new.
-/

namespace Linkage

/-- A library that was opened: where it was found, and its manifest. -/
structure Library where
  artifact : Artifact
  manifest : Manifest
deriving DecidableEq

namespace Library

/-- The name of a library. -/
def name (l : Library) : String := l.manifest.uniqueName

/-- The path of a library. -/
def path (l : Library) : Path := l.artifact.path

/-! ## Opening -/

/-- The manifest of the library in a layout. -/
def readManifest (fs : FileSystem) (layout : Layout) : Except LoadError Manifest := do
  let container ← Container.ofLayout fs layout
  let contents ← container.entry fs manifestName
  match Manifest.parse contents with
  | .ok manifest => return manifest
  | .error problem => throw (.corrupt layout.path problem.message)

/-- Checks a manifest against what the program is built for. -/
def check (path : Path) (target : Target) (abiVersion : UInt32) (manifest : Manifest) :
    Except LoadError Unit :=
  if manifest.abiVersion != abiVersion then
    .error (.incompatible path (.abi abiVersion manifest.abiVersion))
  else if !manifest.supports target then
    .error (.incompatible path (.target target.name manifest.targets))
  else .ok ()

/-- The library at an artifact, if it fits. -/
def ofArtifact (fs : FileSystem) (artifact : Artifact) (target : Target) (abiVersion : UInt32) :
    Except LoadError Library := do
  let manifest ← readManifest fs artifact.layout
  check artifact.path target abiVersion manifest
  return ⟨artifact, manifest⟩

/-- Opens the library at an artifact and reports it. -/
def openAt (fs : FileSystem) (artifact : Artifact) (target : Target) (abiVersion : UInt32) :
    Traced (Except LoadError Library) :=
  match ofArtifact fs artifact target abiVersion with
  | .error e => pure (.error e)
  | .ok library => do
      Traced.report (.opened library.name library.path)
      pure (.ok library)

/-! ## Modules -/

/-- The module that metadata of a library describes, for a program in some language version.
A wrong name counts before a wrong version. -/
def moduleOf (l : Library) (version : LanguageVersion) (metadata : ModuleMetadata) :
    Except String Module :=
  if metadata.name != l.name then
    .error ("metadata describes module '" ++ metadata.name ++ "'")
  else if metadata.languageVersion.newerThan version then
    .error ("compiled with language version " ++ metadata.languageVersion.text
      ++ ", newer than " ++ version.text)
  else .ok (.unlinked metadata.name l.path metadata.declarations)

/-- The module that the contents of a metadata entry describe. -/
def parseModule (l : Library) (version : LanguageVersion) (contents : Bytes) :
    Except LoadError Module :=
  let outcome : Except String Module := match ModuleMetadata.parse contents with
    | .error fault => .error fault.message
    | .ok metadata => l.moduleOf version metadata
  match outcome with
  | .error reason => .error (.metadata l.name l.path reason)
  | .ok m => .ok m

/-- The module of a library, not linked. -/
def loadModule (fs : FileSystem) (version : LanguageVersion) (l : Library) :
    Except LoadError Module := do
  let container ← Container.ofLayout fs l.artifact.layout
  let contents ← container.entry fs metadataName
  l.parseModule version contents

/-- The modules of some libraries in order, up to the first failure. Each attempt is timed
under the name of its library, the failing one included. -/
def loadModules (fs : FileSystem) (version : LanguageVersion) :
    List Library → Traced (Except LoadError (List Module)) :=
  Traced.traverse fun l => Traced.timed ("Loading " ++ l.name) (pure (l.loadModule fs version))

end Library

end Linkage
