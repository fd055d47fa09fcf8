import Linkage.Layout
import Linkage.LoadError
import Linkage.Log.Traced
import Linkage.Target

set_option autoImplicit false

/-! # Finding libraries

An identifier is a path text. An absolute one names its library directly; a relative one is
looked up in the search roots, first the repositories of the user in their order and then
the two directories of the distribution. In each root the packed spelling is tried before
the identifier as given, and the first root with a hit decides.
-/

namespace Linkage

/-- The identifier of the standard library. -/
def standardLibrary : String := "stdlib"

/-- The identifiers to load: those asked for, then the standard library unless left out. -/
def libraryNames (explicit : List String) (noStdlib : Bool) : List String :=
  if noStdlib then explicit else explicit ++ [standardLibrary]

/-- A library that was found: what was asked for and where it lies. -/
structure Artifact where
  identifier : String
  layout : Layout
deriving DecidableEq

/-- The path of an artifact. -/
def Artifact.path (a : Artifact) : Path := a.layout.path

/-- The directories in which relative identifiers are looked up, in order. -/
structure Resolver where
  searchRoots : List Path
deriving DecidableEq

/-- The library at a candidate path: its packed spelling if that is a file, else what lies
at the candidate itself. -/
def probe (fs : FileSystem) (candidate : Path) : Option Layout :=
  match candidate.fileName with
  | none => none
  | some name =>
      let packed := candidate.withFileName (withExtension name)
      match (Layout.detect fs packed).filter Layout.isPacked with
      | some layout => some layout
      | none => Layout.detect fs candidate

namespace Resolver

/-- The resolver for user repositories and a distribution. -/
def ofRoots (repositories : List Path) (distribution : Distribution) : Resolver :=
  ⟨repositories ++ [distribution.libraryDir, distribution.localLibraryDir]⟩

/-- The first hit among some roots. Each root looked at is reported. -/
def search (fs : FileSystem) (identifier : String) : List Path → Traced (Option Layout)
  | [] => pure none
  | root :: rest => do
      Traced.report (.probing root identifier)
      match probe fs (root.join (Path.ofString identifier)) with
      | some layout => pure (some layout)
      | none => search fs identifier rest

/-- Reports a hit and makes it an artifact; without one, the failure lists what was searched. -/
def conclude (identifier : String) (searched : List Path) :
    Option Layout → Traced (Except LoadError Artifact)
  | some layout => do
      Traced.report (.resolved identifier layout.path)
      pure (.ok ⟨identifier, layout⟩)
  | none => pure (.error (.resolution identifier searched))

/-- Finds the library that an identifier names. An identifier without a last name, such as
`.` or `a/..`, names none and is not searched for. -/
def resolve (r : Resolver) (fs : FileSystem) (identifier : String) :
    Traced (Except LoadError Artifact) :=
  let given := Path.ofString identifier
  if given.fileName.isNone then pure (.error (.resolution identifier []))
  else if given.isAbsolute then conclude identifier [given] (probe fs given)
  else do
    let found ← search fs identifier r.searchRoots
    conclude identifier r.searchRoots found

/-- Finds several libraries in order. The first failure ends the search. -/
def resolveAll (r : Resolver) (fs : FileSystem) :
    List String → Traced (Except LoadError (List Artifact)) :=
  Traced.traverse (r.resolve fs)

end Resolver

end Linkage
