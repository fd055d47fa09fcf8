import Linkage.Library

set_option autoImplicit false

/-! # Loading a configuration

A loader takes a configuration through three stages: its identifiers are resolved to
artifacts, the artifacts opened as libraries, and the modules of the libraries loaded and
linked. A stage is worked out when it is first asked for and then kept, whether it succeeded
or failed; later changes of the file system do not matter to it. There is no way back.

Asking for libraries resolves and opens identifier by identifier, so the first bad
identifier decides the failure whichever way it is bad. Artifacts that were resolved before
are used as they are, and if all libraries open, their artifacts count as resolved.
-/

namespace Linkage

/-- What is to be loaded, and for what. -/
structure Configuration where
  /-- The name of the module being compiled. -/
  moduleName : String
  libraries : List String
  noStdlib : Bool
  repositories : List Path
  target : Target
  abiVersion : UInt32
  languageVersion : LanguageVersion
  distribution : Distribution
  /-- Libraries that are handed on without being looked at. -/
  nativeLibraries : List String
deriving DecidableEq

namespace Configuration

/-- The version of the binary interface that the toolchain produces. -/
def currentAbiVersion : UInt32 := 1

/-- The identifiers to load, in order. -/
def identifiers (c : Configuration) : List String := libraryNames c.libraries c.noStdlib

/-- The resolver for the directories of a configuration. -/
def resolver (c : Configuration) : Resolver := .ofRoots c.repositories c.distribution

end Configuration

/-- The result of a stage once it was worked out. -/
abbrev Stage (α : Type) := Option (Except LoadError α)

/-- A configuration with the stages worked out so far. -/
structure Loader where
  configuration : Configuration
  artifacts : Stage (List Artifact)
  libraries : Stage (List Library)
  graph : Stage ModuleGraph

namespace Loader

/-- A loader before its first stage. -/
def ofConfiguration (c : Configuration) : Loader := ⟨c, none, none, none⟩

/-- The identifiers to load. -/
def identifiers (l : Loader) : List String := l.configuration.identifiers

/-- The artifacts of all identifiers. -/
def resolvedArtifacts (l : Loader) (fs : FileSystem) :
    Traced (Except LoadError (List Artifact) × Loader) :=
  match l.artifacts with
  | some found => pure (found, l)
  | none => do
      let found ← l.configuration.resolver.resolveAll fs l.identifiers
      pure (found, { l with artifacts := some found })

/-- Opens an artifact for the target of the configuration. -/
def openArtifact (l : Loader) (fs : FileSystem) (artifact : Artifact) :
    Traced (Except LoadError Library) :=
  Library.openAt fs artifact l.configuration.target l.configuration.abiVersion

/-- Opens artifacts in order, up to the first failure. -/
def openAll (l : Loader) (fs : FileSystem) :
    List Artifact → Traced (Except LoadError (List Library)) :=
  Traced.traverse (l.openArtifact fs)

/-- Resolves and opens one identifier. -/
def resolveAndOpen (l : Loader) (fs : FileSystem) (identifier : String) :
    Traced (Except LoadError Library) := do
  match ← l.configuration.resolver.resolve fs identifier with
  | .error e => pure (.error e)
  | .ok artifact => l.openArtifact fs artifact

/-- Resolves and opens identifiers in order, each before the next one is looked at. -/
def resolveAndOpenAll (l : Loader) (fs : FileSystem) :
    List String → Traced (Except LoadError (List Library)) :=
  Traced.traverse (l.resolveAndOpen fs)

/-- The libraries of all identifiers, from the artifacts resolved before if there are any. -/
def openLibraries (l : Loader) (fs : FileSystem) : Traced (Except LoadError (List Library)) :=
  match l.artifacts with
  | some (.ok found) => l.openAll fs found
  | _ => l.resolveAndOpenAll fs l.identifiers

/-- The loader after its libraries were worked out: the artifacts of libraries that opened
are known, unless that stage has a result already. -/
def keepLibraries (l : Loader) : Except LoadError (List Library) → Loader
  | .error e => { l with libraries := some (.error e) }
  | .ok opened =>
      { l with
        libraries := some (.ok opened)
        artifacts := l.artifacts <|> some (.ok (opened.map Library.artifact)) }

/-- The libraries of all identifiers, opened and checked. -/
def readableLibraries (l : Loader) (fs : FileSystem) :
    Traced (Except LoadError (List Library) × Loader) :=
  match l.libraries with
  | some opened => pure (opened, l)
  | none => do
      let opened ← l.openLibraries fs
      pure (opened, l.keepLibraries opened)

/-- Links loaded modules and reports it. -/
def linkModules (modules : List Module) : Traced ModuleGraph := do
  Traced.report (.linked modules.length)
  pure (.ofModules modules)

/-- The graph of the modules of some libraries. -/
def loadGraph (l : Loader) (fs : FileSystem) :
    Except LoadError (List Library) → Traced (Except LoadError ModuleGraph)
  | .error e => pure (.error e)
  | .ok opened => do
      match ← Library.loadModules fs l.configuration.languageVersion opened with
      | .error e => pure (.error e)
      | .ok modules => do
          let graph ← linkModules modules
          pure (.ok graph)

/-- The linked modules of all libraries. -/
def moduleGraph (l : Loader) (fs : FileSystem) : Traced (Except LoadError ModuleGraph × Loader) :=
  match l.graph with
  | some graph => pure (graph, l)
  | none => do
      let (opened, l) ← l.readableLibraries fs
      let graph ← l.loadGraph fs opened
      pure (graph, { l with graph := some graph })

/-- The modules of the graph. -/
def modules (l : Loader) (fs : FileSystem) : Traced (Except LoadError (List Module) × Loader) := do
  let (graph, l) ← l.moduleGraph fs
  pure (graph.map ModuleGraph.modules, l)

end Loader

end Linkage
