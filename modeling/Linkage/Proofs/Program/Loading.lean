import Linkage.Proofs.Linking
import Linkage.Proofs.Loader.Precedence
import Linkage.Proofs.Program.Configuration

set_option autoImplicit false

/-! # Runs that load

A load opens all libraries and loads all modules before it prints its first line
(`value_load`), so its output is complete or empty. The failure that it ends with names the
stage: some identifier is bad, or all are good and some module does not load. A graph gives
every module all modules as its dependencies, and looking them up again loses none
(`ModuleGraph.filterMap_get?_range`), so the line of each module lists the names of all
modules in the order in which they were loaded.
-/

namespace Linkage

open Traversal (exists_of_bind_eq_ok mapM_eq_ok_iff exists_of_mem_mapM exists_mem_of_mapM)
open CommandLine (Environment)

/-! ## Lines about modules -/

namespace Program

/-- The line about a module that depends on some modules. -/
def dependenceLine (dependencies : List Module) (m : Module) : String :=
  "module " ++ m.name ++ " [" ++ toString m.declarations.length ++ " declarations] depends on: "
    ++ ", ".intercalate (dependencies.map Module.name)

/-- In the graph of modules that were not linked, the line of each lists all of them. -/
theorem map_moduleLine_ofModules {modules : List Module} (h : ∀ m ∈ modules, m.assigned = none) :
    (ModuleGraph.ofModules modules).modules.map (moduleLine (.ofModules modules))
      = modules.map (dependenceLine modules) := by
  have hlink : (ModuleGraph.ofModules modules).modules
      = modules.map fun m => { m with assigned := some (List.range modules.length) } :=
    Module.link_eq_map_of_unlinked h
  have hsize : (ModuleGraph.ofModules modules).size = modules.length := List.length_map _
  have hall : (List.range modules.length).filterMap (ModuleGraph.ofModules modules).get?
      = (ModuleGraph.ofModules modules).modules := by
    rw [← hsize]
    exact ModuleGraph.filterMap_get?_range _
  have hnames : (ModuleGraph.ofModules modules).modules.map Module.name
      = modules.map Module.name := by
    rw [hlink, List.map_map]
    rfl
  conv_lhs => rw [hlink, List.map_map]
  refine List.map_congr_left fun m _ => ?_
  show "module " ++ m.name ++ " [" ++ toString m.declarations.length
    ++ " declarations] depends on: " ++ ", ".intercalate
      (((List.range modules.length).filterMap (ModuleGraph.ofModules modules).get?).map
        Module.name) = _
  rw [hall, hnames, dependenceLine]

/-! ## What a load comes to -/

/-- A load opens the libraries, then loads and links their modules, and prints at the end. -/
theorem value_load (c : Configuration) (fs : FileSystem) :
    (load c fs).value = match c.librariesOn fs with
      | .error e => .error ⟨"failed to open libraries", [e.message]⟩
      | .ok libraries =>
          match c.graphOf fs (.ok libraries) with
          | .error e => .error ⟨"failed to load module metadata", [e.message]⟩
          | .ok g => .ok (loadLines libraries g c.nativeLibraries) := by
  have hopened : ((Loader.ofConfiguration c).readableLibraries fs).value
      = (c.librariesOn fs, (Loader.ofConfiguration c).keepLibraries (c.librariesOn fs)) := by
    rw [Loader.value_readableLibraries]
    rfl
  rw [load, Traced.value_bind, Traced.value_bind, hopened]
  cases hlibraries : c.librariesOn fs with
  | error e => rfl
  | ok libraries =>
      have hknown : (((Loader.ofConfiguration c).keepLibraries (.ok libraries)).moduleGraph
          fs).value.1 = c.graphOf fs (.ok libraries) := by
        rw [Loader.value_moduleGraph_of_empty rfl, Loader.value_readableLibraries]
        rfl
      show (Traced.value (_ >>= _)) = _
      rw [Traced.value_bind]
      dsimp only
      rw [← hknown]
      cases (((Loader.ofConfiguration c).keepLibraries (.ok libraries)).moduleGraph fs).value.1 with
      | error e => rfl
      | ok g => rfl

end Program

/-! ## How a load ends -/

namespace Configuration

variable {c : Configuration} {fs : FileSystem}

/-- Some identifier is bad. -/
def SomeFails (c : Configuration) (fs : FileSystem) : Prop :=
  ∃ identifier ∈ c.identifiers, ∃ e, c.Fails fs identifier e

/-- All identifiers are good, and the module of some library does not load. -/
def SomeModuleFails (c : Configuration) (fs : FileSystem) : Prop :=
  (∀ identifier ∈ c.identifiers, ∃ library, c.Opens fs identifier library)
    ∧ ∃ identifier ∈ c.identifiers, ∃ library, c.Opens fs identifier library
      ∧ ∃ e, library.loadModule fs c.languageVersion = .error e

/-- The library of each identifier and the module of each library, in order. -/
structure Loads (c : Configuration) (fs : FileSystem) (libraries : List Library)
    (modules : List Module) : Prop where
  opened : List.Forall₂ (c.Opens fs) c.identifiers libraries
  loaded : List.Forall₂ (fun library m => library.loadModule fs c.languageVersion = .ok m)
    libraries modules

/-- An identifier is not good and bad, nor does it open as two libraries. -/
theorem Opens.not_fails {identifier : String} {library : Library} {e : LoadError}
    (h : c.Opens fs identifier library) : ¬c.Fails fs identifier e := by
  intro hfails
  rw [← bind_libraryAt_eq_ok_iff] at h
  rw [← bind_libraryAt_eq_error_iff, h] at hfails
  cases hfails

theorem Opens.unique {identifier : String} {library library' : Library}
    (h : c.Opens fs identifier library) (h' : c.Opens fs identifier library') :
    library = library' := by
  rw [← bind_libraryAt_eq_ok_iff] at h h'
  exact Except.ok.inj (h.symm.trans h')

/-- If all libraries open, each identifier has one of them. -/
theorem exists_mem_of_librariesOn {libraries : List Library}
    (h : c.librariesOn fs = .ok libraries) {identifier : String}
    (hidentifier : identifier ∈ c.identifiers) :
    ∃ library ∈ libraries, c.Opens fs identifier library := by
  obtain ⟨library, hlibrary, hopens⟩ := exists_mem_of_mapM h hidentifier
  exact ⟨library, hlibrary, bind_libraryAt_eq_ok_iff.1 hopens⟩

/-- The library stage fails exactly if some identifier is bad. -/
theorem someFails_iff : c.SomeFails fs ↔ ∃ e, c.librariesOn fs = .error e := by
  constructor
  · rintro ⟨identifier, hidentifier, e, hfails⟩
    cases hlibraries : c.librariesOn fs with
    | error e' => exact ⟨e', rfl⟩
    | ok libraries =>
        obtain ⟨library, -, hopens⟩ := exists_mem_of_librariesOn hlibraries hidentifier
        exact absurd hfails hopens.not_fails
  · rintro ⟨e, he⟩
    obtain ⟨before, identifier, later, hidentifiers, -, hfails⟩ := librariesOn_eq_error_iff.1 he
    exact ⟨identifier, by simp [hidentifiers], e, hfails⟩

/-- The graph stage is the one that fails exactly if all identifiers are good and some module
does not load. -/
theorem someModuleFails_iff : c.SomeModuleFails fs ↔
    ∃ libraries e, c.librariesOn fs = .ok libraries ∧ c.graphOf fs (.ok libraries) = .error e := by
  constructor
  · rintro ⟨hgood, identifier, hidentifier, library, hopens, e, he⟩
    cases hlibraries : c.librariesOn fs with
    | error e' =>
        obtain ⟨bad, hbad, _, hfails⟩ := someFails_iff.2 ⟨e', hlibraries⟩
        obtain ⟨library', hopens'⟩ := hgood bad hbad
        exact absurd hfails hopens'.not_fails
    | ok libraries =>
        obtain ⟨library', hlibrary', hopens'⟩ := exists_mem_of_librariesOn hlibraries hidentifier
        obtain rfl := hopens.unique hopens'
        cases hgraph : c.graphOf fs (.ok libraries) with
        | error e' => exact ⟨libraries, e', rfl, hgraph⟩
        | ok g =>
            -- a graph needs the module of this library
            obtain ⟨_, h, hgraph⟩ := exists_of_bind_eq_ok hgraph
            cases h
            obtain ⟨modules, hmodules, -⟩ := exists_of_bind_eq_ok hgraph
            obtain ⟨m, -, hm⟩ := exists_mem_of_mapM hmodules hlibrary'
            rw [he] at hm
            cases hm
  · rintro ⟨libraries, e, hlibraries, hgraph⟩
    obtain ⟨before, library, later, rfl, -, he⟩ := graphOf_eq_error_iff.1 hgraph
    obtain ⟨identifier, hidentifier, hopens⟩ :=
      exists_of_mem_mapM hlibraries (y := library) (by simp)
    refine ⟨fun other hother => ?_, identifier, hidentifier, library,
      bind_libraryAt_eq_ok_iff.1 hopens, e, he⟩
    obtain ⟨library', -, hopens'⟩ := exists_mem_of_librariesOn hlibraries hother
    exact ⟨library', hopens'⟩

/-- A graph is that of the modules of all libraries. -/
theorem exists_loads_of_graphOf {libraries : List Library} {g : ModuleGraph}
    (hlibraries : c.librariesOn fs = .ok libraries)
    (hgraph : c.graphOf fs (.ok libraries) = .ok g) :
    ∃ modules, c.Loads fs libraries modules ∧ g = .ofModules modules := by
  obtain ⟨_, h, hgraph⟩ := exists_of_bind_eq_ok hgraph
  cases h
  obtain ⟨modules, hmodules, hgraph⟩ := exists_of_bind_eq_ok hgraph
  cases hgraph
  exact ⟨modules, ⟨librariesOn_eq_ok_iff.1 hlibraries, mapM_eq_ok_iff.1 hmodules⟩, rfl⟩

/-- Modules that were loaded are not linked. -/
theorem Loads.assigned {libraries : List Library} {modules : List Module}
    (h : c.Loads fs libraries modules) : ∀ m ∈ modules, m.assigned = none := by
  intro m hm
  obtain ⟨library, -, hload⟩ := exists_of_mem_mapM (mapM_eq_ok_iff.2 h.loaded) hm
  obtain ⟨declarations, rfl⟩ := Library.eq_unlinked_of_loadModule hload
  rfl

end Configuration

namespace Program

/-- The line about the library that an identifier opened as. -/
def openedLine (identifier : String) (library : Library) : String :=
  "library " ++ identifier ++ " (" ++ library.name ++ ") -> " ++ library.path.text

/-- The whole output of a load: one line for each identifier, then one for each module, one for
each native library, and the number of modules. -/
def loadReport (identifiers : List String) (libraries : List Library) (modules : List Module)
    (natives : List String) : List String :=
  List.zipWith openedLine identifiers libraries
    ++ modules.map (dependenceLine modules)
    ++ natives.map (fun name => "native " ++ name)
    ++ ["Linked " ++ toString modules.length ++ " modules"]

/-- The lines about libraries name the identifiers they were asked for under. -/
theorem map_libraryLine_of_opens {c : Configuration} {fs : FileSystem} {identifiers : List String}
    {libraries : List Library} (h : List.Forall₂ (c.Opens fs) identifiers libraries) :
    libraries.map libraryLine = List.zipWith openedLine identifiers libraries := by
  induction h with
  | nil => rfl
  | @cons identifier library identifiers libraries hopens _ ih =>
      have hidentifier : library.artifact.identifier = identifier :=
        Resolver.identifier_of_resolve hopens.resolves
      rw [List.map_cons, List.zipWith_cons_cons, ih, libraryLine, hidentifier]
      rfl

theorem loadLines_of_loads {c : Configuration} {fs : FileSystem} {libraries : List Library}
    {modules : List Module} (h : c.Loads fs libraries modules) (natives : List String) :
    loadLines libraries (.ofModules modules) natives
      = loadReport c.identifiers libraries modules natives := by
  have hsize : (ModuleGraph.ofModules modules).size = modules.length := List.length_map _
  rw [loadLines, loadReport, map_libraryLine_of_opens h.opened,
    map_moduleLine_ofModules h.assigned, hsize]

/-- A load fails for a bad identifier, or else for a module that does not load, or it reports
all libraries and modules. -/
theorem value_load_cases (c : Configuration) (fs : FileSystem) :
    (c.SomeFails fs ∧ ¬c.SomeModuleFails fs
      ∧ ∃ cause, (load c fs).value = .error ⟨"failed to open libraries", [cause]⟩)
    ∨ (¬c.SomeFails fs ∧ c.SomeModuleFails fs
      ∧ ∃ cause, (load c fs).value = .error ⟨"failed to load module metadata", [cause]⟩)
    ∨ (¬c.SomeFails fs ∧ ¬c.SomeModuleFails fs ∧ ∃ libraries modules, c.Loads fs libraries modules
      ∧ (load c fs).value
        = .ok (loadReport c.identifiers libraries modules c.nativeLibraries)) := by
  have hvalue := value_load c fs
  rw [Configuration.someFails_iff, Configuration.someModuleFails_iff]
  cases hlibraries : c.librariesOn fs with
  | error e =>
      rw [hlibraries] at hvalue
      left
      exact ⟨⟨e, rfl⟩, by simp, e.message, hvalue⟩
  | ok libraries =>
      right
      rw [hlibraries] at hvalue
      cases hgraph : c.graphOf fs (.ok libraries) with
      | error e =>
          simp only [hgraph] at hvalue
          left
          exact ⟨by simp, ⟨libraries, e, rfl, hgraph⟩, e.message, hvalue⟩
      | ok g =>
          simp only [hgraph] at hvalue
          right
          obtain ⟨modules, hloads, rfl⟩ := Configuration.exists_loads_of_graphOf hlibraries hgraph
          rw [loadLines_of_loads hloads] at hvalue
          exact ⟨by simp, by simp [hgraph], libraries, modules, hloads, hvalue⟩

/-! ## Runs -/

/-- The libraries asked for are those that the options name, and native ones are passed on. -/
theorem requested_of_configuration {env : Environment} {options : CommandLine.LoadOptions}
    {c : Configuration} (h : options.configuration env = .ok c) :
    c.identifiers = libraryNames options.libraries options.noStdlib
      ∧ c.nativeLibraries = options.nativeLibraries := by
  rw [CommandLine.LoadOptions.configuration_eq_ok_iff,
    CommandLine.LoadOptions.withDefaults_eq_ok_iff] at h
  obtain ⟨target, home, localDir, -, -, -, rfl⟩ := h
  exact ⟨rfl, rfl⟩

/-- A run that loads ends with the result of the load, on the files as they were. -/
theorem run_load {env : Environment} (fs : FileSystem) {arguments : List String}
    {invocation : CommandLine.Invocation} {options : CommandLine.LoadOptions} {filter : LogFilter}
    {c : Configuration} (hread : CommandLine.read env arguments = .ok invocation)
    (hrequest : invocation.request = .load options)
    (hlevel : LogFilter.parse invocation.logLevel = .ok filter)
    (hconfiguration : options.configuration env = .ok c) :
    ∃ log, run env fs arguments = match (load c fs).value with
      | .error report => ⟨1, "", log, some report, fs⟩
      | .ok ls => ⟨0, lines ls, log, none, fs⟩ := by
  refine ⟨filter.log (perform env fs invocation.request).events, ?_⟩
  have hperform : (perform env fs invocation.request).value = ((load c fs).value, fs) := by
    rw [hrequest, perform, CommandLine.LoadOptions.configuration_eq_ok_iff.1 hconfiguration]
    rfl
  unfold run
  cases hload : (load c fs).value with
  | error report => simp only [hread, hlevel, hperform, hload]
  | ok ls => simp only [hread, hlevel, hperform, hload]

/-- A place to run the program in. -/
def homeEnvironment : Environment where
  toolchainHome := none
  localDir := none
  userHome := some (Path.ofString "/home/u")
  installation := .ofString "/opt/modlink"

/-- The arguments that ask for the library `foo` alone. -/
def loadFoo : List String :=
  ["load", "-l", "foo", "--nostdlib", "-r", "repo", "--home", "dist", "--local-dir", "local"]

end Program

end Linkage
