import Linkage.CommandLine.Arguments
import Linkage.CommandLine.Help
import Linkage.Log.Filter
import Linkage.Packing

set_option autoImplicit false

/-! # The program

A run takes a command line, an environment and a file system to an outcome: an exit code,
the standard output, the log, and the failure if there was one.
Loading prints only when everything succeeded and changes no file; packing changes the
output file at most.
-/

namespace Linkage

open CommandLine (Environment Request UsageError)

/-- A failure with what caused it, outermost first. -/
structure Report where
  message : String
  causes : List String
deriving DecidableEq

namespace Report

/-- The report of a failure from its wording and that of its causes. -/
def ofChain (chain : List String) : Report := ⟨chain.headD "", chain.tail⟩

/-- A text whose further lines are set in. -/
def indent (margin : String) (text : String) : String :=
  String.ofList (text.toList.flatMap fun c => if c = '\n' then '\n' :: margin.toList else [c])

/-- The lines of causes, numbered if there are several. -/
def causeLines : List String → List String
  | [cause] => ["    " ++ indent "    " cause]
  | causes => causes.zipIdx.map fun (cause, i) =>
      let number := toString i
      "".pushn ' ' (5 - number.length) ++ number ++ ": " ++ indent "       " cause

/-- The text of a failure. -/
def text (r : Report) : String :=
  match r.causes with
  | [] => "Error: " ++ r.message
  | causes => "\n".intercalate
      (["Error: " ++ r.message, "", "Caused by:"] ++ causeLines causes)

end Report

/-- What a run comes to. -/
structure Outcome where
  exitCode : Nat
  output : String
  log : List LogEntry
  report : Option Report
  files : FileSystem

namespace Program

/-! ## Loading -/

/-- The line about a library. -/
def libraryLine (l : Library) : String :=
  "library " ++ l.artifact.identifier ++ " (" ++ l.name ++ ") -> " ++ l.path.text

/-- The line about a module of a graph. -/
def moduleLine (g : ModuleGraph) (m : Module) : String :=
  let names := (m.dependencies.filterMap g.get?).map Module.name
  "module " ++ m.name ++ " [" ++ toString m.declarations.length ++ " declarations] depends on: "
    ++ ", ".intercalate names

/-- The lines about a load that succeeded. -/
def loadLines (libraries : List Library) (g : ModuleGraph) (natives : List String) :
    List String :=
  libraries.map libraryLine ++ g.modules.map (moduleLine g)
    ++ natives.map (fun name => "native " ++ name)
    ++ ["Linked " ++ toString g.size ++ " modules"]

/-- Loads a configuration: opens the libraries, then loads and links their modules. -/
def load (c : Configuration) (fs : FileSystem) : Traced (Except Report (List String)) := do
  Traced.report (.configuring c.moduleName c.target.name)
  let (libraries, l) ← (Loader.ofConfiguration c).readableLibraries fs
  match libraries with
  | .error e => pure (.error ⟨"failed to open libraries", [e.message]⟩)
  | .ok libraries =>
      let (graph, _) ← l.moduleGraph fs
      match graph with
      | .error e => pure (.error ⟨"failed to load module metadata", [e.message]⟩)
      | .ok graph => pure (.ok (loadLines libraries graph c.nativeLibraries))

/-! ## Packing -/

/-- The failure that a packing error amounts to. -/
def packReport (e : PackError) : Report := .ofChain e.chain

/-- Packs a directory to a path, by default beside it. -/
def pack (dir : Path) (output : Option Path) (fs : FileSystem) :
    Traced (Except Report (List String) × FileSystem) :=
  let target : Except PackError Path := match output with
    | some path => .ok path
    | none => defaultOutput dir
  match target with
  | .error e => pure (.error (packReport e), fs)
  | .ok target => do
      match ← packInto fs dir target with
      | .error e => pure (.error (packReport e), fs)
      | .ok after => pure (.ok ["Packed library to " ++ target.text], after)

/-! ## Runs -/

/-- Lines with their ends. -/
def lines (ls : List String) : String := String.join (ls.map (· ++ "\n"))

/-- Carries out a request. -/
def perform (env : Environment) (fs : FileSystem) :
    Request → Traced (Except Report (List String) × FileSystem)
  | .load options =>
      match options.withDefaults env with
      | .error e => pure (.error (.ofChain e.chain), fs)
      | .ok c => do
          let result ← load c fs
          pure (result, fs)
  | .pack dir output => pack dir output fs

/-- Runs a command line. A filter that cannot be cut into its parts breaks the run off, with an
exit code of its own and without a report. -/
def run (env : Environment) (fs : FileSystem) (arguments : List String) : Outcome :=
  match CommandLine.read env arguments with
  | .error e => ⟨e.exitCode, CommandLine.helpText env e, [], none, fs⟩
  | .ok invocation =>
      match LogFilter.parse invocation.logLevel with
      | .error .malformed =>
          ⟨1, "", [], some ⟨"invalid --log-level", ["invalid filter directive"]⟩, fs⟩
      | .error .insideCharacter => ⟨101, "", [], none, fs⟩
      | .ok filter =>
          let traced := perform env fs invocation.request
          let (result, after) := traced.value
          let log := filter.log traced.events
          match result with
          | .error report => ⟨1, "", log, some report, after⟩
          | .ok ls => ⟨0, lines ls, log, none, after⟩

end Program

end Linkage
