import Linkage.CommandLine.Grammar
import Linkage.Loader

set_option autoImplicit false

/-! # The commands of the program

`load` resolves, opens and links libraries; `pack` packs the unpacked library in a
directory. The log level may be given before and after the name of the command; the later
one counts. Directories may come from the environment instead of the command line.
-/

namespace Linkage.CommandLine

/-- What is known about the place where the toolchain is installed. -/
inductive Installation where
  | root (dir : Path)
  /-- The executable does not lie two directories deep. -/
  | tooShallow (executable : Path)
  /-- The system does not say where the executable lies. -/
  | unlocated (cause : String)
deriving DecidableEq

namespace Installation

/-- An installation in a directory. -/
def ofString (dir : String) : Installation := root (Path.ofString dir)

/-- The installation that an executable belongs to: the directory above the one that holds it. -/
def ofExecutable (executable : Path) : Installation :=
  match executable.parent?.bind Path.parent? with
  | some dir => root dir
  | none => tooShallow executable

end Installation

/-- What a command line is read against: directories named by the environment, the home of
the user, the place where the toolchain is installed, and the target that the machine is, if
it is one. -/
structure Environment where
  toolchainHome : Option String
  localDir : Option String
  userHome : Option Path
  installation : Installation
  host : Option Target := Target.ofMachine? "linux" "x86_64"

/-! ## Collecting values -/

/-- A value that is given at most once. -/
def once {σ β : Type} (get : σ → Option β) (read : String → Except UsageError β)
    (set : β → σ → σ) : Store σ := fun text s => do
  if (get s).isSome then throw .argumentConflict
  return set (← read text) s

/-- A value that may be given again and again. -/
def repeated {σ β : Type} (read : String → Except UsageError β) (add : β → σ → σ) : Store σ :=
  fun text s => do return add (← read text) s

/-- Any text. -/
def anyText (text : String) : Except UsageError String := .ok text

/-- A path, which is not empty. -/
def pathValue (text : String) : Except UsageError Path :=
  if text == "" then .error .invalidValue else .ok (Path.ofString text)

/-- A text that has to be of some form. -/
def checked {β : Type} (read : String → Option β) (text : String) : Except UsageError β :=
  match read text with
  | some b => .ok b
  | none => .error .valueValidation

/-- A number of 32 bits. A sign may stand before its digits, also a minus before zero. -/
def readWord? (text : String) : Option UInt32 :=
  match text.toList with
  | '-' :: digits =>
      match Decimal.natural? digits with
      | some 0 => some 0
      | _ => none
  | cs => LanguageVersion.number? cs

/-! ## The options of a command line -/

/-- The options of `load` as given. -/
structure LoadOptions where
  libraries : List String
  repositories : List Path
  noStdlib : Bool
  target : Option Target
  abiVersion : Option UInt32
  languageVersion : Option LanguageVersion
  moduleName : Option String
  nativeLibraries : List String
  home : Option Path
  localDir : Option Path
  logLevel : Option String

/-- The options of `pack` as given. -/
structure PackOptions where
  dir : Option Path
  output : Option Path
  logLevel : Option String

/-- The options before the name of a command. -/
structure TopOptions where
  logLevel : Option String

/-- The flag that asks for help about a command. -/
def helpFlag {σ : Type} (command : String) : Flag σ :=
  ⟨"help", some 'h', .stop (.displayHelp command)⟩

/-- The command line before the name of a command. -/
def topCommand : Command TopOptions where
  flags := [
    ⟨"log-level", none, .value <| once TopOptions.logLevel anyText fun v _ => ⟨some v⟩⟩,
    helpFlag "",
    ⟨"version", some 'V', .stop .displayVersion⟩]
  free := []
  subcommands := ["load", "pack", "help"]

/-- The command line after `load`. -/
def loadCommand : Command LoadOptions where
  flags := [
    ⟨"library", some 'l', .value <|
      repeated anyText fun v s => { s with libraries := s.libraries ++ [v] }⟩,
    ⟨"repo", some 'r', .value <|
      repeated pathValue fun v s => { s with repositories := s.repositories ++ [v] }⟩,
    ⟨"nostdlib", none, .switch fun s =>
      if s.noStdlib then .error .argumentConflict else .ok { s with noStdlib := true }⟩,
    ⟨"target", none, .value <|
      once LoadOptions.target (checked Target.ofName?) fun v s => { s with target := some v }⟩,
    ⟨"abi-version", none, .value <|
      once LoadOptions.abiVersion (checked readWord?) fun v s => { s with abiVersion := some v }⟩,
    ⟨"language-version", none, .value <|
      once LoadOptions.languageVersion (checked LanguageVersion.ofString?)
        fun v s => { s with languageVersion := some v }⟩,
    ⟨"module-name", none, .value <|
      once LoadOptions.moduleName anyText fun v s => { s with moduleName := some v }⟩,
    ⟨"native-library", none, .value <|
      repeated anyText fun v s => { s with nativeLibraries := s.nativeLibraries ++ [v] }⟩,
    ⟨"home", none, .value <|
      once LoadOptions.home pathValue fun v s => { s with home := some v }⟩,
    ⟨"local-dir", none, .value <|
      once LoadOptions.localDir pathValue fun v s => { s with localDir := some v }⟩,
    ⟨"log-level", none, .value <|
      once LoadOptions.logLevel anyText fun v s => { s with logLevel := some v }⟩,
    helpFlag "load"]
  free := []
  subcommands := []

/-- The command line after `pack`. -/
def packCommand : Command PackOptions where
  flags := [
    ⟨"output", some 'o', .value <|
      once PackOptions.output pathValue fun v s => { s with output := some v }⟩,
    ⟨"log-level", none, .value <|
      once PackOptions.logLevel anyText fun v s => { s with logLevel := some v }⟩,
    helpFlag "pack"]
  free := [fun text s => do return { s with dir := some (← pathValue text) }]
  subcommands := []

/-! ## Reading a command line -/

/-- What is to be done. -/
inductive Request where
  | load (options : LoadOptions)
  | pack (dir : Path) (output : Option Path)

/-- A command line that was understood. -/
structure Invocation where
  logLevel : String
  request : Request

/-- A directory that was not given, taken from the environment if that names one. -/
def orNamed (given : Option Path) (named : Option String) : Except UsageError (Option Path) :=
  match given, named with
  | none, some text => do return some (← pathValue text)
  | _, _ => .ok given

/-- The options after `load`. -/
def readLoad (env : Environment) (arguments : List String) : Except UsageError LoadOptions := do
  let options ← loadCommand.run
    ⟨[], [], false, none, none, none, none, [], none, none, none⟩ arguments
  return { options with
    home := ← orNamed options.home env.toolchainHome
    localDir := ← orNamed options.localDir env.localDir }

/-- The options after `pack`, and the directory among them. -/
def readPack (arguments : List String) : Except UsageError (PackOptions × Path) := do
  let options ← packCommand.run ⟨none, none, none⟩ arguments
  match options.dir with
  | some dir => return (options, dir)
  | none => throw .missingRequired

/-- The commands that `help` explains; it takes no flags. -/
def readHelp : List String → UsageError
  | [] => .displayHelp ""
  | [name] => if topCommand.subcommands.contains name then .displayHelp name else .invalidSubcommand
  | _ => .invalidSubcommand

/-- The log level that counts: the one after the name of the command, else the one before it. -/
def logLevelOf (top sub : Option String) : String := ((sub <|> top).getD "info")

/-- Reads a command line. -/
def read (env : Environment) (arguments : List String) : Except UsageError Invocation := do
  let (p, subcommand) ← topCommand.collect ⟨none⟩ arguments
  match subcommand with
  | none =>
      let top ← Command.settle p
      if top.logLevel.isSome then throw .missingSubcommand else throw .missingArguments
  | some (name, rest) =>
      if name == "load" then
        let options ← readLoad env rest
        let top ← Command.settle p
        return ⟨logLevelOf top.logLevel options.logLevel, .load options⟩
      else if name == "pack" then
        let (options, dir) ← readPack rest
        let top ← Command.settle p
        return ⟨logLevelOf top.logLevel options.logLevel, .pack dir options.output⟩
      else throw (readHelp rest)

/-! ## The configuration of a load -/

/-- Why options of `load` do not amount to a configuration. -/
inductive ConfigurationError where
  | unsupportedHost
  | unlocatedExecutable (cause : String)
  | noInstallation (executable : Path)
  | noUserHome
deriving DecidableEq

namespace ConfigurationError

/-- The wording of an error. -/
def message : ConfigurationError → String
  | unsupportedHost => "host is not a supported target, pass --target"
  | unlocatedExecutable _ => "cannot locate the running executable"
  | noInstallation executable => "cannot derive an installation root from " ++ executable.text
  | noUserHome => "cannot determine the home directory, pass --local-dir"

/-- The wording of an error and of what caused it, outermost first. -/
def chain : ConfigurationError → List String
  | unlocatedExecutable cause => [(unlocatedExecutable cause).message, cause]
  | error => [error.message]

end ConfigurationError

/-- The directory of an installation. -/
def Installation.dir : Installation → Except ConfigurationError Path
  | root dir => .ok dir
  | tooShallow executable => .error (.noInstallation executable)
  | unlocated cause => .error (.unlocatedExecutable cause)

namespace LoadOptions

variable (options : LoadOptions) (env : Environment)

/-- The target to load for: the one asked for, else the machine. -/
def targetOn : Except ConfigurationError Target :=
  match options.target <|> env.host with
  | some target => .ok target
  | none => .error .unsupportedHost

/-- The directory of the toolchain: the one asked for, else that of the installation. -/
def homeOn : Except ConfigurationError Path :=
  match options.home with
  | some home => .ok home
  | none => env.installation.dir

/-- The user's local directory: the one asked for, else one in the home of the user. -/
def localDirOn : Except ConfigurationError Path :=
  match options.localDir, env.userHome with
  | some dir, _ => .ok dir
  | none, some home => .ok (home.join (Path.ofString ".modlink"))
  | none, none => .error .noUserHome

/-- The configuration for a target and the directories of a distribution. What else was not
given has a default of its own. -/
def configurationFor (target : Target) (distribution : Distribution) : Configuration where
  moduleName := options.moduleName.getD "main"
  libraries := options.libraries
  noStdlib := options.noStdlib
  repositories := options.repositories
  target := target
  abiVersion := options.abiVersion.getD Configuration.currentAbiVersion
  languageVersion := options.languageVersion.getD .latest
  distribution := distribution
  nativeLibraries := options.nativeLibraries

/-- The configuration with target and directories from the environment where they were not
given. The first one that is not known there either is complained about. -/
def withDefaults : Except ConfigurationError Configuration := do
  let target ← options.targetOn env
  let home ← options.homeOn env
  let localDir ← options.localDirOn env
  return options.configurationFor target ⟨home, localDir⟩

/-- The configuration that options of `load` ask for, or why there is none. -/
def configuration : Except String Configuration :=
  (options.withDefaults env).mapError ConfigurationError.message

end LoadOptions

end Linkage.CommandLine
