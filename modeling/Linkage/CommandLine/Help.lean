import Linkage.CommandLine.Arguments

set_option autoImplicit false

/-! # Help texts

What is printed when help or the version is asked for.
-/

namespace Linkage.CommandLine

/-- Help about the program. -/
def topHelp : List String := [
  "Library resolution and packing for the compiler front-end",
  "",
  "Usage: modlink [OPTIONS] <COMMAND>",
  "",
  "Commands:",
  "  load  Resolve, load and link libraries, then print the module graph",
  "  pack  Pack an unpacked library directory into a .mlib archive",
  "  help  Print this message or the help of the given subcommand(s)",
  "",
  "Options:",
  "      --log-level <LOG_LEVEL>  Set the logging level [default: info]",
  "  -h, --help                   Print help",
  "  -V, --version                Print version"]

/-- How help shows a variable of the environment. -/
def fromEnvironment (name : String) (value : Option String) : String :=
  "[env: " ++ name ++ "=" ++ value.getD "" ++ "]"

/-- Help about `load`. -/
def loadHelp (env : Environment) : List String := [
  "Resolve, load and link libraries, then print the module graph",
  "",
  "Usage: modlink load [OPTIONS]",
  "",
  "Options:",
  "  -l, --library <LIBRARIES>",
  "          Library to link against (repeatable)",
  "  -r, --repo <REPOSITORIES>",
  "          Repository to search before the distribution (repeatable)",
  "      --nostdlib",
  "          Do not link the standard library",
  "      --target <TARGET>",
  "          Compilation target (defaults to the host)",
  "      --abi-version <ABI_VERSION>",
  "          [default: 1]",
  "      --language-version <LANGUAGE_VERSION>",
  "          Language version as MAJOR.MINOR",
  "      --module-name <MODULE_NAME>",
  "          [default: main]",
  "      --native-library <NATIVE_LIBRARIES>",
  "          Native library passed through to the backend (repeatable)",
  "      --home <HOME>",
  "          Toolchain installation directory " ++ fromEnvironment "MODLINK_HOME" env.toolchainHome,
  "      --local-dir <LOCAL_DIR>",
  "          Per-user data directory " ++ fromEnvironment "MODLINK_LOCAL_DIR" env.localDir,
  "      --log-level <LOG_LEVEL>",
  "          Set the logging level [default: info]",
  "  -h, --help",
  "          Print help"]

/-- Help about `pack`. -/
def packHelp : List String := [
  "Pack an unpacked library directory into a .mlib archive",
  "",
  "Usage: modlink pack [OPTIONS] <DIR>",
  "",
  "Arguments:",
  "  <DIR>  Unpacked library directory",
  "",
  "Options:",
  "  -o, --output <OUTPUT>        Path to the packed library (defaults to <DIR>.mlib)",
  "      --log-level <LOG_LEVEL>  Set the logging level [default: info]",
  "  -h, --help                   Print help"]

/-- Help about `help`. -/
def helpHelp : List String := [
  "Print this message or the help of the given subcommand(s)",
  "",
  "Usage: modlink help [COMMAND]...",
  "",
  "Arguments:",
  "  [COMMAND]...  Print help for the subcommand(s)"]

/-- What goes to the standard output instead of results. -/
def helpText (env : Environment) : UsageError → String
  | .displayVersion => "modlink 0.1.0\n"
  | .displayHelp command =>
      let lines :=
        if command == "load" then loadHelp env
        else if command == "pack" then packHelp
        else if command == "help" then helpHelp
        else topHelp
      String.join (lines.map (· ++ "\n"))
  | _ => ""

end Linkage.CommandLine
