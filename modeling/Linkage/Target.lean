import Linkage.Path

set_option autoImplicit false

/-! # Targets and the distribution

A library is built for named targets. The distribution is where the toolchain keeps its own
libraries: one directory below its installation, one below the user's local data.
-/

namespace Linkage

/-- The targets that programs are compiled for. -/
inductive Target where
  | linuxX64
  | linuxArm64
  | macosX64
  | macosArm64
  | mingwX64
  | wasm32
deriving DecidableEq

namespace Target

/-- Every target, in order. -/
def all : List Target := [linuxX64, linuxArm64, macosX64, macosArm64, mingwX64, wasm32]

/-- The name of a target in manifests and on the command line. -/
def name : Target → String
  | linuxX64 => "linux_x64"
  | linuxArm64 => "linux_arm64"
  | macosX64 => "macos_x64"
  | macosArm64 => "macos_arm64"
  | mingwX64 => "mingw_x64"
  | wasm32 => "wasm32"

/-- The target with a given name. -/
def ofName? (name : String) : Option Target := all.find? fun target => target.name == name

/-- The machines that are targets, by the names of their systems and architectures. -/
def machines : List ((String × String) × Target) :=
  [(("linux", "x86_64"), linuxX64), (("linux", "aarch64"), linuxArm64),
    (("macos", "x86_64"), macosX64), (("macos", "aarch64"), macosArm64),
    (("windows", "x86_64"), mingwX64)]

/-- The target matching a machine, if any. -/
def ofMachine? (system architecture : String) : Option Target :=
  machines.lookup (system, architecture)

/-- The complaint about a name that no target has. -/
def unknownMessage (name : String) : String := "unknown target '" ++ name ++ "'"

end Target

/-- The directories of a toolchain installation. -/
structure Distribution where
  home : Path
  localDir : Path
deriving DecidableEq

namespace Distribution

/-- The libraries that come with the toolchain. -/
def libraryDir (d : Distribution) : Path := d.home.join (Path.ofString "lib")

/-- The libraries kept for the user. -/
def localLibraryDir (d : Distribution) : Path := d.localDir.join (Path.ofString "lib")

end Distribution

end Linkage
