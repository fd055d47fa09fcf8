import Linkage.Path

set_option autoImplicit false

/-! # Failures of loading

Every failure ends the configuration it arises in. Each names the library it is about and,
once that is known, the path.
-/

namespace Linkage

/-- Why a readable library cannot be used. -/
inductive Incompatibility where
  | abi (expected found : UInt32)
  | target (expected : String) (available : List String)
deriving DecidableEq

/-- The wording of an incompatibility. -/
def Incompatibility.message : Incompatibility → String
  | abi expected found =>
      "ABI version " ++ toString found.toNat ++ " does not match required "
        ++ toString expected.toNat
  | target expected available =>
      "target '" ++ expected ++ "' not among [" ++ ", ".intercalate available ++ "]"

/-- Why loading fails. -/
inductive LoadError where
  /-- No searched directory holds the library. -/
  | resolution (identifier : String) (searched : List Path)
  /-- The library was built for another target or binary interface. -/
  | incompatible (path : Path) (reason : Incompatibility)
  /-- The container or the manifest in it cannot be read. -/
  | corrupt (path : Path) (reason : String)
  /-- The metadata of the module is not what it should be. -/
  | metadata (library : String) (path : Path) (reason : String)
deriving DecidableEq

/-- The wording of a failure. -/
def LoadError.message : LoadError → String
  | resolution identifier searched =>
      "library '" ++ identifier ++ "' not found in ["
        ++ ", ".intercalate (searched.map Path.text) ++ "]"
  | incompatible path reason =>
      "incompatible library " ++ path.text ++ ": " ++ reason.message
  | corrupt path reason => "corrupt library " ++ path.text ++ ": " ++ reason
  | metadata library path reason =>
      "failed to load metadata of '" ++ library ++ "' (" ++ path.text ++ "): " ++ reason

end Linkage
