import Linkage.Numerals
import Linkage.Schema
import Linkage.Target
import Linkage.Text.Utf8
import Linkage.Toml.Reader

set_option autoImplicit false

/-! # Manifests

The manifest of a library is a TOML document that assigns its unique name, the version of
the binary interface it was built for, and the names of its targets. Other keys are
ignored. The keys are looked at in the order of the document, so the first fault is that of
the first key whose value does not fit; missing keys come after that.
-/

namespace Linkage

open Schema (Found Fault)

/-- What a library says about itself. -/
structure Manifest where
  uniqueName : String
  abiVersion : UInt32
  targets : List String
deriving DecidableEq

/-! ## Values as a schema sees them -/

/-- A value as faults speak of it. Dates are maps of their parts. -/
def Toml.Value.found : Toml.Value → Found
  | string value => .string value
  | integer value => .integer value
  | floating value => .floating (Decimal.plain value)
  | boolean value => .boolean value
  | datetime => .map
  | array _ => .sequence
  | inlineTable _ _ => .map

/-- The elements of an array of tables as values; what is in them does not matter. -/
def Toml.Item.asValue : Toml.Item → Toml.Value
  | value v => v
  | table _ _ _ => .inlineTable false []
  | tables elements => .array (elements.map fun _ => .inlineTable false [])

/-- A string. -/
def Toml.Value.asString : Toml.Value → Except Fault String
  | string value => .ok value
  | value => .error (.invalidType value.found "a string")

/-- An unsigned integer of 32 bits. -/
def Toml.Value.asWord : Toml.Value → Except Fault UInt32
  | integer value =>
      if 0 ≤ value ∧ value < UInt32.size then .ok (UInt32.ofNat value.toNat)
      else .error (.invalidValue (.integer value) "u32")
  | value => .error (.invalidType value.found "u32")

/-- An array of strings. -/
def Toml.Value.asStrings : Toml.Value → Except Fault (List String)
  | array items => items.mapM Toml.Value.asString
  | value => .error (.invalidType value.found "a sequence")

/-! ## Reading manifests -/

/-- The keys of a manifest read so far. -/
structure ManifestFields where
  uniqueName : Option String
  abiVersion : Option UInt32
  targets : Option (List String)

namespace ManifestFields

/-- Takes up one entry of the document. -/
def entry (fields : ManifestFields) (key : String) (value : Toml.Value) :
    Except Fault ManifestFields :=
  if key = "unique_name" then do return { fields with uniqueName := some (← value.asString) }
  else if key = "abi_version" then do return { fields with abiVersion := some (← value.asWord) }
  else if key = "targets" then do return { fields with targets := some (← value.asStrings) }
  else .ok fields

/-- The manifest that the keys amount to. -/
def finish (fields : ManifestFields) : Except Fault Manifest :=
  match fields.uniqueName, fields.abiVersion, fields.targets with
  | none, _, _ => .error (.missingField "unique_name")
  | _, none, _ => .error (.missingField "abi_version")
  | _, _, none => .error (.missingField "targets")
  | some uniqueName, some abiVersion, some targets => .ok ⟨uniqueName, abiVersion, targets⟩

end ManifestFields

namespace Manifest

/-- Why a manifest cannot be read. -/
inductive Problem where
  /-- After the first `validUpTo` bytes the manifest is no text. -/
  | notText (validUpTo : Nat) (fault : Utf8.Fault)
  | invalid (fault : Fault)
deriving DecidableEq

/-- The wording of a problem. -/
def Problem.message : Problem → String
  | notText validUpTo (.invalid length) =>
      "manifest is not UTF-8: invalid utf-8 sequence of " ++ toString length
        ++ " bytes from index " ++ toString validUpTo
  | notText validUpTo .truncated =>
      "manifest is not UTF-8: incomplete utf-8 byte sequence from index " ++ toString validUpTo
  | invalid fault => "invalid manifest: " ++ fault.message

/-- The manifest in the text of a document. -/
def ofText (text : List Char) : Except Fault Manifest := do
  let entries ← match Toml.parse? text with
    | some entries => .ok entries
    | none => .error .malformed
  let fields ← entries.foldlM
    (fun (fields : ManifestFields) (key, item) => fields.entry key item.asValue) ⟨none, none, none⟩
  fields.finish

/-- Reads a manifest. -/
def parse (bytes : Bytes) : Except Problem Manifest :=
  match Utf8.decode bytes with
  | ⟨text, some fault⟩ => .error (.notText (Utf8.encode text).length fault)
  | ⟨text, none⟩ =>
      match ofText text with
      | .ok manifest => .ok manifest
      | .error fault => .error (.invalid fault)

/-- Whether a library can be used for a target. -/
def supports (m : Manifest) (target : Target) : Bool := m.targets.contains target.name

end Manifest

end Linkage
