import Linkage.Declaration
import Linkage.Json.Decode
import Linkage.Json.Reader
import Linkage.LanguageVersion
import Linkage.Text.Utf8

set_option autoImplicit false

/-! # Module metadata

The metadata of a module is a JSON record with its name, the language version it was
compiled with and its declarations. There are no further fields, none may be repeated, and
only the declarations may be left out.
-/

namespace Linkage

open Schema (Fault)

/-! ## Declarations -/

/-- The fields of a declaration read so far. -/
structure DeclarationFields where
  name : Option String
  kind : Option DeclarationKind
  visibility : Option Visibility

/-- Takes up one field of a declaration. -/
def DeclarationFields.field (fields : DeclarationFields) (key : String) (value : Json) :
    Except Fault DeclarationFields :=
  if key = "name" then
    if fields.name.isSome then .error (.duplicateField key)
    else do return { fields with name := some (← value.asString) }
  else if key = "kind" then
    if fields.kind.isSome then .error (.duplicateField key)
    else do return { fields with kind := some (← value.asChoice DeclarationKind.names) }
  else if key = "visibility" then
    if fields.visibility.isSome then .error (.duplicateField key)
    else do return { fields with visibility := some (← value.asChoice Visibility.names) }
  else .error (.unknownField key ["name", "kind", "visibility"])

/-- The declaration that the fields amount to. -/
def DeclarationFields.finish (fields : DeclarationFields) : Except Fault Declaration :=
  match fields.name, fields.kind with
  | none, _ => .error (.missingField "name")
  | _, none => .error (.missingField "kind")
  | some name, some kind => .ok ⟨name, kind, fields.visibility.getD .exported⟩

/-- Declarations as records. -/
def Declaration.record : Json.Record DeclarationFields Declaration where
  title := "struct Declaration"
  names := ["name", "kind", "visibility"]
  required := 2
  start := ⟨none, none, none⟩
  field := DeclarationFields.field
  finish := DeclarationFields.finish

/-! ## Modules -/

/-- What a module says about itself. -/
structure ModuleMetadata where
  name : String
  languageVersion : LanguageVersion
  declarations : List Declaration
deriving DecidableEq

/-- A string that spells a language version. -/
def Json.asVersion (value : Json) : Except Fault LanguageVersion := do
  let text ← value.asString
  match LanguageVersion.ofString? text with
  | some version => return version
  | none => throw (.invalidVersion text)

/-- The fields of a module's metadata read so far. -/
structure ModuleFields where
  name : Option String
  languageVersion : Option LanguageVersion
  declarations : Option (List Declaration)

/-- Takes up one field of a module's metadata. -/
def ModuleFields.field (fields : ModuleFields) (key : String) (value : Json) :
    Except Fault ModuleFields :=
  if key = "name" then
    if fields.name.isSome then .error (.duplicateField key)
    else do return { fields with name := some (← value.asString) }
  else if key = "language_version" then
    if fields.languageVersion.isSome then .error (.duplicateField key)
    else do return { fields with languageVersion := some (← value.asVersion) }
  else if key = "declarations" then
    if fields.declarations.isSome then .error (.duplicateField key)
    else do return { fields with declarations := some (← value.asList Declaration.record.decode) }
  else .error (.unknownField key ["name", "language_version", "declarations"])

/-- The metadata that the fields amount to. -/
def ModuleFields.finish (fields : ModuleFields) : Except Fault ModuleMetadata :=
  match fields.name, fields.languageVersion with
  | none, _ => .error (.missingField "name")
  | _, none => .error (.missingField "language_version")
  | some name, some version => .ok ⟨name, version, fields.declarations.getD []⟩

namespace ModuleMetadata

/-- The metadata of modules as records. -/
def record : Json.Record ModuleFields ModuleMetadata where
  title := "struct ModuleMetadata"
  names := ["name", "language_version", "declarations"]
  required := 2
  start := ⟨none, none, none⟩
  field := ModuleFields.field
  finish := ModuleFields.finish

/-- Metadata as an object. -/
def toJson (m : ModuleMetadata) : Json :=
  Json.ofMembers [("name", .string m.name), ("language_version", .string m.languageVersion.text),
    ("declarations", Json.ofItems (m.declarations.map Declaration.toJson))]

/-- Reads the metadata in a file. Faults of the record come before what follows it. Bytes
that are no text end the text, and nothing after the record makes up for them. -/
def parse (bytes : Bytes) : Except Fault ModuleMetadata := do
  let decoded := Utf8.decode bytes
  let (value, complete) := Json.readText decoded.text
  let metadata ← record.decode value
  if complete && decoded.fault.isNone then return metadata else throw .malformed

end ModuleMetadata

end Linkage
