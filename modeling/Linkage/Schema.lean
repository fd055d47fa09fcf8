import Linkage.Text.Quoted

set_option autoImplicit false

/-! # Data that does not fit its schema

The manifest and the metadata are read in two steps: the text of a data format, then the
fields that the schema asks for. A fault of the second step says what was found and what
was expected; all faults of the first step are one, since where exactly a text leaves its
format is no concern of the schema.
-/

namespace Linkage.Schema

/-- A value as faults speak of it. Floating-point numbers come as the format writes them. -/
inductive Found where
  | null
  | boolean (value : Bool)
  | integer (value : Int)
  | floating (text : String)
  | string (value : String)
  | sequence
  | map
deriving DecidableEq

/-- A text between backquotes. -/
def backquoted (text : String) : String := "`" ++ text ++ "`"

/-- The wording of a value found. -/
def Found.describe : Found → String
  | null => "null"
  | boolean true => "boolean `true`"
  | boolean false => "boolean `false`"
  | integer value => "integer " ++ backquoted (toString value)
  | floating text => "floating point " ++ backquoted text
  | string value => "string " ++ Quoted.quote value
  | sequence => "sequence"
  | map => "map"

/-- Why data does not fit. -/
inductive Fault where
  /-- The text is not of the data format. -/
  | malformed
  | invalidType (found : Found) (expected : String)
  | invalidValue (found : Found) (expected : String)
  /-- A record written as a sequence ends too early. -/
  | invalidLength (length : Nat) (expected : String)
  | unknownField (name : String) (known : List String)
  | unknownVariant (name : String) (known : List String)
  | duplicateField (name : String)
  | missingField (name : String)
  | invalidVersion (text : String)
deriving DecidableEq

/-- The names that would have been right. -/
def oneOf : List String → String
  | [a, b] => backquoted a ++ " or " ++ backquoted b
  | names => "one of " ++ ", ".intercalate (names.map backquoted)

/-- The wording of a fault. -/
def Fault.message : Fault → String
  | malformed => "syntax error"
  | invalidType found expected => "invalid type: " ++ found.describe ++ ", expected " ++ expected
  | invalidValue found expected => "invalid value: " ++ found.describe ++ ", expected " ++ expected
  | invalidLength length expected =>
      "invalid length " ++ toString length ++ ", expected " ++ expected
  | unknownField name known => "unknown field " ++ backquoted name ++ ", expected " ++ oneOf known
  | unknownVariant name known =>
      "unknown variant " ++ backquoted name ++ ", expected " ++ oneOf known
  | duplicateField name => "duplicate field " ++ backquoted name
  | missingField name => "missing field " ++ backquoted name
  | invalidVersion text => "invalid language version '" ++ text ++ "', expected MAJOR.MINOR"

end Linkage.Schema
