import Linkage.Json.Value

set_option autoImplicit false

/-! # Decoding values

Decoders go through a value from left to right and stop at the first fault, be it one of the
text or one of the schema. A record is given by the reader of one field, which updates the
fields read so far, and by what the fields amount to at the end.
-/

namespace Linkage.Json

open Schema (Fault)

/-- A string. -/
def asString : Json → Except Fault String
  | string value => .ok value
  | value => .error (value.mismatch "a string")

/-- The item that a name stands for in a list of choices. -/
def choose {α : Type} (choices : List (String × α)) (name : String) : Except Fault α :=
  match choices.find? fun choice => choice.1 == name with
  | some (_, a) => .ok a
  | none => .error (.unknownVariant name (choices.map Prod.fst))

/-- One of several choices: its name, or an object that has the name as its only key and
null as the value. Any other kind of value does not count as JSON here. -/
def asChoice {α : Type} (choices : List (String × α)) : Json → Except Fault α
  | string name => choose choices name
  | object ((name, value) :: more) closed => do
      let a ← choose choices name
      match value with
      | null => if more.isEmpty && closed then .ok a else .error .malformed
      | value => .error (value.mismatch "unit")
  | _ => .error .malformed

/-- Decodes the items of an array in order. -/
def decodeItems {α : Type} (decode : Json → Except Fault α) (closed : Bool) :
    List Json → Except Fault (List α)
  | [] => if closed then .ok [] else .error .malformed
  | item :: rest => do
      let a ← decode item
      let as ← decodeItems decode closed rest
      return a :: as

/-- An array of values of one kind. -/
def asList {α : Type} (decode : Json → Except Fault α) : Json → Except Fault (List α)
  | array items closed => decodeItems decode closed items
  | value => .error (value.mismatch "a sequence")

/-- How a record of type `α` is put together. `field` takes up one field into those read so
far, complains about a repeated or unknown one before it looks at the value, and `finish`
checks that none is missing. The names tell which field stands where in an array, and those
after the first `required` ones may be left out there. -/
structure Record (σ α : Type) where
  title : String
  names : List String
  required : Nat
  start : σ
  field : σ → String → Json → Except Fault σ
  finish : σ → Except Fault α

namespace Record

variable {σ α : Type}

/-- Takes up the members of an object. -/
def takeMembers (r : Record σ α) (closed : Bool) : σ → List (String × Json) → Except Fault σ
  | state, [] => if closed then .ok state else .error .malformed
  | state, (key, value) :: rest => do
      let state ← r.field state key value
      r.takeMembers closed state rest

/-- What a sequence should have been. -/
def expected (r : Record σ α) : String :=
  r.title ++ " with " ++ toString r.names.length ++ " elements"

/-- Takes up the items of an array for the fields from number `index` on. -/
def takeItems (r : Record σ α) (closed : Bool) :
    Nat → List String → σ → List Json → Except Fault σ
  | _, [], state, [] => if closed then .ok state else .error .malformed
  | _, [], _, _ :: _ => .error .malformed
  | index, name :: names, state, item :: items => do
      let state ← r.field state name item
      r.takeItems closed (index + 1) names state items
  | index, _ :: _, state, [] =>
      if !closed then .error .malformed
      else if index < r.required then .error (.invalidLength index r.expected)
      else .ok state

/-- Decodes a record. -/
def decode (r : Record σ α) : Json → Except Fault α
  | object members closed => do r.finish (← r.takeMembers closed r.start members)
  | array items closed => do r.finish (← r.takeItems closed 0 r.names r.start items)
  | value => .error (value.mismatch r.title)

end Record

end Linkage.Json
