import Linkage.Path
import Linkage.Text.Quoted

set_option autoImplicit false

/-! # Events

The steps of a load and of packing are reported as events. An event says what happened; its
level, the part of the program that it comes from, its fields and its wording follow from
that. The end of a timed step is reported from within the step, and the log may say so.
-/

namespace Linkage

/-- How urgent an event is. -/
inductive Level where
  | error
  | warn
  | info
  | debug
  | trace
deriving DecidableEq

namespace Level

/-- The name of a level in a log line. -/
def name : Level → String
  | error => "ERROR"
  | warn => "WARN"
  | info => "INFO"
  | debug => "DEBUG"
  | trace => "TRACE"

/-- How much a level lets through: a higher rank is a chattier level. -/
def rank : Level → Nat
  | error => 1
  | warn => 2
  | info => 3
  | debug => 4
  | trace => 5

end Level

/-- A step that is timed. The steps are told apart by their labels. -/
structure TimedStep where
  label : String
deriving DecidableEq

namespace TimedStep

/-- The name that all timed steps share. -/
def name : String := "profile"

/-- The name of the field that holds the label. -/
def fieldName : String := "label"

/-- The part of the program that times steps. -/
def origin : String := "modlink::utils"

/-- The level of a timed step. -/
def level : Level := .debug

end TimedStep

/-- What is reported. -/
inductive Event where
  /-- A load begins. -/
  | configuring (moduleName targetName : String)
  /-- A search root is looked at. -/
  | probing (root : Path) (identifier : String)
  | resolved (identifier : String) (path : Path)
  | opened (libraryName : String) (path : Path)
  /-- A timed step is over, however it ended. -/
  | finished (label : String)
  | linked (count : Nat)
  | packed (dir output : Path)
deriving DecidableEq

namespace Event

/-- The level of an event. -/
def level : Event → Level
  | configuring _ _ | packed _ _ => .info
  | resolved _ _ | opened _ _ | finished _ | linked _ => .debug
  | probing _ _ => .trace

/-- The part of the program that an event comes from. -/
def origin : Event → String
  | configuring _ _ => "modlink"
  | probing _ _ | resolved _ _ => "modlink::resolver"
  | opened _ _ => "modlink::library"
  | finished _ => TimedStep.origin
  | linked _ => "modlink::linker"
  | packed _ _ => "modlink::writer"

/-- The timed step that an event lies in. -/
def step : Event → Option TimedStep
  | finished label => some ⟨label⟩
  | _ => none

/-- The names of the fields of an event: its wording, and the time that a step took. -/
def fields : Event → List String
  | finished _ => ["message", "elapsed_ms"]
  | _ => ["message"]

/-- The wording of an event. -/
def message : Event → String
  | configuring moduleName targetName => "configuring '" ++ moduleName ++ "' for " ++ targetName
  | probing root identifier => "probing " ++ root.text ++ " for '" ++ identifier ++ "'"
  | resolved identifier path => "resolved '" ++ identifier ++ "' to " ++ path.text
  | opened libraryName path => "opened library '" ++ libraryName ++ "' from " ++ path.text
  | finished label => label
  | linked count => "linked " ++ toString count ++ " modules"
  | packed dir output => "packed " ++ dir.text ++ " into " ++ output.text

/-- A character of a wording as a log line shows it. The controls that a terminal would act
on are spelled out; tabs and line breaks are not among them. -/
def shownChar (c : Char) : List Char :=
  if c = '\x07' then "\\x07".toList
  else if c = '\x08' then "\\x08".toList
  else if c = '\x0c' then "\\x0c".toList
  else if c = '\x1b' then "\\x1b".toList
  else if c = '\x7f' then "\\x7f".toList
  else if 0x80 ≤ c.toNat && c.toNat ≤ 0x9F then Quoted.codePoint c
  else [c]

end Event

/-- An event in the log, with the timed step that the log shows it in. -/
structure LogEntry where
  event : Event
  step : Option TimedStep
deriving DecidableEq

namespace LogEntry

/-- A timed step as it stands in front of an event. -/
def stepText (s : TimedStep) : String :=
  TimedStep.name ++ "\x7b" ++ TimedStep.fieldName ++ "=" ++ Quoted.quote s.label ++ "\x7d: "

/-- The line of an entry. -/
def line (entry : LogEntry) : String :=
  let e := entry.event
  e.level.name ++ " " ++ (entry.step.map stepText).getD "" ++ e.origin ++ ": "
    ++ String.ofList (e.message.toList.flatMap Event.shownChar)

end LogEntry

end Linkage
