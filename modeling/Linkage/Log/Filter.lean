import Linkage.Log.Directive
import Linkage.Log.Event

set_option autoImplicit false

/-! # Filters for events

A filter is a list of directives with commas between them. They work in two ways.

A directive that names no step and asks for no value is a general one. Of the general
directives that are about an event, the narrowest decides whether it is let through.

A directive that names a step or asks for a field is about timed steps too. The directives that
are about a step and whose condition its label meets let events in it through besides, up to
the chattiest of their levels.

The log shows a step if a directive is about it, whatever the label, or else if the narrowest
general directive for its origin lets it through; fields do not matter there.
-/

namespace Linkage

/-- The directives of a filter. -/
structure LogFilter where
  directives : List Directive
deriving DecidableEq

namespace Directive

/-- Whether a directive is a general one. -/
def isGeneral (d : Directive) : Bool :=
  d.step.isNone && d.field.all fun f => f.value.isNone

/-- Whether a directive is about an event, if it is a general one. -/
def isAbout (d : Directive) (e : Event) : Bool :=
  d.covers e.origin && d.field.all fun f => e.fields.contains f.name

/-- Whether a directive is about timed steps. -/
def isAboutSteps (d : Directive) : Bool :=
  (d.step.isSome || d.field.isSome) && d.covers TimedStep.origin
    && d.step.all (· == TimedStep.name.toList)
    && d.field.all fun f => f.name == TimedStep.fieldName

/-- Whether the label of a timed step meets the condition of a directive. -/
def holdsIn (d : Directive) (s : TimedStep) : Bool :=
  d.field.all fun f => f.value.all fun condition => condition.holds s.label

end Directive

namespace LogFilter

/-- The texts between commas that are not empty. -/
def pieces (text : List Char) : List (List Char) :=
  (text.foldr (fun c (pieces : List (List Char)) =>
    match c, pieces with
    | ',', _ => [] :: pieces
    | c, [] => [[c]]
    | c, piece :: rest => (c :: piece) :: rest) [[]]).filter (· != [])

/-- The directives that no later one replaces. -/
def latest : List Directive → List Directive
  | [] => []
  | d :: ds => if ds.any (·.scope == d.scope) then latest ds else d :: latest ds

/-- Reads a filter. One without directives lets errors through. -/
def parse (text : String) : Except FilterFault LogFilter := do
  let directives ← (pieces text.toList).mapM Directive.parse
  return ⟨if directives.isEmpty then [⟨none, none, none, 1⟩] else latest directives⟩

/-- The rank that the narrowest of some directives lets through, none if there is none. -/
def decision (ds : List Directive) : Nat :=
  let narrowest := ds.foldl (fun best d =>
    match best with
    | none => some d
    | some b => if d.isNarrow b then some d else best) none
  (narrowest.map Directive.rank).getD 0

/-- The rank up to which general directives let an event through. -/
def eventRank (f : LogFilter) (e : Event) : Nat :=
  decision (f.directives.filter fun d => d.isGeneral && d.isAbout e)

/-- The rank up to which events in a timed step are let through. -/
def stepRank (f : LogFilter) (s : TimedStep) : Nat :=
  let matching := f.directives.filter fun d => d.isAboutSteps && d.holdsIn s
  matching.foldl (fun rank d => max rank d.rank) 0

/-- Whether a filter lets an event through. -/
def passes (f : LogFilter) (e : Event) : Bool :=
  e.level.rank ≤ f.eventRank e || e.step.any fun s => e.level.rank ≤ f.stepRank s

/-- Whether the log shows that an event lies in a timed step. -/
def showsSteps (f : LogFilter) : Bool :=
  f.directives.any Directive.isAboutSteps ||
    TimedStep.level.rank ≤
      decision (f.directives.filter fun d => d.isGeneral && d.covers TimedStep.origin)

/-- The entry of an event, if it is let through. -/
def entry? (f : LogFilter) (e : Event) : Option LogEntry :=
  if f.passes e then some ⟨e, if f.showsSteps then e.step else none⟩ else none

/-- The log of some events. -/
def log (f : LogFilter) (events : List Event) : List LogEntry := events.filterMap f.entry?

end LogFilter

end Linkage
