set_option autoImplicit false

/-! # Command lines

A command has flags with and without values, places for free arguments, and possibly
subcommands. Arguments are taken from left to right. The value of a flag may be attached to
it or be the next argument; in the latter case it is stored only when the next flag or free
argument comes, so a fault in a value may show after faults that stand behind it. After `--`
every argument is a free one.
-/

namespace Linkage.CommandLine

/-- Why a command line is not carried out. Asking for help or for the version counts too. -/
inductive UsageError where
  /-- Help about a command, or about the program where the name is empty. -/
  | displayHelp (command : String)
  | displayVersion
  | missingArguments
  | missingRequired
  | missingSubcommand
  | invalidSubcommand
  | unknownArgument
  | argumentConflict
  | invalidValue
  | valueValidation
  | tooManyValues
deriving DecidableEq

/-- The exit code for a command line that is not carried out. -/
def UsageError.exitCode : UsageError → Nat
  | displayHelp _ | displayVersion => 0
  | _ => 2

/-- What is wrong with the command line, in words. -/
def UsageError.message : UsageError → String
  | displayHelp _ | displayVersion => ""
  | missingRequired => "a required argument is missing"
  | missingArguments | missingSubcommand => "a command is required"
  | invalidSubcommand => "there is no such command"
  | unknownArgument => "there is no such argument"
  | argumentConflict => "an argument cannot be used more than once"
  | invalidValue => "a value is required for an argument"
  | valueValidation => "the value of an argument is not of its form"
  | tooManyValues => "a flag takes no value"

/-- Takes up a value. -/
abbrev Store (σ : Type) := String → σ → Except UsageError σ

/-- What a flag does. -/
inductive Action (σ : Type) where
  | value (store : Store σ)
  | switch (store : σ → Except UsageError σ)
  | stop (error : UsageError)

/-- A flag with its names. -/
structure Flag (σ : Type) where
  long : String
  short : Option Char
  action : Action σ

/-- A command whose arguments are collected in a value of type `σ`. -/
structure Command (σ : Type) where
  flags : List (Flag σ)
  free : List (Store σ)
  subcommands : List String

/-- A value whose storing is due: its flag came without one, or it came but is not stored. -/
inductive Pending (σ : Type) where
  | nothing
  | awaited (store : Store σ)
  | given (store : Store σ) (value : String)

/-- How far the arguments are taken up: what is collected, what is due, the places left for
free arguments, and whether only free arguments follow. -/
structure Progress (σ : Type) where
  collected : σ
  pending : Pending σ
  free : List (Store σ)
  onlyFree : Bool

namespace Command

variable {σ : Type}

/-- Stores what is due. A value that never came is a fault. -/
def settle (p : Progress σ) : Except UsageError σ :=
  match p.pending with
  | .nothing => .ok p.collected
  | .awaited _ => .error .invalidValue
  | .given store value => store value p.collected

/-- Stores what is due and then one more thing. -/
def andThen (p : Progress σ) (store : σ → Except UsageError σ) :
    Except UsageError (Progress σ) := do
  let collected ← settle p
  return { p with collected := ← store collected, pending := .nothing }

/-- Stores what is due and leaves something else due. -/
def leave (p : Progress σ) (pending : Pending σ) : Except UsageError (Progress σ) := do
  return { p with collected := ← settle p, pending := pending }

/-- The fault of a free argument that has no place. -/
def stray (c : Command σ) (p : Progress σ) (argument : String) : UsageError :=
  if c.subcommands.isEmpty then .unknownArgument
  else if p.onlyFree && c.subcommands.contains argument then .unknownArgument
  else .invalidSubcommand

/-- Takes up a free argument. -/
def takeFree (c : Command σ) (p : Progress σ) (argument : String) :
    Except UsageError (Progress σ) :=
  match p.free with
  | [] => .error (c.stray p argument)
  | store :: free => do
      let p ← leave p (.given store argument)
      return { p with free := free }

/-- Takes up a long flag, with the value attached to it by an equals sign. -/
def takeLong (c : Command σ) (p : Progress σ) (text : List Char) :
    Except UsageError (Progress σ) :=
  let name := text.takeWhile (· != '=')
  let attached := (text.drop name.length).tail
  let hasValue := text.contains '='
  match c.flags.find? fun flag => flag.long.toList == name with
  | none => .error .unknownArgument
  | some flag =>
      match flag.action with
      | .value store =>
          if hasValue then andThen p (store (String.ofList attached)) else leave p (.awaited store)
      | .switch store => if hasValue then .error .tooManyValues else andThen p store
      | .stop error =>
          if hasValue then .error .tooManyValues else andThen p fun _ => .error error

/-- Takes up short flags written together. A flag with a value takes all that follows it as
its value, without an equals sign in front. -/
def takeShort (c : Command σ) : Progress σ → List Char → Except UsageError (Progress σ)
  | p, [] => .ok p
  | p, name :: rest =>
      match c.flags.find? fun flag => flag.short == some name with
      | none => .error .unknownArgument
      | some flag =>
          match flag.action with
          | .switch store => do takeShort c (← andThen p store) rest
          | .stop error => do takeShort c (← andThen p fun _ => .error error) rest
          | .value store =>
              match rest with
              | [] => leave p (.awaited store)
              | '=' :: value => andThen p (store (String.ofList value))
              | value => andThen p (store (String.ofList value))

/-- Takes up one argument. -/
def take (c : Command σ) (p : Progress σ) (argument : String) : Except UsageError (Progress σ) :=
  if p.onlyFree then c.takeFree p argument
  else
    match argument.toList with
    | ['-', '-'] => .ok { p with onlyFree := true }
    | '-' :: '-' :: text => c.takeLong p text
    | '-' :: name :: rest => c.takeShort p (name :: rest)
    | _ =>
        match p.pending with
        | .awaited store => .ok { p with pending := .given store argument }
        | _ => c.takeFree p argument

/-- Whether the next argument is the value of a flag. -/
def Progress.awaitsValue (p : Progress σ) : Bool :=
  match p.pending with
  | .awaited _ => true
  | _ => false

/-- Takes up arguments up to the end or to a subcommand, which comes with the arguments that
are its own. -/
def takeAll (c : Command σ) :
    Progress σ → List String → Except UsageError (Progress σ × Option (String × List String))
  | p, [] => .ok (p, none)
  | p, argument :: rest =>
      if !p.onlyFree && !Progress.awaitsValue p && c.subcommands.contains argument then
        .ok (p, some (argument, rest))
      else do takeAll c (← c.take p argument) rest

/-- Takes up all arguments of a command from a start. -/
def collect (c : Command σ) (start : σ) (arguments : List String) :
    Except UsageError (Progress σ × Option (String × List String)) :=
  c.takeAll ⟨start, .nothing, c.free, false⟩ arguments

/-- Takes up all arguments of a command without subcommands. -/
def run (c : Command σ) (start : σ) (arguments : List String) : Except UsageError σ := do
  let (p, _) ← c.collect start arguments
  settle p

end Command

end Linkage.CommandLine
