import Linkage.Log.Filter
import Linkage.Proofs.Loader.Stages

set_option autoImplicit false

/-! # Loads in the log

A traversal reports what its steps report, in order and up to the first step that fails
(`Traced.events_traverse_append`). Loading a module reports nothing itself, and the end of each
load is reported whatever came of it, so there is one event for every library that was tried,
the failing one included (`Library.events_loadModules_of_error`).

The filter of a level lets through what is at most as chatty as the level
(`LogFilter.entry?_ofLevel`). From the debug level on it shows timed steps, with their labels.
-/

namespace Linkage

open Traversal (exists_mapM_iff mapM_eq_ok_iff mapM_eq_error_iff)

/-! ## Events of traversals -/

namespace Traced

variable {ε α β : Type} {step : α → Traced (Except ε β)} {x : α} {xs : List α}

theorem events_traverse_cons_of_error {e : ε} (h : (step x).value = .error e) (rest : List α) :
    (traverse step (x :: rest)).events = (step x).events := by
  rw [traverse, events_bind, h, events_pure, List.append_nil]

theorem events_traverse_cons_of_ok {y : β} (h : (step x).value = .ok y) (rest : List α) :
    (traverse step (x :: rest)).events = (step x).events ++ (traverse step rest).events := by
  rw [traverse, events_bind, h]
  show _ ++ (traverse step rest >>= _).events = _
  rw [events_bind]
  cases (traverse step rest).value with
  | error e => rw [events_pure, List.append_nil]
  | ok ys => rw [events_pure, List.append_nil]

/-- Steps that succeed report one after the other, and then the rest of the traversal. -/
theorem events_traverse_append (h : ∀ x ∈ xs, ∃ y, (step x).value = .ok y) (rest : List α) :
    (traverse step (xs ++ rest)).events
      = xs.flatMap (fun x => (step x).events) ++ (traverse step rest).events := by
  induction xs with
  | nil => rfl
  | cons x xs ih =>
      obtain ⟨⟨y, hy⟩, hxs⟩ := List.forall_mem_cons.1 h
      rw [List.cons_append, events_traverse_cons_of_ok hy, ih hxs, List.flatMap_cons,
        List.append_assoc]

/-- If all steps succeed, all of them report. -/
theorem events_traverse_of_ok (h : ∀ x ∈ xs, ∃ y, (step x).value = .ok y) :
    (traverse step xs).events = xs.flatMap fun x => (step x).events := by
  have happend := events_traverse_append h []
  rwa [List.append_nil, traverse, events_pure, List.append_nil] at happend

/-- The step that fails is the last one to report. -/
theorem events_traverse_of_error (h : ∀ x ∈ xs, ∃ y, (step x).value = .ok y) {e : ε}
    (hx : (step x).value = .error e) (later : List α) :
    (traverse step (xs ++ x :: later)).events
      = (xs ++ [x]).flatMap fun x => (step x).events := by
  rw [events_traverse_append h, events_traverse_cons_of_error hx, List.flatMap_append,
    List.flatMap_singleton]

end Traced

/-! ## The filter of a level -/

namespace LogFilter

/-- The filter that a level is read as. -/
def ofLevel (level : Level) : LogFilter := ⟨[⟨none, none, none, level.rank⟩]⟩

theorem rank_pos (level : Level) : 0 < level.rank := by
  cases level <;> decide

/-- The name of a level, in small letters. -/
def levelText (level : Level) : String :=
  String.ofList (level.name.toList.map Char.toLower)

theorem parse_levelText (level : Level) :
    LogFilter.parse (levelText level) = .ok (ofLevel level) := by
  cases level <;> rfl

theorem parse_debug : LogFilter.parse "debug" = .ok (ofLevel .debug) :=
  parse_levelText .debug

section OfLevel

variable (level : Level)

@[simp] theorem eventRank_ofLevel (e : Event) : (ofLevel level).eventRank e = level.rank := by
  have habout : (Directive.mk none none none level.rank).isAbout e = true := rfl
  have hgeneral : (Directive.mk none none none level.rank).isGeneral = true := rfl
  rw [eventRank, ofLevel, List.filter_cons_of_pos (by rw [hgeneral, habout]; rfl)]
  rfl

@[simp] theorem stepRank_ofLevel (s : TimedStep) : (ofLevel level).stepRank s = 0 := rfl

@[simp] theorem showsSteps_ofLevel :
    (ofLevel level).showsSteps = decide (TimedStep.level.rank ≤ level.rank) := rfl

/-- What is at most as chatty as a level is let through. -/
@[simp] theorem passes_ofLevel (e : Event) :
    (ofLevel level).passes e = decide (e.level.rank ≤ level.rank) := by
  -- a step that no directive is about lets nothing through
  have hrank : ¬e.level.rank ≤ 0 := Nat.not_le.2 (rank_pos _)
  rw [passes, eventRank_ofLevel]
  cases e.step with
  | none => exact Bool.or_false _
  | some s =>
      show (_ || decide (e.level.rank ≤ (ofLevel level).stepRank s)) = _
      rw [stepRank_ofLevel, decide_eq_false hrank, Bool.or_false]

/-- The log of a level shows events with the timed steps that they lie in, if it shows steps. -/
theorem entry?_ofLevel (e : Event) : LogFilter.entry? (ofLevel level) e
    = if e.level.rank ≤ level.rank then
        some ⟨e, if TimedStep.level.rank ≤ level.rank then e.step else none⟩
      else none := by
  simp [LogFilter.entry?]

end OfLevel

end LogFilter

/-! ## Loads -/

namespace Library

/-- The end of the load of a library. -/
def loadEnd (l : Library) : Event := .finished ("Loading " ++ l.name)

/-- The entry about the load of a library: a timed step with the name of the library. -/
def loadEntry (l : Library) : LogEntry := ⟨l.loadEnd, some ⟨"Loading " ++ l.name⟩⟩

/-- The line of a load has its label twice, in quotes as that of the step and as the message. -/
theorem line_loadEntry (l : Library) : l.loadEntry.line
    = "DEBUG profile\x7blabel=" ++ Quoted.quote ("Loading " ++ l.name) ++ "\x7d: modlink::utils: "
      ++ String.ofList (("Loading " ++ l.name).toList.flatMap Event.shownChar) := by
  have hfront : "DEBUG profile\x7blabel="
      = "DEBUG" ++ " " ++ ("profile" ++ "\x7b" ++ "label" ++ "=") := by rfl
  have hback : "\x7d: modlink::utils: " = "\x7d: " ++ "modlink::utils" ++ ": " := by rfl
  show "DEBUG" ++ " " ++ ("profile" ++ "\x7b" ++ "label" ++ "="
    ++ Quoted.quote ("Loading " ++ l.name) ++ "\x7d: ") ++ "modlink::utils" ++ ": " ++ _ = _
  rw [hfront, hback]
  simp only [String.append_assoc]
  rfl

example : (loadEntry ⟨⟨"sub/foo", .packed (Path.ofString "sub/foo.mlib")⟩, ⟨"foo", 1, []⟩⟩).line
    = "DEBUG profile\x7blabel=\"Loading foo\"\x7d: modlink::utils: Loading foo" := by rfl

/-- From the debug level on the log shows every load. -/
theorem log_map_loadEnd (libraries : List Library) :
    (LogFilter.ofLevel .debug).log (libraries.map loadEnd) = libraries.map loadEntry := by
  rw [LogFilter.log, List.filterMap_map, ← List.filterMap_eq_map]
  refine List.filterMap_congr fun l _ => ?_
  show LogFilter.entry? (.ofLevel .debug) l.loadEnd = _
  rw [LogFilter.entry?_ofLevel]
  rfl

section LoadModules

variable {fs : FileSystem} {version : LanguageVersion} {libraries : List Library}

theorem events_loadModules_of_ok (h : ∀ l ∈ libraries, ∃ m, l.loadModule fs version = .ok m) :
    (loadModules fs version libraries).events = libraries.map loadEnd := by
  rw [loadModules, Traced.events_traverse_of_ok h, List.map_eq_flatMap]
  rfl

theorem events_loadModules_of_error (h : ∀ l ∈ libraries, ∃ m, l.loadModule fs version = .ok m)
    {failing : Library} {e : LoadError} (hfailing : failing.loadModule fs version = .error e)
    (later : List Library) :
    (loadModules fs version (libraries ++ failing :: later)).events
      = (libraries ++ [failing]).map loadEnd := by
  rw [loadModules, Traced.events_traverse_of_error h hfailing, List.map_eq_flatMap]
  rfl

end LoadModules

/-- **Every load is reported under its own label**, the failing one included. Loading modules
comes to the modules in order, or to the first failure, and at the debug level the log has one
entry for every library in order, if all loads succeed, and otherwise one for each library up to
and including the first one that fails. -/
theorem loads_are_reported (fs : FileSystem) (version : LanguageVersion)
    (libraries : List Library) :
    let loading := loadModules fs version libraries
    let log := (LogFilter.ofLevel .debug).log loading.events
    LogFilter.parse "debug" = .ok (.ofLevel .debug)
    ∧ loading.value = libraries.mapM (loadModule fs version)
    ∧ ((∃ modules, loading.value = .ok modules
        ∧ List.Forall₂ (fun l m => l.loadModule fs version = .ok m) libraries modules
        ∧ log = libraries.map loadEntry)
      ∨ ∃ before failing later e, libraries = before ++ failing :: later
        ∧ (∀ l ∈ before, ∃ m, l.loadModule fs version = .ok m)
        ∧ failing.loadModule fs version = .error e ∧ loading.value = .error e
        ∧ log = (before ++ [failing]).map loadEntry) := by
  intro loading log
  have hvalue : loading.value = libraries.mapM (loadModule fs version) :=
    value_loadModules fs version libraries
  refine ⟨LogFilter.parse_debug, hvalue, ?_⟩
  cases houtcome : libraries.mapM (loadModule fs version) with
  | ok modules =>
      have hevents : loading.events = libraries.map loadEnd :=
        events_loadModules_of_ok (exists_mapM_iff.1 ⟨modules, houtcome⟩)
      refine Or.inl ⟨modules, hvalue.trans houtcome, mapM_eq_ok_iff.1 houtcome, ?_⟩
      show (LogFilter.ofLevel .debug).log loading.events = _
      rw [hevents, log_map_loadEnd]
  | error e =>
      obtain ⟨before, failing, later, hlibraries, hbefore, hfailing⟩ := mapM_eq_error_iff.1 houtcome
      have hevents : loading.events = (before ++ [failing]).map loadEnd := by
        show (loadModules fs version libraries).events = _
        rw [hlibraries]
        exact events_loadModules_of_error hbefore hfailing later
      refine Or.inr ⟨before, failing, later, e, hlibraries, hbefore, hfailing,
        hvalue.trans houtcome, ?_⟩
      show (LogFilter.ofLevel .debug).log loading.events = _
      rw [hevents, log_map_loadEnd]

end Library

end Linkage
