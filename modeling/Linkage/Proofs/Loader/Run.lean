import Linkage.Proofs.Loader.Stages

set_option autoImplicit false

/-! # Runs of a loader

A run is a list of calls of one loader, each with the file system it meets: between two
calls the files may change in any way. `ask` is one call, `after` the loader that a run
leaves, and `answers` what the calls of a run return.

* Every call is a chain of steps that fill one empty stage (`ask_reaches`), so an invariant
  of runs has three cases (`after_induction`).
* Stages are written once (`Extends`): a stage that has a result keeps it.
* A call returns what its stage holds afterwards (`artifacts_of_ask` and its siblings), so
  facts about the stages are facts about the answers.
-/

namespace Linkage

/-- What can be asked of a loader. -/
inductive Call where
  | identifiers
  | artifacts
  | libraries
  | modules
  | graph
deriving DecidableEq

/-- Whether a call needs the libraries. -/
def Call.opens : Call → Bool
  | identifiers => false
  | artifacts => false
  | libraries => true
  | modules => true
  | graph => true

/-- Whether a call needs the graph. -/
def Call.links : Call → Bool
  | identifiers => false
  | artifacts => false
  | libraries => false
  | modules => true
  | graph => true

/-- What a call returns. -/
inductive Answer where
  | identifiers (identifiers : List String)
  | artifacts (found : Except LoadError (List Artifact))
  | libraries (opened : Except LoadError (List Library))
  | modules (modules : Except LoadError (List Module))
  | graph (graph : Except LoadError ModuleGraph)

/-- The failure that a call returns, if it fails. -/
def Answer.failure? : Answer → Option LoadError
  | artifacts (.error e) => some e
  | libraries (.error e) => some e
  | modules (.error e) => some e
  | graph (.error e) => some e
  | _ => none

/-- Calls in order, each with the file system it meets. -/
abbrev Run := List (FileSystem × Call)

namespace Loader

/-- Asks a loader while the files are as in `fs`. -/
def ask (l : Loader) (fs : FileSystem) : Call → Answer × Loader
  | .identifiers => (.identifiers l.identifiers, l)
  | .artifacts =>
      let (found, l) := (l.resolvedArtifacts fs).value
      (.artifacts found, l)
  | .libraries =>
      let (opened, l) := (l.readableLibraries fs).value
      (.libraries opened, l)
  | .modules =>
      let (modules, l) := (l.modules fs).value
      (.modules modules, l)
  | .graph =>
      let (graph, l) := (l.moduleGraph fs).value
      (.graph graph, l)

/-- The loader after a run. -/
def after : Loader → Run → Loader
  | l, [] => l
  | l, (fs, call) :: rest => (l.ask fs call).2.after rest

/-- What the calls of a run return. -/
def answers : Loader → Run → List Answer
  | _, [] => []
  | l, (fs, call) :: rest => (l.ask fs call).1 :: (l.ask fs call).2.answers rest

theorem after_append (l : Loader) (first second : Run) :
    l.after (first ++ second) = (l.after first).after second := by
  induction first generalizing l with
  | nil => rfl
  | cons step rest ih => exact ih _

/-! ## One call, stage by stage -/

theorem value_resolvedArtifacts (l : Loader) (fs : FileSystem) :
    (l.resolvedArtifacts fs).value = match l.artifacts with
      | some found => (found, l)
      | none => (l.configuration.artifactsOn fs,
          { l with artifacts := some (l.configuration.artifactsOn fs) }) := by
  rw [resolvedArtifacts]
  cases l.artifacts with
  | some found => rfl
  | none => rw [Traced.value_bind, Resolver.value_resolveAll]; rfl

theorem value_readableLibraries (l : Loader) (fs : FileSystem) :
    (l.readableLibraries fs).value = match l.libraries with
      | some opened => (opened, l)
      | none => (l.opening fs, l.keepLibraries (l.opening fs)) := by
  rw [readableLibraries]
  cases l.libraries with
  | some opened => rfl
  | none => rw [Traced.value_bind, value_openLibraries]; rfl

@[simp] theorem configuration_keepLibraries (l : Loader)
    (opened : Except LoadError (List Library)) :
    (l.keepLibraries opened).configuration = l.configuration := by
  cases opened with
  | error e => rfl
  | ok opened => rfl

@[simp] theorem libraries_keepLibraries (l : Loader) (opened : Except LoadError (List Library)) :
    (l.keepLibraries opened).libraries = some opened := by
  cases opened with
  | error e => rfl
  | ok opened => rfl

@[simp] theorem graph_keepLibraries (l : Loader) (opened : Except LoadError (List Library)) :
    (l.keepLibraries opened).graph = l.graph := by
  cases opened with
  | error e => rfl
  | ok opened => rfl

/-- The artifact stage after the library stage: as before, or filled from the libraries. -/
theorem artifacts_keepLibraries {l : Loader} {opened : Except LoadError (List Library)}
    {found : Except LoadError (List Artifact)}
    (h : (l.keepLibraries opened).artifacts = some found) :
    l.artifacts = some found
      ∨ l.artifacts = none
        ∧ ∃ libraries, opened = .ok libraries ∧ found = .ok (libraries.map Library.artifact) := by
  cases opened with
  | error e => exact Or.inl h
  | ok libraries =>
      change (l.artifacts <|> _) = some found at h
      cases hknown : l.artifacts with
      | some known =>
          rw [hknown] at h
          exact Or.inl h
      | none =>
          rw [hknown] at h
          cases h
          exact Or.inr ⟨rfl, libraries, rfl, rfl⟩

/-- After asking for libraries the stage holds the answer. -/
theorem libraries_of_readableLibraries (l : Loader) (fs : FileSystem) :
    (l.readableLibraries fs).value.2.libraries = some (l.readableLibraries fs).value.1 := by
  rw [value_readableLibraries]
  cases h : l.libraries with
  | some opened => exact h
  | none => exact libraries_keepLibraries _ _

theorem value_moduleGraph (l : Loader) (fs : FileSystem) :
    (l.moduleGraph fs).value = match l.graph with
      | some graph => (graph, l)
      | none =>
          let (opened, l') := (l.readableLibraries fs).value
          (l'.configuration.graphOf fs opened,
            { l' with graph := some (l'.configuration.graphOf fs opened) }) := by
  rw [moduleGraph]
  cases l.graph with
  | some graph => rfl
  | none =>
      rw [Traced.value_bind]
      show (Traced.value (_ >>= _)) = _
      rw [Traced.value_bind, value_loadGraph]
      rfl

theorem graph_of_readableLibraries (l : Loader) (fs : FileSystem) :
    (l.readableLibraries fs).value.2.graph = l.graph := by
  rw [value_readableLibraries]
  cases l.libraries with
  | some opened => rfl
  | none => exact graph_keepLibraries _ _

theorem readableLibraries_reaches (l : Loader) (fs : FileSystem) :
    Relation.ReflTransGen (Fills fs) l (l.readableLibraries fs).value.2 := by
  rw [value_readableLibraries]
  cases h : l.libraries with
  | some opened => exact .refl
  | none => exact .single (.libraries h)

theorem moduleGraph_reaches (l : Loader) (fs : FileSystem) :
    Relation.ReflTransGen (Fills fs) l (l.moduleGraph fs).value.2 := by
  rw [value_moduleGraph]
  cases h : l.graph with
  | some graph => exact .refl
  | none =>
      have hempty : (l.readableLibraries fs).value.2.graph = none := by
        rw [graph_of_readableLibraries, h]
      exact (readableLibraries_reaches l fs).tail
        (.graph hempty (libraries_of_readableLibraries l fs))

/-- A call fills empty stages, one after the other, and does nothing else. -/
theorem ask_reaches (l : Loader) (fs : FileSystem) (call : Call) :
    Relation.ReflTransGen (Fills fs) l (l.ask fs call).2 := by
  cases call with
  | identifiers => exact .refl
  | artifacts =>
      show Relation.ReflTransGen _ _ (l.resolvedArtifacts fs).value.2
      rw [value_resolvedArtifacts]
      cases h : l.artifacts with
      | some found => exact .refl
      | none => exact .single (.artifacts h)
  | libraries => exact readableLibraries_reaches l fs
  | modules => exact moduleGraph_reaches l fs
  | graph => exact moduleGraph_reaches l fs

/-- What filling a stage preserves, a call preserves. -/
theorem ask_induction {P : Loader → Prop} {fs : FileSystem}
    (step : ∀ l l', Fills fs l l' → P l → P l') {l : Loader} (start : P l) (call : Call) :
    P (l.ask fs call).2 := by
  have hreach := ask_reaches l fs call
  generalize (l.ask fs call).2 = l' at hreach
  induction hreach with
  | refl => exact start
  | tail _ hfill hbefore => exact step _ _ hfill hbefore

/-- What filling a stage preserves, on each file system that occurs, a run preserves. -/
theorem after_induction {P : Loader → Prop} {run : Run}
    (step : ∀ fs ∈ run.map Prod.fst, ∀ l l', Fills fs l l' → P l → P l')
    {l : Loader} (start : P l) : P (l.after run) := by
  induction run generalizing l with
  | nil => exact start
  | cons first rest ih =>
      have hask := ask_induction (step first.1 (by simp)) start first.2
      exact ih (fun fs hfs => step fs (by simp [hfs])) hask

/-! ## Stages are written once -/

/-- A loader with the same configuration that has at least the results of `l`. -/
structure Extends (l l' : Loader) : Prop where
  configuration : l'.configuration = l.configuration
  artifacts : ∀ found, l.artifacts = some found → l'.artifacts = some found
  libraries : ∀ opened, l.libraries = some opened → l'.libraries = some opened
  graph : ∀ graph, l.graph = some graph → l'.graph = some graph

theorem Extends.refl (l : Loader) : Extends l l :=
  ⟨rfl, fun _ h => h, fun _ h => h, fun _ h => h⟩

theorem Extends.trans {l₁ l₂ l₃ : Loader} (h : Extends l₁ l₂) (h' : Extends l₂ l₃) :
    Extends l₁ l₃ where
  configuration := h'.configuration.trans h.configuration
  artifacts found hfound := h'.artifacts found (h.artifacts found hfound)
  libraries opened hopened := h'.libraries opened (h.libraries opened hopened)
  graph graph hgraph := h'.graph graph (h.graph graph hgraph)

theorem Fills.extends {fs : FileSystem} {l l' : Loader} (h : Fills fs l l') : Extends l l' := by
  cases h with
  | artifacts empty =>
      refine ⟨rfl, ?_, fun _ h => h, fun _ h => h⟩
      intro found hfound
      rw [empty] at hfound
      cases hfound
  | libraries empty =>
      -- the artifact stage may be filled as well, but only if it is empty
      refine ⟨configuration_keepLibraries _ _, ?_, ?_, ?_⟩
      · intro found hfound
        cases l.opening fs with
        | error e => exact hfound
        | ok opened =>
            show (l.artifacts <|> _) = _
            rw [hfound]
            rfl
      · intro opened hopened
        rw [empty] at hopened
        cases hopened
      · intro graph hgraph
        simp [hgraph]
  | graph empty known =>
      refine ⟨rfl, fun _ h => h, fun _ h => h, ?_⟩
      intro graph hgraph
      rw [empty] at hgraph
      cases hgraph

theorem after_extends (l : Loader) (run : Run) : Extends l (l.after run) :=
  after_induction (fun _ _ _ _ hfill h => h.trans hfill.extends) (Extends.refl l)

theorem ask_extends (l : Loader) (fs : FileSystem) (call : Call) :
    Extends l (l.ask fs call).2 :=
  ask_induction (fun _ _ hfill h => h.trans hfill.extends) (Extends.refl l) call

/-! ## A call returns what its stage holds -/

theorem artifacts_of_ask (l : Loader) (fs : FileSystem) :
    ∃ found, (l.ask fs .artifacts).2.artifacts = some found
      ∧ (l.ask fs .artifacts).1 = .artifacts found := by
  show ∃ found, (l.resolvedArtifacts fs).value.2.artifacts = some found
    ∧ Answer.artifacts (l.resolvedArtifacts fs).value.1 = .artifacts found
  rw [value_resolvedArtifacts]
  cases h : l.artifacts with
  | some found => exact ⟨found, h, rfl⟩
  | none => exact ⟨_, rfl, rfl⟩

theorem libraries_of_ask (l : Loader) (fs : FileSystem) :
    ∃ opened, (l.ask fs .libraries).2.libraries = some opened
      ∧ (l.ask fs .libraries).1 = .libraries opened :=
  ⟨_, libraries_of_readableLibraries l fs, rfl⟩

/-- After asking for the graph the stage holds the answer. -/
theorem graph_of_moduleGraph (l : Loader) (fs : FileSystem) :
    (l.moduleGraph fs).value.2.graph = some (l.moduleGraph fs).value.1 := by
  rw [value_moduleGraph]
  cases h : l.graph with
  | some graph => exact h
  | none => rfl

theorem graph_of_ask (l : Loader) (fs : FileSystem) :
    ∃ graph, (l.ask fs .graph).2.graph = some graph
      ∧ (l.ask fs .graph).1 = .graph graph :=
  ⟨_, graph_of_moduleGraph l fs, rfl⟩

theorem modules_of_ask (l : Loader) (fs : FileSystem) :
    ∃ graph, (l.ask fs .modules).2.graph = some graph
      ∧ (l.ask fs .modules).1 = .modules (graph.map ModuleGraph.modules) :=
  ⟨_, graph_of_moduleGraph l fs, rfl⟩

end Loader

end Linkage
