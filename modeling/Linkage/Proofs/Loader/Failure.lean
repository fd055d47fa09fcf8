import Linkage.Proofs.Loader.Consistency

set_option autoImplicit false

/-! # What a failure decides

A failure of the library stage is final: every later call that needs the libraries returns
it. A failure of the artifact stage is final for that stage only. The library stage passes
over it and resolves again, on the files that the first call needing the libraries meets
(`firstFiles`), so a loader whose artifacts failed still gives libraries if these files are
complete by then.

* Up to the first call that needs the libraries both later stages stay empty; that call
  decides the library stage (`value_readableLibraries_after`).
* The first call that needs the graph decides the graph stage, from the libraries of that
  moment and its own files (`value_moduleGraph_after`).
-/

namespace Linkage

namespace Loader

/-- The files that the first call of a kind meets, and `fs` if a run has no such call. -/
def firstFiles (kind : Call → Bool) : Run → FileSystem → FileSystem
  | [], fs => fs
  | (met, call) :: rest, fs => if kind call then met else firstFiles kind rest fs

variable {l : Loader} {call : Call}

/-! ## Which calls touch which stage -/

/-- A call that needs the libraries leaves them known. -/
theorem libraries_of_opens (fs : FileSystem) (hgraph : l.graph = none)
    (hcall : call.opens = true) :
    (l.ask fs call).2.libraries = some (l.readableLibraries fs).value.1 := by
  have hlinked : (l.moduleGraph fs).value.2.libraries
      = some (l.readableLibraries fs).value.1 := by
    rw [value_moduleGraph, hgraph]
    exact libraries_of_readableLibraries l fs
  cases call with
  | identifiers => cases hcall
  | artifacts => cases hcall
  | libraries => exact libraries_of_readableLibraries l fs
  | modules => exact hlinked
  | graph => exact hlinked

/-- The other calls do not look at the libraries. -/
theorem libraries_of_not_opens (fs : FileSystem) (hcall : ¬call.opens = true) :
    (l.ask fs call).2.libraries = l.libraries := by
  cases call with
  | identifiers => rfl
  | artifacts =>
      show (l.resolvedArtifacts fs).value.2.libraries = l.libraries
      rw [value_resolvedArtifacts]
      cases l.artifacts with
      | some found => rfl
      | none => rfl
  | libraries => exact absurd rfl hcall
  | modules => exact absurd rfl hcall
  | graph => exact absurd rfl hcall

/-- A call that needs the graph leaves it known. -/
theorem graph_of_links (fs : FileSystem) (hcall : call.links = true) :
    (l.ask fs call).2.graph = some (l.moduleGraph fs).value.1 := by
  cases call with
  | identifiers => cases hcall
  | artifacts => cases hcall
  | libraries => cases hcall
  | modules => exact graph_of_moduleGraph l fs
  | graph => exact graph_of_moduleGraph l fs

/-- The other calls do not look at the graph. -/
theorem graph_of_not_links (fs : FileSystem) (hcall : ¬call.links = true) :
    (l.ask fs call).2.graph = l.graph := by
  cases call with
  | identifiers => rfl
  | artifacts =>
      show (l.resolvedArtifacts fs).value.2.graph = l.graph
      rw [value_resolvedArtifacts]
      cases l.artifacts with
      | some found => rfl
      | none => rfl
  | libraries => exact graph_of_readableLibraries l fs
  | modules => exact absurd rfl hcall
  | graph => exact absurd rfl hcall

/-- Whoever needs the graph needs the libraries. -/
theorem opens_of_links (hcall : call.links = true) : call.opens = true := by
  cases call with
  | identifiers => cases hcall
  | artifacts => cases hcall
  | libraries => rfl
  | modules => rfl
  | graph => rfl

/-! ## The calls that decide -/

/-- Known libraries are returned by every later call. -/
theorem value_readableLibraries_of_known {opened : Except LoadError (List Library)}
    (h : l.libraries = some opened) (run : Run) (fs : FileSystem) :
    ((l.after run).readableLibraries fs).value.1 = opened := by
  rw [value_readableLibraries, (after_extends l run).libraries opened h]

/-- A known graph is returned by every later call. -/
theorem value_moduleGraph_of_known {graph : Except LoadError ModuleGraph}
    (h : l.graph = some graph) (run : Run) (fs : FileSystem) :
    ((l.after run).moduleGraph fs).value.1 = graph := by
  rw [value_moduleGraph, (after_extends l run).graph graph h]

/-- Artifacts that have failed by the end of a run never were of use to the library stage,
since a success would have been kept. -/
theorem value_readableLibraries_of_failed {run : Run} {e : LoadError}
    (hlibraries : l.libraries = none) (hfailed : (l.after run).artifacts = some (.error e))
    (fs : FileSystem) :
    (l.readableLibraries fs).value.1 = l.configuration.librariesOn fs := by
  rw [value_readableLibraries, hlibraries]
  show l.opening fs = _
  unfold opening
  split
  · next found hfound =>
      rw [(after_extends l run).artifacts _ hfound] at hfailed
      cases hfailed
  · rfl

/-- With failed artifacts, the first call that needs the libraries decides the library
stage: it resolves and opens on the files it meets. -/
theorem value_readableLibraries_after {run : Run} {e : LoadError}
    (hlibraries : l.libraries = none) (hgraph : l.graph = none)
    (hfailed : (l.after run).artifacts = some (.error e)) (fs : FileSystem) :
    ((l.after run).readableLibraries fs).value.1
      = l.configuration.librariesOn (firstFiles Call.opens run fs) := by
  -- on the run: until the deciding call the loader stays one without libraries and graph
  induction run generalizing l with
  | nil => exact value_readableLibraries_of_failed hlibraries hfailed fs
  | cons step rest ih =>
      obtain ⟨met, call⟩ := step
      by_cases hcall : call.opens = true
      · have hknown := libraries_of_opens met hgraph hcall
        rw [value_readableLibraries_of_failed hlibraries hfailed] at hknown
        rw [firstFiles, if_pos hcall]
        exact value_readableLibraries_of_known hknown rest fs
      · have hlinks : ¬call.links = true := fun h => hcall (opens_of_links h)
        have hrest := ih (by rw [libraries_of_not_opens met hcall, hlibraries])
          (by rw [graph_of_not_links met hlinks, hgraph]) hfailed
        rw [firstFiles, if_neg hcall, ← (ask_extends l met call).configuration]
        exact hrest

/-- An empty graph stage loads the libraries. -/
theorem value_moduleGraph_of_empty (hgraph : l.graph = none) (fs : FileSystem) :
    (l.moduleGraph fs).value.1
      = l.configuration.graphOf fs (l.readableLibraries fs).value.1 := by
  have hsame : (l.readableLibraries fs).value.2.configuration = l.configuration :=
    (ask_extends l fs .libraries).configuration
  rw [value_moduleGraph, hgraph]
  show (l.readableLibraries fs).value.2.configuration.graphOf fs _ = _
  rw [hsame]

/-- The first call that needs the graph decides the graph stage: it loads the libraries, by
then known, on the files it meets. -/
theorem value_moduleGraph_after (hgraph : l.graph = none) (run : Run) (fs : FileSystem) :
    ((l.after run).moduleGraph fs).value.1
      = l.configuration.graphOf (firstFiles Call.links run fs)
          ((l.after run).readableLibraries fs).value.1 := by
  induction run generalizing l with
  | nil => exact value_moduleGraph_of_empty hgraph fs
  | cons step rest ih =>
      obtain ⟨met, call⟩ := step
      by_cases hcall : call.links = true
      · -- the call leaves both stages known, so the rest of the run does not matter
        have hlibraries := libraries_of_opens met hgraph (opens_of_links hcall)
        have hlinked : (l.ask met call).2.graph = some _ := graph_of_links met hcall
        have hlast := value_readableLibraries_of_known hlibraries rest fs
        rw [firstFiles, if_pos hcall, after, hlast, ← value_moduleGraph_of_empty hgraph met]
        exact value_moduleGraph_of_known hlinked rest fs
      · have hrest := ih (by rw [graph_of_not_links met hcall, hgraph])
        rw [firstFiles, if_neg hcall, ← (ask_extends l met call).configuration]
        exact hrest

/-! ## Failures -/

/-- If the libraries fail, all calls that need them fail in that way. -/
theorem failure_of_readableLibraries {c : Configuration} {files : List FileSystem}
    {fs : FileSystem} {e : LoadError} (h : Consistent c files l)
    (hfailed : (l.readableLibraries fs).value.1 = .error e) (hcall : call.opens = true) :
    (l.ask fs call).1.failure? = some e := by
  have hgraph : (l.moduleGraph fs).value.1 = .error e := by
    cases hlinked : l.graph with
    | none =>
        rw [value_moduleGraph_of_empty hlinked, hfailed]
        rfl
    | some graph =>
        -- a graph is never worked out before the libraries
        cases hopened : l.libraries with
        | none =>
            rw [h.loaded hopened] at hlinked
            cases hlinked
        | some opened =>
            rw [value_readableLibraries, hopened] at hfailed
            rw [value_moduleGraph, hlinked]
            rcases h.failure e (hopened.trans (congrArg some hfailed)) with hempty | hfails
            · rw [hempty] at hlinked
              cases hlinked
            · exact Option.some.inj (hlinked.symm.trans hfails)
  cases call with
  | identifiers => cases hcall
  | artifacts => cases hcall
  | libraries =>
      show (Answer.libraries (l.readableLibraries fs).value.1).failure? = some e
      rw [hfailed]
      rfl
  | modules =>
      show (Answer.modules ((l.moduleGraph fs).value.1.map ModuleGraph.modules)).failure? = some e
      rw [hgraph]
      rfl
  | graph =>
      show (Answer.graph (l.moduleGraph fs).value.1).failure? = some e
      rw [hgraph]
      rfl

/-- **What a failure decides**, in every run and whatever happens to the files.

* Once the artifacts have failed they stay failed, but libraries and graph come to what the
  stages give on the files of the first calls that need them. So all later calls for them
  fail exactly when resolving and opening fails on the files that the first such call meets.
* Once the libraries have failed, every later call that needs them fails in the same way. -/
theorem answers_after_failure (c : Configuration) (before later : Run) (fs fs' : FileSystem) :
    let l := (ofConfiguration c).after before
    (∀ e, (l.ask fs .artifacts).1 = .artifacts (.error e) →
      let run := before ++ (fs, .artifacts) :: later
      let l' := (ofConfiguration c).after run
      let opened := ((ofConfiguration c).readableLibraries
        (firstFiles Call.opens run fs')).value.1
      let graph := ((ofConfiguration c).loadGraph (firstFiles Call.links run fs') opened).value
      (l'.ask fs' .artifacts).1 = .artifacts (.error e)
      ∧ (l'.ask fs' .libraries).1 = .libraries opened
      ∧ (l'.ask fs' .graph).1 = .graph graph
      ∧ (l'.ask fs' .modules).1 = .modules (graph.map ModuleGraph.modules)
      ∧ ((∀ call, call.opens = true → (l'.ask fs' call).1.failure?.isSome = true)
          ↔ ∃ e', opened = .error e'))
    ∧ ∀ e, (l.ask fs .libraries).1 = .libraries (.error e) →
      let l' := (ofConfiguration c).after (before ++ (fs, .libraries) :: later)
      ∀ call, call.opens = true → (l'.ask fs' call).1.failure? = some e := by
  intro l
  refine ⟨?_, ?_⟩
  · intro e he run l' opened graph
    obtain ⟨found, hfound, hanswer⟩ := artifacts_of_ask l fs
    rw [he] at hanswer
    cases hanswer
    have hrun : l' = ((l.ask fs .artifacts).2).after later := after_append _ _ _
    have hfailed : l'.artifacts = some (.error e) := by
      rw [hrun]
      exact (after_extends _ later).artifacts _ hfound
    have hopened : (l'.readableLibraries fs').value.1 = opened := by
      rw [value_readableLibraries_after rfl rfl hfailed]
      show _ = ((ofConfiguration c).readableLibraries _).value.1
      rw [value_readableLibraries]
      rfl
    have hgraph : (l'.moduleGraph fs').value.1 = graph := by
      rw [value_moduleGraph_after rfl, hopened]
      exact (value_loadGraph _ _ _).symm
    refine ⟨?_, congrArg _ hopened, congrArg _ hgraph, ?_, ?_, ?_⟩
    · show Answer.artifacts (l'.resolvedArtifacts fs').value.1 = _
      rw [value_resolvedArtifacts, hfailed]
    · show Answer.modules ((l'.moduleGraph fs').value.1.map _) = _
      rw [hgraph]
    · intro hall
      -- among the calls that need the libraries is the one that returns them
      have hfails : (Answer.libraries (l'.readableLibraries fs').value.1).failure?.isSome = true :=
        hall .libraries rfl
      rw [hopened] at hfails
      cases hcase : opened with
      | error e' => exact ⟨e', rfl⟩
      | ok libraries =>
          rw [hcase] at hfails
          cases hfails
    · rintro ⟨e', he'⟩ call hcall
      rw [failure_of_readableLibraries (consistent_after c run) (hopened.trans he') hcall]
      rfl
  · intro e he l' call hcall
    obtain ⟨opened, hopened, hanswer⟩ := libraries_of_ask l fs
    rw [he] at hanswer
    cases hanswer
    have hrun : l' = ((l.ask fs .libraries).2).after later := after_append _ _ _
    have hfailed : (l'.readableLibraries fs').value.1 = .error e := by
      rw [hrun]
      exact value_readableLibraries_of_known hopened later fs'
    exact failure_of_readableLibraries (consistent_after c _) hfailed hcall

/-! ## A loader whose artifacts fail and whose libraries open -/

/-- A configuration that asks for the library `foo` alone. -/
def fooConfiguration : Configuration where
  moduleName := "main"
  libraries := ["foo"]
  noStdlib := true
  repositories := [Path.ofString "repo"]
  target := .linuxX64
  abiVersion := 1
  languageVersion := ⟨2, 0⟩
  distribution := ⟨Path.ofString "dist", Path.ofString "local"⟩
  nativeLibraries := []

/-- A file system without libraries. -/
def filesBefore : FileSystem := .empty [['w']]

/-- The file system after `foo` was put into the repository. -/
def filesAfter : FileSystem :=
  filesBefore.installLibrary (Path.ofString "repo/foo") fooManifest fooMetadata

/-- The failure of `foo` to resolve without libraries. -/
def fooMissing : LoadError :=
  .resolution "foo" [Path.ofString "repo", Path.ofString "dist/lib", Path.ofString "local/lib"]

/-- Its artifacts have failed and stay failed, and still its libraries open. -/
theorem libraries_open_after_artifacts_failed :
    let l := ofConfiguration fooConfiguration
    (l.ask filesBefore .artifacts).1 = .artifacts (.error fooMissing)
    ∧ ((l.after [(filesBefore, .artifacts)]).ask filesAfter .libraries).1
      = .libraries (.ok [⟨⟨"foo", .unpacked (Path.ofString "repo/foo")⟩,
          ⟨"foo", 1, ["linux_x64"]⟩⟩]) := by
  constructor
  · rfl
  · rfl

theorem answers_after_failure_foo :
    (((ofConfiguration fooConfiguration).after []).ask filesBefore .artifacts).1
      = .artifacts (.error fooMissing)
    ∧ (((ofConfiguration fooConfiguration).after [(filesBefore, .artifacts)]).ask
        filesAfter .artifacts).1 = .artifacts (.error fooMissing)
    ∧ (((ofConfiguration fooConfiguration).after []).ask filesBefore .libraries).1
      = .libraries (.error fooMissing)
    ∧ (((ofConfiguration fooConfiguration).after [(filesBefore, .libraries)]).ask
        filesAfter .graph).1.failure? = some fooMissing := by
  have hartifacts : (((ofConfiguration fooConfiguration).after []).ask filesBefore .artifacts).1
      = .artifacts (.error fooMissing) := by rfl
  have hlibraries : (((ofConfiguration fooConfiguration).after []).ask filesBefore .libraries).1
      = .libraries (.error fooMissing) := by rfl
  have hdecides := answers_after_failure fooConfiguration [] [] filesBefore filesAfter
  exact ⟨hartifacts, (hdecides.1 fooMissing hartifacts).1, hlibraries,
    hdecides.2 fooMissing hlibraries .graph rfl⟩

end Loader

end Linkage
