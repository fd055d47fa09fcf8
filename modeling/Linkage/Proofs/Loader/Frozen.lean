import Linkage.Proofs.Loader.Failure

set_option autoImplicit false

/-! # Completed stages are frozen

A result that a stage holds is the answer to every later call for it, whatever the files have
become (`ask_of_known`), so a later run answers such a call by the stage alone
(`answers_of_known`). A loader that gave libraries holds artifacts as well, and one that gave
a graph holds all stages, including those that no call asked for (`Consistent`). Two runs that
differ in the files of their later calls only cannot be told apart by these answers
(`completed_stages_frozen`).
-/

namespace Linkage

namespace Loader

/-- The answer that the stages of a loader hold for a call, if they hold one. -/
def known? (l : Loader) : Call → Option Answer
  | .identifiers => some (.identifiers l.identifiers)
  | .artifacts => l.artifacts.map .artifacts
  | .libraries => l.libraries.map .libraries
  | .modules => l.graph.map fun graph => .modules (graph.map ModuleGraph.modules)
  | .graph => l.graph.map .graph

variable {l l' : Loader} {call : Call} {answer : Answer} {run : Run}

/-! ## Known answers -/

/-- A known answer is given without a look at the files, and the loader stays as it is. -/
theorem ask_of_known (h : l.known? call = some answer) (fs : FileSystem) :
    l.ask fs call = (answer, l) := by
  cases call with
  | identifiers =>
      cases h
      rfl
  | artifacts =>
      obtain ⟨found, hfound, rfl⟩ := Option.map_eq_some_iff.1 h
      rw [ask, value_resolvedArtifacts, hfound]
  | libraries =>
      obtain ⟨opened, hopened, rfl⟩ := Option.map_eq_some_iff.1 h
      rw [ask, value_readableLibraries, hopened]
  | modules =>
      obtain ⟨graph, hgraph, rfl⟩ := Option.map_eq_some_iff.1 h
      show (Answer.modules ((l.moduleGraph fs).value.1.map _), (l.moduleGraph fs).value.2) = _
      rw [value_moduleGraph, hgraph]
  | graph =>
      obtain ⟨graph, hgraph, rfl⟩ := Option.map_eq_some_iff.1 h
      rw [ask, value_moduleGraph, hgraph]

/-- What a call returns is known afterwards. -/
theorem known_of_ask (l : Loader) (fs : FileSystem) (call : Call) :
    (l.ask fs call).2.known? call = some (l.ask fs call).1 := by
  cases call with
  | identifiers => rfl
  | artifacts =>
      obtain ⟨found, hfound, hanswer⟩ := artifacts_of_ask l fs
      rw [hanswer, known?, hfound]
      rfl
  | libraries =>
      obtain ⟨opened, hopened, hanswer⟩ := libraries_of_ask l fs
      rw [hanswer, known?, hopened]
      rfl
  | modules =>
      obtain ⟨graph, hgraph, hanswer⟩ := modules_of_ask l fs
      rw [hanswer, known?, hgraph]
      rfl
  | graph =>
      obtain ⟨graph, hgraph, hanswer⟩ := graph_of_ask l fs
      rw [hanswer, known?, hgraph]
      rfl

/-- Known answers stay known. -/
theorem Extends.known (h : Extends l l') (hknown : l.known? call = some answer) :
    l'.known? call = some answer := by
  cases call with
  | identifiers =>
      cases hknown
      rw [known?, identifiers, identifiers, h.configuration]
  | artifacts =>
      obtain ⟨found, hfound, rfl⟩ := Option.map_eq_some_iff.1 hknown
      rw [known?, h.artifacts found hfound]
      rfl
  | libraries =>
      obtain ⟨opened, hopened, rfl⟩ := Option.map_eq_some_iff.1 hknown
      rw [known?, h.libraries opened hopened]
      rfl
  | modules =>
      obtain ⟨graph, hgraph, rfl⟩ := Option.map_eq_some_iff.1 hknown
      rw [known?, h.graph graph hgraph]
      rfl
  | graph =>
      obtain ⟨graph, hgraph, rfl⟩ := Option.map_eq_some_iff.1 hknown
      rw [known?, h.graph graph hgraph]
      rfl

/-! ## Runs -/

/-- Whatever a call of a run returned is known at its end. -/
theorem exists_known_of_mem_answers (h : answer ∈ l.answers run) :
    ∃ call, (l.after run).known? call = some answer := by
  induction run generalizing l with
  | nil => cases h
  | cons step rest ih =>
      obtain ⟨fs, call⟩ := step
      rcases List.mem_cons.1 h with rfl | hrest
      · exact ⟨call, (after_extends _ rest).known (known_of_ask l fs call)⟩
      · exact ih hrest

/-- A run gives a known answer wherever it calls for it. -/
theorem answers_of_known (h : l.known? call = some answer) {i : Nat}
    (hcall : (run.map Prod.snd)[i]? = some call) : (l.answers run)[i]? = some answer := by
  -- on the run: the loader may change at other calls, but it goes on knowing the answer
  induction run generalizing l i with
  | nil => cases hcall
  | cons step rest ih =>
      obtain ⟨fs, other⟩ := step
      cases i with
      | zero =>
          cases hcall
          rw [answers, ask_of_known h fs]
          rfl
      | succ i => exact ih ((ask_extends l fs other).known h) hcall

/-- Where two runs call for a known answer, both give it. -/
theorem answers_eq_of_known {run' : Run} {i : Nat} (h : ∃ answer, l.known? call = some answer)
    (hcall : (run.map Prod.snd)[i]? = some call) (hcall' : (run'.map Prod.snd)[i]? = some call) :
    (l.answers run)[i]? = (l.answers run')[i]? := by
  obtain ⟨answer, h⟩ := h
  rw [answers_of_known h hcall, answers_of_known h hcall']

theorem length_answers (l : Loader) (run : Run) : (l.answers run).length = run.length := by
  induction run generalizing l with
  | nil => rfl
  | cons step rest ih => exact congrArg (· + 1) (ih _)

/-- Two runs with the same calls give the same answers if all answers are known. -/
theorem answers_eq_of_all_known {run' : Run} (h : ∀ call, ∃ answer, l.known? call = some answer)
    (hcalls : run.map Prod.snd = run'.map Prod.snd) : l.answers run = l.answers run' := by
  refine List.ext_getElem? fun i => ?_
  cases hcall : (run.map Prod.snd)[i]? with
  | some call => exact answers_eq_of_known (h call) hcall (hcalls ▸ hcall)
  | none =>
      -- past the end of the calls there are no answers either
      have hend := List.getElem?_eq_none_iff.1 hcall
      have hend' := List.getElem?_eq_none_iff.1 (hcalls ▸ hcall : (run'.map Prod.snd)[i]? = none)
      rw [List.length_map] at hend hend'
      rw [List.getElem?_eq_none (by rwa [length_answers]),
        List.getElem?_eq_none (by rwa [length_answers])]

/-! ## Completed stages -/

theorem libraries_of_mem_answers {opened : Except LoadError (List Library)}
    (h : .libraries opened ∈ l.answers run) : (l.after run).libraries = some opened := by
  obtain ⟨call, hknown⟩ := exists_known_of_mem_answers h
  cases call with
  | libraries =>
      obtain ⟨_, hopened, heq⟩ := Option.map_eq_some_iff.1 hknown
      cases heq
      exact hopened
  | identifiers => cases hknown
  | artifacts => simp [known?] at hknown
  | modules => simp [known?] at hknown
  | graph => simp [known?] at hknown

theorem graph_of_mem_answers {graph : Except LoadError ModuleGraph}
    (h : .graph graph ∈ l.answers run) : (l.after run).graph = some graph := by
  obtain ⟨call, hknown⟩ := exists_known_of_mem_answers h
  cases call with
  | graph =>
      obtain ⟨_, hgraph, heq⟩ := Option.map_eq_some_iff.1 hknown
      cases heq
      exact hgraph
  | identifiers => cases hknown
  | artifacts => simp [known?] at hknown
  | libraries => simp [known?] at hknown
  | modules => simp [known?] at hknown

/-- With libraries, everything is known that does not need the graph. -/
theorem Consistent.exists_known {c : Configuration} {files : List FileSystem}
    (h : Consistent c files l) {opened : List Library} (hopened : l.libraries = some (.ok opened))
    (hcall : call.links = false) : ∃ answer, l.known? call = some answer := by
  obtain ⟨found, hfound⟩ := Option.ne_none_iff_exists'.1 (h.resolved opened hopened)
  cases call with
  | identifiers => exact ⟨_, rfl⟩
  | artifacts => exact ⟨.artifacts found, by rw [known?, hfound]; rfl⟩
  | libraries => exact ⟨.libraries (.ok opened), by rw [known?, hopened]; rfl⟩
  | modules => cases hcall
  | graph => cases hcall

/-- With a graph, everything is known. -/
theorem Consistent.exists_known_of_graph {c : Configuration} {files : List FileSystem}
    (h : Consistent c files l) {g : ModuleGraph} (hg : l.graph = some (.ok g)) (call : Call) :
    ∃ answer, l.known? call = some answer := by
  obtain ⟨opened, hopened, -⟩ := h.graph g hg
  cases hcall : call.links with
  | false => exact h.exists_known hopened hcall
  | true =>
      cases call with
      | identifiers => cases hcall
      | artifacts => cases hcall
      | libraries => cases hcall
      | modules => exact ⟨.modules (.ok g.modules), by rw [known?, hg]; rfl⟩
      | graph => exact ⟨.graph (.ok g), by rw [known?, hg]; rfl⟩

/-- **Completed stages are frozen.** Let two runs agree up to some moment, and let their later
calls differ only in the files that they meet.

* If libraries were returned before, all later calls that do not need the graph return the
  same in both runs, the artifacts included, whether they had been asked for or not.
* If a graph was returned before, all later calls do. -/
theorem completed_stages_frozen (c : Configuration) (before later later' : Run)
    (hcalls : later.map Prod.snd = later'.map Prod.snd) :
    let l := (ofConfiguration c).after before
    (∀ opened, .libraries (.ok opened) ∈ (ofConfiguration c).answers before →
      ∀ (i : Nat) (call : Call), (later.map Prod.snd)[i]? = some call → call.links = false →
        (l.answers later)[i]? = (l.answers later')[i]?)
    ∧ ∀ g, .graph (.ok g) ∈ (ofConfiguration c).answers before →
      l.answers later = l.answers later' := by
  intro l
  have hconsistent := consistent_after c before
  refine ⟨?_, ?_⟩
  · intro opened hopened i call hcall hlinks
    have hknown := hconsistent.exists_known (libraries_of_mem_answers hopened) hlinks
    exact answers_eq_of_known hknown hcall (hcalls ▸ hcall)
  · intro g hg
    have hknown := hconsistent.exists_known_of_graph (graph_of_mem_answers hg)
    exact answers_eq_of_all_known hknown hcalls

/-- All calls, on the same files. -/
def allCallsOn (fs : FileSystem) : Run :=
  [.identifiers, .artifacts, .libraries, .modules, .graph].map fun call => (fs, call)

/-- Artifacts and libraries were never asked for, and survive that the library is gone. -/
theorem completed_stages_frozen_foo :
    let afterLibraries := (ofConfiguration fooConfiguration).after [(filesAfter, .libraries)]
    let afterGraph := (ofConfiguration fooConfiguration).after [(filesAfter, .graph)]
    (allCallsOn filesBefore).map Prod.snd = (allCallsOn filesAfter).map Prod.snd
    ∧ (∃ opened, .libraries (.ok opened)
        ∈ (ofConfiguration fooConfiguration).answers [(filesAfter, .libraries)])
    ∧ (afterLibraries.answers (allCallsOn filesBefore))[1]?
      = (afterLibraries.answers (allCallsOn filesAfter))[1]?
    ∧ (∃ g, .graph (.ok g) ∈ (ofConfiguration fooConfiguration).answers [(filesAfter, .graph)])
    ∧ afterGraph.answers (allCallsOn filesBefore) = afterGraph.answers (allCallsOn filesAfter) := by
  intro afterLibraries afterGraph
  have hlibraries : ∃ opened, .libraries (.ok opened)
      ∈ (ofConfiguration fooConfiguration).answers [(filesAfter, .libraries)] :=
    ⟨_, List.mem_singleton.2 (by rfl)⟩
  have hgraph : ∃ g, .graph (.ok g)
      ∈ (ofConfiguration fooConfiguration).answers [(filesAfter, .graph)] :=
    ⟨_, List.mem_singleton.2 (by rfl)⟩
  obtain ⟨hopens, -⟩ := completed_stages_frozen fooConfiguration [(filesAfter, .libraries)]
    (allCallsOn filesBefore) (allCallsOn filesAfter) rfl
  obtain ⟨-, hlinks⟩ := completed_stages_frozen fooConfiguration [(filesAfter, .graph)]
    (allCallsOn filesBefore) (allCallsOn filesAfter) rfl
  obtain ⟨opened, hopened⟩ := hlibraries
  obtain ⟨g, hg⟩ := hgraph
  exact ⟨rfl, ⟨opened, hopened⟩, hopens opened hopened 1 .artifacts rfl rfl, ⟨g, hg⟩, hlinks g hg⟩

end Loader

end Linkage
