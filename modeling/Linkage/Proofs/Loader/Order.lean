import Linkage.Proofs.Loader.Run

set_option autoImplicit false

/-! # The order of calls does not matter

While the files stay as they are, a loader answers every call as if it were the first one:
its answers are those that the files alone determine (`Agrees.answers`). The invariant is
`Agrees`: a stage that has a result holds the one that a new loader works out. The stages
fill each other, so its cases are those of `Fills`; what they need is that opening known
artifacts and resolving and opening identifier by identifier come to the same
(`librariesOn_of_artifactsOn`, `artifactsOn_of_librariesOn`).
-/

namespace Linkage

/-- The answer that the files alone determine. -/
def Configuration.answerOn (c : Configuration) (fs : FileSystem) : Call → Answer
  | .identifiers => .identifiers c.identifiers
  | .artifacts => .artifacts (c.artifactsOn fs)
  | .libraries => .libraries (c.librariesOn fs)
  | .modules => .modules ((c.graphOf fs (c.librariesOn fs)).map ModuleGraph.modules)
  | .graph => .graph (c.graphOf fs (c.librariesOn fs))

namespace Loader

open Linkage.Configuration

/-- Each stage of a loader is empty or holds what a new loader works out on the same files. -/
structure Agrees (c : Configuration) (fs : FileSystem) (l : Loader) : Prop where
  configuration : l.configuration = c
  artifacts : ∀ found, l.artifacts = some found → found = c.artifactsOn fs
  libraries : ∀ opened, l.libraries = some opened → opened = c.librariesOn fs
  graph : ∀ graph, l.graph = some graph → graph = c.graphOf fs (c.librariesOn fs)

variable {c : Configuration} {fs : FileSystem} {l l' : Loader}

theorem agrees_ofConfiguration (c : Configuration) (fs : FileSystem) :
    Agrees c fs (ofConfiguration c) where
  configuration := rfl
  artifacts _ h := nomatch h
  libraries _ h := nomatch h
  graph _ h := nomatch h

/-- Known artifacts make no difference to what the library stage comes to. -/
theorem Agrees.opening_eq (h : Agrees c fs l) : l.opening fs = c.librariesOn fs := by
  have hconfiguration := h.configuration
  unfold opening
  split
  · next found hfound =>
      rw [hconfiguration, librariesOn_of_artifactsOn (h.artifacts _ hfound).symm]
  · rw [hconfiguration]

theorem Agrees.fills (h : Agrees c fs l) (hfill : Fills fs l l') : Agrees c fs l' := by
  cases hfill with
  | artifacts empty =>
      refine ⟨h.configuration, ?_, h.libraries, h.graph⟩
      rintro _ ⟨⟩
      rw [h.configuration]
  | libraries empty =>
      have hopening := h.opening_eq
      refine ⟨?_, ?_, ?_, ?_⟩
      · simp [h.configuration]
      · -- either the artifacts were known before, or all libraries opened
        intro found hfound
        rcases artifacts_keepLibraries hfound with hknown | ⟨-, opened, hopened, rfl⟩
        · exact h.artifacts found hknown
        · exact (artifactsOn_of_librariesOn (hopening.symm.trans hopened)).symm
      · intro opened hopened
        rw [libraries_keepLibraries] at hopened
        cases hopened
        exact hopening
      · simpa using h.graph
  | @graph opened empty known =>
      refine ⟨h.configuration, h.artifacts, h.libraries, ?_⟩
      rintro _ ⟨⟩
      rw [h.configuration, h.libraries opened known]

theorem Agrees.ask (h : Agrees c fs l) (call : Call) : Agrees c fs (l.ask fs call).2 :=
  ask_induction (fun _ _ hfill hl => hl.fills hfill) h call

/-- After calls on unchanged files the stages agree with the files. -/
theorem agrees_after (c : Configuration) (fs : FileSystem) (calls : List Call) :
    Agrees c fs ((ofConfiguration c).after (calls.map fun call => (fs, call))) := by
  refine after_induction (fun met hmet l l' hfill hl => ?_) (agrees_ofConfiguration c fs)
  rw [List.map_map] at hmet
  obtain ⟨call, -, rfl⟩ := List.mem_map.1 hmet
  exact hl.fills hfill

/-- A loader whose stages agree with the files answers by the files alone. -/
theorem Agrees.answer (h : Agrees c fs l) (call : Call) :
    (l.ask fs call).1 = c.answerOn fs call := by
  -- what a call returns is what its stage holds afterwards, and that agrees with the files
  have hask := h.ask call
  cases call with
  | identifiers =>
      show Answer.identifiers l.configuration.identifiers = _
      rw [h.configuration]
      rfl
  | artifacts =>
      obtain ⟨found, hfound, hanswer⟩ := artifacts_of_ask l fs
      rw [hanswer, hask.artifacts found hfound]
      rfl
  | libraries =>
      obtain ⟨opened, hopened, hanswer⟩ := libraries_of_ask l fs
      rw [hanswer, hask.libraries opened hopened]
      rfl
  | modules =>
      obtain ⟨graph, hgraph, hanswer⟩ := modules_of_ask l fs
      rw [hanswer, hask.graph graph hgraph]
      rfl
  | graph =>
      obtain ⟨graph, hgraph, hanswer⟩ := graph_of_ask l fs
      rw [hanswer, hask.graph graph hgraph]
      rfl

theorem Agrees.answers (h : Agrees c fs l) (calls : List Call) :
    l.answers (calls.map fun call => (fs, call)) = calls.map (c.answerOn fs) := by
  induction calls generalizing l with
  | nil => rfl
  | cons call rest ih =>
      rw [List.map_cons, List.map_cons, Loader.answers, h.answer call, ih (h.ask call)]

/-- **The order of calls does not matter.** On unchanging files every call of a run returns
what it would return as the first call of a new loader. -/
theorem answers_eq_first_answers (c : Configuration) (fs : FileSystem) (calls : List Call) :
    (ofConfiguration c).answers (calls.map fun call => (fs, call))
      = calls.map fun call => ((ofConfiguration c).ask fs call).1 := by
  have hnew := agrees_ofConfiguration c fs
  rw [hnew.answers calls]
  exact List.map_congr_left fun call _ => (hnew.answer call).symm

end Loader

end Linkage
