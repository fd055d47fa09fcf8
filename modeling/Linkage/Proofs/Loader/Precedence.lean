import Linkage.Proofs.Library
import Linkage.Proofs.Loader.Failure
import Linkage.Proofs.Loader.Order

set_option autoImplicit false

/-! # Which failure a loader returns

An identifier is bad if it does not resolve or if what it resolves to does not open
(`Configuration.Fails`). On unchanged files the first bad identifier decides what all calls
that need the libraries return, whichever way it is bad and whatever comes after it
(`librariesOn_eq_error_iff`). The metadata of modules is looked at only when there is no bad
identifier, and then the first library whose module does not load decides
(`graphOf_eq_error_iff`).
-/

namespace Linkage

open Traversal

namespace Configuration

/-! ## Good and bad identifiers -/

/-- An identifier resolves to the artifact of a library, and the library opens. -/
structure Opens (c : Configuration) (fs : FileSystem) (identifier : String) (library : Library) :
    Prop where
  resolves : (c.resolver.resolve fs identifier).value = .ok library.artifact
  opens : Library.ofArtifact fs library.artifact c.target c.abiVersion = .ok library

/-- An identifier does not resolve, or the artifact it resolves to does not open. -/
inductive Fails (c : Configuration) (fs : FileSystem) (identifier : String) (e : LoadError) :
    Prop where
  | resolving (fails : (c.resolver.resolve fs identifier).value = .error e)
  | opening (artifact : Artifact)
      (resolves : (c.resolver.resolve fs identifier).value = .ok artifact)
      (fails : Library.ofArtifact fs artifact c.target c.abiVersion = .error e)

variable {c c' : Configuration} {fs : FileSystem} {identifier : String} {e : LoadError}

theorem bind_libraryAt_eq_ok_iff {library : Library} :
    (c.resolver.resolve fs identifier).value >>= c.libraryAt fs = .ok library
      ↔ c.Opens fs identifier library := by
  constructor
  · intro h
    obtain ⟨artifact, hresolve, hopen⟩ := exists_of_bind_eq_ok h
    obtain rfl := Library.artifact_of_ofArtifact hopen
    exact ⟨hresolve, hopen⟩
  · rintro ⟨hresolve, hopen⟩
    rw [hresolve]
    exact hopen

theorem bind_libraryAt_eq_error_iff :
    (c.resolver.resolve fs identifier).value >>= c.libraryAt fs = .error e
      ↔ c.Fails fs identifier e := by
  rw [bind_eq_error_iff]
  constructor
  · rintro (hresolve | ⟨artifact, hresolve, hopen⟩)
    · exact .resolving hresolve
    · exact .opening artifact hresolve hopen
  · rintro (hresolve | ⟨artifact, hresolve, hopen⟩)
    · exact Or.inl hresolve
    · exact Or.inr ⟨artifact, hresolve, hopen⟩

/-- What makes an identifier bad is never its metadata. -/
theorem Fails.ne_metadata (h : c.Fails fs identifier e) (library : String) (path : Path)
    (reason : String) : e ≠ .metadata library path reason := by
  rintro rfl
  cases h with
  | resolving fails =>
      obtain ⟨searched, h⟩ := Resolver.exists_of_resolve_eq_error fails
      cases h
  | opening artifact resolves fails =>
      rcases Library.exists_of_ofArtifact_eq_error fails with ⟨reason, h⟩ | ⟨reason, h⟩
      · cases h
      · cases h

/-- Only the directories, the target and the version of the binary interface matter to a
good identifier. -/
theorem Opens.of_eq {library : Library} (h : c.Opens fs identifier library)
    (hresolver : c'.resolver = c.resolver) (htarget : c'.target = c.target)
    (habi : c'.abiVersion = c.abiVersion) : c'.Opens fs identifier library where
  resolves := by rw [hresolver, h.resolves]
  opens := by rw [htarget, habi, h.opens]

/-- Only the directories, the target and the version of the binary interface matter to a
bad identifier. -/
theorem Fails.of_eq (h : c.Fails fs identifier e) (hresolver : c'.resolver = c.resolver)
    (htarget : c'.target = c.target) (habi : c'.abiVersion = c.abiVersion) :
    c'.Fails fs identifier e := by
  cases h with
  | resolving fails => exact .resolving (by rw [hresolver, fails])
  | opening artifact resolves fails =>
      exact .opening artifact (by rw [hresolver, resolves]) (by rw [htarget, habi, fails])

/-! ## The stages -/

theorem librariesOn_eq_ok_iff {opened : List Library} :
    c.librariesOn fs = .ok opened ↔ List.Forall₂ (c.Opens fs) c.identifiers opened := by
  rw [librariesOn, mapM_eq_ok_iff]
  constructor
  · exact fun h => h.imp fun _ _ => bind_libraryAt_eq_ok_iff.1
  · exact fun h => h.imp fun _ _ => bind_libraryAt_eq_ok_iff.2

/-- The library stage fails with the first bad identifier. -/
theorem librariesOn_eq_error_iff :
    c.librariesOn fs = .error e ↔ ∃ before identifier later,
      c.identifiers = before ++ identifier :: later
        ∧ (∀ other ∈ before, ∃ library, c.Opens fs other library)
        ∧ c.Fails fs identifier e := by
  rw [librariesOn, mapM_eq_error_iff, FirstFailure]
  simp only [bind_libraryAt_eq_ok_iff, bind_libraryAt_eq_error_iff]

/-- The graph stage fails with the first library whose module does not load. -/
theorem graphOf_eq_error_iff {opened : List Library} :
    c.graphOf fs (.ok opened) = .error e
      ↔ FirstFailure (Library.loadModule fs c.languageVersion) opened e := by
  rw [← mapM_eq_error_iff]
  show (opened.mapM (Library.loadModule fs c.languageVersion) >>= _) = _ ↔ _
  rw [bind_eq_error_iff]
  constructor
  · rintro (h | ⟨modules, -, h⟩)
    · exact h
    · cases h
  · exact Or.inl

/-- If the modules of all libraries load, there is a graph. -/
theorem exists_graphOf {opened : List Library}
    (h : ∀ library ∈ opened, ∃ m, library.loadModule fs c.languageVersion = .ok m) :
    ∃ g, c.graphOf fs (.ok opened) = .ok g := by
  cases hgraph : c.graphOf fs (.ok opened) with
  | ok g => exact ⟨g, rfl⟩
  | error e =>
      obtain ⟨before, library, later, rfl, -, hfails⟩ := graphOf_eq_error_iff.1 hgraph
      obtain ⟨m, hm⟩ := h library (by simp)
      rw [hfails] at hm
      cases hm

/-! ## The answers -/

/-- An answer made of the result of a stage fails only in the way of the stage. -/
theorem eq_error_of_failure {α : Type} (answer : Except LoadError α → Answer)
    (hok : ∀ a, (answer (.ok a)).failure? = none)
    (herror : ∀ e, (answer (.error e)).failure? = some e) {result : Except LoadError α}
    (h : (answer result).failure? = some e) : result = .error e := by
  cases result with
  | ok a =>
      rw [hok] at h
      cases h
  | error e' =>
      rw [herror] at h
      cases h
      rfl

/-- A failure of the library stage is what every call returns that needs the libraries. -/
theorem failure_answerOn_of_librariesOn {call : Call} (h : c.librariesOn fs = .error e)
    (hcall : call.opens = true) : (c.answerOn fs call).failure? = some e := by
  cases call with
  | identifiers => cases hcall
  | artifacts => cases hcall
  | libraries =>
      rw [answerOn, h]
      rfl
  | modules =>
      rw [answerOn, h]
      rfl
  | graph =>
      rw [answerOn, h]
      rfl

/-- A failure of the graph stage is what every call returns that needs the graph. -/
theorem failure_answerOn_of_graphOf {call : Call} (h : c.graphOf fs (c.librariesOn fs) = .error e)
    (hcall : call.links = true) : (c.answerOn fs call).failure? = some e := by
  cases call with
  | identifiers => cases hcall
  | artifacts => cases hcall
  | libraries => cases hcall
  | modules =>
      rw [answerOn, h]
      rfl
  | graph =>
      rw [answerOn, h]
      rfl

/-- A call that fails passes on the failure of a stage. -/
theorem stage_of_failure_answerOn {call : Call} (h : (c.answerOn fs call).failure? = some e) :
    c.artifactsOn fs = .error e ∨ c.graphOf fs (c.librariesOn fs) = .error e := by
  cases call with
  | identifiers => cases h
  | artifacts =>
      exact Or.inl (eq_error_of_failure .artifacts (fun _ => rfl) (fun _ => rfl) h)
  | libraries =>
      have hlibraries : c.librariesOn fs = .error e :=
        eq_error_of_failure .libraries (fun _ => rfl) (fun _ => rfl) h
      rw [hlibraries]
      exact Or.inr rfl
  | modules =>
      exact Or.inr (eq_error_of_failure (fun g => .modules (g.map ModuleGraph.modules))
        (fun _ => rfl) (fun _ => rfl) h)
  | graph =>
      exact Or.inr (eq_error_of_failure .graph (fun _ => rfl) (fun _ => rfl) h)

/-- Resolving never fails for the metadata of a module. -/
theorem artifactsOn_ne_metadata (c : Configuration) (fs : FileSystem) (library : String)
    (path : Path) (reason : String) :
    c.artifactsOn fs ≠ .error (.metadata library path reason) := by
  intro h
  rw [artifactsOn, mapM_eq_error_iff] at h
  obtain ⟨-, identifier, -, -, -, hfails⟩ := h
  exact (Fails.resolving hfails).ne_metadata library path reason rfl

/-- A failure for the metadata of a module is one of the graph stage, after all libraries
opened. -/
theorem exists_opened_of_metadata {call : Call} {library : String} {path : Path}
    {reason : String}
    (h : (c.answerOn fs call).failure? = some (.metadata library path reason)) :
    ∃ opened, c.librariesOn fs = .ok opened
      ∧ c.graphOf fs (.ok opened) = .error (.metadata library path reason) := by
  have hgraph : c.graphOf fs (c.librariesOn fs) = .error (.metadata library path reason) :=
    (stage_of_failure_answerOn h).resolve_left (c.artifactsOn_ne_metadata fs library path reason)
  cases hopened : c.librariesOn fs with
  | ok opened =>
      rw [hopened] at hgraph
      exact ⟨opened, rfl, hgraph⟩
  | error e =>
      -- the failure would be that of a bad identifier
      rw [hopened] at hgraph
      obtain ⟨-, identifier, -, -, -, hfails⟩ := librariesOn_eq_error_iff.1 hopened
      cases hgraph
      exact absurd rfl (hfails.ne_metadata library path reason)

/-- The first bad identifier is what every call returns that needs the libraries. -/
theorem failure_answerOn_of_first_bad {before later : List String} {call : Call}
    (hidentifiers : c.identifiers = before ++ identifier :: later)
    (hbefore : ∀ other ∈ before, ∃ library, c.Opens fs other library)
    (hfails : c.Fails fs identifier e) (hcall : call.opens = true) :
    (c.answerOn fs call).failure? = some e :=
  failure_answerOn_of_librariesOn
    (librariesOn_eq_error_iff.2 ⟨before, identifier, later, hidentifiers, hbefore, hfails⟩) hcall

/-- Without bad identifiers and bad modules there is one module for each identifier. -/
theorem answerOn_of_loads {opened : List Library}
    (hopened : List.Forall₂ (c.Opens fs) c.identifiers opened)
    (hloads : ∀ library ∈ opened, ∃ m, library.loadModule fs c.languageVersion = .ok m) :
    ∃ g : ModuleGraph, c.answerOn fs .graph = .graph (.ok g)
      ∧ c.answerOn fs .modules = .modules (.ok g.modules)
      ∧ List.Forall₂ (fun identifier m => ∃ library, c.Opens fs identifier library
          ∧ Module.Represents g.size m library) c.identifiers g.modules := by
  have hlibraries : c.librariesOn fs = .ok opened := librariesOn_eq_ok_iff.2 hopened
  obtain ⟨g, hg⟩ := exists_graphOf hloads
  obtain ⟨_, h, hall⟩ := represents_of_graphOf hg
  cases h
  refine ⟨g, ?_, ?_, forall₂_comp hopened hall.flip⟩
  · rw [answerOn, hlibraries, hg]
  · rw [answerOn, hlibraries, hg]
    rfl

end Configuration

namespace Loader

open Linkage.Configuration

/-- **The first bad identifier decides the failure.** On unchanged files, after any calls:

* If an identifier is bad and all before it are good, every call that needs the libraries
  returns its failure, and does so whatever identifiers come after it.
* If all identifiers are good, the libraries are theirs. The first library whose module does
  not load then decides what the calls return that need the graph, and if there is none, they
  return one module for each identifier, in order.
* A failure for the metadata of a module is returned only if all identifiers are good, and it
  is that of the first library whose module does not load. -/
theorem first_bad_identifier_decides (c : Configuration) (fs : FileSystem) (calls : List Call) :
    let l := (ofConfiguration c).after (calls.map fun call => (fs, call))
    (∀ before identifier later e, c.identifiers = before ++ identifier :: later →
      (∀ other ∈ before, ∃ library, c.Opens fs other library) → c.Fails fs identifier e →
      ∀ call : Call, call.opens = true →
        (l.ask fs call).1.failure? = some e
        ∧ ∀ (c' : Configuration) (later' : List String) (calls' : List Call),
            c'.resolver = c.resolver → c'.target = c.target → c'.abiVersion = c.abiVersion →
            c'.identifiers = before ++ identifier :: later' →
            (((ofConfiguration c').after (calls'.map fun call => (fs, call))).ask
              fs call).1.failure? = some e)
    ∧ (∀ opened, List.Forall₂ (c.Opens fs) c.identifiers opened →
      (l.ask fs .libraries).1 = .libraries (.ok opened)
      ∧ (∀ e, FirstFailure (Library.loadModule fs c.languageVersion) opened e →
          ∀ call : Call, call.links = true → (l.ask fs call).1.failure? = some e)
      ∧ ((∀ library ∈ opened, ∃ m, library.loadModule fs c.languageVersion = .ok m) →
          ∃ g : ModuleGraph, (l.ask fs .graph).1 = .graph (.ok g)
            ∧ (l.ask fs .modules).1 = .modules (.ok g.modules)
            ∧ List.Forall₂ (fun identifier m => ∃ library, c.Opens fs identifier library
                ∧ Module.Represents g.size m library) c.identifiers g.modules))
    ∧ ∀ call library path reason,
        (l.ask fs call).1.failure? = some (.metadata library path reason) →
        ∃ opened, List.Forall₂ (c.Opens fs) c.identifiers opened
          ∧ FirstFailure (Library.loadModule fs c.languageVersion) opened
              (.metadata library path reason) := by
  intro l
  have hanswer : ∀ call, (l.ask fs call).1 = c.answerOn fs call :=
    (agrees_after c fs calls).answer
  refine ⟨?_, ?_, ?_⟩
  · intro before identifier later e hidentifiers hbefore hfails call hcall
    refine ⟨?_, ?_⟩
    · rw [hanswer call]
      exact failure_answerOn_of_first_bad hidentifiers hbefore hfails hcall
    · intro c' later' calls' hresolver htarget habi hidentifiers'
      have hbefore' : ∀ other ∈ before, ∃ library, c'.Opens fs other library := by
        intro other hother
        obtain ⟨library, hopens⟩ := hbefore other hother
        exact ⟨library, hopens.of_eq hresolver htarget habi⟩
      have hfails' : c'.Fails fs identifier e := hfails.of_eq hresolver htarget habi
      rw [(agrees_after c' fs calls').answer call]
      exact failure_answerOn_of_first_bad hidentifiers' hbefore' hfails' hcall
  · intro opened hopened
    have hlibraries : c.librariesOn fs = .ok opened := librariesOn_eq_ok_iff.2 hopened
    refine ⟨?_, ?_, ?_⟩
    · rw [hanswer .libraries, answerOn, hlibraries]
    · intro e hfirst call hcall
      have hgraph : c.graphOf fs (c.librariesOn fs) = .error e := by
        rw [hlibraries]
        exact graphOf_eq_error_iff.2 hfirst
      rw [hanswer call]
      exact failure_answerOn_of_graphOf hgraph hcall
    · intro hloads
      rw [hanswer .graph, hanswer .modules]
      exact answerOn_of_loads hopened hloads
  · intro call library path reason hfailure
    rw [hanswer call] at hfailure
    obtain ⟨opened, hlibraries, hgraph⟩ := exists_opened_of_metadata hfailure
    exact ⟨opened, librariesOn_eq_ok_iff.1 hlibraries, graphOf_eq_error_iff.1 hgraph⟩

/-- The library that `foo` resolves to once it was put into the repository. -/
def fooLibrary : Library :=
  ⟨⟨"foo", .unpacked (Path.ofString "repo/foo")⟩, ⟨"foo", 1, ["linux_x64"]⟩⟩

/-- `foo` followed by other libraries. -/
def fooAnd (others : List String) : Configuration :=
  { fooConfiguration with libraries := "foo" :: others }

/-- `foo` alone, for a language version that its metadata is too new for. -/
def fooTooOld : Configuration := { fooConfiguration with languageVersion := ⟨0, 9⟩ }

theorem first_bad_identifier_decides_foo :
    let missing := LoadError.resolution "bar"
      [Path.ofString "repo", Path.ofString "dist/lib", Path.ofString "local/lib"]
    let tooNew := LoadError.metadata "foo" (Path.ofString "repo/foo")
      "compiled with language version 1.0, newer than 0.9"
    let run (calls : List Call) : Run := calls.map fun call => (filesAfter, call)
    -- `bar` is the first bad identifier
    (((ofConfiguration (fooAnd ["bar"])).after (run [.artifacts])).ask
        filesAfter .graph).1.failure? = some missing
    ∧ (((ofConfiguration (fooAnd ["bar", "baz"])).after (run [])).ask
        filesAfter .libraries).1.failure? = some missing
    -- all identifiers are good, and a module is too new
    ∧ (((ofConfiguration fooTooOld).after (run [.libraries])).ask
        filesAfter .modules).1.failure? = some tooNew
    ∧ (∃ opened, List.Forall₂ (fooTooOld.Opens filesAfter) fooTooOld.identifiers opened
      ∧ FirstFailure (Library.loadModule filesAfter fooTooOld.languageVersion) opened tooNew)
    -- all identifiers are good, and all modules load
    ∧ ∃ g : ModuleGraph,
        (((ofConfiguration fooConfiguration).after (run [])).ask
          filesAfter .graph).1 = .graph (.ok g)
        ∧ g.size = 1 := by
  intro missing tooNew run
  have hopens : fooConfiguration.Opens filesAfter "foo" fooLibrary := ⟨by rfl, by rfl⟩
  have hbefore : ∀ other ∈ ["foo"], ∃ library, (fooAnd ["bar"]).Opens filesAfter other library :=
    List.forall_mem_singleton.2 ⟨fooLibrary, hopens.of_eq rfl rfl rfl⟩
  have hbar : (fooAnd ["bar"]).Fails filesAfter "bar" missing := .resolving (by rfl)
  have htooNew : fooLibrary.loadModule filesAfter fooTooOld.languageVersion = .error tooNew := by
    rfl
  have hloads : ∃ m, fooLibrary.loadModule filesAfter fooConfiguration.languageVersion = .ok m :=
    ⟨_, by rfl⟩
  obtain ⟨hbad, -, -⟩ := first_bad_identifier_decides (fooAnd ["bar"]) filesAfter [.artifacts]
  obtain ⟨-, hgood, hmetadata⟩ := first_bad_identifier_decides fooTooOld filesAfter [.libraries]
  obtain ⟨-, hfine, -⟩ := first_bad_identifier_decides fooConfiguration filesAfter []
  have hdecides := hbad ["foo"] "bar" [] missing rfl hbefore hbar
  have hfailure := (hgood [fooLibrary] (.cons (hopens.of_eq rfl rfl rfl) .nil)).2.1 tooNew
    ((firstFailure_cons_of_error htooNew []).2 rfl) .modules rfl
  obtain ⟨g, hgraph, -, hall⟩ := (hfine [fooLibrary] (.cons hopens .nil)).2.2
    (List.forall_mem_singleton.2 hloads)
  exact ⟨(hdecides .graph rfl).1,
    (hdecides .libraries rfl).2 (fooAnd ["bar", "baz"]) ["baz"] [] rfl rfl rfl rfl,
    hfailure, hmetadata .modules "foo" _ _ hfailure, g, hgraph, hall.length_eq.symm⟩

end Loader

end Linkage
