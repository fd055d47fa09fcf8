import Linkage.Program
import Linkage.Proofs.Path.Names
import Linkage.Proofs.Traversal

set_option autoImplicit false

/-! # Configurations that can be made out

A load needs a target, the directory of the toolchain and a local directory. Options that do
not name them leave them to the environment, and there each of the three may be unknown. There
is a configuration exactly if all three are known (`exists_withDefaults_iff`). They are made
out in this order, so the failure is about the first one that neither side knows
(`withDefaults_eq_error_iff`). Options that name all three do not depend on the environment
(`withDefaults_of_given`).

A run without a configuration ends with that failure: it prints nothing, logs nothing and
changes no file (`run_of_withDefaults_eq_error`).
-/

namespace Linkage

open CommandLine (ConfigurationError Environment Installation LoadOptions)
open Traversal (bind_eq_error_iff exists_of_bind_eq_ok mapError_eq_ok_iff)

/-! ## The place of the executable -/

namespace Path

variable {p : Path} {name : List Char}

theorem trimmed_eq_nil_iff : p.trimmed = [] ↔ p.steps = [] := by
  rw [trimmed, steps, List.dropWhile_eq_nil_iff, List.filter_eq_nil_iff]
  simp

theorem parent?_of_fileName (h : p.fileName = some name) : p.parent? = some p.parent := by
  unfold fileName at h
  unfold parent?
  cases htrimmed : p.trimmed with
  | nil =>
      rw [htrimmed] at h
      cases h
  | cons s rest => rfl

/-- Above an absolute path there is no path exactly if it has no steps. -/
theorem parent?_eq_none_iff (h : p.isAbsolute = true) : p.parent? = none ↔ p.steps = [] := by
  rw [← trimmed_eq_nil_iff, parent?]
  cases p.trimmed with
  | nil => simp [h]
  | cons s rest => simp

end Path

namespace CommandLine

/-- An executable at an absolute path belongs to an installation unless it lies in the root. -/
theorem Installation.ofExecutable_cases {executable : Path} {name : List Char}
    (habsolute : executable.isAbsolute = true) (hname : executable.fileName = some name) :
    (executable.steps = [name] ∧ Installation.ofExecutable executable = .tooShallow executable)
    ∨ (executable.steps ≠ [name] ∧ ∃ dir, executable.parent.parent? = some dir
      ∧ Installation.ofExecutable executable = .root dir) := by
  have hsteps := Path.steps_parent hname
  have habove := Path.parent?_eq_none_iff ((Path.isAbsolute_parent hname).trans habsolute)
  rw [Installation.ofExecutable, Path.parent?_of_fileName hname, Option.bind_some]
  cases hdir : executable.parent.parent? with
  | none =>
      left
      rw [hsteps, habove.1 hdir]
      exact ⟨rfl, rfl⟩
  | some dir =>
      right
      refine ⟨fun hone => ?_, dir, rfl, rfl⟩
      rw [hsteps, List.append_left_eq_self] at hone
      rw [habove.2 hone] at hdir
      cases hdir

example : Installation.ofExecutable (Path.ofString "/opt/modlink/bin/modlink")
    = .ofString "/opt/modlink" := by decide

example : Installation.ofExecutable (Path.ofString "/modlink")
    = .tooShallow (Path.ofString "/modlink") := by decide

/-! ## Target and directories -/

namespace LoadOptions

variable {options : LoadOptions} {env : Environment} {e : ConfigurationError} {c : Configuration}

/-- A target is known: it was asked for, or the machine is one. -/
def KnowsTarget (options : LoadOptions) (env : Environment) : Prop :=
  options.target ≠ none ∨ env.host ≠ none

/-- The directory of the toolchain is known: it was asked for, or the toolchain is installed
around the executable. -/
def KnowsHome (options : LoadOptions) (env : Environment) : Prop :=
  options.home ≠ none ∨ ∃ dir, env.installation = .root dir

/-- A local directory is known: it was asked for, or the user has a home. -/
def KnowsLocalDir (options : LoadOptions) (env : Environment) : Prop :=
  options.localDir ≠ none ∨ env.userHome ≠ none

theorem exists_targetOn_iff : (∃ target, options.targetOn env = .ok target)
    ↔ options.KnowsTarget env := by
  unfold targetOn KnowsTarget
  cases options.target <;> cases env.host <;> simp

theorem targetOn_eq_error_iff : options.targetOn env = .error e
    ↔ ¬options.KnowsTarget env ∧ .unsupportedHost = e := by
  unfold targetOn KnowsTarget
  cases options.target <;> cases env.host <;> simp

theorem exists_homeOn_iff : (∃ home, options.homeOn env = .ok home)
    ↔ options.KnowsHome env := by
  unfold homeOn KnowsHome Installation.dir
  cases options.home <;> cases env.installation <;> simp

theorem homeOn_eq_error_iff : options.homeOn env = .error e
    ↔ options.home = none ∧ env.installation.dir = .error e := by
  unfold homeOn
  cases options.home <;> simp

theorem exists_localDirOn_iff : (∃ dir, options.localDirOn env = .ok dir)
    ↔ options.KnowsLocalDir env := by
  unfold localDirOn KnowsLocalDir
  cases options.localDir <;> cases env.userHome <;> simp

theorem localDirOn_eq_error_iff : options.localDirOn env = .error e
    ↔ ¬options.KnowsLocalDir env ∧ .noUserHome = e := by
  unfold localDirOn KnowsLocalDir
  cases options.localDir <;> cases env.userHome <;> simp

/-! ## Configurations -/

theorem configuration_eq_ok_iff :
    options.configuration env = .ok c ↔ options.withDefaults env = .ok c :=
  mapError_eq_ok_iff

/-- A configuration is one for the target and the directories that were made out. -/
theorem withDefaults_eq_ok_iff : options.withDefaults env = .ok c ↔
    ∃ target home localDir, options.targetOn env = .ok target ∧ options.homeOn env = .ok home
      ∧ options.localDirOn env = .ok localDir
      ∧ options.configurationFor target ⟨home, localDir⟩ = c := by
  constructor
  · intro h
    obtain ⟨target, htarget, h⟩ := exists_of_bind_eq_ok h
    obtain ⟨home, hhome, h⟩ := exists_of_bind_eq_ok h
    obtain ⟨localDir, hlocalDir, h⟩ := exists_of_bind_eq_ok h
    exact ⟨target, home, localDir, htarget, hhome, hlocalDir, Except.ok.inj h⟩
  · rintro ⟨target, home, localDir, htarget, hhome, hlocalDir, rfl⟩
    rw [withDefaults, htarget, hhome, hlocalDir]
    rfl

theorem exists_withDefaults_iff : (∃ c, options.withDefaults env = .ok c)
    ↔ options.KnowsTarget env ∧ options.KnowsHome env ∧ options.KnowsLocalDir env := by
  rw [← exists_targetOn_iff, ← exists_homeOn_iff, ← exists_localDirOn_iff]
  constructor
  · rintro ⟨c, h⟩
    obtain ⟨target, home, localDir, htarget, hhome, hlocalDir, -⟩ := withDefaults_eq_ok_iff.1 h
    exact ⟨⟨target, htarget⟩, ⟨home, hhome⟩, ⟨localDir, hlocalDir⟩⟩
  · rintro ⟨⟨target, htarget⟩, ⟨home, hhome⟩, ⟨localDir, hlocalDir⟩⟩
    exact ⟨_, withDefaults_eq_ok_iff.2 ⟨target, home, localDir, htarget, hhome, hlocalDir, rfl⟩⟩

/-- **The first thing that is not known decides.** There is no configuration if the target,
the directory of the toolchain or the local directory is unknown, and the failure is about the
first of them. -/
theorem withDefaults_eq_error_iff : options.withDefaults env = .error e ↔
    ¬options.KnowsTarget env ∧ .unsupportedHost = e
    ∨ options.KnowsTarget env ∧ options.home = none ∧ env.installation.dir = .error e
    ∨ options.KnowsTarget env ∧ options.KnowsHome env ∧ ¬options.KnowsLocalDir env
      ∧ .noUserHome = e := by
  have hreturn : ∀ (target : Target) (home localDir : Path),
      (return options.configurationFor target ⟨home, localDir⟩) ≠ Except.error e := by
    intro target home localDir h
    cases h
  rw [withDefaults, bind_eq_error_iff, targetOn_eq_error_iff]
  simp only [bind_eq_error_iff, homeOn_eq_error_iff, localDirOn_eq_error_iff, hreturn,
    ← exists_targetOn_iff, ← exists_homeOn_iff]
  constructor
  · rintro (h | ⟨target, htarget, h | ⟨home, hhome, h | ⟨dir, -, hdir⟩⟩⟩)
    · exact Or.inl h
    · exact Or.inr (Or.inl ⟨⟨target, htarget⟩, h⟩)
    · exact Or.inr (Or.inr ⟨⟨target, htarget⟩, ⟨home, hhome⟩, h⟩)
    · exact absurd hdir not_false
  · rintro (h | ⟨⟨target, htarget⟩, h⟩ | ⟨⟨target, htarget⟩, ⟨home, hhome⟩, h⟩)
    · exact Or.inl h
    · exact Or.inr ⟨target, htarget, Or.inl h⟩
    · exact Or.inr ⟨target, htarget, Or.inr ⟨home, hhome, Or.inl h⟩⟩

/-- Options that name target and directories leave nothing to the environment. -/
theorem withDefaults_of_given {target : Target} {home localDir : Path}
    (htarget : options.target = some target) (hhome : options.home = some home)
    (hlocalDir : options.localDir = some localDir) (env : Environment) :
    options.withDefaults env = .ok (options.configurationFor target ⟨home, localDir⟩) := by
  refine withDefaults_eq_ok_iff.2 ⟨target, home, localDir, ?_, ?_, ?_, rfl⟩
  · rw [targetOn, htarget]
    rfl
  · rw [homeOn, hhome]
  · rw [localDirOn, hlocalDir]

end LoadOptions

end CommandLine

/-! ## Runs without a configuration -/

namespace Program

/-- Without a configuration a run fails with the reason, and with nothing else. -/
theorem run_of_withDefaults_eq_error {env : Environment} (fs : FileSystem)
    {arguments : List String} {invocation : CommandLine.Invocation} {options : LoadOptions}
    {filter : LogFilter} {e : ConfigurationError}
    (hread : CommandLine.read env arguments = .ok invocation)
    (hrequest : invocation.request = .load options)
    (hlevel : LogFilter.parse invocation.logLevel = .ok filter)
    (h : options.withDefaults env = .error e) :
    run env fs arguments = ⟨1, "", [], some (.ofChain e.chain), fs⟩ := by
  have hperform : perform env fs invocation.request = pure (.error (.ofChain e.chain), fs) := by
    rw [hrequest, perform, h]
  simp only [run, hread, hlevel, hperform]
  rfl

end Program

end Linkage
