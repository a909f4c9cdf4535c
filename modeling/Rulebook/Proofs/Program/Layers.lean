import Rulebook.Proofs.Arguments
import Rulebook.Proofs.Configuration
import Rulebook.Proofs.Program.Opening

/-!
The configuration that a run works with, setting by setting: which layer each of them comes from,
and that only the level of logging it ends with decides whether the run goes on.
-/

namespace Rulebook

open Rulebook.Configuration FileTree

namespace Program

/-- Every setting of the configuration comes from the first of its layers that settles it: what the
arguments say with the option of its name, its variable, the file, and what holds when nothing is
said. -/
structure Layered (environment : Environment) (arguments : List String) (file : Overrides)
    (configuration : Configuration) : Prop where
  catalog : Cascade (Arguments.written? "catalog" arguments)
    (environment.lookup "COVENANT_CATALOG") file.catalog none configuration.catalog
  projects : Cascade (Arguments.written? "projects" arguments)
    (environment.lookup "COVENANT_PROJECTS") file.projects none configuration.projects
  auditLog : Cascade (Arguments.written? "audit-log" arguments)
    (environment.lookup "COVENANT_AUDIT_LOG") file.auditLog none configuration.auditLog
  logLevel : Cascade (if Arguments.Wordy arguments then some "debug" else none)
    (environment.lookup "COVENANT_LOG") file.logLevel (some "info") (some configuration.logLevel)

/-- What a run does once it has its configuration. -/
def perform (palette : Palette) (configuration : Configuration) (ticket : Ticket) :
    Arguments.Task → StateM FileTree Report
  | .resolve request json => runResolve palette configuration ticket request json
  | .catalog json => runCatalog palette configuration json
  | .check => runCheck palette configuration

/-- The error of a configuration with no known level of logging. -/
def levelError (configuration : Configuration) : Error :=
  Error.of (.config (.invalidValue "log_level" configuration.logLevel))

/-- Runs with these arguments have this configuration. They are refused when its level of logging is
not known, and for no other reason; else they perform their task with it. -/
structure Works (tree : FileTree) (environment : Environment) (arguments : List String)
    (invocation : Arguments.Invocation) (configuration : Configuration) : Prop where
  accepted : tree.answer (configure (environmentIn tree environment) invocation) =
    .ok configuration ↔ Known configuration.logLevel
  refused : tree.answer (configure (environmentIn tree environment) invocation) =
    .error (levelError configuration) ↔ ¬ Known configuration.logLevel
  performs : Known configuration.logLevel → ∀ terminal ticket,
    runIn tree environment terminal ticket arguments =
      (perform (paletteIn tree environment terminal) configuration ticket invocation.task).run tree
  fails : ¬ Known configuration.logLevel → ∀ terminal ticket,
    runIn tree environment terminal ticket arguments =
      (.failed (paletteIn tree environment terminal) [] (levelError configuration).chain, tree)

/-- A configuration under what the environment and the flags say. -/
def overlaid (configuration : Configuration) (environment : Environment)
    (invocation : Arguments.Invocation) : Configuration :=
  (configuration.override (.ofEnvironment environment)).override invocation.flags

theorem layered_overlaid {arguments : List String} {invocation : Arguments.Invocation}
    (hparse : Arguments.parse arguments = .ok invocation) (environment : Environment)
    (file : Overrides) :
    Layered environment arguments file
      (overlaid (standard.override file) environment invocation) := by
  have hlevel : some (overlaid (standard.override file) environment invocation).logLevel =
      (invocation.flags.logLevel <|>
        (Overrides.setting? environment "COVENANT_LOG" <|> (file.logLevel <|> some "info"))) := by
    simp [overlaid, override, Overrides.ofEnvironment, standard]
  have hflags := Arguments.flags_of_parse hparse
  constructor
  case logLevel =>
    -- the level is never left open: it is the one setting whose last layer always says something
    rw [hlevel, hflags]
    exact cascade_orElse _ _ _ _
  all_goals
    rw [overlaid, hflags]
    exact cascade_orElse _ _ _ _

section Run

variable {tree : FileTree} {arguments : List String} {invocation : Arguments.Invocation}
  {found : Configuration}

theorem answer_configure (hfound : tree.answer (discover invocation.configFile) = .ok found)
    (environment : Environment) :
    tree.answer (configure environment invocation) =
      if Known (overlaid found environment invocation).logLevel then
        .ok (overlaid found environment invocation)
      else .error (levelError (overlaid found environment invocation)) := by
  rw [configure, answer, (onlyLooks_discover invocation.configFile).run_bind, hfound]
  simp only
  rw [← overlaid, validate_eq]
  by_cases hknown : Known (overlaid found environment invocation).logLevel
  · rw [if_pos hknown, if_pos hknown]
    rfl
  · rw [if_neg hknown, if_neg hknown]
    rfl

theorem works_overlaid (hparse : Arguments.parse arguments = .ok invocation)
    (hfound : tree.answer (discover invocation.configFile) = .ok found)
    (environment : Environment) :
    Works tree environment arguments invocation
      (overlaid found (environmentIn tree environment) invocation) := by
  have hanswer := answer_configure hfound (environmentIn tree environment)
  -- where the configuration comes from no longer matters, only its level does
  generalize overlaid found (environmentIn tree environment) invocation = configuration
    at hanswer ⊢
  constructor
  case accepted =>
    rw [hanswer]
    split <;> simp [*]
  case refused =>
    rw [hanswer]
    split <;> simp [*]
  case performs =>
    intro hknown terminal ticket
    rw [runIn_eq hparse, hanswer, if_pos hknown]
    cases invocation.task <;> rfl
  case fails =>
    intro hunknown terminal ticket
    rw [runIn_eq hparse, hanswer, if_neg hunknown]

/-- A run that finds its configuration file, or none, has each setting from the first layer that
settles it: a flag, a variable that is not blank, the file, and at last what holds when nothing is
said. -/
theorem configures_layered (hparse : Arguments.parse arguments = .ok invocation)
    (hfound : tree.answer (discover (Arguments.written? "config" arguments)) = .ok found) :
    ∃ file, FileSays tree (Arguments.written? "config" arguments) file ∧
      ∀ environment, ∃ configuration,
        Layered (environmentIn tree environment) arguments file configuration ∧
          Works tree environment arguments invocation configuration := by
  obtain ⟨file, hsaid, rfl⟩ := exists_fileSays_of_discover hfound
  rw [← (Arguments.says_of_parse hparse).configFile] at hfound
  exact ⟨file, hsaid, fun environment =>
    ⟨_, layered_overlaid hparse _ file, works_overlaid hparse hfound environment⟩⟩

theorem Works.eq_of_configured {environment : Environment} {configuration : Configuration}
    (h : Works tree environment arguments invocation configuration)
    (hknown : Known configuration.logLevel) {expected : Configuration}
    (hconfigured : (tree.answer (configure (environmentIn tree environment)
      invocation)).toOption.any (· = expected) = true) : configuration = expected := by
  obtain ⟨answered, hanswer, heq⟩ := exists_ok_of_any hconfigured
  obtain rfl := Except.ok.inj ((h.accepted.mpr hknown).symm.trans hanswer)
  exact of_decide_eq_true heq

end Run

/-- A working directory with a configuration file whose level of logging is not known. -/
def chattyTree : FileTree :=
  FileTree.empty.put ["work", "covenant.toml"]
    (.file "catalog=\"c.toml\"\nprojects=\"p.toml\"\nlog_level=\"chatty\"".toUTF8)

def loudEnvironment : Environment :=
  [("COVENANT_CATALOG", " "), ("COVENANT_PROJECTS", " q.toml"), ("COVENANT_LOG", "loud")]

def quietArguments : List String :=
  ["check"]

def wordyArguments : List String :=
  ["-v", "--audit-log", "a.jsonl", "check"]

def pathArguments : List String :=
  ["--catalog", "d.toml", "check", "--projects=r.toml", "--verbose"]

/-- A level that is not known does no harm in the file and in a variable as long as the run is to
log much; without the flag, that of the variable is what the run is refused for. What the flags say
of the catalog and the projects hides the file and the variables. -/
theorem configures_layered_chatty :
    (∃ file configuration, FileSays chattyTree none file ∧
      Layered (environmentIn chattyTree loudEnvironment) wordyArguments file configuration ∧
      Works chattyTree loudEnvironment wordyArguments
        ⟨none, none, none, some "a.jsonl", true, .check⟩ configuration ∧
      configuration = ⟨some "c.toml", some " q.toml", some "a.jsonl", "debug"⟩ ∧ Known "debug") ∧
    (∃ file configuration, FileSays chattyTree none file ∧
      Layered (environmentIn chattyTree loudEnvironment) pathArguments file configuration ∧
      Works chattyTree loudEnvironment pathArguments
        ⟨none, some "d.toml", some "r.toml", none, true, .check⟩ configuration ∧
      configuration = ⟨some "d.toml", some "r.toml", none, "debug"⟩) ∧
    ∃ file configuration, FileSays chattyTree none file ∧
      Layered (environmentIn chattyTree loudEnvironment) quietArguments file configuration ∧
      Works chattyTree loudEnvironment quietArguments ⟨none, none, none, none, false, .check⟩
        configuration ∧
      configuration.logLevel = "loud" ∧ ¬ Known "loud" := by
  have hread : (chattyTree.answer (discover none)).toOption.any (fun _ => true) = true := by
    decide +kernel
  obtain ⟨found, hfound, -⟩ := exists_ok_of_any hread
  have hrun {arguments : List String} {invocation : Arguments.Invocation}
      (hparsed : (Arguments.parse arguments).toOption.any (· = invocation) = true)
      (hfile : Arguments.written? "config" arguments = none) :
      ∃ file configuration, FileSays chattyTree none file ∧
        Layered (environmentIn chattyTree loudEnvironment) arguments file configuration ∧
        Works chattyTree loudEnvironment arguments invocation configuration := by
    obtain ⟨parsed, hparse, heq⟩ := exists_ok_of_any hparsed
    obtain rfl := of_decide_eq_true heq
    rw [← hfile] at hfound
    obtain ⟨file, hsaid, hall⟩ := configures_layered hparse hfound
    rw [hfile] at hsaid
    obtain ⟨configuration, hlayered, hworks⟩ := hall loudEnvironment
    exact ⟨file, configuration, hsaid, hlayered, hworks⟩
  have hdebug : Known "debug" := by decide +kernel
  have hflagged {arguments : List String} {file : Overrides} {configuration : Configuration}
      (hwordy : Arguments.Wordy arguments) (hlayered : Layered
        (environmentIn chattyTree loudEnvironment) arguments file configuration) :
      Known configuration.logLevel := by
    rw [Option.some.inj (hlayered.logLevel.flagged "debug" (if_pos hwordy))]
    exact hdebug
  refine ⟨?_, ?_, ?_⟩
  · obtain ⟨file, configuration, hsaid, hlayered, hworks⟩ :=
      @hrun wordyArguments ⟨none, none, none, some "a.jsonl", true, .check⟩ (by decide +kernel)
        (by decide +kernel)
    have hknown := hflagged (by decide) hlayered
    exact ⟨file, configuration, hsaid, hlayered, hworks,
      hworks.eq_of_configured hknown (by decide +kernel), hdebug⟩
  · obtain ⟨file, configuration, hsaid, hlayered, hworks⟩ :=
      @hrun pathArguments ⟨none, some "d.toml", some "r.toml", none, true, .check⟩
        (by decide +kernel) (by decide +kernel)
    have hknown := hflagged (by decide) hlayered
    exact ⟨file, configuration, hsaid, hlayered, hworks,
      hworks.eq_of_configured hknown (by decide +kernel)⟩
  · obtain ⟨file, configuration, hsaid, hlayered, hworks⟩ :=
      @hrun quietArguments ⟨none, none, none, none, false, .check⟩ (by decide +kernel)
        (by decide +kernel)
    have henvironment :
        (environmentIn chattyTree loudEnvironment).lookup "COVENANT_LOG" = some "loud" := by
      decide +kernel
    have hlevel : configuration.logLevel = "loud" :=
      Option.some.inj
        (hlayered.logLevel.set (if_neg (by decide)) "loud" henvironment (by decide))
    exact ⟨file, configuration, hsaid, hlayered, hworks, hlevel, by decide +kernel⟩

end Program

end Rulebook
