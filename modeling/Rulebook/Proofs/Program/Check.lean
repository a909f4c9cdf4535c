import Rulebook.Proofs.Check
import Rulebook.Proofs.Program.Resolve

namespace Rulebook.Program

open FileTree Resolution

/-- No project has an error. -/
def Sound (catalog : Catalog) (projects : Registry) : Prop :=
  ∀ issue ∈ Issue.ofProjects catalog projects.toList, issue.level ≠ .error

section Run

variable {tree : FileTree} {environment : Environment} {terminal : Bool} {ticket : Ticket}
  {arguments : List String} {invocation : Arguments.Invocation} {configuration : Configuration}
  {catalog : Catalog} {projects : Registry}

theorem exists_run_runCheck (palette : Palette)
    (hcatalog : tree.answer (openCatalog configuration) = .ok catalog)
    (hprojects : tree.answer (openProjects configuration) = .ok projects) :
    ∃ report, (runCheck palette configuration : StateM FileTree Report).run tree = (report, tree) ∧
      (report.code = 0 ↔ Sound catalog projects) := by
  have herrors : 0 < (Issue.ofProjects catalog projects.toList).countP
      (fun issue => issue.level == .error) ↔ ¬ Sound catalog projects := by
    simp [List.countP_pos_iff, Sound]
  rw [runCheck, (onlyLooks_openCatalog configuration).run_bind, hcatalog]
  simp only
  rw [(onlyLooks_openProjects configuration).run_bind, hprojects]
  simp only
  split
  case isTrue hsome =>
    refine ⟨_, rfl, ?_⟩
    constructor
    · intro hcode
      cases hcode
    · intro hsound
      exact absurd hsound (herrors.mp hsome)
  case isFalse hnone =>
    have hsound : Sound catalog projects := not_not.mp (mt herrors.mpr hnone)
    exact ⟨_, rfl, fun _ => hsound, fun _ => rfl⟩

variable (terminal ticket) in
theorem runIn_check (hparse : Arguments.parse arguments = .ok invocation)
    (htask : invocation.task = .check) :
    (runIn tree environment terminal ticket arguments).2 = tree ∧
      ((runIn tree environment terminal ticket arguments).1.code = 0 ↔
        ∃ configuration catalog projects,
          Opens tree environment invocation configuration catalog projects ∧
            Sound catalog projects) := by
  have hfailed {palette : Palette} {lines reasons : List String}
      (h : ¬ ∃ configuration catalog projects,
        Opens tree environment invocation configuration catalog projects) :
      (Report.failed palette lines reasons).code = 0 ↔ ∃ configuration catalog projects,
        Opens tree environment invocation configuration catalog projects ∧
          Sound catalog projects := by
    constructor
    · intro hcode
      cases hcode
    · rintro ⟨configuration, catalog, projects, hopens, -⟩
      exact absurd ⟨configuration, catalog, projects, hopens⟩ h
  rw [runIn_eq hparse]
  cases hconfigured : tree.answer (configure (environmentIn tree environment) invocation) with
  | error error =>
      refine ⟨rfl, hfailed ?_⟩
      rintro ⟨configuration, catalog, projects, hopens⟩
      cases hconfigured.symm.trans hopens.configured
  | ok configuration =>
      simp only [htask]
      cases hcatalog : tree.answer (openCatalog configuration) with
      | error error =>
          rw [runCheck, (onlyLooks_openCatalog configuration).run_bind, hcatalog]
          refine ⟨rfl, hfailed ?_⟩
          rintro ⟨configuration', catalog, projects, hopens⟩
          obtain rfl := Except.ok.inj (hconfigured.symm.trans hopens.configured)
          cases hcatalog.symm.trans hopens.catalog
      | ok catalog =>
          cases hprojects : tree.answer (openProjects configuration) with
          | error error =>
              rw [runCheck, (onlyLooks_openCatalog configuration).run_bind, hcatalog]
              simp only
              rw [(onlyLooks_openProjects configuration).run_bind, hprojects]
              refine ⟨rfl, hfailed ?_⟩
              rintro ⟨configuration', catalog', projects, hopens⟩
              obtain rfl := Except.ok.inj (hconfigured.symm.trans hopens.configured)
              cases hprojects.symm.trans hopens.projects
          | ok projects =>
              have hopens : Opens tree environment invocation configuration catalog projects :=
                ⟨hconfigured, hcatalog, hprojects⟩
              obtain ⟨report, hrun, hcode⟩ := exists_run_runCheck
                (paletteIn tree environment terminal) hopens.catalog hopens.projects
              rw [hrun]
              refine ⟨rfl, hcode.trans ?_⟩
              constructor
              · intro hsound
                exact ⟨configuration, catalog, projects, hopens, hsound⟩
              · rintro ⟨configuration', catalog', projects', hopens', hsound⟩
                obtain ⟨-, rfl, rfl⟩ := hopens.unique hopens'
                exact hsound

theorem configure_congr {resolving checking : Arguments.Invocation}
    (hfile : resolving.configFile = checking.configFile) (hflags : resolving.flags = checking.flags)
    (environment : Environment) :
    (configure environment resolving : StateM FileTree (Result Configuration)) =
      configure environment checking := by
  rw [configure, configure, hfile, hflags]

theorem reason?_ne_invalidConfiguration (hsound : Sound catalog projects) (request : Request) :
    (Service.resolve ⟨catalog, projects⟩ request).reason? ≠ some .invalidConfiguration := by
  intro hreason
  obtain ⟨project, hfound, -, hnone⟩ :=
    (Service.ending_resolve _ request).reason?_eq_invalidConfiguration_iff.mp hreason
  have hlisted : project ∈ projects.toList := (Index.get?_eq_some_iff.mp hfound).1
  obtain ⟨issue, hissue, -, hlevel⟩ := (Issue.exists_error_iff hlisted).mpr hnone
  exact hsound issue hissue hlevel

theorem runIn_ne_invalidConfiguration {request : Request} {json : Bool} {palette : Palette}
    {block : Block} (hparse : Arguments.parse arguments = .ok invocation)
    (htask : invocation.task = .resolve request json)
    (hopens : Opens tree environment invocation configuration catalog projects)
    (hsound : Sound catalog projects) (hreason : block.reason = .invalidConfiguration) :
    (runIn tree environment terminal ticket arguments).1 ≠
      reportOutcome palette json (.blocked block) := by
  intro hreport
  have hblocked : (reportOutcome palette json (.blocked block)).code = 2 := by
    cases json <;> rfl
  by_cases hready : ∃ prepared, Ready tree configuration prepared
  · obtain ⟨prepared, hready⟩ := hready
    rw [runIn_of_ready terminal ticket hparse htask hopens hready] at hreport
    cases hresolve : Service.resolve ⟨catalog, projects⟩ request with
    | contract contract =>
        rw [Service.outcome_of_contract hresolve] at hreport
        rw [← hreport] at hblocked
        cases json <;> cases hblocked
    | blocked found =>
        rw [Service.outcome_of_blocked hresolve] at hreport
        have hfound := reason_eq_of_reportOutcome_eq hreport
        refine reason?_ne_invalidConfiguration hsound request ?_
        rw [hresolve, ← hreason, ← hfound]
        rfl
  · have hmissing : ¬ ∃ configuration catalog projects prepared,
        Opens tree environment invocation configuration catalog projects ∧
          Ready tree configuration prepared := by
      rintro ⟨configuration', catalog', projects', prepared, hopens', hready'⟩
      obtain ⟨rfl, -⟩ := hopens.unique hopens'
      exact hready ⟨prepared, hready'⟩
    obtain ⟨reasons, left, hrun, -⟩ :=
      exists_runIn_failed terminal ticket hparse htask hmissing
    rw [hrun] at hreport
    rw [← hreport] at hblocked
    cases hblocked

end Run

/-- The check and the resolution agree about broken projects. The check finds an error in a project
if and only if requests for it are blocked for its configuration. A run that checks changes no file,
and its code is 0 if and only if the configuration is sound, the catalog and the projects are there
and no project has an error; after such a run, none with the same configuration reports a block for
it. -/
theorem check_agrees :
    (∀ (catalog : Catalog) (projects : Registry), ∀ project ∈ projects.toList,
      ∀ command ∈ catalog.commands.entries, ∀ request : Request,
        request.projectId = project.id → request.commandId = command.id →
          ((∃ issue ∈ Issue.ofProjects catalog projects.toList,
              issue.projectId = project.id ∧ issue.level = .error) ↔
            (Service.resolve ⟨catalog, projects⟩ request).reason? =
              some .invalidConfiguration)) ∧
    ∀ (tree : FileTree) (environment : Environment) (terminal : Bool) (ticket : Ticket)
      (arguments : List String) (checking : Arguments.Invocation),
      Arguments.parse arguments = .ok checking → checking.task = .check →
        (runIn tree environment terminal ticket arguments).2 = tree ∧
        ((runIn tree environment terminal ticket arguments).1.code = 0 ↔
          ∃ configuration catalog projects,
            Opens tree environment checking configuration catalog projects ∧
              Sound catalog projects) ∧
        ((runIn tree environment terminal ticket arguments).1.code = 0 →
          ∀ (terminal' : Bool) (ticket' : Ticket) (arguments' : List String)
            (resolving : Arguments.Invocation) (request : Request) (json : Bool),
            Arguments.parse arguments' = .ok resolving →
            resolving.configFile = checking.configFile → resolving.flags = checking.flags →
            resolving.task = .resolve request json →
              ∀ (palette : Palette) (block : Block), block.reason = .invalidConfiguration →
                (runIn (runIn tree environment terminal ticket arguments).2 environment terminal'
                  ticket' arguments').1 ≠ reportOutcome palette json (.blocked block)) := by
  constructor
  · intro catalog projects project hproject command hcommand request hasked hwanted
    have hknown : catalog.command? request.commandId ≠ none := by
      have hfound : catalog.command? request.commandId = some command :=
        Index.get?_eq_some_iff.mpr ⟨hcommand, hwanted.symm⟩
      rw [hfound]
      exact Option.some_ne_none _
    exact (Service.reason?_eq_invalidConfiguration_iff hproject hasked hknown).symm
  · intro tree environment terminal ticket arguments checking hparse htask
    obtain ⟨hunchanged, hcode⟩ := runIn_check terminal ticket hparse htask
    refine ⟨hunchanged, hcode, ?_⟩
    intro hzero terminal' ticket' arguments' resolving request json hparse' hfile hflags htask'
      palette block hreason
    obtain ⟨configuration, catalog, projects, hopens, hsound⟩ := hcode.mp hzero
    have hopens' : Opens tree environment resolving configuration catalog projects := by
      refine ⟨?_, hopens.catalog, hopens.projects⟩
      rw [configure_congr hfile hflags]
      exact hopens.configured
    rw [hunchanged]
    exact runIn_ne_invalidConfiguration hparse' htask' hopens' hsound hreason

/-- A working directory with one project, whose command is yet to be named. -/
def workshopTree : FileTree :=
  FileTree.empty.put ["work", "p.toml"]
    (.file "projects=[[\"w\",\"\",\"rust-service\",\"starter\"]]".toUTF8)

def workshopEnvironment : Environment :=
  [("COVENANT_PROJECTS", "p.toml")]

def workshopTicket : Ticket :=
  ⟨⟨20000, 86399, 1500000000⟩, ⟨1⟩, ⟨2⟩⟩

def brokenProject : Project :=
  Project.new "w" "nowhere" "starter"

def brokenProjects : Registry :=
  (Registry.empty.insert brokenProject).2

theorem check_agrees_workshop :
    (∃ catalog : Catalog, Catalog.ofDocument Catalog.builtinDocument = .ok catalog ∧
      brokenProjects.toList = [brokenProject] ∧
      (Service.resolve ⟨catalog, brokenProjects⟩ (Request.new "w" "review-changes")).reason? =
        some .invalidConfiguration) ∧
    ∃ checking resolving, Arguments.parse ["check"] = .ok checking ∧ checking.task = .check ∧
      Arguments.parse ["resolve", "--project", "w", "--command", "c", "--json"] = .ok resolving ∧
      resolving.configFile = checking.configFile ∧ resolving.flags = checking.flags ∧
      resolving.task = .resolve (Request.new "w" "c") true ∧
      (runIn workshopTree workshopEnvironment true workshopTicket ["check"]).1.code = 0 ∧
      ∀ (palette : Palette) (block : Block), block.reason = .invalidConfiguration →
        (runIn (runIn workshopTree workshopEnvironment true workshopTicket ["check"]).2
          workshopEnvironment false workshopTicket
          ["resolve", "--project", "w", "--command", "c", "--json"]).1 ≠
            reportOutcome palette true (.blocked block) := by
  constructor
  · obtain ⟨catalog, hcatalog, command, hfound, hissue⟩ :
        ∃ catalog, Catalog.ofDocument Catalog.builtinDocument = .ok catalog ∧
          ∃ command, catalog.command? "review-changes" = some command ∧
            Issue.mk "w" .error "unknown stack preset nowhere" ∈
              Issue.ofProjects catalog [brokenProject] :=
      ⟨_, rfl, _, rfl, List.mem_cons_self⟩
    obtain ⟨hcommand, hid⟩ := Index.get?_eq_some_iff.mp hfound
    refine ⟨catalog, hcatalog, rfl, ?_⟩
    exact (check_agrees.1 catalog brokenProjects brokenProject List.mem_cons_self command hcommand
      (Request.new "w" "review-changes") rfl hid.symm).mp ⟨_, hissue, rfl, rfl⟩
  · have hcode :
        (runIn workshopTree workshopEnvironment true workshopTicket ["check"]).1.code = 0 := by
      decide +kernel
    obtain ⟨-, -, hafter⟩ := check_agrees.2 workshopTree workshopEnvironment true workshopTicket
      ["check"] ⟨none, none, none, none, false, .check⟩ rfl rfl
    exact ⟨_, _, rfl, rfl, rfl, rfl, rfl, rfl, hcode,
      hafter hcode false workshopTicket _ _ (Request.new "w" "c") true rfl rfl rfl rfl⟩

end Rulebook.Program
