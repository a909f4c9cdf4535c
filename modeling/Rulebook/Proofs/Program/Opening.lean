import Rulebook.Program
import Rulebook.Proofs.Files.Reading
import Rulebook.Proofs.Registry

namespace Rulebook.Program

open FileTree

/-- A whole run on a tree of files, and the tree that it leaves behind. -/
def runIn (tree : FileTree) (environment : Environment) (terminal : Bool) (ticket : Ticket)
    (arguments : List String) : Report × FileTree :=
  (run environment terminal ticket arguments : StateM FileTree Report).run tree

/-- The environment of a run, with what the environment file on the tree adds to it. -/
def environmentIn (tree : FileTree) (environment : Environment) : Environment :=
  tree.answer (EnvironmentFile.load environment)

/-- The palette of a run. -/
def paletteIn (tree : FileTree) (environment : Environment) (terminal : Bool) : Palette :=
  Palette.ofEnvironment (environmentIn tree environment) terminal

/-- The configuration of a run is sound, and its catalog and its projects are there. -/
structure Opens (tree : FileTree) (environment : Environment)
    (invocation : Arguments.Invocation) (configuration : Configuration) (catalog : Catalog)
    (projects : Registry) : Prop where
  configured : tree.answer (configure (environmentIn tree environment) invocation) =
    .ok configuration
  catalog : tree.answer (openCatalog configuration) = .ok catalog
  projects : tree.answer (openProjects configuration) = .ok projects

theorem onlyLooks_configure (environment : Environment) (invocation : Arguments.Invocation) :
    OnlyLooks (configure environment invocation) := by
  refine (Configuration.onlyLooks_discover invocation.configFile).bind fun configuration => ?_
  cases configuration with
  | error error => exact .pure _
  | ok configuration =>
      simp only
      split <;> exact .pure _

theorem onlyLooks_openCatalog (configuration : Configuration) :
    OnlyLooks (openCatalog configuration) := by
  rw [openCatalog]
  split
  · exact Catalog.onlyLooks_load _
  · exact .pure _

theorem onlyLooks_openProjects (configuration : Configuration) :
    OnlyLooks (openProjects configuration) := by
  rw [openProjects]
  split
  · exact Registry.onlyLooks_load _
  · exact .pure _

section Run

variable {tree : FileTree} {environment : Environment} {terminal : Bool} {ticket : Ticket}
  {arguments : List String} {invocation : Arguments.Invocation} {configuration : Configuration}
  {catalog : Catalog} {projects : Registry}

theorem runIn_eq (hparse : Arguments.parse arguments = .ok invocation) :
    runIn tree environment terminal ticket arguments =
      match tree.answer (configure (environmentIn tree environment) invocation) with
      | .error error => (.failed (paletteIn tree environment terminal) [] error.chain, tree)
      | .ok configuration =>
          (match invocation.task with
          | .resolve request json =>
              runResolve (paletteIn tree environment terminal) configuration ticket request json
          | .catalog json => runCatalog (paletteIn tree environment terminal) configuration json
          | .check => runCheck (paletteIn tree environment terminal) configuration :
            StateM FileTree Report).run tree := by
  rw [runIn, run, (EnvironmentFile.onlyLooks_load environment).run_bind, hparse]
  simp only
  rw [runInvocation, (onlyLooks_configure _ invocation).run_bind, ← environmentIn]
  cases tree.answer (configure (environmentIn tree environment) invocation) <;> rfl

theorem Opens.unique {configuration' : Configuration} {catalog' : Catalog} {projects' : Registry}
    (h : Opens tree environment invocation configuration catalog projects)
    (h' : Opens tree environment invocation configuration' catalog' projects') :
    configuration = configuration' ∧ catalog = catalog' ∧ projects = projects' := by
  obtain rfl := Except.ok.inj (h.configured.symm.trans h'.configured)
  obtain rfl : catalog = catalog' := Except.ok.inj (h.catalog.symm.trans h'.catalog)
  obtain rfl : projects = projects' := Except.ok.inj (h.projects.symm.trans h'.projects)
  exact ⟨rfl, rfl, rfl⟩

/-- The file at a path lists these projects, in the format that its extension tells. -/
def ListsProjects (tree : FileTree) (path : String) (listed : List Project) : Prop :=
  ∃ format text, Document.Format.ofPath path = .ok format ∧ tree.answer (readText path) = .ok text ∧
    format.read Registry.readProjects text = .ok listed

theorem exists_listsProjects_of_load {path : String}
    (h : tree.answer (Registry.load path) = .ok projects) :
    ∃ listed, ListsProjects tree path listed ∧ Registry.ofProjects listed = .ok projects := by
  rw [Registry.load, answer, (onlyLooks_load _ _ path).run_bind] at h
  cases hlisted : tree.answer (Document.load "projects" Registry.readProjects path) with
  | error fault =>
      rw [hlisted] at h
      cases h
  | ok listed =>
      rw [hlisted] at h
      refine ⟨listed, exists_text_of_load hlisted, ?_⟩
      replace h : Result.ofExcept .config (Registry.ofProjects listed) = .ok projects := h
      cases hmade : Registry.ofProjects listed with
      | error fault =>
          rw [hmade] at h
          cases h
      | ok registry =>
          rw [hmade] at h
          cases h
          rfl

/-- The registry that a run opens holds exactly the projects that the file lists, each under its own
id. -/
theorem Opens.exists_listsProjects
    (h : Opens tree environment invocation configuration catalog projects) :
    ∃ path listed, configuration.projects = some path ∧ ListsProjects tree path listed ∧
      (listed.map Project.id).Nodup ∧ (∀ project, project ∈ projects.toList ↔ project ∈ listed) ∧
      projects.Maps listed := by
  obtain ⟨-, -, hprojects⟩ := h
  rw [openProjects, Configuration.projectsPath] at hprojects
  cases hpath : configuration.projects with
  | none =>
      rw [hpath] at hprojects
      cases hprojects
  | some path =>
      rw [hpath] at hprojects
      obtain ⟨listed, hlisted, hmade⟩ := exists_listsProjects_of_load hprojects
      refine ⟨path, listed, rfl, hlisted, ?_, fun _ => Registry.mem_toList_of_ofProjects hmade, ?_⟩
      · exact Index.exists_ofDistinct_iff.mp ⟨_, Registry.ofProjects_eq_ok_iff.mp hmade⟩
      · rw [Registry.eq_ofList_of_ofProjects hmade]
        exact Registry.maps_ofList listed

end Run

end Rulebook.Program
