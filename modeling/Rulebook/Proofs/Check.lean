import Rulebook.Proofs.Resolution.Correspondence
import Rulebook.Proofs.Service.Classification
import Rulebook.Service

namespace Rulebook

open Resolution

namespace Issue

/-- The warning about a toggle of a project, if there is one. -/
def warning? (catalog : Catalog) (project : Project) (rule : String) : Option Issue :=
  (ofToggle? catalog (catalog.ruleset? project.activeRulesetId) rule).map
    (Issue.mk project.id .warning)

/-- The errors of a project: one for each of its two references that leads nowhere. -/
def errors (catalog : Catalog) (project : Project) : List Issue :=
  (if (catalog.stackPreset? project.stackPresetId).isSome then []
    else [⟨project.id, .error, "unknown stack preset " ++ project.stackPresetId⟩]) ++
  if (catalog.ruleset? project.activeRulesetId).isSome then []
    else [⟨project.id, .error, "unknown ruleset " ++ project.activeRulesetId⟩]

def warnings (catalog : Catalog) (project : Project) : List Issue :=
  (project.toggles.entries.map Prod.fst).filterMap (warning? catalog project)

variable {catalog : Catalog} {project : Project} {issue : Issue}

theorem ofProject_eq (catalog : Catalog) (project : Project) :
    ofProject catalog project = errors catalog project ++ warnings catalog project := by
  rw [warnings, List.filterMap_map]
  rfl

theorem of_mem_errors (h : issue ∈ errors catalog project) :
    issue.projectId = project.id ∧ issue.level = .error := by
  rcases List.mem_append.mp h with h | h
  · split at h
    · cases h
    · rw [List.mem_singleton.mp h]
      exact ⟨rfl, rfl⟩
  · split at h
    · cases h
    · rw [List.mem_singleton.mp h]
      exact ⟨rfl, rfl⟩

theorem of_mem_warnings (h : issue ∈ warnings catalog project) :
    issue.projectId = project.id ∧ issue.level = .warning := by
  obtain ⟨rule, -, hrule⟩ := List.mem_filterMap.mp h
  obtain ⟨message, -, rfl⟩ := Option.map_eq_some_iff.mp hrule
  exact ⟨rfl, rfl⟩

theorem errors_ne_nil_iff : errors catalog project ≠ [] ↔
    catalog.stackPreset? project.stackPresetId = none ∨
      catalog.ruleset? project.activeRulesetId = none := by
  rw [errors]
  cases catalog.stackPreset? project.stackPresetId <;>
    cases catalog.ruleset? project.activeRulesetId <;> simp

theorem projectId_of_mem (h : issue ∈ ofProject catalog project) :
    issue.projectId = project.id := by
  rw [ofProject_eq] at h
  rcases List.mem_append.mp h with h | h
  · exact (of_mem_errors h).1
  · exact (of_mem_warnings h).1

theorem filter_ofProjects {projects : Registry} (hproject : project ∈ projects.toList) :
    (ofProjects catalog projects.toList).filter (·.projectId == project.id) =
      ofProject catalog project := by
  have hself : (ofProject catalog project).filter (·.projectId == project.id) =
      ofProject catalog project := by
    rw [List.filter_eq_self]
    intro issue hissue
    rw [projectId_of_mem hissue, beq_self_eq_true]
  have hother {others : List Project} (hne : ∀ other ∈ others, other.id ≠ project.id) :
      (ofProjects catalog others).filter (·.projectId == project.id) = [] := by
    rw [List.filter_eq_nil_iff]
    intro issue hissue
    obtain ⟨other, hlisted, hmem⟩ := List.mem_flatMap.mp hissue
    rw [projectId_of_mem hmem, beq_iff_eq]
    exact hne other hlisted
  have hdistinct := Index.nodup_of_ascending projects.projects.ascending
  obtain ⟨before, after, hsplit⟩ := List.append_of_mem hproject
  rw [Registry.toList] at hsplit
  rw [hsplit, List.map_append, List.map_cons, List.nodup_middle, List.nodup_cons,
    ← List.map_append] at hdistinct
  have hne : ∀ other ∈ before ++ after, other.id ≠ project.id := by
    intro other hmem heq
    exact hdistinct.1 (heq ▸ List.mem_map_of_mem hmem)
  have hbefore := hother fun other hmem => hne other (List.mem_append_left _ hmem)
  have hafter := hother fun other hmem => hne other (List.mem_append_right _ hmem)
  rw [ofProjects] at hbefore hafter
  rw [Registry.toList, hsplit, ofProjects, List.flatMap_append, List.flatMap_cons,
    List.filter_append, List.filter_append, hbefore, hself, hafter, List.nil_append,
    List.append_nil]

theorem exists_error_iff {projects : Registry} (hproject : project ∈ projects.toList) :
    (∃ issue ∈ ofProjects catalog projects.toList,
      issue.projectId = project.id ∧ issue.level = .error) ↔
      catalog.stackPreset? project.stackPresetId = none ∨
        catalog.ruleset? project.activeRulesetId = none := by
  have hmem (issue : Issue) : issue ∈ ofProjects catalog projects.toList ∧
      issue.projectId = project.id ↔ issue ∈ ofProject catalog project := by
    rw [← filter_ofProjects hproject, List.mem_filter, beq_iff_eq]
  rw [← errors_ne_nil_iff]
  constructor
  · rintro ⟨issue, hissue, hid, hlevel⟩ hnone
    have hreported := (hmem issue).mp ⟨hissue, hid⟩
    rw [ofProject_eq, hnone, List.nil_append] at hreported
    rw [(of_mem_warnings hreported).2] at hlevel
    cases hlevel
  · intro hsome
    obtain ⟨issue, hissue⟩ := List.exists_mem_of_ne_nil _ hsome
    obtain ⟨hreported, hid⟩ := (hmem issue).mpr (by
      rw [ofProject_eq]
      exact List.mem_append_left _ hissue)
    exact ⟨issue, hreported, hid, (of_mem_errors hissue).2⟩

theorem filter_warning {projects : Registry} (hproject : project ∈ projects.toList) :
    (ofProjects catalog projects.toList).filter
        (fun issue => issue.level == .warning && issue.projectId == project.id) =
      warnings catalog project := by
  have hnone : (errors catalog project).filter (·.level == .warning) = [] := by
    rw [List.filter_eq_nil_iff]
    intro issue hissue
    rw [(of_mem_errors hissue).2]
    exact nofun
  have hall : (warnings catalog project).filter (·.level == .warning) =
      warnings catalog project := by
    rw [List.filter_eq_self]
    intro issue hissue
    rw [(of_mem_warnings hissue).2]
    rfl
  rw [← List.filter_filter, filter_ofProjects hproject, ofProject_eq, List.filter_append, hnone,
    hall, List.nil_append]

end Issue

/-- The check and the resolution agree about a project: it has an error if and only if a request
for it with a known command is blocked for its configuration. -/
theorem Service.reason?_eq_invalidConfiguration_iff {catalog : Catalog} {projects : Registry}
    {project : Project} (hproject : project ∈ projects.toList) {request : Request}
    (hasked : request.projectId = project.id)
    (hcommand : catalog.command? request.commandId ≠ none) :
    (Service.resolve ⟨catalog, projects⟩ request).reason? = some .invalidConfiguration ↔
      ∃ issue ∈ Issue.ofProjects catalog projects.toList,
        issue.projectId = project.id ∧ issue.level = .error := by
  have hfound : projects.project? request.projectId = some project :=
    Index.get?_eq_some_iff.mpr ⟨hproject, hasked.symm⟩
  rw [Issue.exists_error_iff hproject,
    (Service.ending_resolve ⟨catalog, projects⟩ request).reason?_eq_invalidConfiguration_iff]
  simp only [Registry.project?_store, hfound]
  constructor
  · rintro ⟨project', heq, -, hnone⟩
    cases heq
    exact hnone
  · intro hnone
    exact ⟨project, rfl, hcommand, hnone⟩

/-- The ids of the toggles that a check warns about. -/
def Project.warned (catalog : Catalog) (project : Project) : List String :=
  (project.toggles.entries.map Prod.fst).filter fun rule =>
    (Issue.warning? catalog project rule).isSome

/-- The toggles without those of some ids. -/
def Toggles.without (toggles : Toggles) (gone : List String) : Toggles where
  entries := toggles.entries.filter fun toggle => !gone.contains toggle.1
  ascending := toggles.ascending.filter _

/-- The project without the toggles that a check warns about. -/
def Project.cleared (catalog : Catalog) (project : Project) : Project :=
  { project with toggles := project.toggles.without (project.warned catalog) }

theorem forall₂_filterMap {α β : Type} (f : α → Option β) (as : List α) :
    List.Forall₂ (fun a b => f a = some b) (as.filter fun a => (f a).isSome) (as.filterMap f) := by
  induction as with
  | nil => exact .nil
  | cons a as ih =>
      cases hfa : f a with
      | none => simpa [hfa] using ih
      | some b => simpa [hfa] using ih

theorem Toggles.state?_without {toggles : Toggles} {gone : List String} {rule : String}
    (hrule : rule ∉ gone) : (toggles.without gone).state? rule = toggles.state? rule := by
  have hkept : (fun toggle : String × Bool =>
      decide ((!gone.contains toggle.1) = true ∧ (toggle.1 == rule) = true)) =
      fun toggle => toggle.1 == rule := by
    funext toggle
    by_cases heq : toggle.1 = rule
    · simp [heq, hrule]
    · simp [heq]
  rw [state?, state?, Index.get?, Index.get?, without, List.find?_filter, hkept]

section Cleared

variable {catalog : Catalog} {project : Project} {ruleset : Ruleset}

theorem Issue.warning?_eq_none_iff {rule : String}
    (hruleset : catalog.ruleset? project.activeRulesetId = some ruleset) :
    Issue.warning? catalog project rule = none ↔
      (catalog.rule? rule).isSome = true ∧ rule ∈ ruleset.referenced := by
  rw [Issue.warning?, Option.map_eq_none_iff, hruleset]
  cases hknown : catalog.rule? rule <;> simp [Issue.ofToggle?, hknown]

theorem Project.mem_warned_iff {rule : String} :
    rule ∈ project.warned catalog ↔
      rule ∈ project.toggles.entries.map Prod.fst ∧ Issue.warning? catalog project rule ≠ none := by
  rw [warned, List.mem_filter, Option.isSome_iff_ne_none]

theorem Project.takesPart_cleared_iff {rule : Rule} {intent : Intent}
    (hruleset : catalog.ruleset? project.activeRulesetId = some ruleset)
    (hrule : rule ∈ catalog.rules.entries) :
    rule.TakesPart ruleset (project.cleared catalog).toggles intent ↔
      rule.TakesPart ruleset project.toggles intent := by
  by_cases hwarned : rule.id ∈ project.warned catalog
  case neg =>
    have hstate : (project.cleared catalog).toggles.state? rule.id =
        project.toggles.state? rule.id := Toggles.state?_without hwarned
    constructor
    · rintro ⟨hlisted, hoff, happlies⟩
      exact ⟨hstate ▸ hlisted, hstate ▸ hoff, happlies⟩
    · rintro ⟨hlisted, hoff, happlies⟩
      exact ⟨hstate.symm ▸ hlisted, hstate.symm ▸ hoff, happlies⟩
  case pos =>
    -- the catalog knows the rule, so the warning says that the ruleset does not list it
    have hknown : (catalog.rule? rule.id).isSome = true :=
      Index.contains_iff.mpr ⟨rule, hrule, rfl⟩
    have hunlisted : rule.id ∉ ruleset.ruleIds ++ ruleset.optionalRuleIds := by
      intro hlisted
      exact (mem_warned_iff.mp hwarned).2
        ((Issue.warning?_eq_none_iff hruleset).mpr ⟨hknown, hlisted⟩)
    rw [List.mem_append, not_or] at hunlisted
    have hidle (toggles : Toggles) : ¬ rule.TakesPart ruleset toggles intent := by
      rintro ⟨hlisted | ⟨hlisted, -⟩, -, -⟩
      · exact hunlisted.1 hlisted
      · exact hunlisted.2 hlisted
    exact iff_of_false (hidle _) (hidle _)

theorem Resolution.Context.mirrors_cleared {context : Context}
    (hruleset : context.catalog.ruleset? context.project.activeRulesetId = some context.ruleset) :
    context.Mirrors id { context with project := context.project.cleared context.catalog } := by
  constructor
  case activeRules =>
    rw [List.map_id, Context.activeRules_eq_filter, Context.activeRules_eq_filter]
    refine List.filter_congr fun rule hrule => ?_
    rw [Bool.eq_iff_iff, isActive_iff, isActive_iff]
    exact Project.takesPart_cleared_iff hruleset hrule
  case content => exact fun rule _ => ⟨rfl, rfl, rfl, rfl, rfl⟩
  case conflicts => exact fun _ _ _ _ => rfl
  case command => exact ⟨rfl, rfl, rfl⟩
  case stackPreset => exact ⟨rfl, rfl, rfl, rfl⟩

end Cleared

theorem resolve_insert_cleared {catalog : Catalog} {projects : Registry} {project : Project}
    (hproject : project ∈ projects.toList) (request : Request) :
    resolve catalog (projects.insert (project.cleared catalog)).2 request =
      resolve catalog projects request := by
  have hinserted : (projects.insert (project.cleared catalog)).2.project? request.projectId =
      if project.id = request.projectId then some (project.cleared catalog)
      else projects.project? request.projectId := Index.get?_insert
  by_cases hasked : project.id = request.projectId
  case neg =>
    rw [if_neg hasked] at hinserted
    rw [resolve, resolve, Context.load, Context.load, Registry.project?_store, hinserted]
    rfl
  case pos =>
    rw [if_pos hasked] at hinserted
    have hfound : projects.project? request.projectId = some project :=
      Index.get?_eq_some_iff.mpr ⟨hproject, hasked⟩
    have hload : Context.load catalog (projects.insert (project.cleared catalog)).2 request =
        (Context.load catalog projects request).map
          fun context => { context with project := project.cleared catalog } := by
      rw [Context.load, Context.load, Registry.project?_store, Registry.project?_store, hinserted,
        hfound]
      cases hcommand : catalog.command? request.commandId <;>
        cases hpreset : catalog.stackPreset? project.stackPresetId <;>
        cases hruleset : catalog.ruleset? project.activeRulesetId <;>
        simp [Context.require, Project.cleared, hpreset, hruleset, bind, Except.bind, Except.map,
          pure, Except.pure]
    rw [resolve, resolve, hload]
    cases hcontext : Context.load catalog projects request with
    | error block => rfl
    | ok context =>
        obtain ⟨hcontextProject, -, -, hruleset, rfl⟩ := Context.load_eq_ok_iff.mp hcontext
        obtain rfl := Option.some.inj (hfound.symm.trans hcontextProject)
        exact (Context.mirrors_cleared hruleset).resolveIn_eq rfl rfl

/-- The toggles that a check warns about, one warning for each, have no effect: without them every
request ends as it does with them. Where the ruleset is known, the other toggles are for rules of
the catalog that it lists. -/
theorem warned_idle {catalog : Catalog} {projects : Registry} {project : Project}
    (hproject : project ∈ projects.toList) :
    List.Forall₂ (fun rule issue => Issue.warning? catalog project rule = some issue)
      (project.warned catalog)
      ((Issue.ofProjects catalog projects.toList).filter fun issue =>
        issue.level == .warning && issue.projectId == project.id) ∧
    (∀ request : Request,
      Service.resolve ⟨catalog, (projects.insert (project.cleared catalog)).2⟩ request =
        Service.resolve ⟨catalog, projects⟩ request) ∧
    ∀ ruleset, catalog.ruleset? project.activeRulesetId = some ruleset →
      ∀ toggle ∈ project.toggles.entries, toggle.1 ∉ project.warned catalog →
        (catalog.rule? toggle.1).isSome = true ∧
          (toggle.1 ∈ ruleset.ruleIds ∨ toggle.1 ∈ ruleset.optionalRuleIds) := by
  refine ⟨?_, fun request => resolve_insert_cleared hproject request, ?_⟩
  · rw [Issue.filter_warning hproject]
    exact forall₂_filterMap _ _
  · intro ruleset hruleset toggle htoggle hunwarned
    have hnone : Issue.warning? catalog project toggle.1 = none := by
      by_contra hsome
      exact hunwarned (Project.mem_warned_iff.mpr ⟨List.mem_map_of_mem htoggle, hsome⟩)
    obtain ⟨hknown, hlisted⟩ := (Issue.warning?_eq_none_iff hruleset).mp hnone
    exact ⟨hknown, List.mem_append.mp hlisted⟩

/-- A shop that turns on a rule of another ruleset and one that does not exist, and turns off one
that would take part. -/
def hopefulShop : Project :=
  (((Project.new "shop" "nextjs-app-router" "standard").toggle "strict-types" true).toggle
    "strict-typos" true).toggle "no-new-dependencies" false

def hopefulProjects : Registry :=
  (Registry.empty.insert hopefulShop).2

theorem warned_idle_shop :
    ∃ catalog : Catalog, Catalog.ofDocument Catalog.builtinDocument = .ok catalog ∧
      hopefulShop ∈ hopefulProjects.toList ∧
      hopefulShop.warned catalog = ["strict-types", "strict-typos"] ∧
      ∀ request : Request,
        Service.resolve ⟨catalog, (hopefulProjects.insert (hopefulShop.cleared catalog)).2⟩
          request = Service.resolve ⟨catalog, hopefulProjects⟩ request := by
  obtain ⟨catalog, hcatalog, hwarned⟩ :
      ∃ catalog, Catalog.ofDocument Catalog.builtinDocument = .ok catalog ∧
        hopefulShop.warned catalog = ["strict-types", "strict-typos"] := ⟨_, rfl, rfl⟩
  have hproject : hopefulShop ∈ hopefulProjects.toList := List.mem_cons_self
  exact ⟨catalog, hcatalog, hproject, hwarned, (warned_idle hproject).2.1⟩

end Rulebook
