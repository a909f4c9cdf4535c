import Mathlib.Data.List.Nodup
import Rulebook.Proofs.Resolution.Blocking
import Rulebook.Service

namespace Rulebook

open Resolution

theorem Index.get?_eq_none_iff {α : Type} {key : α → String} {index : Index α key} {k : String} :
    index.get? k = none ↔ k ∉ index.entries.map key := by
  rw [← Option.not_isSome_iff_eq_none, ← Index.contains, Index.contains_iff, List.mem_map]

theorem Index.get?_eq_none_iff_of_mem {α : Type} {key : α → String} {index : Index α key}
    {entries : List α} (hentries : ∀ a, a ∈ index.entries ↔ a ∈ entries) {k : String} :
    index.get? k = none ↔ k ∉ entries.map key := by
  rw [get?_eq_none_iff, List.mem_map, List.mem_map]
  simp only [hentries]

/-- The reason of a block; none for a contract. -/
def Resolution.reason? (resolution : Resolution) : Option BlockReason :=
  resolution.block?.map Block.reason

namespace Resolution

theorem reason?_eq_none_iff_contract {resolution : Resolution} :
    resolution.reason? = none ↔ ∃ contract, resolution = .contract contract := by
  cases resolution <;> simp [reason?, block?]

@[simp] theorem reason?_contract (contract : Contract) :
    (Resolution.contract contract).reason? = none := rfl

@[simp] theorem reason?_missingProject (id : String) :
    (Resolution.blocked (.missingProject id)).reason? = some .missingProject := rfl

@[simp] theorem reason?_unknownCommand (id : String) :
    (Resolution.blocked (.unknownCommand id)).reason? = some .unknownCommand := rfl

@[simp] theorem reason?_invalidConfiguration (message : String) :
    (Resolution.blocked (.invalidConfiguration message)).reason? = some .invalidConfiguration :=
  rfl

@[simp] theorem reason?_resolveIn (request : Request) (context : Context) :
    (resolveIn request context).reason? =
      if (scan context.catalog.conflictGraph context.activeRules).conflicts = [] then none
      else some .conflictingRules := by
  simp only [reason?, block?_resolveIn]
  split <;> rfl

/-- The context consists of what a request refers to, directly or through its project. -/
structure Context.Concerns (context : Context) (document : CatalogDocument) (catalog : Catalog)
    (registry : Registry) (request : Request) : Prop where
  project : context.project ∈ registry.toList ∧ context.project.id = request.projectId
  command : context.command ∈ document.commands ∧ context.command.id = request.commandId
  stackPreset : context.stackPreset ∈ document.stackPresets ∧
    context.stackPreset.id = context.project.stackPresetId
  ruleset : context.ruleset ∈ document.rulesets ∧
    context.ruleset.id = context.project.activeRulesetId
  catalog : context.catalog = catalog

theorem Context.load_eq_ok_iff_concerns {document : CatalogDocument} {catalog : Catalog}
    {registry : Registry} (hholds : catalog.Holds document) {request : Request}
    {context : Context} :
    Context.load catalog registry request = .ok context ↔
      context.Concerns document catalog registry request := by
  rw [Context.load_eq_ok_iff, Registry.project?_store, Registry.project?, Catalog.command?,
    Catalog.stackPreset?, Catalog.ruleset?, Index.get?_eq_some_iff, Index.get?_eq_some_iff,
    Index.get?_eq_some_iff, Index.get?_eq_some_iff, hholds.commands, hholds.stackPresets,
    hholds.rulesets]
  constructor
  · rintro ⟨hproject, hcommand, hpreset, hruleset, hcatalog⟩
    exact ⟨hproject, hcommand, hpreset, hruleset, hcatalog⟩
  · rintro ⟨hproject, hcommand, hpreset, hruleset, hcatalog⟩
    exact ⟨hproject, hcommand, hpreset, hruleset, hcatalog⟩

theorem conflicts_eq_nil_iff {document : CatalogDocument} {context : Context}
    (hholds : context.catalog.Holds document) (hconsistent : document.Consistent) :
    (scan context.catalog.conflictGraph context.activeRules).conflicts = [] ↔
      ¬ ∃ a b, Clash document context a b := by
  rw [List.eq_nil_iff_forall_not_mem]
  constructor
  · rintro hnone ⟨a, b, hclash⟩
    obtain ⟨a, b, hclash, hab⟩ := hclash.exists_lt hconsistent
    exact hnone _ ((mem_conflicts_iff hholds).mpr ⟨a, b, hclash, hab, rfl⟩)
  · intro hnone conflict hconflict
    obtain ⟨a, b, hclash, -⟩ := (mem_conflicts_iff hholds).mp hconflict
    exact hnone ⟨a, b, hclash⟩

end Resolution

namespace Service

/-- All the ways in which a request can end, each with what must have been found before it. -/
inductive Ending (service : Service) (request : Request) : Resolution → Prop where
  | missingProject (hproject : service.projects.project? request.projectId = none) :
      Ending service request (.blocked (.missingProject request.projectId))
  | unknownCommand {project : Project}
      (hproject : service.projects.project? request.projectId = some project)
      (hcommand : service.catalog.command? request.commandId = none) :
      Ending service request (.blocked (.unknownCommand request.commandId))
  | unknownPreset {project : Project} {command : Command}
      (hproject : service.projects.project? request.projectId = some project)
      (hcommand : service.catalog.command? request.commandId = some command)
      (hpreset : service.catalog.stackPreset? project.stackPresetId = none) :
      Ending service request <| .blocked <| .invalidConfiguration <|
        "Project " ++ project.id ++ " uses unknown stack preset: " ++ project.stackPresetId
  | unknownRuleset {project : Project} {command : Command} {preset : StackPreset}
      (hproject : service.projects.project? request.projectId = some project)
      (hcommand : service.catalog.command? request.commandId = some command)
      (hpreset : service.catalog.stackPreset? project.stackPresetId = some preset)
      (hruleset : service.catalog.ruleset? project.activeRulesetId = none) :
      Ending service request <| .blocked <| .invalidConfiguration <|
        "Project " ++ project.id ++ " uses unknown ruleset: " ++ project.activeRulesetId
  | found {context : Context}
      (hcontext : Context.load service.catalog service.projects request = .ok context) :
      Ending service request (resolveIn request context)

theorem ending_resolve (service : Service) (request : Request) :
    Ending service request (service.resolve request) := by
  obtain ⟨catalog, projects⟩ := service
  rw [resolve, Resolution.resolve]
  cases hload : Context.load catalog projects request with
  | ok context => exact .found hload
  | error block =>
      rw [Context.load] at hload
      cases hproject : projects.project? request.projectId with
      | none =>
          rw [hproject] at hload
          cases hload
          exact .missingProject hproject
      | some project =>
          cases hcommand : catalog.command? request.commandId with
          | none =>
              rw [hproject, hcommand] at hload
              cases hload
              exact .unknownCommand hproject hcommand
          | some command =>
              simp only [hproject, hcommand, Context.require, bind, Except.bind] at hload
              cases hpreset : catalog.stackPreset? project.stackPresetId with
              | none =>
                  simp only [hpreset] at hload
                  cases hload
                  exact .unknownPreset hproject hcommand hpreset
              | some preset =>
                  cases hruleset : catalog.ruleset? project.activeRulesetId with
                  | none =>
                      simp only [hpreset, hruleset] at hload
                      cases hload
                      exact .unknownRuleset hproject hcommand hpreset hruleset
                  | some ruleset =>
                      simp only [hpreset, hruleset] at hload
                      cases hload

namespace Ending

variable {service : Service} {request : Request} {resolution : Resolution}

theorem reason?_eq_missingProject_iff (h : Ending service request resolution) :
    resolution.reason? = some .missingProject ↔
      service.projects.project? request.projectId = none := by
  cases h <;> simp_all [Context.load_eq_ok_iff]

theorem reason?_eq_unknownCommand_iff (h : Ending service request resolution) :
    resolution.reason? = some .unknownCommand ↔
      service.projects.project? request.projectId ≠ none ∧
        service.catalog.command? request.commandId = none := by
  cases h <;> simp_all [Context.load_eq_ok_iff]

theorem reason?_eq_invalidConfiguration_iff (h : Ending service request resolution) :
    resolution.reason? = some .invalidConfiguration ↔
      ∃ project, service.projects.project? request.projectId = some project ∧
        service.catalog.command? request.commandId ≠ none ∧
        (service.catalog.stackPreset? project.stackPresetId = none ∨
          service.catalog.ruleset? project.activeRulesetId = none) := by
  cases h <;> simp_all [Context.load_eq_ok_iff]

theorem eq_resolveIn (h : Ending service request resolution) {context : Context}
    (hcontext : Context.load service.catalog service.projects request = .ok context) :
    resolution = resolveIn request context := by
  cases h with
  | found hcontext' => rw [Except.ok.inj (hcontext.symm.trans hcontext')]
  | _ => simp_all [Context.load_eq_ok_iff]

theorem reason?_eq_conflictingRules_iff (h : Ending service request resolution) :
    resolution.reason? = some .conflictingRules ↔
      ∃ context, Context.load service.catalog service.projects request = .ok context ∧
        (scan context.catalog.conflictGraph context.activeRules).conflicts ≠ [] := by
  constructor
  · intro hreason
    cases h <;> simp_all
  · rintro ⟨context, hcontext, hsome⟩
    rw [h.eq_resolveIn hcontext, reason?_resolveIn, if_neg hsome]

theorem reason?_eq_none_iff (h : Ending service request resolution) :
    resolution.reason? = none ↔
      ∃ context, Context.load service.catalog service.projects request = .ok context ∧
        (scan context.catalog.conflictGraph context.activeRules).conflicts = [] := by
  constructor
  · intro hreason
    cases h <;> simp_all
  · rintro ⟨context, hcontext, hnone⟩
    rw [h.eq_resolveIn hcontext, reason?_resolveIn, if_pos hnone]

theorem message_of_invalidConfiguration {block : Block} {project : Project}
    (h : Ending service request (.blocked block)) (hreason : block.reason = .invalidConfiguration)
    (hproject : service.projects.project? request.projectId = some project) :
    block.message = "Project " ++ project.id ++
      if service.catalog.stackPreset? project.stackPresetId = none then
        " uses unknown stack preset: " ++ project.stackPresetId
      else " uses unknown ruleset: " ++ project.activeRulesetId := by
  generalize hresolution : Resolution.blocked block = resolution at h
  have hreason? : resolution.reason? = some .invalidConfiguration := by
    rw [← hresolution, ← hreason]
    rfl
  cases h with
  | missingProject => simp at hreason?
  | unknownCommand => simp at hreason?
  | unknownPreset hproject' _ hpreset =>
      obtain rfl := Option.some.inj (hproject.symm.trans hproject')
      cases hresolution
      rw [if_pos hpreset, ← String.append_assoc]
      rfl
  | unknownRuleset hproject' _ hpreset _ =>
      obtain rfl := Option.some.inj (hproject.symm.trans hproject')
      cases hresolution
      rw [if_neg (by rw [hpreset]; exact Option.some_ne_none _), ← String.append_assoc]
      rfl
  | found => simp at hreason?

theorem conflicts_isSome_iff {block : Block} (h : Ending service request (.blocked block)) :
    block.conflicts.isSome ↔ block.reason = .conflictingRules := by
  generalize hresolution : Resolution.blocked block = resolution at h
  cases h with
  | missingProject => cases hresolution; simp [Block.missingProject]
  | unknownCommand => cases hresolution; simp [Block.unknownCommand]
  | unknownPreset => cases hresolution; simp [Block.invalidConfiguration]
  | unknownRuleset => cases hresolution; simp [Block.invalidConfiguration]
  | found =>
      obtain ⟨conflicts, -, rfl⟩ := resolveIn_eq_blocked_iff.mp hresolution.symm
      simp [Block.conflictingRules]

end Ending

/-- The ending of a request for each way in which its references and the rules can turn out. The
projects are those of a registry. -/
structure Classified (service : Service) (registry : Registry) (document : CatalogDocument)
    (request : Request) : Prop where
  missing_project : (service.resolve request).reason? = some .missingProject ↔
    request.projectId ∉ registry.toList.map Project.id
  unknown_command : (service.resolve request).reason? = some .unknownCommand ↔
    request.projectId ∈ registry.toList.map Project.id ∧
      request.commandId ∉ document.commands.map Command.id
  invalid_configuration : (service.resolve request).reason? = some .invalidConfiguration ↔
    ∃ project ∈ registry.toList, project.id = request.projectId ∧
      request.commandId ∈ document.commands.map Command.id ∧
      (project.stackPresetId ∉ document.stackPresets.map StackPreset.id ∨
        project.activeRulesetId ∉ document.rulesets.map Ruleset.id)
  conflicting_rules : (service.resolve request).reason? = some .conflictingRules ↔
    ∃ context : Context, context.Concerns document service.catalog registry request ∧
      ∃ a b, Clash document context a b
  contract : (∃ contract, service.resolve request = .contract contract) ↔
    ∃ context : Context, context.Concerns document service.catalog registry request ∧
      ¬ ∃ a b, Clash document context a b
  unknown_named : ∀ block, service.resolve request = .blocked block →
    block.reason = .invalidConfiguration →
    ∀ project ∈ registry.toList, project.id = request.projectId →
      block.message = "Project " ++ project.id ++
        if project.stackPresetId ∉ document.stackPresets.map StackPreset.id then
          " uses unknown stack preset: " ++ project.stackPresetId
        else " uses unknown ruleset: " ++ project.activeRulesetId
  conflicts_listed : ∀ block, service.resolve request = .blocked block →
    (block.conflicts.isSome ↔ block.reason = .conflictingRules)
  default_ruleset : ∀ preset ∈ document.stackPresets, ∀ command ∈ document.commands,
    ∀ project ∈ registry.toList,
      project.stackPresetId = preset.id → project.activeRulesetId = preset.defaultRulesetId →
      request.projectId = project.id → request.commandId = command.id →
      (∃ contract, service.resolve request = .contract contract) ∨
        (service.resolve request).reason? = some .conflictingRules

/-- The ending of a request is told by its references and by the rules that they make active. -/
theorem resolve_classified {document : CatalogDocument} {service : Service} {registry : Registry}
    (hcatalog : Catalog.ofDocument document = .ok service.catalog)
    (hprojects : service.projects = registry) (request : Request) :
    service.Classified registry document request := by
  have hholds := Catalog.holds_of_ofDocument hcatalog
  have hconsistent := Catalog.consistent_of_ofDocument hcatalog
  have hending := service.ending_resolve request
  have hproject : service.projects.project? request.projectId = none ↔
      request.projectId ∉ registry.toList.map Project.id := by
    rw [hprojects]
    exact Index.get?_eq_none_iff
  have hcommand : service.catalog.command? request.commandId = none ↔
      request.commandId ∉ document.commands.map Command.id :=
    Index.get?_eq_none_iff_of_mem hholds.commands
  have hpreset (project : Project) : service.catalog.stackPreset? project.stackPresetId = none ↔
      project.stackPresetId ∉ document.stackPresets.map StackPreset.id :=
    Index.get?_eq_none_iff_of_mem hholds.stackPresets
  have hruleset (project : Project) : service.catalog.ruleset? project.activeRulesetId = none ↔
      project.activeRulesetId ∉ document.rulesets.map Ruleset.id :=
    Index.get?_eq_none_iff_of_mem hholds.rulesets
  have hasked (project : Project) :
      service.projects.project? request.projectId = some project ↔
        project ∈ registry.toList ∧ project.id = request.projectId := by
    rw [hprojects]
    exact Index.get?_eq_some_iff
  have hload (context : Context) :
      Context.load service.catalog service.projects request = .ok context ↔
        context.Concerns document service.catalog registry request := by
    rw [hprojects]
    exact Context.load_eq_ok_iff_concerns hholds
  have hclash (context : Context)
      (hcontext : context.Concerns document service.catalog registry request) :
      (scan context.catalog.conflictGraph context.activeRules).conflicts = [] ↔
        ¬ ∃ a b, Clash document context a b :=
    conflicts_eq_nil_iff (hcontext.catalog ▸ hholds) hconsistent
  constructor
  case missing_project => rw [hending.reason?_eq_missingProject_iff, hproject]
  case unknown_command =>
    rw [hending.reason?_eq_unknownCommand_iff, Ne, hproject, hcommand, not_not]
  case invalid_configuration =>
    simp only [hending.reason?_eq_invalidConfiguration_iff, Ne, hasked, hcommand, hpreset, hruleset,
      not_not, and_assoc]
  case conflicting_rules =>
    rw [hending.reason?_eq_conflictingRules_iff]
    simp only [hload]
    refine exists_congr fun context => and_congr_right fun hcontext => ?_
    rw [Ne, hclash context hcontext, not_not]
  case contract =>
    rw [← reason?_eq_none_iff_contract, hending.reason?_eq_none_iff]
    simp only [hload]
    exact exists_congr fun context => and_congr_right fun hcontext => hclash context hcontext
  case unknown_named =>
    intro block hblock hreason project hlisted hid
    rw [hblock] at hending
    have hproject := (hasked project).mpr ⟨hlisted, hid⟩
    rw [hending.message_of_invalidConfiguration hreason hproject]
    simp only [hpreset]
  case conflicts_listed =>
    intro block hblock
    rw [hblock] at hending
    exact hending.conflicts_isSome_iff
  case default_ruleset =>
    intro preset hpresetListed command hcommandListed project hlisted hpresetId hdefault hid
      hcommandId
    have hknown : preset.defaultRulesetId ∈ document.rulesets.map Ruleset.id :=
      hconsistent.defaults_known preset hpresetListed
    have hproject' : service.projects.project? request.projectId = some project :=
      (hasked project).mpr ⟨hlisted, hid.symm⟩
    -- any other reason is that of a reference which leads nowhere, and here all of them are known
    cases hreason : (service.resolve request).reason? with
    | none => exact Or.inl (reason?_eq_none_iff_contract.mp hreason)
    | some reason =>
        right
        cases reason with
        | conflictingRules => rfl
        | missingProject =>
            rw [hending.reason?_eq_missingProject_iff, hproject'] at hreason
            cases hreason
        | unknownCommand =>
            rw [hending.reason?_eq_unknownCommand_iff, hcommand, hcommandId] at hreason
            exact absurd (List.mem_map_of_mem hcommandListed) hreason.2
        | invalidConfiguration =>
            obtain ⟨project', hproject'', -, hunknown⟩ :=
              hending.reason?_eq_invalidConfiguration_iff.mp hreason
            obtain rfl := Option.some.inj (hproject'.symm.trans hproject'')
            rw [hpreset, hruleset, hpresetId, hdefault] at hunknown
            rcases hunknown with hunknown | hunknown
            · exact absurd (List.mem_map_of_mem hpresetListed) hunknown
            · exact absurd hknown hunknown

/-- A project in order, and one with nothing right about it. -/
def strayProjects : Registry :=
  (plainProjects.insert (Project.new "stray" "nowhere" "nothing")).2

theorem resolve_classified_stray :
    ∃ service : Service, service.projects = strayProjects ∧
      Catalog.ofDocument (clashingDocument []) = .ok service.catalog ∧
      (service.resolve (Request.new "nobody" "unmake")).reason? = some .missingProject ∧
      (service.resolve (Request.new "stray" "unmake")).reason? = some .unknownCommand ∧
      (service.resolve (Request.new "stray" "make")).reason? = some .invalidConfiguration ∧
      (service.resolve (Request.new "p" "make")).reason? = some .conflictingRules := by
  obtain ⟨catalog, hcatalog⟩ : ∃ catalog, Catalog.ofDocument (clashingDocument []) = .ok catalog :=
    ⟨_, rfl⟩
  let service : Service := ⟨catalog, strayProjects⟩
  have hclassified (request : Request) :
      service.Classified strayProjects (clashingDocument []) request :=
    resolve_classified hcatalog rfl request
  refine ⟨service, rfl, hcatalog, ?_, ?_, ?_, ?_⟩
  · have hproject : "nobody" ∉ strayProjects.toList.map Project.id := by decide
    exact (hclassified _).missing_project.mpr hproject
  · have hproject : "stray" ∈ strayProjects.toList.map Project.id := by decide
    have hcommand : "unmake" ∉ (clashingDocument []).commands.map Command.id := by decide
    exact (hclassified _).unknown_command.mpr ⟨hproject, hcommand⟩
  · refine (hclassified _).invalid_configuration.mpr ⟨Project.new "stray" "nowhere" "nothing", ?_⟩
    exact ⟨List.mem_cons_of_mem _ List.mem_cons_self, rfl, by decide, Or.inl (by decide)⟩
  · let context : Context :=
      ⟨Project.new "p" "stack" "base", Command.new "make" .generate, StackPreset.new "stack" "base",
        { Ruleset.new "base" with ruleIds := ["strict", "loose"] }, catalog⟩
    have hactive (rule : Rule) (hlisted : rule.id ∈ ["strict", "loose"])
        (happlies : rule.applies .generate = true) : context.Active rule :=
      ⟨Or.inl hlisted, (Option.some_ne_none _).symm, happlies⟩
    have herror := activeError_clashing [] (by decide) (hactive strictRule (by decide) rfl)
      (hactive looseRule (by decide) rfl)
    refine (hclassified _).conflicting_rules.mpr ⟨context, ?_, strictRule, looseRule, ?_⟩
    · exact ⟨⟨List.mem_cons_self, rfl⟩, ⟨List.mem_cons_self, rfl⟩, ⟨List.mem_cons_self, rfl⟩,
        ⟨List.mem_cons_self, rfl⟩, rfl⟩
    · refine ⟨(herror _).mpr (Or.inl rfl), (herror _).mpr (Or.inr rfl), ?_, Or.inl ?_⟩
      · exact fun h => absurd (congrArg Rule.id h) (by decide)
      · exact List.mem_cons_self

end Service

end Rulebook
