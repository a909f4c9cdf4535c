import Mathlib.Data.List.Nodup
import Rulebook.Proofs.Catalog.Validation
import Rulebook.Resolution

namespace Rulebook

open Resolution

/-- The rule takes part: the ruleset lists it, as an optional rule only when it is turned on; it is
not turned off; and it is for the intent. -/
structure Rule.TakesPart (rule : Rule) (ruleset : Ruleset) (toggles : Toggles) (intent : Intent) :
    Prop where
  listed : rule.id ∈ ruleset.ruleIds ∨
    rule.id ∈ ruleset.optionalRuleIds ∧ toggles.state? rule.id = some true
  not_off : toggles.state? rule.id ≠ some false
  applies : rule.applies intent = true

namespace Resolution

theorem isActive_iff {ruleset : Ruleset} {toggles : Toggles} {intent : Intent} {rule : Rule} :
    isActive (candidates ruleset toggles) toggles intent rule = true ↔
      rule.TakesPart ruleset toggles intent := by
  have hlisted : (candidates ruleset toggles).contains rule.id = true ↔
      rule.id ∈ ruleset.ruleIds ∨
        rule.id ∈ ruleset.optionalRuleIds ∧ toggles.state? rule.id = some true := by
    rw [candidates, Index.contains_ofList_iff]
    simp
  rw [isActive, Bool.and_eq_true, Bool.and_eq_true, hlisted, bne_iff_ne]
  constructor
  · rintro ⟨⟨hlisted, hoff⟩, happlies⟩
    exact ⟨hlisted, hoff, happlies⟩
  · rintro ⟨hlisted, hoff, happlies⟩
    exact ⟨⟨hlisted, hoff⟩, happlies⟩

namespace Context

/-- The rule is active in the context. -/
def Active (context : Context) (rule : Rule) : Prop :=
  rule.TakesPart context.ruleset context.project.toggles context.command.intent

theorem require_eq_ok_iff {α : Type} {value? : Option α} {block : Block} {a : α} :
    require value? block = .ok a ↔ value? = some a := by
  cases value? <;> simp [require]

theorem load_eq_ok_iff {catalog : Catalog} {projects : ProjectStore} {request : Request}
    {context : Context} :
    load catalog projects request = .ok context ↔
      projects.project? request.projectId = some context.project ∧
      catalog.command? request.commandId = some context.command ∧
      catalog.stackPreset? context.project.stackPresetId = some context.stackPreset ∧
      catalog.ruleset? context.project.activeRulesetId = some context.ruleset ∧
      context.catalog = catalog := by
  obtain ⟨project, command, preset, ruleset, source⟩ := context
  simp only [load, bind_eq_ok_iff, require_eq_ok_iff]
  constructor
  · rintro ⟨_, hproject, _, hcommand, _, hpreset, _, hruleset, h⟩
    cases h
    exact ⟨hproject, hcommand, hpreset, hruleset, rfl⟩
  · rintro ⟨hproject, hcommand, hpreset, hruleset, rfl⟩
    exact ⟨project, hproject, command, hcommand, preset, hpreset, ruleset, hruleset, rfl⟩

/-- The rules of a catalog stand in order already, so that sorting the active ones changes
nothing. -/
theorem activeRules_eq_filter (context : Context) :
    context.activeRules = context.catalog.rules.entries.filter
      (isActive (candidates context.ruleset context.project.toggles) context.project.toggles
        context.command.intent) := by
  have hascending := context.catalog.rules.ascending
  refine List.mergeSort_of_pairwise ((hascending.imp ?_).filter _)
  intro a b hab
  rw [decide_eq_true_eq]
  exact String.not_lt.mp fun hba => String.lt_irrefl _ (String.lt_trans hab hba)

theorem activeRules_ascending (context : Context) :
    context.activeRules.Pairwise fun a b => a.id < b.id := by
  rw [activeRules_eq_filter]
  exact context.catalog.rules.ascending.filter _

theorem mem_activeRules_iff {context : Context} {document : CatalogDocument}
    (h : context.catalog.Holds document) {rule : Rule} :
    rule ∈ context.activeRules ↔ rule ∈ document.rules ∧ context.Active rule := by
  rw [activeRules_eq_filter, List.mem_filter, h.rules, isActive_iff, Active]

end Context

end Resolution

end Rulebook
