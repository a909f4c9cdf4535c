import Mathlib.Data.List.Nodup
import Rulebook.Catalog.Basic
import Rulebook.Error
import Rulebook.Proofs.Index

namespace Rulebook

/-- A document without contradictions: in each list an id stands once, no rule conflicts with
itself, and whatever an entry refers to is there. -/
structure CatalogDocument.Consistent (document : CatalogDocument) : Prop where
  rules_distinct : (document.rules.map Rule.id).Nodup
  rulesets_distinct : (document.rulesets.map Ruleset.id).Nodup
  stackPresets_distinct : (document.stackPresets.map StackPreset.id).Nodup
  commands_distinct : (document.commands.map Command.id).Nodup
  conflicts_known : ∀ rule ∈ document.rules, ∀ other ∈ rule.conflictsWith,
    other ≠ rule.id ∧ other ∈ document.rules.map Rule.id
  references_known : ∀ ruleset ∈ document.rulesets, ∀ rule ∈ ruleset.referenced,
    rule ∈ document.rules.map Rule.id
  defaults_known : ∀ preset ∈ document.stackPresets,
    preset.defaultRulesetId ∈ document.rulesets.map Ruleset.id
  templates_known : ∀ command ∈ document.commands,
    (Template.named? command.template).isSome = true

namespace Catalog

/-- The catalog holds the entries of the document, and its graph is made from its rules. -/
structure Holds (catalog : Catalog) (document : CatalogDocument) : Prop where
  rules : ∀ rule, rule ∈ catalog.rules.entries ↔ rule ∈ document.rules
  rulesets : ∀ ruleset, ruleset ∈ catalog.rulesets.entries ↔ ruleset ∈ document.rulesets
  stackPresets : ∀ preset,
    preset ∈ catalog.stackPresets.entries ↔ preset ∈ document.stackPresets
  commands : ∀ command, command ∈ catalog.commands.entries ↔ command ∈ document.commands
  conflictGraph : catalog.conflictGraph = ConflictGraph.ofRules catalog.rules.entries

theorem index_eq_ok_iff {α : Type} {id : α → String} {kind : EntryKind} {entries : List α}
    {found : Index α id} :
    index kind entries = .ok found ↔ Index.ofDistinct entries = .ok found := by
  rw [index]
  cases (Index.ofDistinct entries : Except String (Index α id)) <;> simp [Except.mapError]

theorem contains_iff_mem_map {α : Type} {id : α → String} {found : Index α id}
    {entries : List α} (h : ∀ a, a ∈ found.entries ↔ a ∈ entries) (k : String) :
    found.contains k = true ↔ k ∈ entries.map id := by
  rw [Index.contains_iff, List.mem_map]
  simp only [h]

theorem ruleViolation?_eq_none_iff {rules : Index Rule Rule.id} {rule : Rule} :
    ruleViolation? rules rule = none ↔
      ∀ other ∈ rule.conflictsWith, other ≠ rule.id ∧ rules.contains other = true := by
  rw [ruleViolation?, List.findSome?_eq_none_iff]
  refine forall₂_congr fun other _ => ?_
  by_cases hself : other = rule.id
  · simp [hself]
  · by_cases hknown : rules.contains other = true
    · simp [hself, hknown]
    · simp [hself, hknown]

theorem rulesetViolation?_eq_none_iff {rules : Index Rule Rule.id} {ruleset : Ruleset} :
    rulesetViolation? rules ruleset = none ↔
      ∀ rule ∈ ruleset.referenced, rules.contains rule = true := by
  rw [rulesetViolation?, List.findSome?_eq_none_iff]
  refine forall₂_congr fun rule _ => ?_
  by_cases hknown : rules.contains rule = true
  · simp [hknown]
  · simp [hknown]

theorem presetViolation?_eq_none_iff {rulesets : Index Ruleset Ruleset.id}
    {preset : StackPreset} :
    presetViolation? rulesets preset = none ↔
      rulesets.contains preset.defaultRulesetId = true := by
  rw [presetViolation?]
  by_cases hknown : rulesets.contains preset.defaultRulesetId = true
  · simp [hknown]
  · simp [hknown]

theorem commandViolation?_eq_none_iff {command : Command} :
    commandViolation? command = none ↔ (Template.named? command.template).isSome = true := by
  rw [commandViolation?]
  by_cases hknown : (Template.named? command.template).isSome = true
  · simp [hknown]
  · simp [hknown]

theorem violation?_eq_none_iff {rules : Index Rule Rule.id} {rulesets : Index Ruleset Ruleset.id}
    {stackPresets : Index StackPreset StackPreset.id} {commands : Index Command Command.id} :
    violation? rules rulesets stackPresets commands = none ↔
      (∀ rule ∈ rules.entries, ruleViolation? rules rule = none) ∧
      (∀ ruleset ∈ rulesets.entries, rulesetViolation? rules ruleset = none) ∧
      (∀ preset ∈ stackPresets.entries, presetViolation? rulesets preset = none) ∧
      ∀ command ∈ commands.entries, commandViolation? command = none := by
  simp only [violation?, Option.orElse_eq_orElse, Option.orElse_eq_or, Option.or_eq_none_iff,
    List.findSome?_eq_none_iff]

theorem ofDocument_eq_ok_iff {document : CatalogDocument} {catalog : Catalog} :
    ofDocument document = .ok catalog ↔
      Index.ofDistinct document.rules = .ok catalog.rules ∧
      Index.ofDistinct document.rulesets = .ok catalog.rulesets ∧
      Index.ofDistinct document.stackPresets = .ok catalog.stackPresets ∧
      Index.ofDistinct document.commands = .ok catalog.commands ∧
      violation? catalog.rules catalog.rulesets catalog.stackPresets catalog.commands = none ∧
      catalog.conflictGraph = ConflictGraph.ofRules catalog.rules.entries := by
  obtain ⟨rules, rulesets, stackPresets, commands, graph⟩ := catalog
  simp only [ofDocument, bind_eq_ok_iff, index_eq_ok_iff]
  constructor
  · rintro ⟨rules', hrules, rulesets', hrulesets, presets', hpresets, commands', hcommands, h⟩
    split at h
    · cases h
    · rename_i hnone
      cases h
      exact ⟨hrules, hrulesets, hpresets, hcommands, hnone, rfl⟩
  · rintro ⟨hrules, hrulesets, hpresets, hcommands, hnone, hgraph⟩
    refine ⟨rules, hrules, rulesets, hrulesets, stackPresets, hpresets, commands, hcommands, ?_⟩
    rw [hnone, hgraph]
    rfl

theorem holds_of_ofDocument {document : CatalogDocument} {catalog : Catalog}
    (h : ofDocument document = .ok catalog) : catalog.Holds document := by
  obtain ⟨hrules, hrulesets, hpresets, hcommands, -, hgraph⟩ := ofDocument_eq_ok_iff.mp h
  exact ⟨Index.mem_of_ofDistinct hrules, Index.mem_of_ofDistinct hrulesets,
    Index.mem_of_ofDistinct hpresets, Index.mem_of_ofDistinct hcommands, hgraph⟩

theorem consistent_of_ofDocument {document : CatalogDocument} {catalog : Catalog}
    (h : ofDocument document = .ok catalog) : document.Consistent := by
  have hholds := holds_of_ofDocument h
  obtain ⟨hrules, hrulesets, hpresets, hcommands, hnone, -⟩ := ofDocument_eq_ok_iff.mp h
  obtain ⟨hconflicts, hreferences, hdefaults, htemplates⟩ := violation?_eq_none_iff.mp hnone
  have hknown := contains_iff_mem_map hholds.rules
  refine ⟨Index.exists_ofDistinct_iff.mp ⟨_, hrules⟩, Index.exists_ofDistinct_iff.mp ⟨_, hrulesets⟩,
    Index.exists_ofDistinct_iff.mp ⟨_, hpresets⟩, Index.exists_ofDistinct_iff.mp ⟨_, hcommands⟩,
    ?_, ?_, ?_, ?_⟩
  · intro rule hrule other hother
    have hrule' := ruleViolation?_eq_none_iff.mp (hconflicts rule ((hholds.rules rule).mpr hrule))
    exact (hrule' other hother).imp_right (hknown other).mp
  · intro ruleset hruleset rule hrule
    have hruleset' := rulesetViolation?_eq_none_iff.mp
      (hreferences ruleset ((hholds.rulesets ruleset).mpr hruleset))
    exact (hknown rule).mp (hruleset' rule hrule)
  · intro preset hpreset
    have hpreset' := presetViolation?_eq_none_iff.mp
      (hdefaults preset ((hholds.stackPresets preset).mpr hpreset))
    exact (contains_iff_mem_map hholds.rulesets _).mp hpreset'
  · intro command hcommand
    exact commandViolation?_eq_none_iff.mp
      (htemplates command ((hholds.commands command).mpr hcommand))

theorem exists_ofDocument {document : CatalogDocument} (h : document.Consistent) :
    ∃ catalog, ofDocument document = .ok catalog := by
  obtain ⟨rules, hrules⟩ := Index.exists_ofDistinct_iff.mpr h.rules_distinct
  obtain ⟨rulesets, hrulesets⟩ := Index.exists_ofDistinct_iff.mpr h.rulesets_distinct
  obtain ⟨presets, hpresets⟩ := Index.exists_ofDistinct_iff.mpr h.stackPresets_distinct
  obtain ⟨commands, hcommands⟩ := Index.exists_ofDistinct_iff.mpr h.commands_distinct
  have hknown := contains_iff_mem_map (Index.mem_of_ofDistinct hrules)
  refine ⟨⟨rules, rulesets, presets, commands, ConflictGraph.ofRules rules.entries⟩,
    ofDocument_eq_ok_iff.mpr ⟨hrules, hrulesets, hpresets, hcommands, ?_, rfl⟩⟩
  refine violation?_eq_none_iff.mpr ⟨?_, ?_, ?_, ?_⟩
  · intro rule hrule
    refine ruleViolation?_eq_none_iff.mpr fun other hother => ?_
    have hrule' := (Index.mem_of_ofDistinct hrules rule).mp hrule
    exact (h.conflicts_known rule hrule' other hother).imp_right (hknown other).mpr
  · intro ruleset hruleset
    refine rulesetViolation?_eq_none_iff.mpr fun rule hrule => (hknown rule).mpr ?_
    exact h.references_known ruleset ((Index.mem_of_ofDistinct hrulesets ruleset).mp hruleset)
      rule hrule
  · intro preset hpreset
    refine presetViolation?_eq_none_iff.mpr
      ((contains_iff_mem_map (Index.mem_of_ofDistinct hrulesets) _).mpr ?_)
    exact h.defaults_known preset ((Index.mem_of_ofDistinct hpresets preset).mp hpreset)
  · intro command hcommand
    exact commandViolation?_eq_none_iff.mpr
      (h.templates_known command ((Index.mem_of_ofDistinct hcommands command).mp hcommand))

/-- A document becomes a catalog exactly when it is consistent. -/
theorem exists_ofDocument_iff {document : CatalogDocument} :
    (∃ catalog, ofDocument document = .ok catalog) ↔ document.Consistent := by
  constructor
  · rintro ⟨catalog, h⟩
    exact consistent_of_ofDocument h
  · exact exists_ofDocument

end Catalog

end Rulebook
