import Rulebook.Catalog.Definition
import Rulebook.Proofs.Contract

namespace Rulebook

open Document

theorem IntentSet.takes_toJson (set : IntentSet) : IntentSet.read.Takes set.toJson set := by
  have hlist : (Reader.list Intent.read).Takes set.toJson set.toList :=
    Reader.takes_list fun intent _ => intent.takes_name
  have hset := hlist.map IntentSet.ofList
  rwa [IntentSet.ofList_toList] at hset

namespace Rule

theorem apart_fields : fields.Apart := by
  simp [fields, Fields.Apart, Fields.names, Field.answersTo, Field.required, Field.defaulted]

theorem exists_written (rule : Rule) (origin : Origin) :
    ∃ members, rule.toJson = .object members ∧ Written origin fields
      (rule.id, rule.title, rule.description, rule.severity, rule.appliesTo, rule.directive,
        rule.conflictsWith, rule.contributes, ()) members := by
  have hcontributes : Written origin
      (.cons (.defaulted "contributesConstraints" ConstraintMap.read .empty) .nil)
      (rule.contributes, ()) (if rule.contributes.isEmpty then []
        else [("contributesConstraints", rule.contributes.toJson)]) := by
    split
    case isTrue hempty =>
      have hnone : rule.contributes = .empty := ConstraintMap.ext (List.isEmpty_iff.mp hempty)
      exact .leftOut (by rw [hnone]; rfl) .nil
    case isFalse => exact .defaulted rule.contributes.takes_toJson .nil
  refine ⟨_, rfl, ?_⟩
  simp only [List.append_assoc]
  refine .required (Reader.takes_string rule.id) ?_
  refine .required (Reader.takes_string rule.title) ?_
  refine .defaulted (Reader.takes_string rule.description) ?_
  refine .required rule.severity.takes_name ?_
  refine .member (rule.appliesTo.takes_toJson origin) ?_
  refine .required (Reader.takes_string rule.directive) ?_
  exact .texts rule.conflictsWith hcontributes

theorem takes_toJson (rule : Rule) : Rule.read.Takes rule.toJson rule := by
  intro origin
  obtain ⟨members, hjson, hwritten⟩ := rule.exists_written origin
  rw [hjson, read, Fields.read_written apart_fields hwritten]
  rfl

end Rule

namespace Ruleset

theorem apart_fields : fields.Apart := by
  simp [fields, Fields.Apart, Fields.names, Field.answersTo, Field.required, Field.defaulted]

theorem exists_written (ruleset : Ruleset) (origin : Origin) :
    ∃ members, ruleset.toJson = .object members ∧ Written origin fields
      (ruleset.id, ruleset.name, ruleset.description, ruleset.ruleIds, ruleset.optionalRuleIds, ())
      members := by
  refine ⟨_, rfl, ?_⟩
  simp only [List.append_assoc]
  refine .required (Reader.takes_string ruleset.id) ?_
  refine .required (Reader.takes_string ruleset.name) ?_
  refine .defaulted (Reader.takes_string ruleset.description) ?_
  refine .defaulted (Reader.takes_texts ruleset.ruleIds) ?_
  exact .defaulted (Reader.takes_texts ruleset.optionalRuleIds) .nil

theorem takes_toJson (ruleset : Ruleset) : Ruleset.read.Takes ruleset.toJson ruleset := by
  intro origin
  obtain ⟨members, hjson, hwritten⟩ := ruleset.exists_written origin
  rw [hjson, read, Fields.read_written apart_fields hwritten]
  rfl

end Ruleset

namespace StackPreset

theorem apart_fields : fields.Apart := by
  simp [fields, Fields.Apart, Fields.names, Field.answersTo, Field.required, Field.defaulted]

theorem exists_written (preset : StackPreset) (origin : Origin) :
    ∃ members, preset.toJson = .object members ∧ Written origin fields
      (preset.id, preset.name, preset.description, preset.defaultRulesetId, preset.constraints, ())
      members := by
  refine ⟨_, rfl, ?_⟩
  simp only [List.append_assoc]
  refine .required (Reader.takes_string preset.id) ?_
  refine .required (Reader.takes_string preset.name) ?_
  refine .defaulted (Reader.takes_string preset.description) ?_
  refine .required (Reader.takes_string preset.defaultRulesetId) ?_
  exact .defaulted preset.constraints.takes_toJson .nil

theorem takes_toJson (preset : StackPreset) : StackPreset.read.Takes preset.toJson preset := by
  intro origin
  obtain ⟨members, hjson, hwritten⟩ := preset.exists_written origin
  rw [hjson, read, Fields.read_written apart_fields hwritten]
  rfl

end StackPreset

namespace Command

theorem apart_fields : fields.Apart := by
  simp [fields, Fields.Apart, Fields.names, Field.answersTo, Field.required, Field.defaulted]

theorem exists_written (command : Command) (origin : Origin) :
    ∃ members, command.toJson = .object members ∧ Written origin fields
      (command.id, command.name, command.intent, command.template, ()) members := by
  refine ⟨_, rfl, ?_⟩
  simp only [List.append_assoc]
  refine .required (Reader.takes_string command.id) ?_
  refine .required (Reader.takes_string command.name) ?_
  refine .required command.intent.takes_name ?_
  exact .defaulted (Reader.takes_string command.template) .nil

theorem takes_toJson (command : Command) : Command.read.Takes command.toJson command := by
  intro origin
  obtain ⟨members, hjson, hwritten⟩ := command.exists_written origin
  rw [hjson, read, Fields.read_written apart_fields hwritten]
  rfl

end Command

namespace CatalogDocument

theorem apart_fields : fields.Apart := by
  simp [fields, Fields.Apart, Fields.names, Field.answersTo, Field.defaulted]

theorem exists_written (document : CatalogDocument) (origin : Origin) :
    ∃ members, document.toJson = .object members ∧ Written origin fields
      (document.rules, document.rulesets, document.stackPresets, document.commands, ())
      members := by
  refine ⟨_, rfl, ?_⟩
  refine .defaulted (Reader.takes_list fun rule _ => rule.takes_toJson) ?_
  refine .defaulted (Reader.takes_list fun ruleset _ => ruleset.takes_toJson) ?_
  refine .defaulted (Reader.takes_list fun preset _ => preset.takes_toJson) ?_
  exact .defaulted (Reader.takes_list fun command _ => command.takes_toJson) .nil

theorem takes_toJson (document : CatalogDocument) :
    CatalogDocument.read.Takes document.toJson document := by
  intro origin
  obtain ⟨members, hjson, hwritten⟩ := document.exists_written origin
  rw [hjson, read, Fields.read_written apart_fields hwritten]
  rfl

end CatalogDocument

end Rulebook
