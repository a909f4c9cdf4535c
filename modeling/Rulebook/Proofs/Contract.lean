import Rulebook.Catalog.Definition
import Rulebook.Contract
import Rulebook.Proofs.Document.Written
import Rulebook.Proofs.Instant.Reading
import Rulebook.Proofs.OrderedMap
import Rulebook.Proofs.Uuid

namespace Rulebook

open Document

namespace Json

mutual

theorem settle_of_distinct : (j : Json) → j.Distinct → settle j = j
  | .null, _ | .boolean _, _ | .number _, _ | .text _, _ => by simp [settle]
  | .array items, h => by rw [settle, settleItems_of_distinct items h]
  | .object members, h => by
      rw [settle, settleMembers_of_distinct members h.2, OrderedMap.overlay_nil h.1]

theorem settleItems_of_distinct : (items : List Json) → DistinctItems items →
    settleItems items = items
  | [], _ => rfl
  | item :: items, h => by
      rw [settleItems, settle_of_distinct item h.1, settleItems_of_distinct items h.2]

theorem settleMembers_of_distinct : (members : List (String × Json)) → DistinctMembers members →
    settleMembers members = members
  | [], _ => rfl
  | (name, value) :: members, h => by
      rw [settleMembers, settle_of_distinct value h.1, settleMembers_of_distinct members h.2]

end

end Json

theorem Document.Reader.takes_json (j : Json) : Reader.json.Takes j j := by
  intro origin
  rw [Reader.json, Node.toJson?_ofJson]

namespace ConstraintMap

theorem ofMembers_entries (map : ConstraintMap) : ofMembers map.entries = map := by
  ext1
  show OrderedMap.overlay [] (Json.settleMembers map.entries) = map.entries
  rw [Json.settleMembers_of_distinct _ map.distinct.2, OrderedMap.overlay_nil map.distinct.1]

theorem takes_toJson (map : ConstraintMap) : ConstraintMap.read.Takes map.toJson map := by
  have hmap : (Reader.map Reader.json).Takes (.object (map.entries.map id)) map.entries :=
    Reader.takes_map Reader.takes_json
  have hsettled := hmap.map ofMembers
  rwa [List.map_id, map.ofMembers_entries] at hsettled

end ConstraintMap

open Document

theorem Intent.takes_name (intent : Intent) : Intent.read.Takes (.text intent.name) intent :=
  Reader.takes_choice (by cases intent <;> rfl)

theorem Severity.takes_name (severity : Severity) :
    Severity.read.Takes (.text severity.name) severity :=
  Reader.takes_choice (by cases severity <;> rfl)

namespace AppliedRule

theorem apart_fields : fields.Apart := by
  simp [fields, Fields.Apart, Fields.names, Field.answersTo, Field.required]

theorem takes_toJson (rule : AppliedRule) : AppliedRule.read.Takes rule.toJson rule := by
  intro origin
  have hwritten : Written origin fields (rule.id, rule.severity, ())
      (Json.textMember "id" rule.id ++ Json.textMember "severity" rule.severity.name) :=
    .required (Reader.takes_string rule.id) (.required rule.severity.takes_name .nil)
  rw [toJson, read, Fields.read_written apart_fields hwritten]
  rfl

end AppliedRule

namespace ContractMetadata

theorem apart_fields : fields.Apart := by
  simp [fields, Fields.Apart, Fields.names, Field.answersTo, Field.required]

theorem exists_written (metadata : ContractMetadata) (origin : Origin) :
    ∃ members, metadata.toJson = .object members ∧ Written origin fields
      (metadata.stackPresetId, metadata.appliedRules, metadata.constraints,
        metadata.stopConditions, ()) members := by
  refine ⟨_, rfl, ?_⟩
  refine .required (Reader.takes_string metadata.stackPresetId) ?_
  refine .required (Reader.takes_list fun rule _ => rule.takes_toJson) ?_
  refine .required metadata.constraints.takes_toJson ?_
  exact .required (Reader.takes_texts metadata.stopConditions) .nil

theorem takes_toJson (metadata : ContractMetadata) :
    ContractMetadata.read.Takes metadata.toJson metadata := by
  intro origin
  obtain ⟨members, hjson, hwritten⟩ := metadata.exists_written origin
  rw [hjson, read, Fields.read_written apart_fields hwritten]
  rfl

end ContractMetadata

namespace Contract

theorem apart_fields : fields.Apart := by
  simp [fields, Fields.Apart, Fields.names, Field.answersTo, Field.required, Field.optional]

/-- The contract was stamped, if at all, at a time that can be written. -/
def Timely (contract : Contract) : Prop :=
  ∀ instant ∈ contract.generatedAt, instant.WellFormed

theorem written_members {contract : Contract} (h : contract.Timely) (origin : Origin) :
    Written origin fields (contract.id, contract.generatedAt, contract.projectId,
      contract.commandId, contract.intent, contract.text, contract.metadata, ())
      contract.members := by
  simp only [members, List.append_assoc]
  refine .optional contract.id (fun id _ => ⟨id.takes_toJson, nofun⟩) ?_
  refine .optional contract.generatedAt
    (fun instant hinstant => ⟨Instant.takes_toJson (h instant hinstant), nofun⟩) ?_
  refine .required (Reader.takes_string contract.projectId) ?_
  refine .required (Reader.takes_string contract.commandId) ?_
  refine .required contract.intent.takes_name ?_
  refine .required (Reader.takes_string contract.text) ?_
  exact .required contract.metadata.takes_toJson .nil

theorem takes_toJson {contract : Contract} (h : contract.Timely) :
    Contract.read.Takes contract.toJson contract := by
  intro origin
  rw [toJson, read, Fields.read_written apart_fields (written_members h origin)]
  rfl

end Contract

end Rulebook
