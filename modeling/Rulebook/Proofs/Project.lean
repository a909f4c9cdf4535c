import Rulebook.Project
import Rulebook.Proofs.Document.Written
import Rulebook.Proofs.Index
import Rulebook.Proofs.Json.Reading

namespace Rulebook

open Document

namespace Toggles

theorem takes_toJson (toggles : Toggles) : Toggles.read.Takes toggles.toJson toggles := by
  have hmap : (Reader.map Reader.boolean).Takes toggles.toJson toggles.entries :=
    Reader.takes_map fun _ _ => rfl
  have hindex := hmap.map (Index.ofList : List (String × Bool) → Toggles)
  rwa [Index.ofList_entries] at hindex

theorem allNumbers_toJson (P : JsonNumber → Prop) (toggles : Toggles) :
    Json.AllNumbers P toggles.toJson := by
  rw [toJson, Json.AllNumbers, Json.allNumbersMembers_iff]
  intro member hmem
  obtain ⟨toggle, -, rfl⟩ := List.mem_map.mp hmem
  trivial

theorem depth_toJson (toggles : Toggles) : toggles.toJson.depth = 1 := by
  refine congrArg Nat.succ (Nat.le_zero.mp (Json.membersDepth_le_iff.mpr fun member hmem => ?_))
  obtain ⟨toggle, -, rfl⟩ := List.mem_map.mp hmem
  exact Nat.le_refl 0

end Toggles

namespace Project

theorem apart_fields : fields.Apart := by
  simp [fields, Fields.Apart, Fields.names, Field.answersTo, Field.required, Field.defaulted]

theorem exists_written (project : Project) (origin : Origin) :
    ∃ members, project.toJson = .object members ∧ Written origin fields
      (project.id, project.name, project.stackPresetId, project.activeRulesetId, project.toggles,
        ()) members := by
  refine ⟨_, rfl, ?_⟩
  simp only [List.append_assoc]
  refine .required (Reader.takes_string project.id) ?_
  refine .defaulted (Reader.takes_string project.name) ?_
  refine .required (Reader.takes_string project.stackPresetId) ?_
  refine .required (Reader.takes_string project.activeRulesetId) ?_
  exact .defaulted project.toggles.takes_toJson .nil

theorem takes_toJson (project : Project) : Project.read.Takes project.toJson project := by
  intro origin
  obtain ⟨members, hjson, hwritten⟩ := project.exists_written origin
  rw [hjson, read, Fields.read_written apart_fields hwritten]
  rfl

theorem allNumbers_toJson (P : JsonNumber → Prop) (project : Project) :
    Json.AllNumbers P project.toJson := by
  simp [toJson, Json.textMember, Json.AllNumbers, Json.AllNumbersMembers,
    Toggles.allNumbers_toJson]

theorem depth_toJson (project : Project) : project.toJson.depth = 2 := by
  simp [toJson, Json.textMember, Json.depth, Json.membersDepth, Toggles.depth_toJson]

end Project

namespace Request

theorem apart_fields : fields.Apart := by
  simp [fields, Fields.Apart, Fields.names, Field.answersTo, Field.required, Field.defaulted]

theorem exists_written (request : Request) (origin : Origin) :
    ∃ members, request.toJson = .object members ∧ Written origin fields
      (request.projectId, request.commandId, request.userInput, request.pathHints,
        request.toolHints, ()) members := by
  refine ⟨_, rfl, ?_⟩
  simp only [List.append_assoc]
  refine .required (Reader.takes_string request.projectId) ?_
  refine .required (Reader.takes_string request.commandId) ?_
  refine .defaulted (Reader.takes_string request.userInput) ?_
  refine .texts request.pathHints ?_
  rw [← List.append_nil (Json.textsMember _ _)]
  exact .texts request.toolHints .nil

theorem takes_toJson (request : Request) : Request.read.Takes request.toJson request := by
  intro origin
  obtain ⟨members, hjson, hwritten⟩ := request.exists_written origin
  rw [hjson, read, Fields.read_written apart_fields hwritten]
  rfl

theorem text_or_texts {request : Request} {members : List (String × Json)}
    (hjson : request.toJson = .object members) {member : String × Json} (hmem : member ∈ members) :
    (∃ s, member.2 = .text s) ∨ ∃ items, member.2 = Json.texts items := by
  cases hjson
  simp only [Json.textMember, List.mem_append, List.mem_singleton] at hmem
  rcases hmem with (((h | h) | h) | h) | h
  · exact Or.inl ⟨_, by rw [h]⟩
  · exact Or.inl ⟨_, by rw [h]⟩
  · exact Or.inl ⟨_, by rw [h]⟩
  · exact Or.inr ⟨_, Json.mem_textsMember h⟩
  · exact Or.inr ⟨_, Json.mem_textsMember h⟩

theorem allNumbers_toJson (P : JsonNumber → Prop) (request : Request) :
    Json.AllNumbers P request.toJson := by
  obtain ⟨members, hjson, -⟩ := request.exists_written .json
  rw [hjson, Json.AllNumbers, Json.allNumbersMembers_iff]
  intro member hmem
  rcases text_or_texts hjson hmem with ⟨s, h⟩ | ⟨items, h⟩
  · rw [h]
    trivial
  · rw [h]
    exact Json.allNumbers_texts P items

theorem depth_toJson_le (request : Request) : request.toJson.depth ≤ 2 := by
  obtain ⟨members, hjson, -⟩ := request.exists_written .json
  rw [hjson]
  refine Nat.succ_le_succ (Json.membersDepth_le_iff.mpr fun member hmem => ?_)
  rcases text_or_texts hjson hmem with ⟨s, h⟩ | ⟨items, h⟩
  · rw [h]
    exact Nat.zero_le 1
  · rw [h]
    exact Nat.le_of_eq (Json.depth_texts items)

end Request

end Rulebook
