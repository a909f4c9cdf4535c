import Rulebook.Catalog.Definition
import Rulebook.Proofs.Document.Nesting
import Rulebook.Proofs.Outcome

namespace Rulebook

open Document

namespace Json

mutual

theorem depth_settle_le : (j : Json) → j.settle.depth ≤ j.depth
  | .null | .boolean _ | .number _ | .text _ => Nat.le_refl 0
  | .array items => Nat.succ_le_succ (depth_settleItems_le items)
  | .object members => by
      refine Nat.succ_le_succ (membersDepth_le_iff.mpr fun member hmem => ?_)
      rcases OrderedMap.mem_overlay hmem with hnone | ⟨entry, hentry, heq⟩
      · cases hnone
      · rw [heq]
        exact membersDepth_le_iff.mp (depth_settleMembers_le members) entry hentry

theorem depth_settleItems_le : (items : List Json) →
    itemsDepth (settleItems items) ≤ itemsDepth items
  | [] => Nat.le_refl 0
  | item :: items => by
      have hfirst := depth_settle_le item
      have hrest := depth_settleItems_le items
      rw [settleItems, itemsDepth, itemsDepth]
      omega

theorem depth_settleMembers_le : (members : List (String × Json)) →
    membersDepth (settleMembers members) ≤ membersDepth members
  | [] => Nat.le_refl 0
  | (_, value) :: members => by
      have hfirst := depth_settle_le value
      have hrest := depth_settleMembers_le members
      rw [settleMembers, membersDepth, membersDepth]
      omega

end

@[simp] theorem membersDepth_append (before after : List (String × Json)) :
    membersDepth (before ++ after) = max (membersDepth before) (membersDepth after) := by
  induction before with
  | nil => simp [membersDepth]
  | cons member before ih =>
      obtain ⟨name, value⟩ := member
      rw [List.cons_append, membersDepth, membersDepth, ih, Nat.max_assoc]

@[simp] theorem membersDepth_textMember (name value : String) :
    membersDepth (textMember name value) = 0 :=
  rfl

theorem membersDepth_textsMember_le (name : String) (items : List String) :
    membersDepth (textsMember name items) ≤ 1 := by
  rw [membersDepth_le_iff]
  intro member hmem
  rw [mem_textsMember hmem]
  exact Nat.le_of_eq (depth_texts items)

theorem membersDepth_textMembers (texts : List (String × String)) :
    membersDepth (textMembers texts) = 0 := by
  refine Nat.le_zero.mp (membersDepth_le_iff.mpr fun member hmem => ?_)
  obtain ⟨text, -, rfl⟩ := List.mem_map.mp hmem
  exact Nat.le_refl 0

end Json

theorem ConstraintMap.nests_read : Reader.Nests ConstraintMap.read ConstraintMap.toJson 1 := by
  have hmembers : ∀ (origin : Origin) (nodes : List (Node × Node)) (values : List (String × Json)),
      Reader.members Reader.json origin nodes = .ok values →
        Json.membersDepth values ≤ Node.membersDepth nodes := by
    intro origin nodes
    induction nodes with
    | nil =>
        intro values hread
        cases hread
        exact Nat.le_refl 0
    | cons node nodes ih =>
        intro values hread
        obtain ⟨name, node⟩ := node
        cases name with
        | text name =>
            rw [Reader.members] at hread
            obtain ⟨value, hvalue, hread⟩ := bind_eq_ok_iff.mp hread
            obtain ⟨rest, hrest, heq⟩ := bind_eq_ok_iff.mp hread
            cases heq
            rw [Reader.json] at hvalue
            split at hvalue
            case h_2 => cases hvalue
            case h_1 hjson =>
              cases hvalue
              have hfirst := Node.depth_toJson?_le node hjson
              have hothers := ih rest hrest
              rw [Json.membersDepth, Node.membersDepth]
              omega
        | _ => cases hread
  intro origin node map hread
  obtain ⟨values, hvalues, rfl⟩ := map_eq_ok_iff.mp hread
  have hsettled : (ofMembers values).toJson.depth ≤ Json.membersDepth values + 1 :=
    Json.depth_settle_le (.object values)
  cases node with
  | object nodes closed =>
      rw [Reader.map] at hvalues
      obtain ⟨values', hvalues, hclosed⟩ := bind_eq_ok_iff.mp hvalues
      have hdepth := hmembers origin nodes values' hvalues
      cases closed with
      | false => cases hclosed
      | true =>
          cases hclosed
          rw [Node.depth]
          omega
  | moment s =>
      have hdepth := hmembers origin _ values hvalues
      have hone : Node.membersDepth [(Node.text momentName, Node.text s)] = 0 := rfl
      omega
  | _ => cases hvalues

theorem Rule.nests_read : Reader.Nests Rule.read Rule.toJson 2 := by
  intro origin node rule hread
  rw [Rule.read] at hread
  obtain ⟨values, hvalues, heq⟩ := bind_eq_ok_iff.mp hread
  obtain ⟨id, title, description, severity, appliesTo, directive, conflictsWith, contributes, _⟩ :=
    values
  cases heq
  obtain ⟨-, -, -, -, -, -, -, hgives, -⟩ := Fields.give_of_read hvalues
  have hcontributes : contributes.toJson.depth ≤ max 1 (node.depth - 1) := by
    refine ConstraintMap.nests_read.of_gives ?_ hgives
    intro map habsent
    cases habsent
    exact Nat.le_refl 1
  have hintents : appliesTo.toJson.depth ≤ 1 := by
    refine Nat.succ_le_succ (Json.itemsDepth_le_iff.mpr fun item hitem => ?_)
    obtain ⟨intent, -, rfl⟩ := List.mem_map.mp hitem
    exact Nat.le_refl 0
  have hconflicts := Json.membersDepth_textsMember_le "conflictsWith" conflictsWith
  have hlast : Json.membersDepth (if contributes.isEmpty then []
      else [("contributesConstraints", contributes.toJson)]) ≤ contributes.toJson.depth := by
    split
    · exact Nat.zero_le _
    · exact Nat.max_le.mpr ⟨Nat.le_refl _, Nat.zero_le _⟩
  simp only [toJson, Json.depth, Json.membersDepth_append, Json.membersDepth_textMember,
    Json.membersDepth]
  omega

theorem Ruleset.depth_toJson (ruleset : Ruleset) : ruleset.toJson.depth = 2 := by
  simp [toJson, Json.depth, Json.membersDepth, Json.depth_texts]

theorem StackPreset.nests_read : Reader.Nests StackPreset.read StackPreset.toJson 2 := by
  intro origin node preset hread
  rw [StackPreset.read] at hread
  obtain ⟨values, hvalues, heq⟩ := bind_eq_ok_iff.mp hread
  obtain ⟨id, name, description, defaultRulesetId, constraints, _⟩ := values
  cases heq
  obtain ⟨-, -, -, -, hgives, -⟩ := Fields.give_of_read hvalues
  have hconstraints : constraints.toJson.depth ≤ max 1 (node.depth - 1) := by
    refine ConstraintMap.nests_read.of_gives ?_ hgives
    intro map habsent
    cases habsent
    exact Nat.le_refl 1
  simp only [toJson, Json.depth, Json.membersDepth_append, Json.membersDepth_textMember,
    Json.membersDepth]
  omega

theorem Command.depth_toJson (command : Command) : command.toJson.depth = 1 := by
  simp [toJson, Json.depth]

theorem CatalogDocument.nests_read :
    Reader.Nests CatalogDocument.read CatalogDocument.toJson 4 := by
  intro origin node document hread
  rw [CatalogDocument.read] at hread
  obtain ⟨values, hvalues, heq⟩ := bind_eq_ok_iff.mp hread
  obtain ⟨rules, rulesets, presets, commands, _⟩ := values
  cases heq
  obtain ⟨hrules, -, hpresets, -, -⟩ := Fields.give_of_read hvalues
  have habsent {α : Type} {toJson : α → Json} : ∀ entries : List α, some [] = some entries →
      (Json.array (entries.map toJson)).depth ≤ 3 := by
    intro entries hnone
    cases hnone
    exact Nat.le_add_left 1 2
  have hrules := Rule.nests_read.list.of_gives habsent hrules
  have hpresets := StackPreset.nests_read.list.of_gives habsent hpresets
  have hrulesets : (Json.array (rulesets.map Ruleset.toJson)).depth ≤ 3 := by
    refine Nat.succ_le_succ (Json.itemsDepth_le_iff.mpr fun item hitem => ?_)
    obtain ⟨ruleset, -, rfl⟩ := List.mem_map.mp hitem
    exact Nat.le_of_eq ruleset.depth_toJson
  have hcommands : (Json.array (commands.map Command.toJson)).depth ≤ 2 := by
    refine Nat.succ_le_succ (Json.itemsDepth_le_iff.mpr fun item hitem => ?_)
    obtain ⟨command, -, rfl⟩ := List.mem_map.mp hitem
    exact Nat.le_of_eq command.depth_toJson
  rw [toJson, Json.depth]
  simp only [Json.membersDepth]
  omega

theorem AppliedRule.depth_toJson (rule : AppliedRule) : rule.toJson.depth = 1 := by
  simp [toJson, Json.depth]

theorem ContractMetadata.nests_read :
    Reader.Nests ContractMetadata.read ContractMetadata.toJson 3 := by
  intro origin node metadata hread
  rw [ContractMetadata.read] at hread
  obtain ⟨values, hvalues, heq⟩ := bind_eq_ok_iff.mp hread
  obtain ⟨stackPresetId, appliedRules, constraints, stopConditions, _⟩ := values
  cases heq
  obtain ⟨-, -, hgives, -⟩ := Fields.give_of_read hvalues
  have hconstraints := ConstraintMap.nests_read.of_gives (fun _ habsent => by cases habsent) hgives
  have hrules : (Json.array (appliedRules.map AppliedRule.toJson)).depth ≤ 2 := by
    refine Nat.succ_le_succ (Json.itemsDepth_le_iff.mpr fun item hitem => ?_)
    obtain ⟨rule, -, rfl⟩ := List.mem_map.mp hitem
    exact Nat.le_of_eq rule.depth_toJson
  simp only [toJson, Json.depth, Json.membersDepth_append, Json.membersDepth_textMember,
    Json.membersDepth, Json.depth_texts] at hrules hconstraints ⊢
  omega

theorem Contract.depth_toJson (contract : Contract) :
    contract.toJson.depth = contract.metadata.toJson.depth + 1 := by
  obtain ⟨texts, hmembers, -⟩ := contract.exists_texts
  rw [toJson, Json.depth, hmembers, Json.membersDepth_append, Json.membersDepth_textMembers]
  simp [Json.membersDepth]

theorem Contract.nests_read : Reader.Nests Contract.read Contract.toJson 4 := by
  intro origin node contract hread
  rw [Contract.read] at hread
  obtain ⟨values, hvalues, heq⟩ := bind_eq_ok_iff.mp hread
  obtain ⟨id, generatedAt, projectId, commandId, intent, text, metadata, _⟩ := values
  cases heq
  obtain ⟨-, -, -, -, -, -, hgives, -⟩ := Fields.give_of_read hvalues
  have hmetadata := ContractMetadata.nests_read.of_gives (fun _ habsent => by cases habsent) hgives
  rw [depth_toJson]
  show metadata.toJson.depth + 1 ≤ _
  omega

theorem StampedContract.depth_toJson (stamped : StampedContract) :
    (Outcome.contract stamped).toJson.depth = stamped.contract.toJson.depth + 1 := by
  simp [Outcome.toJson, Status.member, members, Fingerprint.toJson, Json.depth, Json.membersDepth]

theorem Outcome.nests_read : Reader.Nests Outcome.read Outcome.toJson 5 := by
  refine Reader.Nests.tagged (fun status => ?_) _ _ _
  cases status with
  | ok =>
      refine Reader.Nests.map fun origin node stamped hread => ?_
      rw [StampedContract.read] at hread
      obtain ⟨values, hvalues, heq⟩ := bind_eq_ok_iff.mp hread
      obtain ⟨contract, fingerprint, _⟩ := values
      cases heq
      obtain ⟨hgives, -⟩ := Fields.give_of_read hvalues
      have hcontract := Contract.nests_read.of_gives (fun _ habsent => by cases habsent) hgives
      rw [StampedContract.depth_toJson]
      show contract.toJson.depth + 1 ≤ _
      omega
  | blocked =>
      refine Reader.Nests.map fun origin node block _ => ?_
      have hblock := Nat.succ_le_succ block.membersDepth_le
      exact Nat.le_trans hblock (Nat.le_trans (by decide) (Nat.le_max_left _ _))

end Rulebook
