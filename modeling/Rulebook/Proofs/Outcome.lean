import Rulebook.Outcome
import Rulebook.Proofs.Contract
import Rulebook.Proofs.Document.Tagged
import Rulebook.Proofs.Json.Front
import Rulebook.Proofs.Json.Numeral

namespace Rulebook

open Document

theorem BlockReason.takes_name (reason : BlockReason) :
    BlockReason.read.Takes (.text reason.name) reason :=
  Reader.takes_choice (by cases reason <;> rfl)

namespace Conflict

theorem apart_fields : fields.Apart := by
  simp [fields, Fields.Apart, Fields.names, Field.answersTo, Field.required]

theorem exists_written (conflict : Conflict) (origin : Origin) :
    ∃ members, conflict.toJson = .object members ∧
      Written origin fields (conflict.a, conflict.b, conflict.reason, ()) members := by
  refine ⟨_, rfl, ?_⟩
  simp only [List.append_assoc]
  refine .required (Reader.takes_string conflict.a) ?_
  refine .required (Reader.takes_string conflict.b) ?_
  exact .required (Reader.takes_string conflict.reason) .nil

theorem takes_toJson (conflict : Conflict) : Conflict.read.Takes conflict.toJson conflict := by
  intro origin
  obtain ⟨members, hjson, hwritten⟩ := conflict.exists_written origin
  rw [hjson, read, Fields.read_written apart_fields hwritten]
  rfl

end Conflict

namespace Block

theorem apart_fields : fields.Apart := by
  simp [fields, Fields.Apart, Fields.names, Field.answersTo, Field.required, Field.optional]

theorem written_members (block : Block) (origin : Origin) :
    Written origin fields (block.reason, block.message, block.conflicts, ()) block.members := by
  have hconflicts : Written origin (.cons (.optional "conflicts" (Reader.list Conflict.read)) .nil)
      (block.conflicts, ()) (Json.optionalMember "conflicts"
        (fun conflicts => .array (conflicts.map Conflict.toJson)) block.conflicts) := by
    rw [← List.append_nil (Json.optionalMember _ _ _)]
    refine .optional block.conflicts (fun conflicts _ => ⟨?_, nofun⟩) .nil
    exact Reader.takes_list fun conflict _ => conflict.takes_toJson
  simp only [members, List.append_assoc]
  exact .required block.reason.takes_name (.required (Reader.takes_string block.message) hconflicts)

theorem takes_toJson (block : Block) : Block.read.Takes block.toJson block := by
  intro origin
  rw [toJson, read, Fields.read_written apart_fields (block.written_members origin)]
  rfl

end Block

namespace StampedContract

theorem apart_fields : fields.Apart := by
  simp [fields, Fields.Apart, Fields.names, Field.answersTo, Field.required]

theorem written_members {stamped : StampedContract} (h : stamped.contract.Timely)
    (origin : Origin) :
    Written origin fields (stamped.contract, stamped.fingerprint, ()) stamped.members :=
  .required (Contract.takes_toJson h) (.required (fun _ => rfl) .nil)

theorem takes_members {stamped : StampedContract} (h : stamped.contract.Timely) :
    StampedContract.read.Takes (.object stamped.members) stamped := by
  intro origin
  rw [read, Fields.read_written apart_fields (written_members h origin)]
  rfl

end StampedContract

namespace Json

/-- Readers can take the value in: it is not nested too deep, and its numbers read back. -/
structure Readable (j : Json) : Prop where
  numbers : AllNumbers ReadsBack j
  depth : j.depth ≤ deepestLevel

theorem Readable.of_subset {members others : List (String × Json)} (h : (object members).Readable)
    (hsubset : others ⊆ members) : (object others).Readable where
  numbers := by
    have hnumbers := h.numbers
    rw [AllNumbers, allNumbersMembers_iff] at hnumbers ⊢
    exact fun member hmem => hnumbers member (hsubset hmem)
  depth := by
    refine Nat.le_trans ?_ h.depth
    rw [Json.depth, Json.depth]
    exact Nat.succ_le_succ (membersDepth_le_iff.mpr fun member hmem =>
      membersDepth_le_iff.mp (Nat.le_refl _) member (hsubset hmem))

/-- The texts that are printed for a value: all on one line, or indented. -/
def printed (j : Json) : List String :=
  [j.compact, j.indented]

theorem read_printed {α : Type} (reader : Reader α) {j : Json} (h : j.Readable) {text : String}
    (htext : text ∈ j.printed) : read reader text = reader .json (Node.ofJson j) := by
  rw [printed, List.mem_cons, List.mem_singleton] at htext
  rcases htext with rfl | rfl
  · exact read_compact reader h.numbers h.depth
  · exact read_indented reader h.numbers h.depth

theorem exists_layout_of_mem_printed {j : Json} {text : String} (htext : text ∈ j.printed) :
    ∃ layout : Layout, layout.Blank ∧ text = String.ofList (laid layout 0 j) := by
  rw [printed, List.mem_cons, List.mem_singleton] at htext
  rcases htext with rfl | rfl
  · exact ⟨.compact, Layout.blank_compact, by rw [laid_compact, compact]⟩
  · exact ⟨.indented, Layout.blank_indented, by rw [laid_indented, indented]⟩

end Json

theorem Status.lookup_name (status : Status) : variants.lookup status.name = some status := by
  cases status <;> rfl

theorem read_tagged_printed {κ α : Type} {name tagName tag : String} {kinds : List (String × κ)}
    {content : κ → Reader α} {kind : κ} {a : α} {before after : List (String × Json)}
    (hkind : kinds.lookup tag = some kind)
    (hother : ∀ member ∈ before ++ after, member.1 ≠ tagName)
    (htakes : (content kind).Takes (.object (before ++ after)) a)
    (hreadable : (Json.object ([(tagName, .text tag)] ++ (before ++ after))).Readable)
    {text : String}
    (htext : text ∈ (Json.object (before ++ [(tagName, .text tag)] ++ after)).printed) :
    Json.read (tagged name tagName kinds content) text = .ok a := by
  have hsubset : before ++ [(tagName, Json.text tag)] ++ after ⊆
      [(tagName, Json.text tag)] ++ (before ++ after) := by
    intro member hmem
    simp only [List.mem_append] at hmem ⊢
    tauto
  rw [Json.read_printed _ (hreadable.of_subset hsubset) htext, tagged_ofJson hkind hother]
  exact htakes .held

namespace Resolution

/-- How the request ended. -/
def status : Resolution → Status
  | .contract _ => .ok
  | .blocked _ => .blocked

/-- The members that are written besides the status. -/
def content : Resolution → List (String × Json)
  | .contract compiled => compiled.members
  | .blocked block => block.members

theorem toJson_eq (result : Resolution) :
    result.toJson = .object (result.status.member ++ result.content) := by
  cases result <;> rfl

/-- A contract in it was stamped at a time that can be written. -/
def Timely (result : Resolution) : Prop :=
  ∀ contract ∈ result.contract?, contract.Timely

theorem ne_tagName {result : Resolution} (h : result.Timely) :
    ∀ member ∈ result.content, member.1 ≠ Status.tagName := by
  cases result with
  | contract compiled =>
      exact (Contract.written_members (h compiled rfl) .held).ne_of_notMem (by decide)
  | blocked block => exact (block.written_members .held).ne_of_notMem (by decide)

theorem read_printed {result : Resolution} (htimely : result.Timely)
    (hreadable : result.toJson.Readable) {before after : List (String × Json)}
    (hcontent : before ++ after = result.content) {text : String}
    (htext : text ∈ (Json.object (before ++ result.status.member ++ after)).printed) :
    Json.read read text = .ok result := by
  have hother := ne_tagName htimely
  rw [toJson_eq] at hreadable
  rw [← hcontent] at hother hreadable
  cases result with
  | contract compiled =>
      refine read_tagged_printed Status.ok.lookup_name hother ?_ hreadable htext
      rw [hcontent]
      exact (Contract.takes_toJson (htimely compiled rfl)).map Resolution.contract
  | blocked block =>
      refine read_tagged_printed Status.blocked.lookup_name hother ?_ hreadable htext
      rw [hcontent]
      exact block.takes_toJson.map Resolution.blocked

theorem read_toJson {result : Resolution} (htimely : result.Timely)
    (hreadable : result.toJson.Readable) {text : String}
    (htext : text ∈ result.toJson.printed) : Json.read read text = .ok result := by
  rw [toJson_eq] at htext
  exact read_printed htimely hreadable (List.nil_append _) htext

end Resolution

namespace Outcome

/-- How the request ended. -/
def status : Outcome → Status
  | .contract _ => .ok
  | .blocked _ => .blocked

/-- The members that are written besides the status. -/
def content : Outcome → List (String × Json)
  | .contract stamped => stamped.members
  | .blocked block => block.members

theorem toJson_eq (outcome : Outcome) :
    outcome.toJson = .object (outcome.status.member ++ outcome.content) := by
  cases outcome <;> rfl

/-- A contract in it was stamped at a time that can be written. -/
def Timely (outcome : Outcome) : Prop :=
  ∀ stamped ∈ outcome.contract?, stamped.contract.Timely

theorem ne_tagName {outcome : Outcome} (h : outcome.Timely) :
    ∀ member ∈ outcome.content, member.1 ≠ Status.tagName := by
  cases outcome with
  | contract stamped =>
      exact (StampedContract.written_members (h stamped rfl) .held).ne_of_notMem (by decide)
  | blocked block => exact (block.written_members .held).ne_of_notMem (by decide)

theorem read_printed {outcome : Outcome} (htimely : outcome.Timely)
    (hreadable : outcome.toJson.Readable) {before after : List (String × Json)}
    (hcontent : before ++ after = outcome.content) {text : String}
    (htext : text ∈ (Json.object (before ++ outcome.status.member ++ after)).printed) :
    Json.read read text = .ok outcome := by
  have hother := ne_tagName htimely
  rw [toJson_eq] at hreadable
  rw [← hcontent] at hother hreadable
  cases outcome with
  | contract stamped =>
      refine read_tagged_printed Status.ok.lookup_name hother ?_ hreadable htext
      rw [hcontent]
      exact (StampedContract.takes_members (htimely stamped rfl)).map Outcome.contract
  | blocked block =>
      refine read_tagged_printed Status.blocked.lookup_name hother ?_ hreadable htext
      rw [hcontent]
      exact block.takes_toJson.map Outcome.blocked

theorem read_toJson {outcome : Outcome} (htimely : outcome.Timely)
    (hreadable : outcome.toJson.Readable) {text : String}
    (htext : text ∈ outcome.toJson.printed) : Json.read read text = .ok outcome := by
  rw [toJson_eq] at htext
  exact read_printed htimely hreadable (List.nil_append _) htext

end Outcome

theorem Contract.exists_texts (contract : Contract) :
    ∃ texts, contract.members = Json.textMembers texts ++ [("metadata", contract.metadata.toJson)] ∧
      ("contract", contract.text) ∈ texts := by
  refine ⟨(contract.id.toList.map fun id => ("id", id.text)) ++
    (contract.generatedAt.toList.map fun instant => ("generatedAt", instant.text)) ++
    [("projectId", contract.projectId), ("commandId", contract.commandId),
      ("intentId", contract.intent.name), ("contract", contract.text)], ?_, by simp⟩
  rw [members]
  cases contract.id <;> cases contract.generatedAt <;> rfl

theorem StampedContract.refuses_text (text : String) :
    fields.Refuses .held "contract" (.text text) :=
  Fields.refuses_of_answers rfl ⟨_, rfl⟩

theorem Contract.refuses_of_ne_text {node : Node} (hnode : ∀ s, node ≠ .text s) :
    fields.Refuses .held "contract" node := by
  have hread : ∃ fault, Reader.string .held node = .error fault := by
    cases node with
    | text s => exact absurd rfl (hnode s)
    | _ => exact ⟨_, rfl⟩
  iterate 5 refine Fields.refuses_of_not_answers (by decide) ?_
  exact Fields.refuses_of_answers rfl hread

theorem Outcome.exists_read_error (contract : Contract) {text : String}
    (htext : text ∈ (Resolution.contract contract).toJson.printed) :
    ∃ fault, Json.read Outcome.read text = .error fault := by
  obtain ⟨layout, hblank, rfl⟩ := Json.exists_layout_of_mem_printed htext
  obtain ⟨texts, hmembers, hmem⟩ := contract.exists_texts
  have hjson : (Resolution.contract contract).toJson =
      .object (Json.textMembers ((Status.tagName, Status.ok.name) :: texts) ++
        [("metadata", contract.metadata.toJson)]) := by
    rw [Resolution.toJson, hmembers]
    rfl
  obtain ⟨fuel, behind, closed, rest, hdocument⟩ := Json.exists_document_texts hblank
    ((Status.tagName, Status.ok.name) :: texts) "metadata" contract.metadata.toJson []
  have hmember : ("contract", Json.text contract.text) ∈ Json.textMembers texts :=
    List.mem_map.mpr ⟨_, hmem, rfl⟩
  rw [hjson]
  refine Json.exists_read_error hdocument ?_
  refine exists_tagged_error Status.ok.lookup_name
    (List.mem_append_left _ (Node.mem_ofJsonMembers hmember)) ?_ _ _ _
  intro node held hhold hheld
  obtain rfl := Option.some.inj hhold
  obtain ⟨fault, hfault⟩ :=
    (StampedContract.refuses_text contract.text).exists_read_error hheld "StampedContract" true
  refine ⟨fault, ?_⟩
  show Outcome.contract <$> StampedContract.read .held (.object held true) = _
  rw [StampedContract.read, hfault]
  rfl

theorem Resolution.exists_read_error (stamped : StampedContract) {text : String}
    (htext : text ∈ (Outcome.contract stamped).toJson.printed) :
    ∃ fault, Json.read Resolution.read text = .error fault := by
  obtain ⟨layout, hblank, rfl⟩ := Json.exists_layout_of_mem_printed htext
  obtain ⟨fuel, behind, closed, rest, hdocument⟩ := Json.exists_document_texts hblank
    [(Status.tagName, Status.ok.name)] "contract" stamped.contract.toJson
    [("fingerprint", stamped.fingerprint.toJson)]
  refine Json.exists_read_error hdocument ?_
  refine exists_tagged_error Status.ok.lookup_name List.mem_cons_self ?_ _ _ _
  intro node held hhold hheld
  have hnode : ∀ s, node ≠ .text s := by
    refine Node.ne_text_of_hold? ?_ hhold
    have hne : stamped.contract.members ≠ [] := by simp [Contract.members]
    rw [Contract.toJson, Json.laid_object hne]
    exact Json.scanNode_brace_ne_text _ _ _
  obtain ⟨fault, hfault⟩ :=
    (Contract.refuses_of_ne_text hnode).exists_read_error hheld "ResolvedContract" true
  refine ⟨fault, ?_⟩
  show Resolution.contract <$> Contract.read .held (.object held true) = _
  rw [Contract.read, hfault]
  rfl

theorem Conflict.allNumbers_toJson (P : JsonNumber → Prop) (conflict : Conflict) :
    Json.AllNumbers P conflict.toJson := by
  simp [toJson, Json.textMember, Json.AllNumbers, Json.AllNumbersMembers]

theorem Conflict.depth_toJson (conflict : Conflict) : conflict.toJson.depth = 1 := by
  simp [toJson, Json.textMember, Json.depth, Json.membersDepth]

theorem Block.text_or_conflicts {block : Block} {member : String × Json}
    (hmem : member ∈ Status.blocked.member ++ block.members) :
    (∃ s, member.2 = .text s) ∨
      ∃ conflicts : List Conflict, member.2 = .array (conflicts.map Conflict.toJson) := by
  simp only [members, Status.member, Json.textMember, List.mem_append, List.mem_singleton] at hmem
  rcases hmem with h | (h | h) | h
  · exact Or.inl ⟨_, by rw [h]⟩
  · exact Or.inl ⟨_, by rw [h]⟩
  · exact Or.inl ⟨_, by rw [h]⟩
  · exact Or.inr (Json.mem_optionalMember h)

theorem Block.membersDepth_le (block : Block) :
    Json.membersDepth (Status.blocked.member ++ block.members) ≤ 2 := by
  rw [Json.membersDepth_le_iff]
  intro member hmem
  rcases text_or_conflicts hmem with ⟨s, h⟩ | ⟨conflicts, h⟩
  · rw [h]
    exact Nat.zero_le 2
  · rw [h, Json.depth]
    refine Nat.succ_le_succ (Json.itemsDepth_le_iff.mpr fun item hitem => ?_)
    obtain ⟨conflict, -, rfl⟩ := List.mem_map.mp hitem
    exact Nat.le_of_eq conflict.depth_toJson

theorem Block.readable (block : Block) :
    (Json.object (Status.blocked.member ++ block.members)).Readable := by
  constructor
  · rw [Json.AllNumbers, Json.allNumbersMembers_iff]
    intro member hmem
    rcases text_or_conflicts hmem with ⟨s, h⟩ | ⟨conflicts, h⟩
    · rw [h]
      trivial
    · rw [h, Json.AllNumbers, Json.allNumbersItems_iff]
      intro item hitem
      obtain ⟨conflict, -, rfl⟩ := List.mem_map.mp hitem
      exact conflict.allNumbers_toJson _
  · exact Nat.le_trans (Nat.succ_le_succ block.membersDepth_le) (by decide)

/-- An outcome is read back from its text, with the member of the status in any place. A block is
written alike by a resolution and a compilation, and the reader of either takes it; a contract of
one is refused by the reader of the other. -/
theorem outcome_texts :
    (∀ result : Resolution, result.Timely → result.toJson.Readable →
      (∀ text ∈ result.toJson.printed, Json.read Resolution.read text = .ok result) ∧
      ∀ before after, before ++ after = result.content →
        ∀ text ∈ (Json.object (before ++ result.status.member ++ after)).printed,
          Json.read Resolution.read text = .ok result) ∧
    (∀ outcome : Outcome, outcome.Timely → outcome.toJson.Readable →
      (∀ text ∈ outcome.toJson.printed, Json.read Outcome.read text = .ok outcome) ∧
      ∀ before after, before ++ after = outcome.content →
        ∀ text ∈ (Json.object (before ++ outcome.status.member ++ after)).printed,
          Json.read Outcome.read text = .ok outcome) ∧
    (∀ block : Block,
      (Outcome.blocked block).toJson.printed = (Resolution.blocked block).toJson.printed ∧
      ∀ text ∈ (Resolution.blocked block).toJson.printed,
        Json.read Resolution.read text = .ok (.blocked block) ∧
        Json.read Outcome.read text = .ok (.blocked block)) ∧
    (∀ contract : Contract, ∀ text ∈ (Resolution.contract contract).toJson.printed,
      ∃ fault, Json.read Outcome.read text = .error fault) ∧
    ∀ stamped : StampedContract, ∀ text ∈ (Outcome.contract stamped).toJson.printed,
      ∃ fault, Json.read Resolution.read text = .error fault := by
  refine ⟨fun result htimely hreadable => ⟨?_, ?_⟩, fun outcome htimely hreadable => ⟨?_, ?_⟩,
    fun block => ⟨rfl, fun text htext => ⟨?_, ?_⟩⟩, fun contract text => ?_, fun stamped text => ?_⟩
  · exact fun text => Resolution.read_toJson htimely hreadable
  · exact fun before after hcontent text => Resolution.read_printed htimely hreadable hcontent
  · exact fun text => Outcome.read_toJson htimely hreadable
  · exact fun before after hcontent text => Outcome.read_printed htimely hreadable hcontent
  · have hreadable : (Resolution.blocked block).toJson.Readable := block.readable
    exact Resolution.read_toJson (fun contract hnone => by cases hnone) hreadable htext
  · have hreadable : (Outcome.blocked block).toJson.Readable := block.readable
    exact Outcome.read_toJson (fun stamped hnone => by cases hnone) hreadable htext
  · exact Outcome.exists_read_error contract
  · exact Resolution.exists_read_error stamped

theorem Contract.allNumbers_toJson {P : JsonNumber → Prop} {contract : Contract}
    (h : Json.AllNumbers P contract.metadata.constraints.toJson) :
    Json.AllNumbers P contract.toJson := by
  have hrules : Json.AllNumbersItems P (contract.metadata.appliedRules.map AppliedRule.toJson) := by
    rw [Json.allNumbersItems_iff]
    intro item hitem
    obtain ⟨rule, -, rfl⟩ := List.mem_map.mp hitem
    simp [AppliedRule.toJson, Json.textMember, Json.AllNumbers, Json.AllNumbersMembers]
  have hmetadata : Json.AllNumbers P contract.metadata.toJson := by
    simp [ContractMetadata.toJson, Json.textMember, Json.AllNumbers, Json.AllNumbersMembers, hrules,
      h, Json.allNumbers_texts]
  obtain ⟨texts, hmembers, -⟩ := contract.exists_texts
  rw [toJson, hmembers, Json.AllNumbers, Json.allNumbersMembers_iff]
  intro member hmem
  rcases List.mem_append.mp hmem with htext | hlast
  · obtain ⟨text, -, rfl⟩ := List.mem_map.mp htext
    trivial
  · rw [List.mem_singleton.mp hlast]
    exact hmetadata

/-- Constraints in no order, with another map, a list and integers inside. -/
def unorderedConstraints : ConstraintMap where
  entries := [("z", .object [("b", .number (.integer ⟨-7, by decide⟩)), ("a", .array [.null])]),
    ("a", .text "\n\u2028"), ("m", .number (.integer ⟨0xffffffffffffffff, by decide⟩))]
  distinct := by simp [Json.Distinct, Json.DistinctMembers, Json.DistinctItems, OrderedMap.keys]

/-- A contract stamped in a leap second. -/
def stampedContract : StampedContract where
  contract :=
    { id := some ⟨0x123456789abcdef⟩
      generatedAt := some ⟨20000, 86399, 1500000000⟩
      projectId := "two\nlines"
      commandId := "\"status\""
      intent := .review
      text := "\x7b\x7d \\ \x07"
      metadata := ⟨"preset", [⟨"a", .error⟩, ⟨"b", .info⟩], unorderedConstraints, ["stop", ""]⟩ }
  fingerprint := ⟨"0f"⟩

theorem outcome_texts_stamped :
    ∀ text ∈ (Json.object (stampedContract.members ++ Status.ok.member)).printed,
      Json.read Outcome.read text = .ok (.contract stampedContract) := by
  have htimely : (Outcome.contract stampedContract).Timely := by
    rintro stamped hstamped
    obtain rfl := Option.some.inj hstamped
    rintro instant hinstant
    obtain rfl := Option.some.inj hinstant
    exact ⟨by decide, Or.inr (by decide), by decide⟩
  have hreadable : (Outcome.contract stampedContract).toJson.Readable := by
    have hconstraints : Json.AllNumbers Json.ReadsBack unorderedConstraints.toJson := by
      simp [unorderedConstraints, ConstraintMap.toJson, Json.AllNumbers, Json.AllNumbersMembers,
        Json.AllNumbersItems, Json.readsBack_integer]
    have hcontract : Json.AllNumbers Json.ReadsBack stampedContract.contract.toJson :=
      Contract.allNumbers_toJson hconstraints
    exact ⟨⟨trivial, hcontract, trivial, trivial⟩, by decide +kernel⟩
  have hmoved := (outcome_texts.2.1 _ htimely hreadable).2 stampedContract.members [] rfl
  rwa [List.append_nil] at hmoved

end Rulebook
