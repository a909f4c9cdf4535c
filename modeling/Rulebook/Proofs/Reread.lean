import Rulebook.Proofs.Nesting

namespace Rulebook

open Document

namespace Json

theorem keys_rereadMembers (members : List (String × Json)) :
    OrderedMap.keys (rereadMembers members) = OrderedMap.keys members := by
  induction members with
  | nil => rfl
  | cons member members ih => exact congrArg (member.1 :: ·) ih

theorem rereadMembers_append (before after : List (String × Json)) :
    rereadMembers (before ++ after) = rereadMembers before ++ rereadMembers after := by
  induction before with
  | nil => rfl
  | cons member before ih =>
      obtain ⟨name, value⟩ := member
      rw [List.cons_append, rereadMembers, rereadMembers, ih, List.cons_append]

mutual

theorem distinct_reread : (j : Json) → j.Distinct → (reread j).Distinct
  | .null, _ | .boolean _, _ | .number _, _ | .text _, _ => trivial
  | .array items, h => distinct_rereadItems items h
  | .object members, h => by
      refine ⟨?_, distinct_rereadMembers members h.2⟩
      rw [keys_rereadMembers]
      exact h.1

theorem distinct_rereadItems : (items : List Json) → DistinctItems items →
    DistinctItems (rereadItems items)
  | [], _ => trivial
  | item :: items, h => ⟨distinct_reread item h.1, distinct_rereadItems items h.2⟩

theorem distinct_rereadMembers : (members : List (String × Json)) → DistinctMembers members →
    DistinctMembers (rereadMembers members)
  | [], _ => trivial
  | (_, value) :: members, h =>
      ⟨distinct_reread value h.1, distinct_rereadMembers members h.2⟩

end

mutual

theorem readsBack_of_reread_eq : (j : Json) → AllNumbers Legible j → reread j = j →
    AllNumbers ReadsBack j
  | .null, _, _ | .boolean _, _, _ | .text _, _, _ => trivial
  | .number _, h, heq => Legible.readsBack h (number.inj heq)
  | .array items, h, heq => readsBack_of_rereadItems_eq items h (array.inj heq)
  | .object members, h, heq => readsBack_of_rereadMembers_eq members h (object.inj heq)

theorem readsBack_of_rereadItems_eq : (items : List Json) → AllNumbersItems Legible items →
    rereadItems items = items → AllNumbersItems ReadsBack items
  | [], _, _ => trivial
  | item :: items, h, heq => by
      obtain ⟨hitem, hitems⟩ := List.cons.inj heq
      exact ⟨readsBack_of_reread_eq item h.1 hitem, readsBack_of_rereadItems_eq items h.2 hitems⟩

theorem readsBack_of_rereadMembers_eq : (members : List (String × Json)) →
    AllNumbersMembers Legible members → rereadMembers members = members →
    AllNumbersMembers ReadsBack members
  | [], _, _ => trivial
  | (_, value) :: members, h, heq => by
      obtain ⟨hmember, hmembers⟩ := List.cons.inj heq
      exact ⟨readsBack_of_reread_eq value h.1 (Prod.mk.inj hmember).2,
        readsBack_of_rereadMembers_eq members h.2 hmembers⟩

end

end Json

/-- The constraints with the numbers that theirs are read as. -/
def ConstraintMap.reread (map : ConstraintMap) : ConstraintMap where
  entries := Json.rereadMembers map.entries
  distinct := Json.distinct_reread (.object map.entries) map.distinct

def ContractMetadata.reread (metadata : ContractMetadata) : ContractMetadata :=
  { metadata with constraints := metadata.constraints.reread }

theorem ContractMetadata.toJson_reread (metadata : ContractMetadata) :
    metadata.reread.toJson = Json.reread metadata.toJson := by
  have hrules : Json.rereadItems (metadata.appliedRules.map AppliedRule.toJson) =
      metadata.appliedRules.map AppliedRule.toJson := by
    refine Json.rereadItems_eq _ (Json.allNumbersItems_iff.mpr fun item hitem => ?_)
    obtain ⟨rule, -, rfl⟩ := List.mem_map.mp hitem
    exact ⟨trivial, trivial, trivial⟩
  have hstops : Json.reread (Json.texts metadata.stopConditions) =
      Json.texts metadata.stopConditions :=
    Json.reread_eq _ (Json.allNumbers_texts _ _)
  simp only [toJson, reread, Json.textMember, Json.reread, Json.rereadMembers, List.cons_append,
    List.nil_append, hrules, hstops]
  rfl

def Contract.reread (contract : Contract) : Contract :=
  { contract with metadata := contract.metadata.reread }

theorem Contract.toJson_reread (contract : Contract) :
    contract.reread.toJson = Json.reread contract.toJson := by
  have htexts : Json.rereadMembers (Json.optionalMember "id" Uuid.toJson contract.id ++
      Json.optionalMember "generatedAt" Instant.toJson contract.generatedAt) =
      Json.optionalMember "id" Uuid.toJson contract.id ++
        Json.optionalMember "generatedAt" Instant.toJson contract.generatedAt := by
    cases contract.id <;> cases contract.generatedAt <;> rfl
  simp only [toJson, members, Json.reread, Json.rereadMembers_append, htexts]
  rw [reread, ContractMetadata.toJson_reread]
  rfl

namespace Outcome

/-- The outcome with the numbers that those of its constraints are read as. -/
def reread : Outcome → Outcome
  | .contract stamped => .contract { stamped with contract := stamped.contract.reread }
  | .blocked block => .blocked block

theorem toJson_reread (outcome : Outcome) :
    outcome.reread.toJson = Json.reread outcome.toJson := by
  cases outcome with
  | contract stamped =>
      simp only [reread, toJson, StampedContract.members, Contract.toJson_reread]
      rfl
  | blocked block => exact (Json.reread_eq _ block.readable.numbers).symm

theorem timely_reread {outcome : Outcome} (h : outcome.Timely) : outcome.reread.Timely := by
  cases outcome with
  | contract stamped =>
      intro stamped' heq
      cases heq
      exact h stamped rfl
  | blocked block => exact h

theorem takes_toJson {outcome : Outcome} (h : outcome.Timely) :
    Outcome.read.Takes outcome.toJson outcome := by
  have hother : ∀ member ∈ [] ++ outcome.content, member.1 ≠ Status.tagName := ne_tagName h
  intro origin
  rw [toJson_eq]
  cases outcome with
  | contract stamped =>
      refine (tagged_ofJson Status.ok.lookup_name hother _ origin).trans ?_
      exact (StampedContract.takes_members (h stamped rfl)).map Outcome.contract .held
  | blocked block =>
      refine (tagged_ofJson Status.blocked.lookup_name hother _ origin).trans ?_
      exact block.takes_toJson.map Outcome.blocked .held

theorem read_line {outcome : Outcome} (htimely : outcome.Timely)
    (hnumbers : Json.AllNumbers Json.Legible outcome.toJson)
    (hdepth : outcome.toJson.depth ≤ Json.deepestLevel) :
    Json.read Outcome.read (outcome.toJson.indented ++ "\n") = .ok outcome.reread := by
  rw [Json.read_indented_line _ hnumbers hdepth, ← toJson_reread]
  exact takes_toJson (timely_reread htimely) .json

theorem read_line_of_readable {outcome : Outcome} (htimely : outcome.Timely)
    (hreadable : outcome.toJson.Readable) :
    Json.read Outcome.read (outcome.toJson.indented ++ "\n") = .ok outcome := by
  rw [Json.read_indented_line _ hreadable.numbers.legible hreadable.depth,
    Json.reread_eq _ hreadable.numbers]
  exact takes_toJson htimely .json

theorem readable_of_read_line {outcome : Outcome} (htimely : outcome.Timely)
    (hnumbers : Json.AllNumbers Json.Legible outcome.toJson)
    (hread : Json.read Outcome.read (outcome.toJson.indented ++ "\n") = .ok outcome) :
    outcome.toJson.Readable := by
  have hdepth := nests_read.depth_le_of_read (by decide) hread
  rw [read_line htimely hnumbers hdepth] at hread
  refine ⟨Json.readsBack_of_reread_eq _ hnumbers ?_, hdepth⟩
  rw [← toJson_reread, Except.ok.inj hread]

end Outcome

end Rulebook
