import Rulebook.Audit
import Rulebook.Proofs.Instant.Reading
import Rulebook.Proofs.Json.Reading
import Rulebook.Proofs.Text.Lines
import Rulebook.Proofs.Uuid

namespace Rulebook.Json

theorem document_of_isBlankText {s : String} (h : Text.isBlankText s = true) :
    (document s).1 = .torn := by
  have hblank : ∀ c ∈ skipGaps s.toList, Text.isBlank c = true := by
    intro c hc
    rw [Text.isBlankText, List.all_eq_true] at h
    exact h c ((List.dropWhile_sublist _).subset hc)
  -- the fuel is written out so that the first step of the scan can be taken
  show (scanNode (2 * s.toList.length + 1 + 1) 0 s.toList).1 = .torn
  cases hcs : skipGaps s.toList with
  | nil =>
      rw [scanNode, hcs]
  | cons c rest =>
      have hc : Text.isBlank c = true := hblank c (by rw [hcs]; exact List.mem_cons_self)
      have hother : c ∉ nodeStarts := notMem_nodeStarts (by decide) hc
      have hnumber : ¬ (c = '-' ∨ c.isDigit = true) := by
        rintro (rfl | hdigit)
        · exact absurd hc (by decide)
        · exact absurd hc (by simp [Instant.isBlank_of_isDigit hdigit])
      rw [scanNode_of_notMem hcs hother, if_neg hnumber]

end Rulebook.Json

namespace Rulebook.Audit.Entry

open Rulebook.Document

/-- The values of the entry in the order of its fields. -/
def values (entry : Entry) : Values [Uuid, Instant, String, String, Status, Option Uuid,
    Option Fingerprint, List String, Option BlockReason, Option String] :=
  (entry.id, entry.recordedAt, entry.projectId, entry.commandId, entry.status, entry.contractId,
    entry.fingerprint, entry.appliedRules, entry.reason, entry.message, ())

theorem apart_fields : fields.Apart := by
  simp [fields, Fields.Apart, Fields.names, Field.answersTo, Field.required, Field.optional,
    Field.defaulted]

theorem takes_status (status : Status) : Status.read.Takes (.text status.name) status :=
  Reader.takes_choice (by cases status <;> rfl)

theorem takes_reason (reason : BlockReason) : BlockReason.read.Takes (.text reason.name) reason :=
  Reader.takes_choice (by cases reason <;> rfl)

theorem takes_fingerprint (fingerprint : Fingerprint) :
    Fingerprint.read.Takes fingerprint.toJson fingerprint :=
  fun _ => rfl

theorem exists_written {entry : Entry} (h : entry.recordedAt.WellFormed) (origin : Origin) :
    ∃ members, entry.toJson = .object members ∧ Written origin fields entry.values members := by
  have hmessage : Written origin (.cons (.optional "message" Reader.string) .nil)
      (entry.message, ()) (Json.optionalMember "message" Json.text entry.message) := by
    rw [← List.append_nil (Json.optionalMember "message" Json.text entry.message)]
    exact .optional entry.message (fun s _ => ⟨Reader.takes_string s, nofun⟩) .nil
  refine ⟨_, rfl, ?_⟩
  simp only [List.append_assoc]
  refine .required entry.id.takes_toJson ?_
  refine .required (Instant.takes_toJson h) ?_
  refine .required (Reader.takes_string entry.projectId) ?_
  refine .required (Reader.takes_string entry.commandId) ?_
  refine .required (takes_status entry.status) ?_
  refine .optional entry.contractId (fun id _ => ⟨id.takes_toJson, nofun⟩) ?_
  refine .optional entry.fingerprint (fun digest _ => ⟨takes_fingerprint digest, nofun⟩) ?_
  refine .texts entry.appliedRules ?_
  exact .optional entry.reason (fun reason _ => ⟨takes_reason reason, nofun⟩) hmessage

theorem takes_toJson {entry : Entry} (h : entry.recordedAt.WellFormed) :
    Entry.read.Takes entry.toJson entry := by
  intro origin
  obtain ⟨members, hjson, hwritten⟩ := exists_written h origin
  rw [hjson, read, Fields.read_written apart_fields hwritten]
  rfl

theorem exists_members (entry : Entry) :
    ∃ members, entry.toJson = .object members ∧ ∀ member ∈ members,
      (∃ s, member.2 = .text s) ∨ ∃ items, member.2 = Json.texts items := by
  refine ⟨_, rfl, fun member hmem => ?_⟩
  simp only [List.mem_append, Json.textMember, List.mem_cons, List.not_mem_nil, or_false] at hmem
  rcases hmem with (((((((h | h) | h) | h) | h) | h) | h) | h) | h
  · rcases h with rfl | rfl
    · exact Or.inl ⟨_, rfl⟩
    · exact Or.inl ⟨_, rfl⟩
  · exact Or.inl ⟨entry.projectId, by rw [h]⟩
  · exact Or.inl ⟨entry.commandId, by rw [h]⟩
  · exact Or.inl ⟨entry.status.name, by rw [h]⟩
  · obtain ⟨id, hid⟩ := Json.mem_optionalMember h
    exact Or.inl ⟨_, hid⟩
  · obtain ⟨fingerprint, hfingerprint⟩ := Json.mem_optionalMember h
    exact Or.inl ⟨_, hfingerprint⟩
  · exact Or.inr ⟨_, Json.mem_textsMember h⟩
  · obtain ⟨reason, hreason⟩ := Json.mem_optionalMember h
    exact Or.inl ⟨_, hreason⟩
  · obtain ⟨s, hs⟩ := Json.mem_optionalMember h
    exact Or.inl ⟨_, hs⟩

theorem allNumbers_toJson (P : JsonNumber → Prop) (entry : Entry) :
    Json.AllNumbers P entry.toJson := by
  obtain ⟨members, hjson, hmembers⟩ := entry.exists_members
  rw [hjson, Json.AllNumbers, Json.allNumbersMembers_iff]
  intro member hmem
  rcases hmembers member hmem with ⟨s, h⟩ | ⟨items, h⟩
  · rw [h]
    trivial
  · rw [h]
    exact Json.allNumbers_texts P items

theorem depth_toJson_le (entry : Entry) : entry.toJson.depth ≤ 2 := by
  obtain ⟨members, hjson, hmembers⟩ := entry.exists_members
  rw [hjson, Json.depth]
  refine Nat.succ_le_succ (Json.membersDepth_le_iff.mpr fun member hmem => ?_)
  rcases hmembers member hmem with ⟨s, h⟩ | ⟨items, h⟩
  · rw [h, Json.depth]
    exact Nat.zero_le 1
  · exact Nat.le_of_eq (by rw [h, Json.depth_texts])

theorem read_compact {entry : Entry} (h : entry.recordedAt.WellFormed) :
    Json.read Entry.read entry.toJson.compact = .ok entry := by
  have hdepth : entry.toJson.depth ≤ Json.deepestLevel :=
    Nat.le_trans entry.depth_toJson_le (by decide)
  rw [Json.read_compact _ (entry.allNumbers_toJson _) hdepth, takes_toJson h]

theorem lines_line (entry : Entry) : Text.lines entry.line = [entry.toJson.compact] := by
  have hnumbers := entry.allNumbers_toJson Json.ReadsBack
  refine Text.lines_complete (Json.newline_notMem_compact hnumbers) ?_
  intro hlast
  exact Json.return_notMem_compact hnumbers (List.mem_of_getLast? hlast)

theorem entryOfLine?_eq (line : String) :
    entryOfLine? line = (Json.read Entry.read line).toOption := by
  rw [entryOfLine?]
  split
  case isFalse => rfl
  case isTrue hblank =>
    have htorn := Json.document_of_isBlankText hblank
    obtain ⟨rest, hdocument⟩ : ∃ rest, Json.document line = (.torn, rest) :=
      ⟨(Json.document line).2, Prod.ext htorn rfl⟩
    rw [Json.read, hdocument]
    rfl

end Rulebook.Audit.Entry
