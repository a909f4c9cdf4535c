import Rulebook.Proofs.Contract
import Rulebook.Proofs.Json.Injective
import Rulebook.Proofs.Service.Stamp
import Rulebook.Proofs.Text.Bytes

namespace Rulebook

namespace Digest

/-- Two inputs with one digest. -/
def Collide (xs ys : List UInt8) : Prop :=
  xs ≠ ys ∧ digest xs = digest ys

theorem hexDigits_byte_inj {x y : UInt8}
    (h : Text.hexDigits 2 x.toNat = Text.hexDigits 2 y.toNat) : x = y := by
  have hread := congrArg (Text.hexNumber? 0) h
  rw [Text.hexNumber?_hexDigits, Text.hexNumber?_hexDigits, Option.some_inj] at hread
  have hx := x.toNat_lt
  have hy := y.toNat_lt
  exact UInt8.toNat_inj.mp (by omega)

theorem flatMap_hexDigits_inj {xs ys : List UInt8}
    (h : (xs.flatMap fun b => Text.hexDigits 2 b.toNat) =
      ys.flatMap fun b => Text.hexDigits 2 b.toNat) : xs = ys := by
  induction xs generalizing ys with
  | nil =>
      cases ys with
      | nil => rfl
      | cons y ys => cases h
  | cons x xs ih =>
      cases ys with
      | nil => cases h
      | cons y ys =>
          rw [List.flatMap_cons, List.flatMap_cons] at h
          obtain ⟨hbyte, hrest⟩ := List.append_inj h (by
            rw [Text.length_hexDigits, Text.length_hexDigits])
          rw [hexDigits_byte_inj hbyte, ih hrest]

theorem hex_injective : Function.Injective hex :=
  fun _ _ h => flatMap_hexDigits_inj (String.ofList_inj.mp h)

end Digest

theorem Fingerprint.of_inj {s t : String}
    (h : ¬ Digest.Collide s.toUTF8.toList t.toUTF8.toList) : of s = of t ↔ s = t := by
  refine ⟨fun heq => ?_, fun heq => by rw [heq]⟩
  have hdigest := Digest.hex_injective (Fingerprint.mk.inj heq)
  by_contra hne
  exact h ⟨fun hbytes => hne (toList_toUTF8_injective hbytes), hdigest⟩

namespace Contract

variable {c d : Contract}

/-- The text whose digest is the fingerprint. -/
def hashed (contract : Contract) : String :=
  contract.unstamped.toJson.compact

/-- The contracts agree on everything that a stamp leaves alone. -/
structure SameContent (c d : Contract) : Prop where
  projectId : c.projectId = d.projectId
  commandId : c.commandId = d.commandId
  intent : c.intent = d.intent
  text : c.text = d.text
  stackPresetId : c.metadata.stackPresetId = d.metadata.stackPresetId
  appliedRules : c.metadata.appliedRules = d.metadata.appliedRules
  constraints : c.metadata.constraints = d.metadata.constraints
  stopConditions : c.metadata.stopConditions = d.metadata.stopConditions

theorem unstamped_eq_iff : c.unstamped = d.unstamped ↔ c.SameContent d := by
  obtain ⟨_, _, _, _, _, _, _, _, _, _⟩ := c
  obtain ⟨_, _, _, _, _, _, _, _, _, _⟩ := d
  constructor
  · intro h
    cases h
    exact ⟨rfl, rfl, rfl, rfl, rfl, rfl, rfl, rfl⟩
  · rintro ⟨⟨⟩, ⟨⟩, ⟨⟩, ⟨⟩, ⟨⟩, ⟨⟩, ⟨⟩, ⟨⟩⟩
    rfl

theorem unstamped_eq_iff_exists : c.unstamped = d.unstamped ↔
    ∃ id generatedAt, d = { c with id := id, generatedAt := generatedAt } := by
  constructor
  · intro h
    refine ⟨d.id, d.generatedAt, ?_⟩
    calc d
      _ = { d.unstamped with id := d.id, generatedAt := d.generatedAt } := rfl
      _ = { c.unstamped with id := d.id, generatedAt := d.generatedAt } := by rw [h]
      _ = { c with id := d.id, generatedAt := d.generatedAt } := rfl
  · rintro ⟨id, generatedAt, rfl⟩
    rfl

theorem unstamped_eq_of_toJson_eq (h : c.unstamped.toJson = d.unstamped.toJson) :
    c.unstamped = d.unstamped := by
  have hc : c.unstamped.Timely := nofun
  have hd : d.unstamped.Timely := nofun
  have hread := takes_toJson hc .json
  rw [h, takes_toJson hd .json] at hread
  exact (Except.ok.inj hread).symm

theorem hashed_eq_iff : c.hashed = d.hashed ↔ c.SameContent d := by
  rw [← unstamped_eq_iff]
  constructor
  · intro h
    exact unstamped_eq_of_toJson_eq (Json.compact_injective h)
  · intro h
    rw [hashed, hashed, h]

/-- A fingerprint is one of the content and of nothing else. A stamp does not change it, the texts
that are digested agree where the content does, and where their digests do not collide, contracts of
one fingerprint differ in nothing but their stamps. -/
theorem fingerprint_covers_content :
    (∀ (c : Contract) (id : Uuid) (time : Instant),
      (c.stamp id time).fingerprint = c.fingerprint) ∧
    (∀ c d : Contract, c.hashed = d.hashed ↔ c.SameContent d) ∧
    ∀ c d : Contract, ¬ Digest.Collide c.hashed.toUTF8.toList d.hashed.toUTF8.toList →
      (c.fingerprint = d.fingerprint ↔
        ∃ id generatedAt, d = { c with id := id, generatedAt := generatedAt }) := by
  refine ⟨fingerprint_stamp, fun c d => hashed_eq_iff, fun c d h => ?_⟩
  calc c.fingerprint = d.fingerprint
    _ ↔ c.hashed = d.hashed := Fingerprint.of_inj h
    _ ↔ c.unstamped = d.unstamped := hashed_eq_iff.trans unstamped_eq_iff.symm
    _ ↔ _ := unstamped_eq_iff_exists

def pageContract : Contract where
  id := none
  generatedAt := none
  projectId := "web"
  commandId := "page"
  intent := .generate
  text := "Draw."
  metadata :=
    { stackPresetId := "next"
      appliedRules := []
      constraints := .empty
      stopConditions := [] }

def editedContract : Contract :=
  { pageContract with text := "Paint." }

theorem not_collide_edited : ¬ Digest.Collide pageContract.hashed.toUTF8.toList
    editedContract.hashed.toUTF8.toList := by
  have hbytes (j : Json) : j.compact.toUTF8.toList = j.chars.flatMap String.utf8EncodeChar :=
    toList_toUTF8_ofList j.chars
  have hdigests :
      Digest.digest (pageContract.unstamped.toJson.chars.flatMap String.utf8EncodeChar) ≠
        Digest.digest (editedContract.unstamped.toJson.chars.flatMap String.utf8EncodeChar) := by
    decide +kernel
  rintro ⟨-, heq⟩
  rw [hashed, hashed, hbytes, hbytes] at heq
  exact hdigests heq

theorem fingerprint_covers_content_page :
    (pageContract.stamp .nil ⟨0, 0, 0⟩).fingerprint = pageContract.fingerprint ∧
      pageContract.hashed ≠ editedContract.hashed ∧
      pageContract.fingerprint ≠ editedContract.fingerprint := by
  obtain ⟨hstamp, hhashed, hfingerprint⟩ := fingerprint_covers_content
  have htext : pageContract.text ≠ editedContract.text := by decide
  refine ⟨hstamp _ _ _, ?_, ?_⟩
  · rw [Ne, hhashed]
    exact fun h => htext h.text
  · rw [Ne, hfingerprint _ _ not_collide_edited]
    rintro ⟨id, generatedAt, h⟩
    exact htext (congrArg Contract.text h).symm

end Contract

end Rulebook
