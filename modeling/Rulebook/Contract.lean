import Rulebook.Catalog.Definition
import Rulebook.Choices
import Rulebook.Digest
import Rulebook.Document.Reader
import Rulebook.Document.Record
import Rulebook.Instant
import Rulebook.Json.Basic
import Rulebook.Json.Printer
import Rulebook.Uuid

namespace Rulebook

/-- The digest of some content. Read from a document it may be any text. -/
structure Fingerprint where
  text : String
  deriving DecidableEq

namespace Fingerprint

/-- The fingerprint of a text. -/
def of (content : String) : Fingerprint :=
  ⟨Digest.hex (Digest.digest content.toUTF8.toList)⟩

def read : Document.Reader Fingerprint :=
  fun origin node => Fingerprint.mk <$> Document.Reader.string origin node

def toJson (fingerprint : Fingerprint) : Json :=
  .text fingerprint.text

end Fingerprint

open Document

/-- A rule that takes part in a contract. -/
structure AppliedRule where
  id : String
  severity : Severity
  deriving DecidableEq

namespace AppliedRule

/-- The fields of a written applied rule. -/
def fields : Fields [String, Severity] :=
  .cons (.required "id" Reader.string) <|
  .cons (.required "severity" Severity.read) .nil

def read : Reader AppliedRule := fun origin node => do
  let (id, severity, ()) ← fields.read "AppliedRule" origin node
  return { id, severity }

def toJson (rule : AppliedRule) : Json :=
  .object (Json.textMember "id" rule.id ++ Json.textMember "severity" rule.severity.name)

end AppliedRule

/-- What a contract was made from. -/
structure ContractMetadata where
  stackPresetId : String
  appliedRules : List AppliedRule
  constraints : ConstraintMap
  stopConditions : List String

namespace ContractMetadata

/-- The fields of written metadata. -/
def fields : Fields [String, List AppliedRule, ConstraintMap, List String] :=
  .cons (.required "stackPresetId" Reader.string) <|
  .cons (.required "appliedRules" (Reader.list AppliedRule.read)) <|
  .cons (.required "constraints" ConstraintMap.read) <|
  .cons (.required "stopConditions" (Reader.list Reader.string)) .nil

def read : Reader ContractMetadata := fun origin node => do
  let (stackPresetId, appliedRules, constraints, stopConditions, ()) ←
    fields.read "ContractMetadata" origin node
  return { stackPresetId, appliedRules, constraints, stopConditions }

def toJson (metadata : ContractMetadata) : Json :=
  .object <|
    Json.textMember "stackPresetId" metadata.stackPresetId ++
    [("appliedRules", .array (metadata.appliedRules.map AppliedRule.toJson)),
      ("constraints", metadata.constraints.toJson),
      ("stopConditions", Json.texts metadata.stopConditions)]

end ContractMetadata

/-- A contract; `id` and `generatedAt` are its stamp. -/
structure Contract where
  id : Option Uuid
  generatedAt : Option Instant
  projectId : String
  commandId : String
  intent : Intent
  text : String
  metadata : ContractMetadata

namespace Contract

/-- Whether any part of the stamp is there. -/
def isStamped (contract : Contract) : Bool :=
  contract.id.isSome || contract.generatedAt.isSome

def stamp (contract : Contract) (id : Uuid) (at_ : Instant) : Contract :=
  { contract with id := some id, generatedAt := some at_ }

def unstamped (contract : Contract) : Contract :=
  { contract with id := none, generatedAt := none }

def ruleIds (contract : Contract) : List String :=
  contract.metadata.appliedRules.map AppliedRule.id

def fields : Fields [Option Uuid, Option Instant, String, String, Intent, String,
    ContractMetadata] :=
  .cons (.optional "id" Uuid.read) <|
  .cons (.optional "generatedAt" Instant.read) <|
  .cons (.required "projectId" Reader.string) <|
  .cons (.required "commandId" Reader.string) <|
  .cons (.required "intentId" Intent.read) <|
  .cons (.required "contract" Reader.string) <|
  .cons (.required "metadata" ContractMetadata.read) .nil

def read : Reader Contract := fun origin node => do
  let (id, generatedAt, projectId, commandId, intent, text, metadata, ()) ←
    fields.read "ResolvedContract" origin node
  return { id, generatedAt, projectId, commandId, intent, text, metadata }

/-- The members of the contract as an object; a part of the stamp is left out when it is not
there. -/
def members (contract : Contract) : List (String × Json) :=
  Json.optionalMember "id" Uuid.toJson contract.id ++
  Json.optionalMember "generatedAt" Instant.toJson contract.generatedAt ++
  Json.textMember "projectId" contract.projectId ++
  Json.textMember "commandId" contract.commandId ++
  Json.textMember "intentId" contract.intent.name ++
  Json.textMember "contract" contract.text ++
  [("metadata", contract.metadata.toJson)]

def toJson (contract : Contract) : Json :=
  .object contract.members

def fingerprint (contract : Contract) : Fingerprint :=
  Fingerprint.of contract.unstamped.toJson.compact

end Contract

end Rulebook
