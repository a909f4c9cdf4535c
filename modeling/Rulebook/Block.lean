import Rulebook.Document.Record
import Rulebook.Json.Basic

namespace Rulebook

open Document

/-- Why there is no contract. -/
inductive BlockReason where
  | unknownCommand
  | missingProject
  | conflictingRules
  | invalidConfiguration
  deriving DecidableEq, Repr

namespace BlockReason

/-- All reasons in their order. -/
def all : List BlockReason :=
  [.unknownCommand, .missingProject, .conflictingRules, .invalidConfiguration]

def name : BlockReason → String
  | .unknownCommand => "unknown_command"
  | .missingProject => "missing_project"
  | .conflictingRules => "conflicting_rules"
  | .invalidConfiguration => "invalid_configuration"

def read : Reader BlockReason :=
  Reader.choice (all.map fun reason => (reason.name, reason))

end BlockReason

/-- Two rules that cannot both hold. -/
structure Conflict where
  a : String
  b : String
  reason : String
  deriving DecidableEq

namespace Conflict

/-- The conflict of two rules of severity error. -/
def betweenErrors (a b : String) : Conflict :=
  ⟨a, b, "Rules " ++ a ++ " and " ++ b ++ " are both errors and conflict with each other"⟩

def pair (conflict : Conflict) : String :=
  conflict.a ++ " <-> " ++ conflict.b

def fields : Fields [String, String, String] :=
  .cons (.required "a" Reader.string) <|
  .cons (.required "b" Reader.string) <|
  .cons (.required "reason" Reader.string) .nil

def read : Reader Conflict := fun origin node => do
  let (a, b, reason, ()) ← fields.read "Conflict" origin node
  return { a, b, reason }

def toJson (conflict : Conflict) : Json :=
  .object <|
    Json.textMember "a" conflict.a ++
    Json.textMember "b" conflict.b ++
    Json.textMember "reason" conflict.reason

end Conflict

/-- The reason that there is no contract, with the conflicting rules if that is the reason. -/
structure Block where
  reason : BlockReason
  message : String
  conflicts : Option (List Conflict)
  deriving DecidableEq

namespace Block

/-- A request for a project that there is not. -/
def missingProject (id : String) : Block :=
  ⟨.missingProject, "Project not found: " ++ id, none⟩

def unknownCommand (id : String) : Block :=
  ⟨.unknownCommand, "Unknown command: " ++ id, none⟩

def invalidConfiguration (message : String) : Block :=
  ⟨.invalidConfiguration, message, none⟩

def conflictingRules (conflicts : List Conflict) : Block where
  reason := .conflictingRules
  message := "Conflicting error rules: " ++ ", ".intercalate (conflicts.map Conflict.pair)
  conflicts := some conflicts

def display (block : Block) : String :=
  block.reason.name ++ ": " ++ block.message

def fields : Fields [BlockReason, String, Option (List Conflict)] :=
  .cons (.required "reason" BlockReason.read) <|
  .cons (.required "message" Reader.string) <|
  .cons (.optional "conflicts" (Reader.list Conflict.read)) .nil

def read : Reader Block := fun origin node => do
  let (reason, message, conflicts, ()) ← fields.read "BlockedResolution" origin node
  return { reason, message, conflicts }

def members (block : Block) : List (String × Json) :=
  Json.textMember "reason" block.reason.name ++
  Json.textMember "message" block.message ++
  Json.optionalMember "conflicts" (fun conflicts => .array (conflicts.map Conflict.toJson))
    block.conflicts

def toJson (block : Block) : Json :=
  .object block.members

end Block

end Rulebook
