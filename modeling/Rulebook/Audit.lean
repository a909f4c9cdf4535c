import Rulebook.Block
import Rulebook.Choices
import Rulebook.Contract
import Rulebook.Files.Basic
import Rulebook.Json.Parser
import Rulebook.Text.Basic

/-!
The audit trail: one entry for every attempt to compile a contract, and where entries go. A log file
holds one entry a line; lines are only ever added to it, and a line that is no entry is passed over
when the log is read.
-/

namespace Rulebook.Audit

open Document

/-- A recorded attempt. Which of the optional parts are there follows from how it ended. -/
structure Entry where
  id : Uuid
  recordedAt : Instant
  projectId : String
  commandId : String
  status : Status
  contractId : Option Uuid
  fingerprint : Option Fingerprint
  appliedRules : List String
  reason : Option BlockReason
  message : Option String

namespace Entry

/-- The entry for a stamped contract. -/
def compiled (id : Uuid) (contract : Contract) (fingerprint : Fingerprint)
    (recordedAt : Instant) : Entry where
  id := id
  recordedAt := recordedAt
  projectId := contract.projectId
  commandId := contract.commandId
  status := .ok
  contractId := contract.id
  fingerprint := some fingerprint
  appliedRules := contract.ruleIds
  reason := none
  message := none

def blocked (id : Uuid) (projectId commandId : String) (block : Block)
    (recordedAt : Instant) : Entry where
  id := id
  recordedAt := recordedAt
  projectId := projectId
  commandId := commandId
  status := .blocked
  contractId := none
  fingerprint := none
  appliedRules := []
  reason := some block.reason
  message := some block.message

def fields : Fields [Uuid, Instant, String, String, Status, Option Uuid, Option Fingerprint,
    List String, Option BlockReason, Option String] :=
  .cons (.required "id" Uuid.read) <|
  .cons (.required "recordedAt" Instant.read) <|
  .cons (.required "projectId" Reader.string) <|
  .cons (.required "commandId" Reader.string) <|
  .cons (.required "status" Status.read) <|
  .cons (.optional "contractId" Uuid.read) <|
  .cons (.optional "fingerprint" Fingerprint.read) <|
  .cons (.defaulted "appliedRules" (Reader.list Reader.string) []) <|
  .cons (.optional "reason" BlockReason.read) <|
  .cons (.optional "message" Reader.string) .nil

def read : Reader Entry := fun origin node => do
  let (id, recordedAt, projectId, commandId, status, contractId, fingerprint, appliedRules, reason,
    message, ()) ← fields.read "AuditEntry" origin node
  return { id, recordedAt, projectId, commandId, status, contractId, fingerprint, appliedRules,
           reason, message }

/-- The entry as an object; what is not there is left out. -/
def toJson (entry : Entry) : Json :=
  .object <|
    [("id", entry.id.toJson), ("recordedAt", entry.recordedAt.toJson)] ++
    Json.textMember "projectId" entry.projectId ++
    Json.textMember "commandId" entry.commandId ++
    Json.textMember "status" entry.status.name ++
    Json.optionalMember "contractId" Uuid.toJson entry.contractId ++
    Json.optionalMember "fingerprint" Fingerprint.toJson entry.fingerprint ++
    Json.textsMember "appliedRules" entry.appliedRules ++
    Json.optionalMember "reason" (fun reason => .text (BlockReason.name reason)) entry.reason ++
    Json.optionalMember "message" Json.text entry.message

end Entry

/-- Takes entries in. -/
abbrev Sink (m : Type → Type) :=
  Entry → m (Result Unit)

/-- Forgets every entry. -/
def Sink.discard {m : Type → Type} [Monad m] : Sink m :=
  fun _ => return .ok ()

/-- Keeps entries in memory, the oldest first. -/
def Sink.memory : Sink (StateM (List Entry)) :=
  fun entry => do
    modify (· ++ [entry])
    return .ok ()

def Entry.line (entry : Entry) : String :=
  entry.toJson.compact ++ "\n"

/-- The entry on a line, if it is one. -/
def entryOfLine? (line : String) : Option Entry :=
  if Text.isBlankText line then none else (Json.read Entry.read line).toOption

def entriesOf (content : String) : List Entry :=
  (Text.lines content).filterMap entryOfLine?

/-- A log file. -/
structure LogFile where
  path : String

namespace LogFile

variable {m : Type → Type} [Monad m] [FileSystem m]

/-- A failed use of a file, as an error inside a context. -/
def failure {α : Type} (context : String) (fault : FileFault) : Result α :=
  .error ((Error.of (.file fault)).inContext context)

/-- Prepares a log file at a path: the directory around it is made, the file itself is not. -/
def prepare (path : String) : m (Result LogFile) :=
  match Path.parent? path with
  | none | some "" => return .ok ⟨path⟩
  | some directory => do
      match ← FileSystem.createDirectories directory with
      | .ok () => return .ok ⟨path⟩
      | .error fault => return failure ("creating audit directory " ++ directory) fault

def record (log : LogFile) : Sink m := fun entry => do
  match ← FileSystem.appendBytes log.path entry.line.toUTF8 with
  | .ok () => return .ok ()
  | .error fault => return failure ("opening audit log " ++ log.path) fault

/-- All entries of the log. There are none before the file is made. -/
def readAll (log : LogFile) : m (Result (List Entry)) := do
  if ← FileSystem.pathExists log.path then
    match ← readText log.path with
    | .ok content => return .ok (entriesOf content)
    | .error fault => return failure ("reading audit log " ++ log.path) fault
  else return .ok []

end LogFile

end Rulebook.Audit
