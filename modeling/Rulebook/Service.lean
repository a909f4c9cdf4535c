import Rulebook.Audit
import Rulebook.Catalog.Basic
import Rulebook.Project
import Rulebook.Resolution

/-!
The service around resolution: it stamps contracts and sees that every attempt is recorded, and a
record that fails does not change the outcome. The check of projects tells what is wrong with them
before anything is asked for them.
-/

namespace Rulebook

def productName : String := "covenant-core"

def productVersion : String := "0.1.0"

/-- What an attempt needs from outside: the time, an id for a contract and one for the entry. -/
structure Ticket where
  time : Instant
  contractId : Uuid
  entryId : Uuid

/-- A catalog and the projects that use it. -/
structure Service where
  catalog : Catalog
  projects : ProjectStore

namespace Service

/-- The outcome of a request, without a stamp and without a record. -/
def resolve (service : Service) (request : Request) : Resolution :=
  Resolution.resolve service.catalog service.projects request

def outcome (service : Service) (ticket : Ticket) (request : Request) : Outcome :=
  match service.resolve request with
  | .blocked block => .blocked block
  | .contract contract =>
      .contract ⟨contract.stamp ticket.contractId ticket.time, contract.fingerprint⟩

def entryOf (ticket : Ticket) (request : Request) : Outcome → Audit.Entry
  | .contract stamped => .compiled ticket.entryId stamped.contract stamped.fingerprint ticket.time
  | .blocked block =>
      .blocked ticket.entryId request.projectId request.commandId block ticket.time

def compile {m : Type → Type} [Monad m] (service : Service) (sink : Audit.Sink m)
    (ticket : Ticket) (request : Request) : m Outcome := do
  let outcome := service.outcome ticket request
  let _ ← sink (entryOf ticket request outcome)
  return outcome

def describe (service : Service) : String :=
  "ContractService \x7b rules: " ++ toString service.catalog.ruleCount ++ ", .. \x7d"

end Service

/-- How grave an issue is. -/
inductive IssueLevel where
  | error
  | warning
  deriving DecidableEq, Repr

/-- Something wrong with a project. -/
structure Issue where
  projectId : String
  level : IssueLevel
  message : String
  deriving DecidableEq

namespace Issue

/-- The issue on one line. -/
def display (issue : Issue) : String :=
  issue.projectId ++ ": " ++ issue.message

/-- The issue of a toggle, if it has one. -/
def ofToggle? (catalog : Catalog) (ruleset? : Option Ruleset) (rule : String) : Option String :=
  if (catalog.rule? rule).isNone then some ("toggle for unknown rule " ++ rule)
  else
    match ruleset? with
    | none => none
    | some ruleset =>
        if ruleset.referenced.contains rule then none
        else some ("toggle for " ++ rule ++ " outside ruleset " ++ ruleset.id)

def ofProject (catalog : Catalog) (project : Project) : List Issue :=
  let ruleset? := catalog.ruleset? project.activeRulesetId
  let presetIssues :=
    if (catalog.stackPreset? project.stackPresetId).isSome then []
    else [⟨project.id, .error, "unknown stack preset " ++ project.stackPresetId⟩]
  let rulesetIssues :=
    if ruleset?.isSome then []
    else [⟨project.id, .error, "unknown ruleset " ++ project.activeRulesetId⟩]
  let toggleIssues := project.toggles.entries.filterMap fun (rule, _) =>
    (ofToggle? catalog ruleset? rule).map fun message => ⟨project.id, .warning, message⟩
  presetIssues ++ rulesetIssues ++ toggleIssues

/-- The issues of projects, one project after the other. -/
def ofProjects (catalog : Catalog) (projects : List Project) : List Issue :=
  projects.flatMap (ofProject catalog)

end Issue

end Rulebook
