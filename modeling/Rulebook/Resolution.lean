import Rulebook.Block
import Rulebook.Catalog.Basic
import Rulebook.Catalog.ConflictGraph
import Rulebook.Catalog.Definition
import Rulebook.Outcome
import Rulebook.Project

/-!
From a request to a contract or a block. What the request refers to is looked up first, and the
first reference that leads nowhere blocks. Then come the rules that take part and the conflicts
among them: every two rules are looked at once, in order; of two that conflict the weaker one is
dropped, of two equally strong ones the later, and two rules of severity error block. A dropped rule
drops no other. The rules that remain contribute to the constraints and fill the template.
-/

namespace Rulebook.Resolution

/-- Everything that a resolution looks at. -/
structure Context where
  project : Project
  command : Command
  stackPreset : StackPreset
  ruleset : Ruleset
  catalog : Catalog

namespace Context

/-- A value, or a block in its place. -/
def require {α : Type} (value? : Option α) (block : Block) : Except Block α :=
  match value? with
  | some a => .ok a
  | none => .error block

def load (catalog : Catalog) (projects : ProjectStore) (request : Request) :
    Except Block Context := do
  let project ← require (projects.project? request.projectId) (.missingProject request.projectId)
  let command ← require (catalog.command? request.commandId) (.unknownCommand request.commandId)
  let stackPreset ← require (catalog.stackPreset? project.stackPresetId) <|
    .invalidConfiguration <|
      "Project " ++ project.id ++ " uses unknown stack preset: " ++ project.stackPresetId
  let ruleset ← require (catalog.ruleset? project.activeRulesetId) <|
    .invalidConfiguration <|
      "Project " ++ project.id ++ " uses unknown ruleset: " ++ project.activeRulesetId
  return { project, command, stackPreset, ruleset, catalog }

end Context

/-- The ids that a ruleset and the toggles put forward: all mandatory ones, and the optional ones
that are turned on. -/
def candidates (ruleset : Ruleset) (toggles : Toggles) : Index String id :=
  Index.ofList <| ruleset.ruleIds ++
    ruleset.optionalRuleIds.filter fun rule => toggles.state? rule == some true

def isActive (candidates : Index String id) (toggles : Toggles) (intent : Intent) (rule : Rule) :
    Bool :=
  candidates.contains rule.id && toggles.state? rule.id != some false && rule.applies intent

/-- The rules that take part, in ascending order of their ids; rules of one id keep their order. -/
def activeRules (rules : List Rule) (candidates : Index String id) (toggles : Toggles)
    (intent : Intent) : List Rule :=
  (rules.filter (isActive candidates toggles intent)).mergeSort fun a b => a.id ≤ b.id

/-- What becomes of two rules that conflict. -/
inductive Verdict where
  | block
  | dropFirst
  | dropSecond
  deriving DecidableEq, Repr

/-- The verdict on two rules by their severities. -/
def settle : Severity → Severity → Verdict
  | .error, .error => .block
  | .error, .warn | .error, .info => .dropSecond
  | .warn, .error | .info, .error => .dropFirst
  | .warn, .info => .dropSecond
  | .info, .warn => .dropFirst
  | .warn, .warn | .info, .info => .dropSecond

/-- Whether two rules conflict: the graph knows it, or one of them says so. -/
def inConflict (graph : ConflictGraph) (a b : Rule) : Bool :=
  graph.conflicts a.id b.id || a.declares b.id || b.declares a.id

/-- Every two items of a list, the earlier one first, in the order of the first and then of the
second. -/
def orderedPairs {α : Type} : List α → List (α × α)
  | [] => []
  | a :: rest => rest.map (fun b => (a, b)) ++ orderedPairs rest

/-- A scan under way: the positions of the dropped rules, and the conflicts found. -/
structure Scan where
  dropped : List Nat
  conflicts : List Conflict

/-- Looks at two rules and their positions. -/
def Scan.step (graph : ConflictGraph) (scan : Scan) (pair : (Rule × Nat) × (Rule × Nat)) : Scan :=
  let ((a, i), (b, j)) := pair
  if scan.dropped.contains i || scan.dropped.contains j || !inConflict graph a b then scan
  else
    match settle a.severity b.severity with
    | .block => { scan with conflicts := scan.conflicts ++ [Conflict.betweenErrors a.id b.id] }
    | .dropFirst => { scan with dropped := i :: scan.dropped }
    | .dropSecond => { scan with dropped := j :: scan.dropped }

def scan (graph : ConflictGraph) (active : List Rule) : Scan :=
  (orderedPairs active.zipIdx).foldl (Scan.step graph) ⟨[], []⟩

/-- What is left of the rules that take part: some of them, or nothing but conflicts. -/
inductive Settlement where
  | resolved (rules : List Rule)
  | blocked (conflicts : List Conflict)

/-- Settles all conflicts among rules. -/
def settleAll (graph : ConflictGraph) (active : List Rule) : Settlement :=
  let final := scan graph active
  if final.conflicts.isEmpty then
    .resolved ((active.zipIdx.filter fun (_, i) => !final.dropped.contains i).map Prod.fst)
  else .blocked final.conflicts

/-- The constraints of a preset, overlaid with the contributions of rules one after the other. -/
def compileConstraints (preset : StackPreset) (rules : List Rule) : ConstraintMap :=
  rules.foldl (fun constraints rule => constraints.overlay rule.contributes) preset.constraints

/-- The contract of a request that these rules remain for. -/
def contractOf (request : Request) (context : Context) (rules : List Rule) : Contract :=
  let constraints := compileConstraints context.stackPreset rules
  let template := (Template.named? context.command.template).getD Template.standard
  { id := none
    generatedAt := none
    projectId := request.projectId
    commandId := request.commandId
    intent := context.command.intent
    text := template.fill context.command.intent rules constraints context.stackPreset.name
    metadata :=
      { stackPresetId := context.stackPreset.id
        appliedRules := rules.map fun rule => ⟨rule.id, rule.severity⟩
        constraints := constraints
        stopConditions := Template.stopConditions } }

def Context.activeRules (context : Context) : List Rule :=
  let toggles := context.project.toggles
  Resolution.activeRules context.catalog.rules.entries (candidates context.ruleset toggles) toggles
    context.command.intent

/-- The outcome of a request whose references are known. -/
def resolveIn (request : Request) (context : Context) : Resolution :=
  match settleAll context.catalog.conflictGraph context.activeRules with
  | .blocked conflicts => .blocked (.conflictingRules conflicts)
  | .resolved rules => .contract (contractOf request context rules)

def resolve (catalog : Catalog) (projects : ProjectStore) (request : Request) : Resolution :=
  match Context.load catalog projects request with
  | .ok context => resolveIn request context
  | .error block => .blocked block

end Rulebook.Resolution
