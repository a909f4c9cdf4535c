import Rulebook.Choices
import Rulebook.Document.Reader
import Rulebook.Document.Record
import Rulebook.Json.Basic

namespace Rulebook

/-- Named values, no name twice in any object of them. -/
structure ConstraintMap where
  entries : List (String × Json)
  distinct : (Json.object entries).Distinct

namespace ConstraintMap

@[ext] theorem ext {a b : ConstraintMap} (h : a.entries = b.entries) : a = b := by
  cases a; cases b; simp_all

/-- No constraints. -/
def empty : ConstraintMap :=
  ⟨[], List.nodup_nil, trivial⟩

def isEmpty (map : ConstraintMap) : Bool :=
  map.entries.isEmpty

def get? (map : ConstraintMap) (name : String) : Option Json :=
  OrderedMap.get? name map.entries

/-- The constraints among members that may repeat their names: a repeated name keeps its first
place and takes its last value. -/
def ofMembers (members : List (String × Json)) : ConstraintMap :=
  ⟨OrderedMap.overlay [] (Json.settleMembers members), (Json.object members).settle_distinct⟩

/-- Gives every name of the second map its value there. -/
def overlay (base layer : ConstraintMap) : ConstraintMap :=
  ⟨OrderedMap.overlay base.entries layer.entries,
    Json.distinct_overlay base.distinct layer.distinct⟩

def insert (map : ConstraintMap) (name : String) (value : Json) : ConstraintMap :=
  map.overlay (ofMembers [(name, value)])

def toJson (map : ConstraintMap) : Json :=
  .object map.entries

def read : Document.Reader ConstraintMap :=
  fun origin node => ofMembers <$> Document.Reader.map Document.Reader.json origin node

end ConstraintMap

open Document

/-- The name of the template that a command uses when it names none. -/
def defaultTemplateName : String := "default"

/-- A rule: an instruction for some intents, how strongly it holds, which rules it conflicts with
and what it contributes to the constraints. -/
structure Rule where
  id : String
  title : String
  description : String
  severity : Severity
  appliesTo : IntentSet
  directive : String
  conflictsWith : List String
  contributes : ConstraintMap

namespace Rule

/-- A rule for every intent that says nothing yet. -/
def new (id : String) (severity : Severity) : Rule where
  id := id
  title := id
  description := ""
  severity := severity
  appliesTo := .full
  directive := ""
  conflictsWith := []
  contributes := .empty

def withDirective (rule : Rule) (directive : String) : Rule :=
  { rule with directive := directive }

def withIntents (rule : Rule) (intents : List Intent) : Rule :=
  { rule with appliesTo := .ofList intents }

def addConflict (rule : Rule) (other : String) : Rule :=
  { rule with conflictsWith := rule.conflictsWith ++ [other] }

def contribute (rule : Rule) (name : String) (value : Json) : Rule :=
  { rule with contributes := rule.contributes.insert name value }

def applies (rule : Rule) (intent : Intent) : Bool :=
  rule.appliesTo.contains intent

/-- Whether the rule itself names another as conflicting. -/
def declares (rule : Rule) (other : String) : Bool :=
  rule.conflictsWith.contains other

def fields : Fields [String, String, String, Severity, IntentSet, String, List String,
    ConstraintMap] :=
  .cons (.required "id" Reader.string) <|
  .cons (.required "title" Reader.string) <|
  .cons (.defaulted "description" Reader.string "") <|
  .cons (.required "severity" Severity.read) <|
  .cons { Field.required "appliesTo" IntentSet.read with otherName := some "intents" } <|
  .cons (.required "directive" Reader.string) <|
  .cons (.defaulted "conflictsWith" (Reader.list Reader.string) []) <|
  .cons (.defaulted "contributesConstraints" ConstraintMap.read .empty) .nil

def read : Reader Rule := fun origin node => do
  let (id, title, description, severity, appliesTo, directive, conflictsWith, contributes, ()) ←
    fields.read "RuleDefinition" origin node
  return { id, title, description, severity, appliesTo, directive, conflictsWith, contributes }

/-- The rule as an object. Conflicts and contributions are left out when there are none. -/
def toJson (rule : Rule) : Json :=
  .object <|
    Json.textMember "id" rule.id ++
    Json.textMember "title" rule.title ++
    Json.textMember "description" rule.description ++
    Json.textMember "severity" rule.severity.name ++
    [("appliesTo", rule.appliesTo.toJson)] ++
    Json.textMember "directive" rule.directive ++
    Json.textsMember "conflictsWith" rule.conflictsWith ++
    if rule.contributes.isEmpty then []
    else [("contributesConstraints", rule.contributes.toJson)]

end Rule

/-- A ruleset: rules that always take part and rules that a project may turn on. -/
structure Ruleset where
  id : String
  name : String
  description : String
  ruleIds : List String
  optionalRuleIds : List String
  deriving DecidableEq

namespace Ruleset

/-- A ruleset without rules. -/
def new (id : String) : Ruleset where
  id := id
  name := id
  description := ""
  ruleIds := []
  optionalRuleIds := []

def withName (ruleset : Ruleset) (name : String) : Ruleset :=
  { ruleset with name := name }

def addRule (ruleset : Ruleset) (id : String) : Ruleset :=
  { ruleset with ruleIds := ruleset.ruleIds ++ [id] }

def addOptionalRule (ruleset : Ruleset) (id : String) : Ruleset :=
  { ruleset with optionalRuleIds := ruleset.optionalRuleIds ++ [id] }

/-- The rules the ruleset lists, mandatory ones first. -/
def referenced (ruleset : Ruleset) : List String :=
  ruleset.ruleIds ++ ruleset.optionalRuleIds

def fields : Fields [String, String, String, List String, List String] :=
  .cons (.required "id" Reader.string) <|
  .cons (.required "name" Reader.string) <|
  .cons (.defaulted "description" Reader.string "") <|
  .cons (.defaulted "ruleIds" (Reader.list Reader.string) []) <|
  .cons (.defaulted "optionalRuleIds" (Reader.list Reader.string) []) .nil

def read : Reader Ruleset := fun origin node => do
  let (id, name, description, ruleIds, optionalRuleIds, ()) ←
    fields.read "RulesetDefinition" origin node
  return { id, name, description, ruleIds, optionalRuleIds }

def toJson (ruleset : Ruleset) : Json :=
  .object <|
    Json.textMember "id" ruleset.id ++
    Json.textMember "name" ruleset.name ++
    Json.textMember "description" ruleset.description ++
    [("ruleIds", Json.texts ruleset.ruleIds),
      ("optionalRuleIds", Json.texts ruleset.optionalRuleIds)]

end Ruleset

/-- A stack preset: the technology of a project, with its own constraints. -/
structure StackPreset where
  id : String
  name : String
  description : String
  defaultRulesetId : String
  constraints : ConstraintMap

namespace StackPreset

/-- A preset without constraints. -/
def new (id defaultRulesetId : String) : StackPreset where
  id := id
  name := id
  description := ""
  defaultRulesetId := defaultRulesetId
  constraints := .empty

def withName (preset : StackPreset) (name : String) : StackPreset :=
  { preset with name := name }

def constrain (preset : StackPreset) (name : String) (value : Json) : StackPreset :=
  { preset with constraints := preset.constraints.insert name value }

def fields : Fields [String, String, String, String, ConstraintMap] :=
  .cons (.required "id" Reader.string) <|
  .cons (.required "name" Reader.string) <|
  .cons (.defaulted "description" Reader.string "") <|
  .cons (.required "defaultRulesetId" Reader.string) <|
  .cons (.defaulted "constraints" ConstraintMap.read .empty) .nil

def read : Reader StackPreset := fun origin node => do
  let (id, name, description, defaultRulesetId, constraints, ()) ←
    fields.read "StackPresetDefinition" origin node
  return { id, name, description, defaultRulesetId, constraints }

def toJson (preset : StackPreset) : Json :=
  .object <|
    Json.textMember "id" preset.id ++
    Json.textMember "name" preset.name ++
    Json.textMember "description" preset.description ++
    Json.textMember "defaultRulesetId" preset.defaultRulesetId ++
    [("constraints", preset.constraints.toJson)]

end StackPreset

/-- A command: what is asked for, and the template of its contract. -/
structure Command where
  id : String
  name : String
  intent : Intent
  template : String
  deriving DecidableEq

namespace Command

/-- A command with the default template. -/
def new (id : String) (intent : Intent) : Command where
  id := id
  name := id
  intent := intent
  template := defaultTemplateName

def withName (command : Command) (name : String) : Command :=
  { command with name := name }

def withTemplate (command : Command) (template : String) : Command :=
  { command with template := template }

def fields : Fields [String, String, Intent, String] :=
  .cons (.required "id" Reader.string) <|
  .cons (.required "name" Reader.string) <|
  .cons (.required "intent" Intent.read) <|
  .cons (.defaulted "template" Reader.string defaultTemplateName) .nil

def read : Reader Command := fun origin node => do
  let (id, name, intent, template, ()) ← fields.read "CommandDefinition" origin node
  return { id, name, intent, template }

def toJson (command : Command) : Json :=
  .object <|
    Json.textMember "id" command.id ++
    Json.textMember "name" command.name ++
    Json.textMember "intent" command.intent.name ++
    Json.textMember "template" command.template

end Command

/-- A catalog as it is written down: four lists in any order, nothing checked yet. -/
structure CatalogDocument where
  rules : List Rule
  rulesets : List Ruleset
  stackPresets : List StackPreset
  commands : List Command

namespace CatalogDocument

/-- A document that lists nothing. -/
def empty : CatalogDocument :=
  ⟨[], [], [], []⟩

def fields : Fields [List Rule, List Ruleset, List StackPreset, List Command] :=
  .cons (.defaulted "rules" (Reader.list Rule.read) []) <|
  .cons (.defaulted "rulesets" (Reader.list Ruleset.read) []) <|
  .cons (.defaulted "stackPresets" (Reader.list StackPreset.read) []) <|
  .cons (.defaulted "commands" (Reader.list Command.read) []) .nil

def read : Reader CatalogDocument := fun origin node => do
  let (rules, rulesets, stackPresets, commands, ()) ←
    fields.read "CatalogDocument" origin node
  return { rules, rulesets, stackPresets, commands }

def toJson (document : CatalogDocument) : Json :=
  .object
    [("rules", .array (document.rules.map Rule.toJson)),
      ("rulesets", .array (document.rulesets.map Ruleset.toJson)),
      ("stackPresets", .array (document.stackPresets.map StackPreset.toJson)),
      ("commands", .array (document.commands.map Command.toJson))]

end CatalogDocument

end Rulebook
