import Rulebook.Catalog.ConflictGraph
import Rulebook.Error
import Rulebook.Files.Basic
import Rulebook.Index
import Rulebook.Template

/-!
Catalogs: the entries of a document in ascending order of their ids, after every reference among
them was checked. The first violation is the answer: a repeated id in one of the four lists, then
conflicts, then rulesets, then presets, then commands.
-/

namespace Rulebook

/-- A checked catalog. -/
structure Catalog where
  rules : Index Rule Rule.id
  rulesets : Index Ruleset Ruleset.id
  stackPresets : Index StackPreset StackPreset.id
  commands : Index Command Command.id
  conflictGraph : ConflictGraph

namespace Catalog

/-- Entries by their ids, or the first id that comes again. -/
def index {α : Type} {id : α → String} (kind : EntryKind) (entries : List α) :
    Except CatalogError (Index α id) :=
  (Index.ofDistinct entries).mapError (.duplicateId kind)

/-- The first declared conflict of a rule that cannot be. -/
def ruleViolation? (rules : Index Rule Rule.id) (rule : Rule) : Option CatalogError :=
  rule.conflictsWith.findSome? fun other =>
    if other = rule.id then some (.selfConflict rule.id)
    else if rules.contains other then none
    else some (.unknownConflict rule.id other)

def rulesetViolation? (rules : Index Rule Rule.id) (ruleset : Ruleset) : Option CatalogError :=
  ruleset.referenced.findSome? fun rule =>
    if rules.contains rule then none else some (.unknownRulesetRule ruleset.id rule)

def presetViolation? (rulesets : Index Ruleset Ruleset.id) (preset : StackPreset) :
    Option CatalogError :=
  if rulesets.contains preset.defaultRulesetId then none
  else some (.unknownDefaultRuleset preset.id preset.defaultRulesetId)

def commandViolation? (command : Command) : Option CatalogError :=
  if (Template.named? command.template).isSome then none
  else some (.unknownTemplate command.id command.template)

/-- The first reference among the entries that leads nowhere. -/
def violation? (rules : Index Rule Rule.id) (rulesets : Index Ruleset Ruleset.id)
    (stackPresets : Index StackPreset StackPreset.id) (commands : Index Command Command.id) :
    Option CatalogError :=
  rules.entries.findSome? (ruleViolation? rules)
    <|> rulesets.entries.findSome? (rulesetViolation? rules)
    <|> stackPresets.entries.findSome? (presetViolation? rulesets)
    <|> commands.entries.findSome? commandViolation?

def ofDocument (document : CatalogDocument) : Except CatalogError Catalog := do
  let rules ← index .rule document.rules
  let rulesets ← index .ruleset document.rulesets
  let stackPresets ← index .stackPreset document.stackPresets
  let commands ← index .command document.commands
  match violation? rules rulesets stackPresets commands with
  | some error => throw error
  | none =>
      return { rules, rulesets, stackPresets, commands
               conflictGraph := ConflictGraph.ofRules rules.entries }

/-- The document of a catalog, every list in ascending order. -/
def toDocument (catalog : Catalog) : CatalogDocument where
  rules := catalog.rules.entries
  rulesets := catalog.rulesets.entries
  stackPresets := catalog.stackPresets.entries
  commands := catalog.commands.entries

def rule? (catalog : Catalog) (id : String) : Option Rule :=
  catalog.rules.get? id

def ruleset? (catalog : Catalog) (id : String) : Option Ruleset :=
  catalog.rulesets.get? id

def stackPreset? (catalog : Catalog) (id : String) : Option StackPreset :=
  catalog.stackPresets.get? id

def command? (catalog : Catalog) (id : String) : Option Command :=
  catalog.commands.get? id

def ruleCount (catalog : Catalog) : Nat :=
  catalog.rules.size

def conflictCount (catalog : Catalog) : Nat :=
  catalog.conflictGraph.count

open Document

def parse (format : Format) (text : String) : Result CatalogDocument :=
  Document.parse format CatalogDocument.read text

def load {m : Type → Type} [Monad m] [FileSystem m] (path : String) : m (Result Catalog) := do
  match ← Document.load "catalog" CatalogDocument.read path with
  | .error error => return .error error
  | .ok document =>
      return (Result.ofExcept .catalog (ofDocument document)).inContext
        ("validating catalog " ++ path)

end Catalog

end Rulebook
