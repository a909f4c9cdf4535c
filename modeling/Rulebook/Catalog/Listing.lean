import Rulebook.Catalog.Basic

namespace Rulebook

/-- The styles in use. -/
inductive TextStyle where
  | bold
  | dimmed
  | redBold
  | yellowBold
  | greenBold
  deriving DecidableEq, Repr

/-- The number of a style in the sequence that turns it on. -/
def TextStyle.code : TextStyle → String
  | .bold => "1"
  | .dimmed => "2"
  | .redBold => "1;31"
  | .yellowBold => "1;33"
  | .greenBold => "1;32"

/-- Whether styles are shown. -/
structure Palette where
  shown : Bool
  deriving DecidableEq

namespace Palette

/-- Styles are shown when a variable asks for it; else only on a terminal, and there unless a
variable forbids it. -/
def ofEnvironment (environment : List (String × String)) (terminal : Bool) : Palette :=
  if (environment.lookup "CLICOLOR_FORCE").any (· != "0") then ⟨true⟩
  else if (environment.lookup "NO_COLOR").isSome then ⟨false⟩
  else ⟨terminal && (environment.lookup "CLICOLOR").all (· != "0")⟩

def paint (palette : Palette) (style : TextStyle) (text : String) : String :=
  if palette.shown then "\x1b[" ++ style.code ++ "m" ++ text ++ "\x1b[0m" else text

end Palette

namespace Catalog

def padTo (width : Nat) (text : String) : String :=
  text ++ String.ofList (List.replicate (width - text.length) ' ')

def idColumn (id : String) : String :=
  "  " ++ padTo 32 id ++ " "

/-- The lines on a rule: what it is, and what it conflicts with. -/
def ruleLines (palette : Palette) (graph : ConflictGraph) (rule : Rule) : List String :=
  let intents := ", ".intercalate (rule.appliesTo.toList.map Intent.name)
  (idColumn rule.id ++ padTo 5 rule.severity.name ++ " [" ++ intents ++ "]") ::
    (graph.neighbors rule.id).map fun other =>
      "      " ++ palette.paint .dimmed "conflicts with" ++ " " ++ other

def rulesetLines (ruleset : Ruleset) : List String :=
  [idColumn ruleset.id ++ ruleset.name,
    "      mandatory: " ++ ", ".intercalate ruleset.ruleIds] ++
  if ruleset.optionalRuleIds.isEmpty then []
  else ["      optional:  " ++ ", ".intercalate ruleset.optionalRuleIds]

def presetLine (preset : StackPreset) : String :=
  idColumn preset.id ++ preset.name ++ " (default ruleset: " ++ preset.defaultRulesetId ++ ")"

def commandLine (command : Command) : String :=
  idColumn command.id ++ padTo 8 command.intent.name ++ " " ++ command.name

/-- The lines of the listing, a heading before each kind of entry. -/
def listing (palette : Palette) (catalog : Catalog) : List String :=
  let heading (title : String) : String := palette.paint .bold title
  [heading "RULES"] ++
  catalog.rules.entries.flatMap (ruleLines palette catalog.conflictGraph) ++
  ["", heading "RULESETS"] ++
  catalog.rulesets.entries.flatMap rulesetLines ++
  ["", heading "STACK PRESETS"] ++
  catalog.stackPresets.entries.map presetLine ++
  ["", heading "COMMANDS"] ++
  catalog.commands.entries.map commandLine

end Catalog

end Rulebook
