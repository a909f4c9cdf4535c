import Rulebook.Document.Fault

namespace Rulebook

/-- The kinds of entries in a catalog. -/
inductive EntryKind where
  | rule
  | ruleset
  | stackPreset
  | command
  deriving DecidableEq, Repr

/-- A kind in words. -/
def EntryKind.name : EntryKind → String
  | .rule => "rule"
  | .ruleset => "ruleset"
  | .stackPreset => "stack preset"
  | .command => "command"

/-- Why a catalog is refused. -/
inductive CatalogError where
  | duplicateId (kind : EntryKind) (id : String)
  | unknownRulesetRule (ruleset rule : String)
  | unknownConflict (rule other : String)
  | selfConflict (rule : String)
  | unknownDefaultRuleset (preset ruleset : String)
  | unknownTemplate (command template : String)
  | unsupportedFormat (extension : String)
  deriving DecidableEq, Repr

/-- The reason in words. -/
def CatalogError.message : CatalogError → String
  | .duplicateId kind id => "Duplicate " ++ kind.name ++ " id: " ++ id
  | .unknownRulesetRule ruleset rule =>
      "Ruleset " ++ ruleset ++ " references unknown rule " ++ rule
  | .unknownConflict rule other =>
      "Rule " ++ rule ++ " declares a conflict with unknown rule " ++ other
  | .selfConflict rule => "Rule " ++ rule ++ " declares a conflict with itself"
  | .unknownDefaultRuleset preset ruleset =>
      "Stack preset " ++ preset ++ " defaults to unknown ruleset " ++ ruleset
  | .unknownTemplate command template =>
      "Command " ++ command ++ " selects unknown template " ++ template
  | .unsupportedFormat extension => "Unsupported catalog format: " ++ extension

/-- Why a configuration or a list of projects is refused. -/
inductive ConfigError where
  | duplicateProject (id : String)
  | missingSetting (name : String)
  | invalidValue (key value : String)
  deriving DecidableEq, Repr

/-- The reason in words. -/
def ConfigError.message : ConfigError → String
  | .duplicateProject id => "Duplicate project id: " ++ id
  | .missingSetting name => "Missing required setting: " ++ name
  | .invalidValue key value => "Invalid value for " ++ key ++ ": " ++ value

/-- Why a file cannot be used. -/
inductive FileFault where
  | notFound
  | isDirectory
  | notDirectory
  | alreadyExists
  /-- The bytes of the file are no text. -/
  | notText
  /-- Anything else, in the words of the system. -/
  | other (reason : String)
  deriving DecidableEq, Repr

/-- The reason in words. -/
def FileFault.message : FileFault → String
  | .notFound => "no such file or directory"
  | .isDirectory => "is a directory"
  | .notDirectory => "not a directory"
  | .alreadyExists => "file exists"
  | .notText => "file is not valid UTF-8"
  | .other reason => reason

/-- The cause of an error. -/
inductive Cause where
  | catalog (error : CatalogError)
  | config (error : ConfigError)
  | document (format : Document.Format) (fault : Document.Fault)
  | file (fault : FileFault)

namespace Cause

/-- The area a cause belongs to. -/
def area : Cause → String
  | .catalog _ => "Catalog error"
  | .config _ => "Configuration error"
  | .document .json _ => "Serialization error"
  | .document .toml _ => "TOML parse error"
  | .file _ => "IO error"

def reason : Cause → String
  | .catalog error => error.message
  | .config error => error.message
  | .document format fault => fault.message format
  | .file fault => fault.message

def message (cause : Cause) : String :=
  cause.area ++ ": " ++ cause.reason

end Cause

/-- A cause and the contexts around it, the outermost first. -/
structure Error where
  contexts : List String
  cause : Cause

namespace Error

/-- An error without any context. -/
def of (cause : Cause) : Error :=
  ⟨[], cause⟩

def inContext (context : String) (error : Error) : Error :=
  { error with contexts := context :: error.contexts }

def inside (contexts : List String) (inner : String) : String :=
  contexts.foldr (fun context text => context ++ ": " ++ text) inner

def message (error : Error) : String :=
  inside error.contexts error.cause.message

/-- The texts of what is inside contexts: one context less each time, and last the bare reason. -/
def chainOf (cause : Cause) : List String → List String
  | [] => [cause.message, cause.reason]
  | context :: contexts =>
      inside (context :: contexts) cause.message :: chainOf cause contexts

/-- The text of the error and of everything inside it. -/
def chain (error : Error) : List String :=
  chainOf error.cause error.contexts

end Error

/-- Results of operations that may fail. -/
abbrev Result (α : Type) :=
  Except Error α

/-- A result with its error inside one more context. -/
def Result.inContext {α : Type} (context : String) (result : Result α) : Result α :=
  result.mapError (Error.inContext context)

/-- A value, or an error of this cause. -/
def Result.ofExcept {ε α : Type} (cause : ε → Cause) (value : Except ε α) : Result α :=
  value.mapError fun reason => Error.of (cause reason)

theorem bind_eq_ok_iff {ε α β : Type} {x : Except ε α} {f : α → Except ε β} {b : β} :
    (x >>= f) = .ok b ↔ ∃ a, x = .ok a ∧ f a = .ok b := by
  cases x <;> simp [bind, Except.bind]

theorem bind_eq_error_iff {ε α β : Type} {x : Except ε α} {f : α → Except ε β} {e : ε} :
    (x >>= f) = .error e ↔ x = .error e ∨ ∃ a, x = .ok a ∧ f a = .error e := by
  cases x <;> simp [bind, Except.bind]

theorem map_eq_ok_iff {ε α β : Type} {x : Except ε α} {f : α → β} {b : β} :
    f <$> x = .ok b ↔ ∃ a, x = .ok a ∧ f a = b := by
  cases x <;> simp [Functor.map, Except.map]

theorem exists_ok_of_any {ε α : Type} {x : Except ε α} {check : α → Bool}
    (h : x.toOption.any check = true) : ∃ a, x = .ok a ∧ check a = true := by
  cases x with
  | error e => cases h
  | ok a => exact ⟨a, rfl, h⟩

end Rulebook
