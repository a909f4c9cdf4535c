import Rulebook.Document.Record
import Rulebook.Files.Basic
import Rulebook.Json.Basic
import Rulebook.Text.Basic

namespace Rulebook

open Document

/-- Where things are, and how much is logged. -/
structure Configuration where
  catalog : Option String
  projects : Option String
  auditLog : Option String
  logLevel : String
  deriving DecidableEq, Repr

/-- What a layer says about the configuration. -/
structure Overrides where
  catalog : Option String
  projects : Option String
  auditLog : Option String
  logLevel : Option String
  deriving DecidableEq, Repr

/-- The names and values of environment variables. -/
abbrev Environment :=
  List (String × String)

namespace Configuration

/-- The configuration when nothing is said. -/
def standard : Configuration :=
  ⟨none, none, none, "info"⟩

def override (configuration : Configuration) (layer : Overrides) : Configuration where
  catalog := layer.catalog <|> configuration.catalog
  projects := layer.projects <|> configuration.projects
  auditLog := layer.auditLog <|> configuration.auditLog
  logLevel := layer.logLevel.getD configuration.logLevel

def fields : Fields [Option String, Option String, Option String, String] :=
  .cons (.optional "catalog" (Reader.text "path string")) <|
  .cons (.optional "projects" (Reader.text "path string")) <|
  .cons (.optional "audit_log" (Reader.text "path string")) <|
  .cons (.defaulted "log_level" Reader.string standard.logLevel) .nil

def read : Reader Configuration := fun origin node => do
  let (catalog, projects, auditLog, logLevel, ()) ← fields.read "CliConfig" origin node
  return { catalog, projects, auditLog, logLevel }

def toJson (configuration : Configuration) : Json :=
  .object
    [("catalog", Json.textOrNull configuration.catalog),
      ("projects", Json.textOrNull configuration.projects),
      ("audit_log", Json.textOrNull configuration.auditLog),
      ("log_level", .text configuration.logLevel)]

/-- The file that is looked for when none is named. -/
def standardFile : String := "covenant.toml"

def ofFile {m : Type → Type} [Monad m] [FileSystem m] (path : String) :
    m (Result Configuration) :=
  loadAs .toml "config" read path

/-- The configuration of the file that is named, else of the standard file if it is there, else the
standard one. -/
def discover {m : Type → Type} [Monad m] [FileSystem m] (path? : Option String) :
    m (Result Configuration) := do
  match path? with
  | some path => ofFile path
  | none =>
      if ← FileSystem.isFile standardFile then ofFile standardFile else return .ok standard

end Configuration

namespace Overrides

def setting? (environment : Environment) (name : String) : Option String :=
  (environment.lookup name).filter fun value => !Text.isBlankText value

def ofEnvironment (environment : Environment) : Overrides where
  catalog := setting? environment "COVENANT_CATALOG"
  projects := setting? environment "COVENANT_PROJECTS"
  auditLog := setting? environment "COVENANT_AUDIT_LOG"
  logLevel := setting? environment "COVENANT_LOG"

end Overrides

namespace Configuration

def logLevels : List String :=
  ["trace", "debug", "info", "warn", "error", "off"]

/-- Refuses a level of logging that there is not; case does not matter. -/
def validate (configuration : Configuration) : Except ConfigError Unit :=
  if logLevels.contains configuration.logLevel.toLower then .ok ()
  else .error (.invalidValue "log_level" configuration.logLevel)

/-- The projects file, which must be known. -/
def projectsPath (configuration : Configuration) : Except ConfigError String :=
  match configuration.projects with
  | some path => .ok path
  | none => .error (.missingSetting "projects")

end Configuration

end Rulebook
