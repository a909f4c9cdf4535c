import Rulebook.Arguments
import Rulebook.Catalog.Basic
import Rulebook.Catalog.Builtin
import Rulebook.Catalog.Listing
import Rulebook.EnvironmentFile
import Rulebook.Service

/-!
The command line: arguments, files and the environment in, an exit code and two texts out. The code
is 0 when the task is done, 2 when a request is blocked or the arguments make no sense, and 1 when
something fails.
-/

namespace Rulebook.Program

/-- How a run ends. -/
structure Report where
  code : UInt8
  output : String
  errors : String
  deriving DecidableEq

/-- Lines of text. -/
def unlines (lines : List String) : String :=
  String.join (lines.map (· ++ "\n"))

def Report.done (lines : List String) : Report :=
  ⟨0, unlines lines, ""⟩

/-- A run that failed, with the lines it wrote before and the texts that say why. -/
def Report.failed (palette : Palette) (lines : List String) (reasons : List String) : Report :=
  ⟨1, unlines lines, palette.paint .redBold "error:" ++ " " ++ ": ".intercalate reasons ++ "\n"⟩

variable {m : Type → Type} [Monad m] [FileSystem m]

def openCatalog (configuration : Configuration) : m (Result Catalog) :=
  match configuration.catalog with
  | some path => Catalog.load path
  | none => return Catalog.builtin

def openProjects (configuration : Configuration) : m (Result Registry) :=
  match configuration.projectsPath with
  | .ok path => Registry.load path
  | .error error => return .error (Error.of (.config error))

def openSink (configuration : Configuration) : m (Result (Audit.Sink m)) := do
  match configuration.auditLog with
  | none => return .ok Audit.Sink.discard
  | some path =>
      match ← Audit.LogFile.prepare path with
      | .ok log => return .ok log.record
      | .error error => return .error error

def blockLines (palette : Palette) (block : Block) : List String :=
  (palette.paint .redBold "BLOCKED" ++ " " ++ block.display) ::
    (block.conflicts.getD []).map fun conflict =>
      "  " ++ conflict.pair ++ ": " ++ conflict.reason

def reportOutcome (palette : Palette) (json : Bool) (outcome : Outcome) : Report :=
  let code : UInt8 := if outcome.isBlocked then 2 else 0
  if json then ⟨code, unlines [outcome.toJson.indented], ""⟩
  else
    match outcome with
    | .contract stamped => ⟨code, unlines [stamped.contract.text], ""⟩
    | .blocked block => ⟨code, "", unlines (blockLines palette block)⟩

def runResolve (palette : Palette) (configuration : Configuration) (ticket : Ticket)
    (request : Request) (json : Bool) : m Report := do
  match ← openCatalog configuration with
  | .error error => return .failed palette [] error.chain
  | .ok catalog =>
      match ← openProjects configuration with
      | .error error => return .failed palette [] error.chain
      | .ok projects =>
          match ← openSink configuration with
          | .error error => return .failed palette [] error.chain
          | .ok sink =>
              let outcome ← Service.compile ⟨catalog, projects⟩ sink ticket request
              return reportOutcome palette json outcome

def runCatalog (palette : Palette) (configuration : Configuration) (json : Bool) : m Report := do
  match ← openCatalog configuration with
  | .error error => return .failed palette [] error.chain
  | .ok catalog =>
      if json then return .done [catalog.toDocument.toJson.indented]
      else return .done (catalog.listing palette)

/-- An issue on one line, behind its level. -/
def issueLine (palette : Palette) (issue : Issue) : String :=
  let level :=
    match issue.level with
    | .error => palette.paint .redBold "error"
    | .warning => palette.paint .yellowBold "warning"
  level ++ " " ++ issue.display

def runCheck (palette : Palette) (configuration : Configuration) : m Report := do
  let good := palette.paint .greenBold "ok"
  match ← openCatalog configuration with
  | .error error => return .failed palette [] ("catalog is invalid" :: error.chain)
  | .ok catalog =>
      let head := good ++ " catalog: " ++ toString catalog.ruleCount ++ " rules, " ++
        toString catalog.conflictCount ++ " conflicts"
      match ← openProjects configuration with
      | .error error => return .failed palette [head] ("projects are invalid" :: error.chain)
      | .ok projects =>
          let issues := Issue.ofProjects catalog projects.toList
          let lines := head :: issues.map (issueLine palette)
          let errors := issues.countP fun issue => issue.level == .error
          if 0 < errors then
            return .failed palette lines [toString errors ++ " project configuration error(s)"]
          else
            return .done (lines ++ [good ++ " " ++ toString projects.size ++ " project(s)"])

def configure (environment : Environment) (invocation : Arguments.Invocation) :
    m (Result Configuration) := do
  match ← Configuration.discover invocation.configFile with
  | .error error => return .error error
  | .ok configuration =>
      let configuration :=
        (configuration.override (Overrides.ofEnvironment environment)).override invocation.flags
      match configuration.validate with
      | .ok () => return .ok configuration
      | .error error => return .error (Error.of (.config error))

def runInvocation (palette : Palette) (environment : Environment) (ticket : Ticket)
    (invocation : Arguments.Invocation) : m Report := do
  match ← configure environment invocation with
  | .error error => return .failed palette [] error.chain
  | .ok configuration =>
      match invocation.task with
      | .resolve request json => runResolve palette configuration ticket request json
      | .catalog json => runCatalog palette configuration json
      | .check => runCheck palette configuration

def usage : List String :=
  ["Usage: covenant [OPTIONS] <COMMAND>",
    "",
    "Commands:",
    "  resolve  Compile a contract for a project and command",
    "  catalog  List rules, rulesets, stack presets and commands",
    "  check    Validate the catalog and every project against it",
    "  help     Print this message",
    "",
    "Options:",
    "      --config <FILE>     Config file (default: ./covenant.toml when present)",
    "      --catalog <FILE>    Catalog file, TOML or JSON (default: built-in catalog)",
    "      --projects <FILE>   Projects file, TOML or JSON",
    "      --audit-log <FILE>  Append every resolution attempt to this JSON Lines file",
    "  -v, --verbose           Enable verbose debug logging",
    "  -h, --help              Print help",
    "  -V, --version           Print version"]

def name : String := "covenant"

def reportStop : Arguments.Stop → Report
  | .help => .done usage
  | .version => .done [name ++ " " ++ productVersion]
  | .usage => ⟨2, "", unlines ("error: invalid arguments" :: "" :: usage)⟩

/-- A whole run. `terminal` says whether the output goes to a terminal. -/
def run (environment : Environment) (terminal : Bool) (ticket : Ticket)
    (arguments : List String) : m Report := do
  let environment ← EnvironmentFile.load environment
  match Arguments.parse arguments with
  | .error stop => return reportStop stop
  | .ok invocation =>
      let palette := Palette.ofEnvironment environment terminal
      runInvocation palette environment ticket invocation

end Rulebook.Program
