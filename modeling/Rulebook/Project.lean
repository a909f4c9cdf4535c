import Rulebook.Document.Record
import Rulebook.Files.Basic
import Rulebook.Index
import Rulebook.Json.Basic

namespace Rulebook

open Document

/-- Rules turned on or off by their ids; a rule that is not named keeps its default. -/
abbrev Toggles :=
  Index (String × Bool) Prod.fst

namespace Toggles

/-- How a rule is toggled, if it is. -/
def state? (toggles : Toggles) (rule : String) : Option Bool :=
  (toggles.get? rule).map Prod.snd

/-- The toggles with one more; a rule toggled before takes the new state. -/
def set (toggles : Toggles) (rule : String) (enabled : Bool) : Toggles :=
  toggles.insert (rule, enabled)

def read : Reader Toggles :=
  fun origin node => Index.ofList <$> Reader.map Reader.boolean origin node

def toJson (toggles : Toggles) : Json :=
  .object (toggles.entries.map fun (rule, enabled) => (rule, .boolean enabled))

end Toggles

/-- A project. -/
structure Project where
  id : String
  name : String
  stackPresetId : String
  activeRulesetId : String
  toggles : Toggles

namespace Project

/-- A project without toggles, named by its id. -/
def new (id stackPresetId activeRulesetId : String) : Project where
  id := id
  name := id
  stackPresetId := stackPresetId
  activeRulesetId := activeRulesetId
  toggles := .empty

def withName (project : Project) (name : String) : Project :=
  { project with name := name }

def toggle (project : Project) (rule : String) (enabled : Bool) : Project :=
  { project with toggles := project.toggles.set rule enabled }

def fields : Fields [String, String, String, String, Toggles] :=
  .cons (.required "id" Reader.string) <|
  .cons (.defaulted "name" Reader.string "") <|
  .cons (.required "stackPresetId" Reader.string) <|
  .cons (.required "activeRulesetId" Reader.string) <|
  .cons (.defaulted "ruleToggles" Toggles.read .empty) .nil

def read : Reader Project := fun origin node => do
  let (id, name, stackPresetId, activeRulesetId, toggles, ()) ←
    fields.read "ProjectConfig" origin node
  return { id, name, stackPresetId, activeRulesetId, toggles }

def toJson (project : Project) : Json :=
  .object <|
    Json.textMember "id" project.id ++
    Json.textMember "name" project.name ++
    Json.textMember "stackPresetId" project.stackPresetId ++
    Json.textMember "activeRulesetId" project.activeRulesetId ++
    [("ruleToggles", project.toggles.toJson)]

end Project

/-- What a contract is asked for. The hints are for those who use the contract and decide nothing
about it. -/
structure Request where
  projectId : String
  commandId : String
  userInput : String
  pathHints : List String
  toolHints : List String
  deriving DecidableEq

namespace Request

/-- A request with nothing but its two ids. -/
def new (projectId commandId : String) : Request where
  projectId := projectId
  commandId := commandId
  userInput := ""
  pathHints := []
  toolHints := []

def withInput (request : Request) (input : String) : Request :=
  { request with userInput := input }

def addPathHint (request : Request) (path : String) : Request :=
  { request with pathHints := request.pathHints ++ [path] }

def addToolHint (request : Request) (tool : String) : Request :=
  { request with toolHints := request.toolHints ++ [tool] }

def fields : Fields [String, String, String, List String, List String] :=
  .cons (.required "projectId" Reader.string) <|
  .cons (.required "commandId" Reader.string) <|
  .cons (.defaulted "userInput" Reader.string "") <|
  .cons (.defaulted "pathHints" (Reader.list Reader.string) []) <|
  .cons (.defaulted "toolHints" (Reader.list Reader.string) []) .nil

def read : Reader Request := fun origin node => do
  let (projectId, commandId, userInput, pathHints, toolHints, ()) ←
    fields.read "ResolveRequest" origin node
  return { projectId, commandId, userInput, pathHints, toolHints }

/-- The request as an object; empty lists of hints are left out. -/
def toJson (request : Request) : Json :=
  .object <|
    Json.textMember "projectId" request.projectId ++
    Json.textMember "commandId" request.commandId ++
    Json.textMember "userInput" request.userInput ++
    Json.textsMember "pathHints" request.pathHints ++
    Json.textsMember "toolHints" request.toolHints

end Request

/-- Where projects are looked up by their ids. -/
structure ProjectStore where
  project? : String → Option Project

/-- Projects by their ids. -/
structure Registry where
  projects : Index Project Project.id

namespace Registry

/-- No projects. -/
def empty : Registry :=
  ⟨.empty⟩

def project? (registry : Registry) (id : String) : Option Project :=
  registry.projects.get? id

/-- The registry as a place where projects are looked up. -/
def store (registry : Registry) : ProjectStore :=
  ⟨registry.project?⟩

instance : Coe Registry ProjectStore :=
  ⟨store⟩

@[simp] theorem project?_store (registry : Registry) (id : String) :
    registry.store.project? id = registry.project? id := rfl

/-- Adds a project and returns the one that it takes the place of. -/
def insert (registry : Registry) (project : Project) : Option Project × Registry :=
  (registry.project? project.id, ⟨registry.projects.insert project⟩)

/-- Adds projects one after the other; the first whose id is there already is an error. -/
def addAll (registry : Registry) : List Project → Except ConfigError Registry
  | [] => .ok registry
  | project :: rest =>
      match registry.insert project with
      | (some _, _) => .error (.duplicateProject project.id)
      | (none, registry) => registry.addAll rest

def ofProjects (projects : List Project) : Except ConfigError Registry :=
  empty.addAll projects

def toList (registry : Registry) : List Project :=
  registry.projects.entries

def size (registry : Registry) : Nat :=
  registry.projects.size

def isEmpty (registry : Registry) : Bool :=
  registry.projects.entries.isEmpty

def readProjects : Reader (List Project) := fun origin node => do
  let fields : Fields [List Project] :=
    .cons (.defaulted "projects" (Reader.list Project.read) []) .nil
  let (projects, ()) ← fields.read "ProjectsDocument" origin node
  return projects

def load {m : Type → Type} [Monad m] [FileSystem m] (path : String) : m (Result Registry) := do
  match ← Document.load "projects" readProjects path with
  | .error error => return .error error
  | .ok projects => return Result.ofExcept .config (ofProjects projects)

end Registry

end Rulebook
