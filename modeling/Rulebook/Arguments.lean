import Rulebook.Configuration
import Rulebook.Project

/-!
Command-line arguments: options that are known everywhere, then a task with options of its own. An
option known everywhere may stand on either side of the task's name, and counts as it stands behind
it when it stands on both.
-/

namespace Rulebook.Arguments

/-- How often an option may be given, and what may follow it. -/
inductive OptionKind where
  /-- Once, without a value. -/
  | flag
  /-- Once, with a path. -/
  | path
  /-- Once, with any value. -/
  | text
  /-- As often as wanted, with any value. -/
  | texts
  deriving DecidableEq

/-- An option by its long name, and by a single letter if it has one. -/
structure OptionSpec where
  name : String
  letter : Option Char
  kind : OptionKind

/-- What can be said at one place: options, names of tasks, and whether the version can be asked
for. -/
structure Level where
  options : List OptionSpec
  tasks : List String
  hasVersion : Bool

/-- Why there is nothing to run. -/
inductive Stop where
  | help
  | version
  | usage
  deriving DecidableEq, Repr

/-- Options as they were given, with their values. -/
abbrev Given :=
  List (String × String)

/-- Adds an option with its value. -/
def accept (given : Given) (option : OptionSpec) (value : String) : Except Stop Given :=
  if option.kind = .path ∧ value.isEmpty then .error .usage
  else if option.kind ≠ .texts ∧ (given.lookup option.name).isSome then .error .usage
  else .ok (given ++ [(option.name, value)])

def takeLetters (level : Level) (given : Given) : List Char → Except Stop Given
  | [] => .ok given
  | c :: cs =>
      if c = 'h' then .error .help
      else if c = 'V' ∧ level.hasVersion then .error .version
      else
        match level.options.find? fun option => option.letter == some c with
        | some option => do takeLetters level (← accept given option "") cs
        | none => .error .usage

/-- A long option, cut at its first equals sign. -/
def splitValue (cs : List Char) : String × Option String :=
  let name := cs.takeWhile (· ≠ '=')
  match cs.drop name.length with
  | _ :: value => (String.ofList name, some (String.ofList value))
  | [] => (String.ofList name, none)

/-- Whether an argument may be the value of the option before it. -/
def isValue (argument : String) : Bool :=
  argument == "-" || argument.toList.head? != some '-'

/-- A task's name and the arguments behind it. -/
abbrev Tail :=
  Option (String × List String)

/-- Takes options up to the name of a task. -/
def scan (level : Level) (given : Given) : List String → Except Stop (Given × Tail)
  | [] => .ok (given, none)
  | argument :: rest =>
      if level.tasks.contains argument then .ok (given, some (argument, rest))
      else
        match argument.toList with
        | ['-', '-'] => if rest.isEmpty then .ok (given, none) else .error .usage
        | '-' :: '-' :: cs =>
            match splitValue cs with
            | ("help", none) => .error .help
            | ("version", none) =>
                if level.hasVersion then .error .version else .error .usage
            | (name, value?) =>
                match level.options.find? fun option => option.name == name with
                | none => .error .usage
                | some option =>
                    match option.kind, value? with
                    | .flag, none => do scan level (← accept given option "") rest
                    | .flag, some _ => .error .usage
                    | _, some value => do scan level (← accept given option value) rest
                    | _, none =>
                        match rest with
                        | [] => .error .usage
                        | value :: rest =>
                            if isValue value then do
                              scan level (← accept given option value) rest
                            else .error .usage
        | '-' :: c :: cs => do scan level (← takeLetters level given (c :: cs)) rest
        | _ => .error .usage

def commonOptions : List OptionSpec :=
  [⟨"config", none, .path⟩, ⟨"catalog", none, .path⟩, ⟨"projects", none, .path⟩,
    ⟨"audit-log", none, .path⟩, ⟨"verbose", some 'v', .flag⟩]

def taskOptions : String → List OptionSpec
  | "resolve" =>
      [⟨"project", none, .text⟩, ⟨"command", none, .text⟩, ⟨"input", none, .text⟩,
        ⟨"path", none, .texts⟩, ⟨"tool", none, .texts⟩, ⟨"json", none, .flag⟩]
  | "catalog" => [⟨"json", none, .flag⟩]
  | _ => []

def tasks : List String :=
  ["resolve", "catalog", "check"]

def outerLevel : Level :=
  ⟨commonOptions, tasks ++ ["help"], true⟩

def innerLevel (task : String) : Level :=
  ⟨commonOptions ++ taskOptions task, [], false⟩

/-- What is to be done. -/
inductive Task where
  | resolve (request : Request) (json : Bool)
  | catalog (json : Bool)
  | check
  deriving DecidableEq

/-- A task, and the options that are known everywhere. -/
structure Invocation where
  configFile : Option String
  catalog : Option String
  projects : Option String
  auditLog : Option String
  verbose : Bool
  task : Task
  deriving DecidableEq

/-- What the options say about the configuration. -/
def Invocation.flags (invocation : Invocation) : Overrides where
  catalog := invocation.catalog
  projects := invocation.projects
  auditLog := invocation.auditLog
  logLevel := if invocation.verbose then some "debug" else none

/-- The values of an option that may be given often. -/
def valuesOf (given : Given) (name : String) : List String :=
  (given.filter fun option => option.1 == name).map Prod.snd

def hasFlag (given : Given) (name : String) : Bool :=
  (given.lookup name).isSome

/-- The task of a name with these options; nothing when one is missing that it must have. -/
def taskOf? (name : String) (given : Given) : Option Task :=
  match name with
  | "resolve" => do
      let request := Request.new (← given.lookup "project") (← given.lookup "command")
      return .resolve
        { request with
          userInput := (given.lookup "input").getD ""
          pathHints := valuesOf given "path"
          toolHints := valuesOf given "tool" }
        (hasFlag given "json")
  | "catalog" => some (.catalog (hasFlag given "json"))
  | "check" => some .check
  | _ => none

/-- What is asked for behind the word `help`. -/
def helpOn : List String → Stop
  | [] => .help
  | [topic] => if outerLevel.tasks.contains topic then .help else .usage
  | _ => .usage

def parse (arguments : List String) : Except Stop Invocation := do
  let (outer, tail) ← scan outerLevel [] arguments
  match tail with
  | none => throw .usage
  | some ("help", topics) => throw (helpOn topics)
  | some (name, rest) =>
      let (inner, _) ← scan (innerLevel name) [] rest
      let value? (option : String) : Option String := inner.lookup option <|> outer.lookup option
      match taskOf? name inner with
      | none => throw .usage
      | some task =>
          return {
            configFile := value? "config"
            catalog := value? "catalog"
            projects := value? "projects"
            auditLog := value? "audit-log"
            verbose := (value? "verbose").isSome
            task := task }

end Rulebook.Arguments
