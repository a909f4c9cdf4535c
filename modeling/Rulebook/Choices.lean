import Rulebook.Document.Reader

namespace Rulebook

/-- What a command is for. -/
inductive Intent where
  | generate
  | refactor
  | review
  deriving DecidableEq, Repr

namespace Intent

/-- All intents in their order. -/
def all : List Intent :=
  [.generate, .refactor, .review]

def name : Intent → String
  | .generate => "generate"
  | .refactor => "refactor"
  | .review => "review"

def label : Intent → String
  | .generate => "CODE GENERATION"
  | .refactor => "CODE REFACTORING"
  | .review => "CODE REVIEW"

def ofName? (name : String) : Option Intent :=
  all.find? fun intent => intent.name == name

def unknownMessage (name : String) : String :=
  "unknown intent: " ++ name

def read : Document.Reader Intent :=
  Document.Reader.choice (all.map fun intent => (intent.name, intent))

end Intent

/-- A set of intents. -/
structure IntentSet where
  generate : Bool
  refactor : Bool
  review : Bool
  deriving DecidableEq, Repr

namespace IntentSet

/-- Whether an intent belongs to the set. -/
def contains (set : IntentSet) : Intent → Bool
  | .generate => set.generate
  | .refactor => set.refactor
  | .review => set.review

def toList (set : IntentSet) : List Intent :=
  Intent.all.filter set.contains

def ofList (intents : List Intent) : IntentSet :=
  ⟨intents.contains .generate, intents.contains .refactor, intents.contains .review⟩

def full : IntentSet :=
  ⟨true, true, true⟩

@[simp] theorem contains_ofList (intents : List Intent) (intent : Intent) :
    (ofList intents).contains intent = intents.contains intent := by
  cases intent <;> rfl

theorem ofList_toList (set : IntentSet) : ofList set.toList = set := by
  obtain ⟨a, b, c⟩ := set
  cases a <;> cases b <;> cases c <;> rfl

def read : Document.Reader IntentSet :=
  fun origin node => ofList <$> Document.Reader.list Intent.read origin node

def toJson (set : IntentSet) : Json :=
  .array (set.toList.map fun intent => .text intent.name)

end IntentSet

/-- How strongly a rule holds. -/
inductive Severity where
  | error
  | warn
  | info
  deriving DecidableEq, Repr

namespace Severity

/-- All severities, strongest first. -/
def all : List Severity :=
  [.error, .warn, .info]

def name : Severity → String
  | .error => "error"
  | .warn => "warn"
  | .info => "info"

/-- Whether a rule of this severity must never be dropped. -/
def isError (severity : Severity) : Bool :=
  severity == .error

def read : Document.Reader Severity :=
  Document.Reader.choice (all.map fun severity => (severity.name, severity))

end Severity

/-- How a request ended: with a contract or with a block. -/
inductive Status where
  | ok
  | blocked
  deriving DecidableEq, Repr

namespace Status

/-- Both of them. -/
def all : List Status :=
  [.ok, .blocked]

def name : Status → String
  | .ok => "ok"
  | .blocked => "blocked"

def variants : List (String × Status) :=
  all.map fun status => (status.name, status)

def read : Document.Reader Status :=
  Document.Reader.choice variants

end Status

end Rulebook
