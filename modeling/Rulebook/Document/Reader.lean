import Rulebook.Document.Fault

namespace Rulebook.Document

/-- Where a node comes from: straight from a JSON text, from a TOML document, or from a value that
was held back whole until its kind was known. -/
inductive Origin where
  | json
  | toml
  | held
  deriving DecidableEq, Repr

/-- Takes a value of type `α` from a node. -/
abbrev Reader (α : Type) :=
  Origin → Node → Except Fault α

namespace Reader

/-- A text. -/
def text (wanted : String) : Reader String
  | _, .text s => .ok s
  | _, node => .error (node.mismatch wanted)

def string : Reader String :=
  text "a string"

def boolean : Reader Bool
  | _, .boolean b => .ok b
  | _, node => .error (node.mismatch "a boolean")

/-- A text of a form: the words say what is wanted where no text stands, and the function reads the
text or says why it cannot. -/
def parsed {α : Type} (wanted : String) (parse : String → Except String α) : Reader α :=
  fun origin node => do
    match parse (← text wanted origin node) with
    | .ok a => .ok a
    | .error reason => .error (.invalidText reason)

/-- A value or `null` in its place. -/
def optional {α : Type} (read : Reader α) : Reader (Option α)
  | _, .null => .ok none
  | origin, node => some <$> read origin node

/-- The items of an array, one after the other. -/
def items {α : Type} (read : Reader α) (origin : Origin) : List Node → Except Fault (List α)
  | [] => .ok []
  | node :: nodes => do
      let a ← read origin node
      return a :: (← items read origin nodes)

def list {α : Type} (read : Reader α) : Reader (List α)
  | origin, .array nodes closed => do
      let values ← items read origin nodes
      if closed then return values else .error .malformed
  | _, node => .error (node.mismatch "a sequence")

def members {α : Type} (read : Reader α) (origin : Origin) :
    List (Node × Node) → Except Fault (List (String × α))
  | [] => .ok []
  | (.text name, node) :: rest => do
      let a ← read origin node
      return (name, a) :: (← members read origin rest)
  | _ :: _ => .error .malformed

/-- The members of an object in order, repeated names and all. -/
def map {α : Type} (read : Reader α) : Reader (List (String × α))
  | origin, .object nodes closed => do
      let values ← members read origin nodes
      if closed then return values else .error .malformed
  | origin, .moment s => members read origin [(.text momentName, .text s)]
  | _, node => .error (node.mismatch "a map")

/-- Any value, as JSON. -/
def json : Reader Json :=
  fun _ node =>
    match node.toJson? with
    | some value => .ok value
    | none => .error .malformed

def variant {α : Type} (variants : List (String × α)) (given : String) : Except Fault α :=
  match variants.lookup given with
  | some a => .ok a
  | none => .error (.unknownVariant given (variants.map Prod.fst))

def variantAt {α : Type} (variants : List (String × α)) : Node → Except Fault α
  | .text given => variant variants given
  | node => .error (node.mismatch "variant identifier")

/-- What may stand for the missing argument of a variant in a TOML document. -/
def emptyArgument : Node → Except Fault Unit
  | .object [] _ | .array [] _ => .ok ()
  | .object _ _ => .error (.invalidText "expected empty table")
  | .array _ _ => .error (.invalidText "expected empty array")
  | .text _ => .error (.invalidText "expected table, found string")
  | .number (.integer _) => .error (.invalidText "expected table, found integer")
  | .number (.double _) | .word _ => .error (.invalidText "expected table, found float")
  | .boolean _ => .error (.invalidText "expected table, found boolean")
  | .moment _ => .error (.invalidText "expected table, found datetime")
  | .null | .torn | .unreadable => .error .malformed

/-- Nothing: what may stand for the missing argument of a variant in a JSON text. -/
def unit : Reader Unit
  | _, .null => .ok ()
  | .held, .object [] _ => .ok ()
  | _, node => .error (node.mismatch "unit")

/-- One of several names. It may also be written as an object with the name as its only member and
nothing as its value. -/
def choice {α : Type} (variants : List (String × α)) : Reader α
  | _, .text given => variant variants given
  | .json, .object ((name, argument) :: rest) closed => do
      let a ← variantAt variants name
      unit .json argument
      if rest.isEmpty && closed then return a else .error .malformed
  | .json, _ => .error .malformed
  | .held, .object [(name, argument)] _ => do
      let a ← variantAt variants name
      unit .held argument
      return a
  | .held, .object _ _ => .error (.invalidValue .map "map with a single key")
  | .held, node => .error (node.mismatch "string or map")
  | .toml, .object [(name, argument)] _ => do
      let a ← variantAt variants name
      emptyArgument argument
      return a
  | .toml, .object [] _ => .error (.invalidText "wanted exactly 1 element, found 0 elements")
  | .toml, .object _ _ => .error (.invalidText "wanted exactly 1 element, more than 1 element")
  | .toml, _ => .error (.invalidText "wanted string or table")

end Reader

end Rulebook.Document
