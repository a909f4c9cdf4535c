import Rulebook.Document.Node
import Rulebook.Double.Shortest
import Rulebook.Json.Printer
import Rulebook.Text.Quoted

namespace Rulebook.Document

/-- The formats in which documents are written. -/
inductive Format where
  | json
  | toml
  deriving DecidableEq, Repr

/-- What a reader found in place of what it wanted. -/
inductive Found where
  | null
  | boolean (value : Bool)
  | number (value : JsonNumber)
  | word (value : Word)
  | text (value : String)
  | sequence
  | map

/-- What stands at a node, when it can be told. -/
def Node.found? : Node → Option Found
  | .torn | .unreadable => none
  | .null => some .null
  | .boolean b => some (.boolean b)
  | .number n => some (.number n)
  | .word w => some (.word w)
  | .text s => some (.text s)
  | .array _ _ => some .sequence
  | .object _ _ | .moment _ => some .map

/-- Why a reader refuses a document. -/
inductive Fault where
  /-- The text is not well formed where the reader stands. -/
  | malformed
  | missingField (name : String)
  | duplicateField (name : String)
  | unknownVariant (given : String) (known : List String)
  | invalidType (found : Found) (wanted : String)
  | invalidValue (found : Found) (wanted : String)
  | invalidLength (given : Nat) (wanted : String)
  /-- A text that is not of the form asked for. -/
  | invalidText (reason : String)

/-- How a floating-point number is shown in a fault: as it is printed, or with its point in place
where the format has no other form. -/
def Format.doubleStyle : Format → Double.Style
  | .json => Json.numberStyle
  | .toml => .positional

def Format.showNumber (format : Format) : JsonNumber → String
  | .integer i => "integer `" ++ String.ofList (Json.integerChars i.value) ++ "`"
  | .double d => "floating point `" ++ String.ofList (d.text format.doubleStyle) ++ "`"

/-- What was found, in words. -/
def Found.describe (format : Format) : Found → String
  | .null => "null"
  | .boolean b => "boolean `" ++ (if b then "true" else "false") ++ "`"
  | .number n => format.showNumber n
  | .word (.infinity negative) => "floating point `" ++ (if negative then "-inf" else "inf") ++ "`"
  | .word .notANumber => "floating point `NaN`"
  | .text s => "string " ++ Text.quoted s
  | .sequence => "sequence"
  | .map => "map"

def backquoted (name : String) : String :=
  "`" ++ name ++ "`"

/-- The known names of a choice, in words. -/
def describeKnown : List String → String
  | [] => "there are no variants"
  | [a] => "expected " ++ backquoted a
  | [a, b] => "expected " ++ backquoted a ++ " or " ++ backquoted b
  | names => "expected one of " ++ ", ".intercalate (names.map backquoted)

/-- The reason of a fault, in words; a malformed text has none of its own. -/
def Fault.message (format : Format) : Fault → String
  | .malformed => ""
  | .missingField name => "missing field " ++ backquoted name
  | .duplicateField name => "duplicate field " ++ backquoted name
  | .unknownVariant given known =>
      "unknown variant " ++ backquoted given ++ ", " ++ describeKnown known
  | .invalidType found wanted =>
      "invalid type: " ++ found.describe format ++ ", expected " ++ wanted
  | .invalidValue found wanted =>
      "invalid value: " ++ found.describe format ++ ", expected " ++ wanted
  | .invalidLength given wanted =>
      "invalid length " ++ toString given ++ ", expected " ++ wanted
  | .invalidText reason => reason

/-- The fault of a node of the wrong kind: text that cannot be told apart is malformed. -/
def Node.mismatch (node : Node) (wanted : String) : Fault :=
  match node.found? with
  | some found => .invalidType found wanted
  | none => .malformed

end Rulebook.Document
