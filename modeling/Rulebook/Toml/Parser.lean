import Rulebook.Document.Reader
import Rulebook.Toml.Number
import Rulebook.Toml.Table

namespace Rulebook.Toml

open Rulebook.Document

def isBareKey (c : Char) : Bool :=
  c.isAlphanum || c == '_' || c == '-'

/-- A key, bare or quoted. -/
def scanSimpleKey : Scan String
  | '"' :: cs => (scanLine '"' true cs).map fun (chars, rest) => (String.ofList chars, rest)
  | '\x27' :: cs => (scanLine '\x27' false cs).map fun (chars, rest) => (String.ofList chars, rest)
  | cs =>
      let chars := cs.takeWhile isBareKey
      if chars.isEmpty then none else some (String.ofList chars, cs.dropWhile isBareKey)

/-- Keys with points between them. The first number bounds how many there are. -/
def scanKeys : Nat → Scan (List String)
  | 0, _ => none
  | fuel + 1, cs => do
      let (key, cs) ← scanSimpleKey (skipGaps cs)
      match skipGaps cs with
      | '.' :: cs => do
          let (keys, rest) ← scanKeys fuel cs
          return (key :: keys, rest)
      | rest => return ([key], rest)

/-- One less than this many keys may stand in a row, and as many values inside each other. -/
def nestingLimit : Nat := 80

/-- A dotted key: the keys of the tables around it, and the last one. -/
def scanKey : Scan (List String × String) := fun cs => do
  let (keys, rest) ← scanKeys (nestingLimit - 1) cs
  return ((keys.dropLast, ← keys.getLast?), rest)

/-- A key, its mark, and its value. -/
def scanPair (value : Scan Node) : Scan Table.Pair := fun cs => do
  let ((path, key), cs) ← scanKey cs
  let ((), cs) ← scanMark '=' cs
  let (node, cs) ← value (skipGaps cs)
  return (⟨path, key, .value node⟩, cs)

/-- The items of an array, whose opening bracket has been taken. The first number bounds how many
there are. -/
def scanItems (value : Scan Node) : Nat → Scan (List Node)
  | 0, _ => none
  | fuel + 1, cs => do
      match ← skipTrivia? false cs with
      | ']' :: rest => return ([], rest)
      | cs =>
          let (node, cs) ← value cs
          match ← skipTrivia? false cs with
          | ',' :: cs => do
              let (nodes, rest) ← scanItems value fuel cs
              return (node :: nodes, rest)
          | ']' :: rest => return ([node], rest)
          | _ => none

/-- The pairs of an inline table from the next one on. The first number bounds how many there
are. -/
def scanPairs (value : Scan Node) : Nat → Scan (List Table.Pair)
  | 0, _ => none
  | fuel + 1, cs => do
      let (pair, cs) ← scanPair value cs
      match skipGaps cs with
      | ',' :: cs => do
          let (pairs, rest) ← scanPairs value fuel cs
          return (pair :: pairs, rest)
      | '\x7d' :: rest => return ([pair], rest)
      | _ => none

/-- An inline table whose opening brace has been taken. -/
def scanInlineTable (value : Scan Node) : Scan Node := fun cs => do
  let (pairs, rest) ←
    match skipGaps cs with
    | '\x7d' :: rest => some ([], rest)
    | _ => scanPairs value cs.length cs
  let table ← Table.addPairs? pairs []
  return (table.node, rest)

/-- A value with at most so many arrays and inline tables inside each other. -/
def scanValue : Nat → Scan Node
  | room, cs =>
      match cs with
      | '"' :: _ | '\x27' :: _ => (scanText cs).map fun (s, rest) => (.text s, rest)
      | '[' :: cs =>
          match room with
          | 0 => none
          | room + 1 => do
              let (nodes, rest) ← scanItems (scanValue room) (cs.length + 1) cs
              return (.array nodes true, rest)
      | '\x7b' :: cs =>
          match room with
          | 0 => none
          | room + 1 => scanInlineTable (scanValue room) cs
      | 't' :: 'r' :: 'u' :: 'e' :: rest => some (.boolean true, rest)
      | 'f' :: 'a' :: 'l' :: 's' :: 'e' :: rest => some (.boolean false, rest)
      | _ => scanNumber cs

/-- A statement of a document. -/
inductive Statement where
  | pair (pair : Table.Pair)
  | table (path : List String) (key : String)
  | arrayItem (path : List String) (key : String)

/-- The statements of a text. The first number bounds how many lines there are. -/
def scanStatements : Nat → List Char → Option (List Statement)
  | 0, _ => none
  | fuel + 1, cs =>
      match skipGaps cs with
      | [] => some []
      | '#' :: cs => do scanStatements fuel (← endLine? ('#' :: cs))
      | '\n' :: cs => scanStatements fuel cs
      | '\r' :: '\n' :: cs => scanStatements fuel cs
      | '[' :: '[' :: cs => do
          let ((path, key), cs) ← scanKey cs
          let ((), cs) ← scanMark ']' cs
          let ((), cs) ← scanMark ']' cs
          return .arrayItem path key :: (← scanStatements fuel (← endLine? cs))
      | '[' :: cs => do
          let ((path, key), cs) ← scanKey cs
          let ((), cs) ← scanMark ']' cs
          return .table path key :: (← scanStatements fuel (← endLine? cs))
      | cs => do
          let (pair, cs) ← scanPair (scanValue (nestingLimit - 1)) cs
          return .pair pair :: (← scanStatements fuel (← endLine? cs))

/-- The pairs up to the next header, and the statements from there on. -/
def spanPairs : List Statement → List Table.Pair × List Statement
  | .pair pair :: rest => let (pairs, rest) := spanPairs rest; (pair :: pairs, rest)
  | rest => ([], rest)

theorem spanPairs_length (statements : List Statement) :
    (spanPairs statements).2.length ≤ statements.length := by
  fun_induction spanPairs statements with
  | case1 pair rest pairs rest' _ ih => simp_all; omega
  | case2 => simp

/-- Adds what headers and their pairs say to the tables of a document. -/
def addSections? (root : Table) (statements : List Statement) : Option Table :=
  match statements with
  | [] => some root
  | .pair pair :: rest => do addSections? (← root.addPairs? [pair]) rest
  | .table path key :: rest => do
      let root ← root.addTable? path key (spanPairs rest).1
      addSections? root (spanPairs rest).2
  | .arrayItem path key :: rest => do
      let root ← root.addToArray? path key (spanPairs rest).1
      addSections? root (spanPairs rest).2
termination_by statements.length
decreasing_by
  · simp
  · have := spanPairs_length rest
    simp only [List.length_cons]
    omega
  · have := spanPairs_length rest
    simp only [List.length_cons]
    omega

/-- The document of a text; a byte order mark at its front does not count. -/
def document? (s : String) : Option Node := do
  let cs :=
    match s.toList with
    | '\uFEFF' :: cs => cs
    | cs => cs
  let statements ← scanStatements (cs.length + 1) cs
  let root ← addSections? [] statements
  return root.node

def read {α : Type} (reader : Reader α) (s : String) : Except Fault α :=
  match document? s with
  | none => .error .malformed
  | some node => reader .toml node

end Rulebook.Toml
