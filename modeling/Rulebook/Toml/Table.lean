import Rulebook.Document.Node

namespace Rulebook.Toml

open Rulebook.Document

/-- How a table came to be. -/
inductive TableKind where
  | headed
  | implied
  | dotted
  deriving DecidableEq

/-- What stands under a key: a finished value, a table, or an array of tables whose last one is
still open. -/
inductive Item where
  | value (node : Node)
  | table (kind : TableKind) (entries : List (String × Item))
  | tables (earlier : List (List (String × Item))) (last : List (String × Item))

/-- The entries of a table in the order in which their keys came. -/
abbrev Table :=
  List (String × Item)

namespace Table

/-- Changes what stands under a key, in its place; a new key comes last. Nothing when the change is
refused. -/
def alter? (key : String) (change : Option Item → Option Item) : Table → Option Table
  | [] => (change none).map fun item => [(key, item)]
  | (k, item) :: rest =>
      if k = key then (change (some item)).map fun item => (k, item) :: rest
      else (alter? key change rest).map ((k, item) :: ·)

/-- Adds a value under the last of several keys, the others being those of the tables around it. The
tables on the way are made when they are not there; one that has a header is closed to this, and the
innermost must have been made in this way too. -/
def addDotted? (key : String) (value : Item) : List String → Table → Option Table
  | [], table =>
      table.alter? key fun
        | none => some value
        | some _ => none
  | outer :: path, table =>
      table.alter? outer fun
        | none => (addDotted? key value path []).map (.table .dotted)
        | some (.table kind inner) =>
            if kind = .headed ∨ (path.isEmpty ∧ kind ≠ .dotted) then none
            else (addDotted? key value path inner).map (.table kind)
        | some (.tables earlier last) =>
            if path.isEmpty then none
            else (addDotted? key value path last).map (.tables earlier)
        | some (.value _) => none

/-- Changes the table at the end of a path, making the tables on the way; of an array of tables the
last one is meant. -/
def descend? (change : Table → Option Table) : List String → Table → Option Table
  | [], table => change table
  | outer :: path, table =>
      table.alter? outer fun
        | none => (descend? change path []).map (.table .implied)
        | some (.table kind inner) => (descend? change path inner).map (.table kind)
        | some (.tables earlier last) => (descend? change path last).map (.tables earlier)
        | some (.value _) => none

/-- A key, the keys of the tables around it, and its value. -/
structure Pair where
  path : List String
  key : String
  value : Item

/-- Adds pairs one after the other. -/
def addPairs? (pairs : List Pair) (table : Table) : Option Table :=
  pairs.foldlM (fun table pair => table.addDotted? pair.key pair.value pair.path) table

/-- The entries of the table that a header may give a body to, and the table without it: a table
that is not there yet or was only implied so far. -/
def takeOpen? (key : String) (table : Table) : Option (Table × Table) :=
  match table.find? fun entry => entry.1 == key with
  | none => some ([], table)
  | some (_, .table .implied inner) =>
      some (inner, table.filter fun entry => entry.1 != key)
  | some _ => none

/-- Adds a table under a header. It stands behind the entries around it even if it was implied
before. -/
def addTable? (path : List String) (key : String) (pairs : List Pair) (root : Table) :
    Option Table :=
  root.descend? (fun parent => do
    let (inner, parent) ← parent.takeOpen? key
    let body ← inner.addPairs? pairs
    return parent ++ [(key, .table .headed body)]) path

def addToArray? (path : List String) (key : String) (pairs : List Pair) (root : Table) :
    Option Table := do
  let body ← addPairs? pairs []
  root.descend? (fun parent => parent.alter? key fun
    | none => some (.tables [] body)
    | some (.tables earlier last) => some (.tables (earlier ++ [last]) body)
    | some _ => none) path

end Table

mutual

def Item.node : Item → Node
  | .value node => node
  | .table _ entries => .object (membersOf entries) true
  | .tables earlier last => .array (arrayOf earlier ++ [.object (membersOf last) true]) true

def membersOf : List (String × Item) → List (Node × Node)
  | [] => []
  | (key, item) :: rest => (.text key, item.node) :: membersOf rest

def arrayOf : List (List (String × Item)) → List Node
  | [] => []
  | table :: rest => .object (membersOf table) true :: arrayOf rest

end

def Table.node (table : Table) : Node :=
  .object (membersOf table) true

end Rulebook.Toml
