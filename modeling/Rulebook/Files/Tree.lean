import Rulebook.Files.Basic
import Rulebook.OrderedMap

namespace Rulebook

/-- A file with its content, or a directory. -/
inductive FileNode where
  | file (content : ByteArray)
  | directory

/-- What stands at which place, and the directory from which paths start. -/
structure FileTree where
  workingDirectory : List String
  nodes : List (List String × FileNode)

namespace FileTree

/-- A tree with nothing but its working directory. -/
def empty : FileTree :=
  ⟨["work"], [(["work"], .directory)]⟩

def node? (tree : FileTree) (place : List String) : Option FileNode :=
  if place = [] then some .directory else OrderedMap.get? place tree.nodes

def put (tree : FileTree) (place : List String) (node : FileNode) : FileTree :=
  { tree with nodes := OrderedMap.put place node tree.nodes }

def move (place : List String) (part : String) : List String :=
  if part = "." then place
  else if part = ".." then place.dropLast
  else place ++ [part]

/-- The place that parts lead to. All parts but the last must lead to directories, and nothing need
be at the place itself. -/
def walk (tree : FileTree) (place : List String) : List String → Except FileFault (List String)
  | [] => .ok place
  | part :: parts =>
      match tree.node? place with
      | none => .error .notFound
      | some (.file _) => .error .notDirectory
      | some .directory => tree.walk (move place part) parts

def start (tree : FileTree) (path : String) : List String :=
  if Path.isAbsolute path then [] else tree.workingDirectory

def locate (tree : FileTree) (path : String) : Except FileFault (List String) :=
  if path.isEmpty then .error .notFound else tree.walk (tree.start path) (Path.parts path)

def find? (tree : FileTree) (path : String) : Option FileNode :=
  match tree.locate path with
  | .ok place => tree.node? place
  | .error _ => none

def readBytes (tree : FileTree) (path : String) : Except FileFault ByteArray := do
  match tree.node? (← tree.locate path) with
  | none => .error .notFound
  | some .directory => .error .isDirectory
  | some (.file content) => .ok content

/-- The tree with something added to the end of a file. A path that ends with a slash can only lead
to a directory. -/
def appendBytes (tree : FileTree) (path : String) (bytes : ByteArray) :
    Except FileFault FileTree := do
  if path.isEmpty then .error .notFound
  else if path.toList.getLast? = some '/' then do
    let _ ← tree.walk (tree.start path) (Path.parts path).dropLast
    .error .isDirectory
  else
    let place ← tree.locate path
    match tree.node? place with
    | none => .ok (tree.put place (.file bytes))
    | some .directory => .error .isDirectory
    | some (.file content) => .ok (tree.put place (.file (content ++ bytes)))

def isDirectory (tree : FileTree) (base parts : List String) : Bool :=
  match tree.walk base parts with
  | .error _ => false
  | .ok place =>
      match tree.node? place with
      | some .directory => true
      | _ => false

/-- The tree with a new directory where nothing stands yet. -/
def createDirectory (tree : FileTree) (base parts : List String) : Except FileFault FileTree := do
  let place ← tree.walk base parts
  match tree.node? place with
  | none => .ok (tree.put place .directory)
  | some _ => .error .alreadyExists

/-- The tree with a new directory, when there is none, after those that it stands in. The parts are
given from the last to the first. -/
def createAll (tree : FileTree) (base : List String) :
    List String → FileTree × Except FileFault Unit
  | [] => (tree, .ok ())
  | part :: outer =>
      let parts := (part :: outer).reverse
      match tree.createDirectory base parts with
      | .ok tree => (tree, .ok ())
      | .error .notFound =>
          match tree.createAll base outer with
          | (tree, .error fault) => (tree, .error fault)
          | (tree, .ok ()) =>
              match tree.createDirectory base parts with
              | .ok tree => (tree, .ok ())
              | .error fault =>
                  (tree, if tree.isDirectory base parts then .ok () else .error fault)
      | .error fault => (tree, if tree.isDirectory base parts then .ok () else .error fault)

/-- The tree with a directory at a path, and what went wrong. -/
def createDirectories (tree : FileTree) (path : String) : FileTree × Except FileFault Unit :=
  tree.createAll (tree.start path) (Path.parts path).reverse

/-- The nearest file of a name from a place upwards. The place is given from its last name to its
first. -/
def nearest? (tree : FileTree) (name : String) : List String → Option ByteArray
  | [] =>
      match tree.node? [name] with
      | some (.file content) => some content
      | _ => none
  | last :: outer =>
      match tree.node? ((last :: outer).reverse ++ [name]) with
      | some (.file content) => some content
      | _ => tree.nearest? name outer

instance : FileSystem (StateM FileTree) where
  readBytes path := return (← get).readBytes path
  appendBytes path bytes := do
    match (← get).appendBytes path bytes with
    | .ok tree => set tree; return .ok ()
    | .error fault => return .error fault
  createDirectories path := modifyGet fun tree =>
    let (tree, result) := tree.createDirectories path
    (result, tree)
  pathExists path := return ((← get).find? path).isSome
  isFile path := do
    match (← get).find? path with
    | some (.file _) => return true
    | _ => return false
  readNearest name := do
    let tree ← get
    return tree.nearest? name tree.workingDirectory.reverse

end FileTree

end Rulebook
