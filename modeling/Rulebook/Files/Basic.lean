import Rulebook.Error
import Rulebook.Json.Parser
import Rulebook.Toml.Parser

namespace Rulebook

namespace Path

def splitSlashes : List Char → List (List Char)
  | [] => [[]]
  | c :: cs =>
      if c = '/' then [] :: splitSlashes cs
      else match splitSlashes cs with
        | [] => [[c]]
        | part :: parts => (c :: part) :: parts

/-- The parts that a path leads through, one after the other. A slash at the end leads through the
last part itself. -/
def parts (path : String) : List String :=
  let names := (splitSlashes path.toList).filter fun part => !part.isEmpty
  let names := if path.toList.getLast? = some '/' then names ++ [['.']] else names
  names.map String.ofList

def isAbsolute (path : String) : Bool :=
  path.toList.head? = some '/'

/-- A path from its end, without slashes and single dots that lead nowhere there. -/
def trimTail : List Char → List Char
  | ['/'] => ['/']
  | '/' :: rest => trimTail rest
  | '.' :: '/' :: rest => trimTail ('/' :: rest)
  | cs => cs
termination_by cs => cs.length

/-- The path that the last part of a path stands in; nothing when there is no last part. -/
def parent? (path : String) : Option String :=
  match trimTail path.toList.reverse with
  | [] | ['/'] => none
  | cs => some (String.ofList (trimTail (cs.dropWhile (· ≠ '/'))).reverse)

/-- The last part of a path, unless it only points to where the path already is or up from there. -/
def fileName? (path : String) : Option String :=
  match ((trimTail path.toList.reverse).takeWhile (· ≠ '/')).reverse with
  | [] | ['.'] | ['.', '.'] => none
  | name => some (String.ofList name)

/-- What follows the last point of the last part, if something stands before it. -/
def extension? (path : String) : Option String := do
  let reversed := (← fileName? path).toList.reverse
  let after := reversed.takeWhile (· ≠ '.')
  match reversed.drop after.length with
  | '.' :: _ :: _ => some (String.ofList after.reverse)
  | _ => none

end Path

/-- The file operations that the program uses. -/
class FileSystem (m : Type → Type) where
  /-- The content of a file. -/
  readBytes : String → m (Except FileFault ByteArray)
  /-- Adds to the end of a file, which is made when it is not there. -/
  appendBytes : String → ByteArray → m (Except FileFault Unit)
  /-- Makes a directory and those around it. -/
  createDirectories : String → m (Except FileFault Unit)
  /-- Whether a path leads to a file or a directory. -/
  pathExists : String → m Bool
  /-- Whether a path leads to a file. -/
  isFile : String → m Bool
  /-- The content of the nearest file of a name, looking from the working directory upwards. -/
  readNearest : String → m (Option ByteArray)

/-- The text of some bytes. -/
def textOfBytes (bytes : ByteArray) : Except FileFault String :=
  match String.fromUTF8? bytes with
  | some text => .ok text
  | none => .error .notText

def readText {m : Type → Type} [Monad m] [FileSystem m] (path : String) :
    m (Except FileFault String) :=
  return (← FileSystem.readBytes path) >>= textOfBytes

namespace Document

def Format.ofPath (path : String) : Except CatalogError Format :=
  match Path.extension? path with
  | some "toml" => .ok .toml
  | some "json" => .ok .json
  | some other => .error (.unsupportedFormat other)
  | none => .error (.unsupportedFormat "<none>")

def Format.read {α : Type} (format : Format) (reader : Reader α) (text : String) :
    Except Fault α :=
  match format with
  | .json => Json.read reader text
  | .toml => Toml.read reader text

/-- Reads a text of a format; a fault names its format. -/
def parse {α : Type} (format : Format) (reader : Reader α) (text : String) : Result α :=
  Result.ofExcept (.document format) (format.read reader text)

/-- Reads a file of a format. The first text says what the file holds. -/
def loadAs {α : Type} {m : Type → Type} [Monad m] [FileSystem m] (format : Format)
    (content : String) (reader : Reader α) (path : String) : m (Result α) := do
  match ← readText path with
  | .error fault =>
      return .error ((Error.of (.file fault)).inContext ("reading " ++ content ++ " " ++ path))
  | .ok text =>
      return (parse format reader text).inContext ("parsing " ++ content ++ " " ++ path)

/-- Reads a file in the format that its extension tells. -/
def load {α : Type} {m : Type → Type} [Monad m] [FileSystem m] (content : String)
    (reader : Reader α) (path : String) : m (Result α) :=
  match Format.ofPath path with
  | .error error => return .error (Error.of (.catalog error))
  | .ok format => loadAs format content reader path

end Document

end Rulebook
