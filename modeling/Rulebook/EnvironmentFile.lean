import Rulebook.Configuration
import Rulebook.Text.Alphanumeric
import Rulebook.Text.Basic

/-!
Files that add to the environment. Each line gives a name a value; a value may be quoted, may run
over several lines inside its quotes, and may name other variables. Variables that are set already
are kept, and a line that is not sound ends the file.
-/

namespace Rulebook.EnvironmentFile

/-- Where the reading of a line stands. -/
inductive LineState where
  | bare
  | escaped
  | blank
  | strong
  | strongEscaped
  | weak
  | weakEscaped
  deriving DecidableEq

/-- The state behind a character outside all quotes. -/
def LineState.enter (c : Char) : LineState :=
  if c = '\\' then .escaped
  else if c = '"' then .weak
  else if c = '\x27' then .strong
  else .bare

/-- The state behind a character; nothing when a comment starts there. -/
def LineState.next (state : LineState) (c : Char) : Option LineState :=
  match state with
  | .bare =>
      if Text.isBlank c && c != '\n' && c != '\r' then some .blank else some (.enter c)
  | .blank => if c = '#' then none else some (.enter c)
  | .escaped => some .bare
  | .strong =>
      some (if c = '\\' then .strongEscaped else if c = '\x27' then .bare else .strong)
  | .strongEscaped => some .strong
  | .weak => some (if c = '\\' then .weakEscaped else if c = '"' then .bare else .weak)
  | .weakEscaped => some .weak

/-- The line up to a comment, and the state at its end if there is none. -/
def scanLine (state : LineState) : List Char → List Char × Option LineState
  | [] => ([], some state)
  | c :: cs =>
      match state.next c with
      | none => ([], none)
      | some state =>
          let (taken, final) := scanLine state cs
          (c :: taken, final)

def cutAfter {α : Type} (isEnd : α → Bool) : List α → List (List α)
  | [] => []
  | a :: rest =>
      if isEnd a then [a] :: cutAfter isEnd rest
      else match cutAfter isEnd rest with
        | [] => [[a]]
        | part :: parts => (a :: part) :: parts

/-- The lines of a content with their line feeds, up to the first that is no text. -/
def rawLines (content : List UInt8) : List (List Char) :=
  let texts := (cutAfter (· == 10) content).map fun line => String.fromUTF8? ⟨line.toArray⟩
  (texts.takeWhile Option.isSome).map fun text => (text.getD "").toList

/-- Lines without a byte order mark at their front. -/
def dropMark : List (List Char) → List (List Char)
  | ('\uFEFF' :: line) :: rest => line :: rest
  | lines => lines

def dropLineEnd (line : List Char) : List Char :=
  match line.getLast? with
  | some '\n' => Text.dropReturn line.dropLast
  | _ => line

/-- Joins the lines that belong together because a quote is open at their end; what is still open at
the end of the text is lost. -/
def joinLines (before : List Char) (state : LineState) : List (List Char) → List (List Char)
  | [] => []
  | line :: rest =>
      let whole := before ++ line
      if (Text.dropBlank whole).head? = some '#' then joinLines [] .bare rest
      else
        match scanLine state line with
        | (taken, none) => (before ++ taken) :: joinLines [] .bare rest
        | (_, some .bare) => dropLineEnd whole :: joinLines [] .bare rest
        | (_, some state) => joinLines whole state rest

/-- Where the reading of a value stands. -/
inductive ValueState where
  | plain
  | escaped
  | strong
  /-- Inside the name of a variable. -/
  | name
  /-- Inside the name of a variable between braces. -/
  | braced
  /-- Behind the value. -/
  | ended
  deriving DecidableEq

/-- The value of a variable; nothing at all for one that is not set. -/
def valueOf (environment : Environment) (name : List Char) : List Char :=
  ((environment.lookup (String.ofList name)).getD "").toList

def escaped? : Char → Option Char
  | '\\' => some '\\'
  | '\x27' => some '\x27'
  | '"' => some '"'
  | '$' => some '$'
  | ' ' => some ' '
  | 'n' => some '\n'
  | _ => none

/-- A value without its quotes and escapes and with variables in place of their names; `weak` says
whether double quotes are open. Nothing when quotes or braces stay open, an escape means nothing, or
something other than a comment follows the value. -/
def expand (environment : Environment) (state : ValueState) (weak : Bool) (name : List Char) :
    List Char → Option (List Char)
  | [] =>
      if weak then none
      else match state with
        | .strong | .braced => none
        | .name => some (valueOf environment name)
        | .plain | .escaped | .ended => some []
  | c :: cs =>
      match state with
      | .ended =>
          if c = ' ' ∨ c = '\t' then expand environment .ended weak [] cs
          else if c = '#' then some []
          else none
      | .escaped => do
          let e ← escaped? c
          return e :: (← expand environment .plain weak [] cs)
      | .strong =>
          if c = '\x27' then expand environment .plain weak [] cs
          else (c :: ·) <$> expand environment .strong weak [] cs
      | .name =>
          if Text.isAlphanumeric c then expand environment .name weak (name ++ [c]) cs
          else if c = '\x7b' ∧ name = [] then expand environment .braced weak [] cs
          else if c = '$' then
            (valueOf environment name ++ ·) <$> expand environment .name weak [] cs
          else
            (valueOf environment name ++ c :: ·) <$> expand environment .plain weak [] cs
      | .braced =>
          if c = '\x7d' then
            (valueOf environment name ++ ·) <$> expand environment .plain weak [] cs
          else expand environment .braced weak (name ++ [c]) cs
      | .plain =>
          if c = '$' then expand environment .name weak [] cs
          else if c = '\\' then expand environment .escaped weak [] cs
          else if c = '"' then expand environment .plain (!weak) [] cs
          else if weak then (c :: ·) <$> expand environment .plain weak [] cs
          else if c = '\x27' then expand environment .strong weak [] cs
          else if c = ' ' ∨ c = '\t' then expand environment .ended weak [] cs
          else (c :: ·) <$> expand environment .plain weak [] cs

def isNameChar (c : Char) : Bool :=
  c.isAlphanum || c == '_' || c == '.'

/-- A name, and the text behind it and the blanks that follow. -/
def scanName? : List Char → Option (List Char × List Char)
  | [] => none
  | c :: cs =>
      if c.isAlpha || c == '_' then
        some (c :: cs.takeWhile isNameChar, Text.dropBlank (cs.dropWhile isNameChar))
      else none

/-- The text behind an equals sign and the blanks that follow. -/
def skipEquals? : List Char → Option (List Char)
  | '=' :: cs => some (Text.dropBlank cs)
  | _ => none

/-- The name that a line sets, and the text of its value. The word `export` may stand in front of
the name, and may be a name itself. -/
def scanAssignment? (cs : List Char) : Option (List Char × List Char) := do
  let (name, rest) ← scanName? cs
  match skipEquals? rest with
  | some value => return (name, value)
  | none =>
      if name = "export".toList then do
        let (name, rest) ← scanName? rest
        return (name, ← skipEquals? rest)
      else none

/-- The environment after a line; nothing when the line is not sound. -/
def applyLine? (environment : Environment) (line : List Char) : Option Environment := do
  let cs := Text.dropBlank (Text.dropBlankEnd line)
  if cs.isEmpty ∨ cs.head? = some '#' then return environment
  let (name, rest) ← scanAssignment? cs
  let value ←
    if rest.isEmpty ∨ rest.head? = some '#' then some []
    else expand environment .plain false [] rest
  let name := String.ofList name
  if (environment.lookup name).isSome then return environment
  return environment ++ [(name, String.ofList value)]

/-- The environment after lines, up to the first that is not sound. -/
def applyLines (environment : Environment) : List (List Char) → Environment
  | [] => environment
  | line :: rest =>
      match applyLine? environment line with
      | some environment => applyLines environment rest
      | none => environment

def apply (environment : Environment) (content : ByteArray) : Environment :=
  applyLines environment (joinLines [] .bare (dropMark (rawLines content.toList)))

/-- The environment with what the nearest environment file adds to it, if there is one. -/
def load {m : Type → Type} [Monad m] [FileSystem m] (environment : Environment) :
    m Environment := do
  match ← FileSystem.readNearest ".env" with
  | some content => return apply environment content
  | none => return environment

end Rulebook.EnvironmentFile
