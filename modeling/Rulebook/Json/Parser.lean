import Rulebook.Document.Reader
import Rulebook.Json.Numeral
import Rulebook.Text.Basic

namespace Rulebook.Json

open Rulebook.Document

def isGap (c : Char) : Bool :=
  c == ' ' || c == '\n' || c == '\t' || c == '\r'

def skipGaps (cs : List Char) : List Char :=
  cs.dropWhile isGap

/-- A part of a text between quotes: a character, or a unit of 16 bits given by its number. -/
inductive Piece where
  | char (c : Char)
  | unit (n : Nat)

/-- The character that a short escape stands for. -/
def shortEscape? : Char → Option Char
  | '"' => some '"'
  | '\\' => some '\\'
  | '/' => some '/'
  | 'b' => some '\x08'
  | 'f' => some '\x0c'
  | 'n' => some '\n'
  | 'r' => some '\r'
  | 't' => some '\t'
  | _ => none

/-- The parts of a text up to its closing quote, and what follows; nothing when it is not sound:
no closing quote, a bare control character or an escape that there is not. -/
def scanPieces : List Char → Option (List Piece × List Char)
  | [] => none
  | '"' :: cs => some ([], cs)
  | '\\' :: 'u' :: a :: b :: c :: d :: cs => do
      let n ← Text.hexNumber? 0 [a, b, c, d]
      let (pieces, rest) ← scanPieces cs
      return (.unit n :: pieces, rest)
  | '\\' :: e :: cs => do
      let c ← shortEscape? e
      let (pieces, rest) ← scanPieces cs
      return (.char c :: pieces, rest)
  | c :: cs =>
      if c = '\\' ∨ c.toNat < 0x20 then none
      else do
        let (pieces, rest) ← scanPieces cs
        return (.char c :: pieces, rest)

def isLeading (n : Nat) : Bool :=
  0xD800 ≤ n && n < 0xDC00

def isTrailing (n : Nat) : Bool :=
  0xDC00 ≤ n && n < 0xE000

/-- The characters of the parts; nothing when half of a surrogate pair stands alone. -/
def joinPieces : List Piece → Option (List Char)
  | [] => some []
  | .char c :: pieces => (c :: ·) <$> joinPieces pieces
  | .unit n :: .unit m :: pieces =>
      if isTrailing n then none
      else if isLeading n then
        if isTrailing m then
          (Char.ofNat (0x10000 + (n - 0xD800) * 0x400 + (m - 0xDC00)) :: ·) <$> joinPieces pieces
        else none
      else (Char.ofNat n :: ·) <$> joinPieces (.unit m :: pieces)
  | .unit n :: pieces =>
      if isLeading n || isTrailing n then none else (Char.ofNat n :: ·) <$> joinPieces pieces

/-- The node of a text whose opening quote has been taken. -/
def textNode (cs : List Char) : Node × List Char :=
  match scanPieces cs with
  | none => (.torn, [])
  | some (pieces, rest) =>
      match joinPieces pieces with
      | none => (.unreadable, rest)
      | some chars => (.text (String.ofList chars), rest)

def numberNode (cs : List Char) : Node × List Char :=
  match scanNumeral cs with
  | none => (.torn, [])
  | some (numeral, rest) =>
      match numeral.value? with
      | none => (.unreadable, rest)
      | some n => (.number n, rest)

/-- The deepest level at which an array or object can be taken in. -/
def deepestLevel : Nat := 127

def atLevel (level : Nat) (node : Node) : Node :=
  if level ≤ deepestLevel then node else if node.isWhole then .unreadable else .torn

mutual

/-- The node at the front of a text, inside `level` arrays and objects, and the text behind it;
a torn node leaves none. The first number bounds the recursion. -/
def scanNode : Nat → Nat → List Char → Node × List Char
  | 0, _, _ => (.torn, [])
  | fuel + 1, level, cs =>
      match skipGaps cs with
      | 'n' :: 'u' :: 'l' :: 'l' :: rest => (.null, rest)
      | 't' :: 'r' :: 'u' :: 'e' :: rest => (.boolean true, rest)
      | 'f' :: 'a' :: 'l' :: 's' :: 'e' :: rest => (.boolean false, rest)
      | '"' :: rest => textNode rest
      | '[' :: rest =>
          match skipGaps rest with
          | ']' :: rest => (atLevel (level + 1) (.array [] true), rest)
          | _ =>
              let (items, closed, rest) := scanItems fuel (level + 1) rest
              (atLevel (level + 1) (.array items closed), rest)
      | '\x7b' :: rest =>
          match skipGaps rest with
          | '\x7d' :: rest => (atLevel (level + 1) (.object [] true), rest)
          | _ =>
              let (members, closed, rest) := scanMembers fuel (level + 1) rest
              (atLevel (level + 1) (.object members closed), rest)
      | c :: rest =>
          if c = '-' ∨ c.isDigit then numberNode (c :: rest) else (.torn, [])
      | [] => (.torn, [])

/-- The items of an array from the next one on, whether its end was met, and the text behind. -/
def scanItems : Nat → Nat → List Char → List Node × Bool × List Char
  | 0, _, _ => ([], false, [])
  | fuel + 1, level, cs =>
      let (item, rest) := scanNode fuel level cs
      match skipGaps rest with
      | ',' :: rest =>
          let (items, closed, rest) := scanItems fuel level rest
          (item :: items, closed, rest)
      | ']' :: rest => ([item], true, rest)
      | _ => ([item], false, [])

/-- The members of an object from the next one on, whether its end was met, and the text behind.
A name that is no text is the last thing taken. -/
def scanMembers : Nat → Nat → List Char → List (Node × Node) × Bool × List Char
  | 0, _, _ => ([], false, [])
  | fuel + 1, level, cs =>
      let (name, rest) := scanNode fuel level cs
      if name.isName then
        match skipGaps rest with
        | ':' :: rest =>
            let (value, rest) := scanNode fuel level rest
            match skipGaps rest with
            | ',' :: rest =>
                let (members, closed, rest) := scanMembers fuel level rest
                ((name, value) :: members, closed, rest)
            | '\x7d' :: rest => ([(name, value)], true, rest)
            | _ => ([(name, value)], false, [])
        | _ => ([(name, .torn)], false, [])
      else ([(name, .torn)], false, [])

end

/-- The document of a text, and the text behind it. -/
def document (s : String) : Node × List Char :=
  scanNode (2 * s.toList.length + 2) 0 s.toList

/-- Reads a whole text: behind the document there may only be blanks. -/
def read {α : Type} (reader : Reader α) (s : String) : Except Fault α := do
  let (node, rest) := document s
  let value ← reader .json node
  if (skipGaps rest).isEmpty then return value else .error .malformed

end Rulebook.Json
