import Rulebook.Double.Shortest
import Rulebook.Json.Basic

namespace Rulebook.Json

def escaped (c : Char) : List Char :=
  if c = '"' then ['\\', '"']
  else if c = '\\' then ['\\', '\\']
  else if c = '\x08' then ['\\', 'b']
  else if c = '\x0c' then ['\\', 'f']
  else if c = '\n' then ['\\', 'n']
  else if c = '\r' then ['\\', 'r']
  else if c = '\t' then ['\\', 't']
  else if c.toNat < 0x20 then
    ['\\', 'u', '0', '0', Nat.digitChar (c.toNat / 16), Nat.digitChar (c.toNat % 16)]
  else [c]

def textChars (s : String) : List Char :=
  '"' :: s.toList.flatMap escaped ++ ['"']

/-- Numbers stand plain from 0.00001 up to below ten to the sixteenth, and by powers of ten
outside, a positive exponent after a plus sign. -/
def numberStyle : Double.Style :=
  ⟨some (-5), some 15, "+"⟩

/-- The decimal digits of an integer after its sign. -/
def integerChars (i : Int) : List Char :=
  if i < 0 then '-' :: Nat.toDigits 10 i.natAbs else Nat.toDigits 10 i.natAbs

def numberChars : JsonNumber → List Char
  | .integer i => integerChars i.value
  | .double d => d.text numberStyle

mutual

def chars : Json → List Char
  | .null => ['n', 'u', 'l', 'l']
  | .boolean true => ['t', 'r', 'u', 'e']
  | .boolean false => ['f', 'a', 'l', 's', 'e']
  | .number n => numberChars n
  | .text s => textChars s
  | .array [] => ['[', ']']
  | .array (item :: items) => '[' :: chars item ++ itemsTail items
  | .object [] => ['\x7b', '\x7d']
  | .object ((name, value) :: members) =>
      '\x7b' :: textChars name ++ ':' :: chars value ++ membersTail members

/-- What follows an item: the other items, each after a comma, and the closing bracket. -/
def itemsTail : List Json → List Char
  | [] => [']']
  | item :: items => ',' :: chars item ++ itemsTail items

/-- What follows a member: the other members, each after a comma, and the closing brace. -/
def membersTail : List (String × Json) → List Char
  | [] => ['\x7d']
  | (name, value) :: members =>
      ',' :: textChars name ++ ':' :: chars value ++ membersTail members

end

def compact (j : Json) : String :=
  String.ofList j.chars

def newline (level : Nat) : List Char :=
  '\n' :: List.replicate (2 * level) ' '

mutual

/-- The indented form of a value that stands at a level. -/
def indentedChars (level : Nat) : Json → List Char
  | .array (item :: items) =>
      '[' :: newline (level + 1) ++ indentedChars (level + 1) item ++
        indentedItemsTail level items
  | .object ((name, value) :: members) =>
      '\x7b' :: newline (level + 1) ++ textChars name ++ [':', ' '] ++
        indentedChars (level + 1) value ++ indentedMembersTail level members
  | .array [] => ['[', ']']
  | .object [] => ['\x7b', '\x7d']
  | .null => ['n', 'u', 'l', 'l']
  | .boolean true => ['t', 'r', 'u', 'e']
  | .boolean false => ['f', 'a', 'l', 's', 'e']
  | .number n => numberChars n
  | .text s => textChars s

/-- The other items of an array that stands at a level, and its closing bracket. -/
def indentedItemsTail (level : Nat) : List Json → List Char
  | [] => newline level ++ [']']
  | item :: items =>
      ',' :: newline (level + 1) ++ indentedChars (level + 1) item ++
        indentedItemsTail level items

/-- The other members of an object that stands at a level, and its closing brace. -/
def indentedMembersTail (level : Nat) : List (String × Json) → List Char
  | [] => newline level ++ ['\x7d']
  | (name, value) :: members =>
      ',' :: newline (level + 1) ++ textChars name ++ [':', ' '] ++
        indentedChars (level + 1) value ++ indentedMembersTail level members

end

def indented (j : Json) : String :=
  String.ofList (indentedChars 0 j)

end Rulebook.Json
