import Rulebook.Document.Reader
import Rulebook.Text.Basic

namespace Rulebook

/-- An identifier of 128 bits. -/
structure Uuid where
  bits : BitVec 128
  deriving DecidableEq

namespace Uuid

/-- The identifier of zeros. -/
def nil : Uuid :=
  ⟨0⟩

def digits (id : Uuid) : List Char :=
  Text.hexDigits 32 id.bits.toNat

/-- Digits in groups of eight, four, four, four and twelve. -/
def hyphenate (digits : List Char) : List Char :=
  digits.take 8 ++ '-' :: (digits.drop 8).take 4 ++ '-' :: (digits.drop 12).take 4 ++
    '-' :: (digits.drop 16).take 4 ++ '-' :: digits.drop 20

/-- The written form, in lower case. -/
def text (id : Uuid) : String :=
  String.ofList (hyphenate id.digits)

/-- Why a text is no identifier. -/
inductive Refusal where
  | character (c : Char) (position : Nat)
  | simpleLength (length : Nat)
  | groupCount (count : Nat)
  | groupLength (group : Nat) (expected : Nat) (length : Nat)

/-- A refusal in words. -/
def Refusal.message : Refusal → String
  | .character c position =>
      "invalid character: expected an optional prefix of `urn:uuid:` followed by [0-9a-fA-F-], " ++
        "found `" ++ String.singleton c ++ "` at " ++ toString position
  | .simpleLength length =>
      "invalid length: expected length 32 for simple format, found " ++ toString length
  | .groupCount count => "invalid group count: expected 5, found " ++ toString count
  | .groupLength group expected length =>
      "invalid group length in group " ++ toString group ++ ": expected " ++ toString expected ++
        ", found " ++ toString length

def ofDigits? (digits : List Char) : Option Uuid :=
  if digits.length = 32 then (Text.hexNumber? 0 digits).map fun n => ⟨BitVec.ofNat 128 n⟩
  else none

def ofGroups? (cs : List Char) : Option Uuid :=
  let digits := cs.take 8 ++ (cs.drop 9).take 4 ++ (cs.drop 14).take 4 ++ (cs.drop 19).take 4 ++
    cs.drop 24
  if hyphenate digits = cs then ofDigits? digits else none

/-- The text inside braces or behind a resource name, how much stands before it, and whether it
stands bare. -/
def unwrap (cs : List Char) : List Char × Nat × Bool :=
  match cs with
  | 'u' :: 'r' :: 'n' :: ':' :: 'u' :: 'u' :: 'i' :: 'd' :: ':' :: rest => (rest, 9, false)
  | '\x7b' :: rest =>
      if rest.getLast? = some '\x7d' then (rest.dropLast, 1, false) else (cs, 0, true)
  | _ => (cs, 0, true)

def hyphenPlaces (position : Nat) : List Char → List Nat
  | [] => []
  | '-' :: cs => position :: hyphenPlaces (position + 1) cs
  | _ :: cs => hyphenPlaces (position + 1) cs

/-- Why the text inside its wrapping is refused, given its whole length. -/
def refusal (cs : List Char) (offset : Nat) (bare : Bool) (length : Nat) : Refusal :=
  match cs.findIdx? fun c => c ≠ '-' && (Text.hexValue? c).isNone with
  | some i =>
      .character (cs.getD i '-') ((cs.take i).foldl (fun n c => n + c.utf8Size) (offset + 1))
  | none =>
      match hyphenPlaces 0 cs with
      | [a, b, c, d] =>
          if a ≠ 8 then .groupLength 0 8 a
          else if b ≠ 13 then .groupLength 1 4 (b - 9)
          else if c ≠ 18 then .groupLength 2 4 (c - 14)
          else if d ≠ 23 then .groupLength 3 4 (d - 19)
          else .groupLength 4 12 (length - 24)
      | [] => if bare then .simpleLength length else .groupCount 1
      | places => .groupCount (places.length + 1)

/-- Reads an identifier: 32 digits, or five groups of them, which may stand between braces or
behind `urn:uuid:`. -/
def parse (s : String) : Except Refusal Uuid :=
  let cs := s.toList
  let (inner, offset, bare) := unwrap cs
  let id := if bare then (ofDigits? cs <|> ofGroups? cs) else ofGroups? inner
  match id with
  | some id => .ok id
  | none => .error (refusal inner offset bare s.utf8ByteSize)

def read : Document.Reader Uuid :=
  Document.Reader.parsed "a formatted UUID string" fun s =>
    match parse s with
    | .ok id => .ok id
    | .error r => .error ("UUID parsing failed: " ++ r.message)

def toJson (id : Uuid) : Json :=
  .text id.text

/-- An identifier made of random bits, with the bits that mark it as such. -/
def ofRandom (random : BitVec 128) : Uuid :=
  let marks : BitVec 128 := BitVec.ofNat 128 (4 <<< 76 ||| 2 <<< 62)
  let places : BitVec 128 := BitVec.ofNat 128 (15 <<< 76 ||| 3 <<< 62)
  ⟨(random &&& ~~~places) ||| marks⟩

end Uuid

end Rulebook
