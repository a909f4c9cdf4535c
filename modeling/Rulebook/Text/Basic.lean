namespace Rulebook.Text

/-- The value of a hexadecimal digit in either case. -/
def hexValue? (c : Char) : Option Nat :=
  if '0' ≤ c ∧ c ≤ '9' then some (c.toNat - '0'.toNat)
  else if 'a' ≤ c ∧ c ≤ 'f' then some (c.toNat - 'a'.toNat + 10)
  else if 'A' ≤ c ∧ c ≤ 'F' then some (c.toNat - 'A'.toNat + 10)
  else none

/-- The last `width` hexadecimal digits of a number, in lower case. -/
def hexDigits : Nat → Nat → List Char
  | 0, _ => []
  | width + 1, n => hexDigits width (n / 16) ++ [Nat.digitChar (n % 16)]

/-- The number of hexadecimal digits, continuing one read before. -/
def hexNumber? (start : Nat) : List Char → Option Nat
  | [] => some start
  | c :: cs => do hexNumber? (start * 16 + (← hexValue? c)) cs

/-- The characters with the Unicode property White_Space. -/
def isBlank (c : Char) : Bool :=
  let n := c.toNat
  (9 ≤ n && n ≤ 13) || n == 0x20 || n == 0x85 || n == 0xA0 || n == 0x1680
    || (0x2000 ≤ n && n ≤ 0x200A) || n == 0x2028 || n == 0x2029 || n == 0x202F
    || n == 0x205F || n == 0x3000

def isBlankText (s : String) : Bool :=
  s.toList.all isBlank

def dropBlank (cs : List Char) : List Char :=
  cs.dropWhile isBlank

def dropBlankEnd (cs : List Char) : List Char :=
  (cs.reverse.dropWhile isBlank).reverse

/-- Cuts at every line feed: what stands before the first, between each two, after the last. -/
def pieces : List Char → List (List Char)
  | [] => [[]]
  | c :: cs =>
      if c = '\n' then [] :: pieces cs
      else match pieces cs with
        | [] => [[c]]
        | p :: ps => (c :: p) :: ps

/-- A line without the carriage return before its line feed. -/
def dropReturn (line : List Char) : List Char :=
  match line.getLast? with
  | some '\r' => line.dropLast
  | _ => line

/-- The lines among the pieces: every piece but the last ends at a line feed, and the last counts
only when something stands there. -/
def linesOf : List (List Char) → List (List Char)
  | [] => []
  | [p] => if p.isEmpty then [] else [p]
  | p :: ps => dropReturn p :: linesOf ps

/-- The lines of a text, each without its line feed or carriage return and line feed. -/
def lines (s : String) : List String :=
  (linesOf (pieces s.toList)).map String.ofList

/-- A table of runs, each given by its first and last code point, in ascending order. -/
abbrev Runs :=
  Array (Nat × Nat)

/-- Binary search in the runs from position `lo` to before `hi`, for at most `fuel` halvings. -/
def Runs.search (runs : Runs) (n : Nat) : Nat → Nat → Nat → Bool
  | 0, _, _ => false
  | fuel + 1, lo, hi =>
      if lo < hi then
        let mid := (lo + hi) / 2
        match runs[mid]? with
        | none => false
        | some (first, last) =>
            if n < first then runs.search n fuel lo mid
            else if last < n then runs.search n fuel (mid + 1) hi
            else true
      else false

def Runs.contains (runs : Runs) (n : Nat) : Bool :=
  runs.search n (Nat.log2 runs.size + 1) 0 runs.size

end Rulebook.Text
