import Rulebook.Text.Basic

namespace Rulebook.Toml

/-- A step of reading: a value and the text behind it, or nothing when the text is not sound. -/
abbrev Scan (α : Type) :=
  List Char → Option (α × List Char)

/-- The blanks inside a line. -/
def isGap (c : Char) : Bool :=
  c == ' ' || c == '\t'

/-- The characters that may stand for themselves in a line: all but control characters, and the
tabulator. -/
def isPlain (c : Char) : Bool :=
  c == '\t' || (0x20 ≤ c.toNat && c.toNat != 0x7F)

def skipGaps (cs : List Char) : List Char :=
  cs.dropWhile isGap

def skipNewline? : List Char → Option (List Char)
  | '\n' :: cs => some cs
  | '\r' :: '\n' :: cs => some cs
  | _ => none

/-- The text behind the comment at its front, if there is one. -/
def skipComment : List Char → List Char
  | '#' :: cs => cs.dropWhile isPlain
  | cs => cs

/-- The text behind the rest of a line, in which there may only be blanks and a comment. -/
def endLine? (cs : List Char) : Option (List Char) :=
  match skipComment (skipGaps cs) with
  | [] => some []
  | cs => skipNewline? cs

/-- The text behind blanks, line ends and comments; a comment must end with its line. -/
def skipTrivia? (inComment : Bool) : List Char → Option (List Char)
  | [] => some []
  | '\n' :: cs => skipTrivia? false cs
  | '\r' :: '\n' :: cs => skipTrivia? false cs
  | c :: cs =>
      if inComment then if isPlain c then skipTrivia? true cs else none
      else if c = '#' then skipTrivia? true cs
      else if isGap c then skipTrivia? false cs
      else some (c :: cs)

/-- The character of a number of hexadecimal digits. -/
def scalar? (width : Nat) (digits : List Char) : Option Char := do
  let n ← Text.hexNumber? 0 digits
  if digits.length = width ∧ n.isValidChar then some (Char.ofNat n) else none

/-- The character of an escape whose backslash has been taken, and how long it is. -/
def escape? : List Char → Option (Char × Nat)
  | 'b' :: _ => some ('\x08', 1)
  | 't' :: _ => some ('\t', 1)
  | 'n' :: _ => some ('\n', 1)
  | 'f' :: _ => some ('\x0c', 1)
  | 'r' :: _ => some ('\r', 1)
  | '"' :: _ => some ('"', 1)
  | '\\' :: _ => some ('\\', 1)
  | 'u' :: cs => (scalar? 4 (cs.take 4)).map (·, 5)
  | 'U' :: cs => (scalar? 8 (cs.take 8)).map (·, 9)
  | _ => none

/-- A text of one line whose opening quote has been taken. -/
def scanLine (quote : Char) (escapes : Bool) (cs : List Char) : Option (List Char × List Char) :=
  match cs with
  | [] => none
  | c :: cs =>
      if c = quote then some ([], cs)
      else if escapes && c == '\\' then
        match escape? cs with
        | none => none
        | some (e, length) => do
            let (chars, rest) ← scanLine quote escapes (cs.drop length)
            return (e :: chars, rest)
      else if isPlain c then do
        let (chars, rest) ← scanLine quote escapes cs
        return (c :: chars, rest)
      else none
termination_by cs.length
decreasing_by all_goals (simp only [List.length_drop, List.length_cons]; omega)

/-- How many of the next four characters, from the first one on, are quotes. -/
def countQuotes (quote : Char) (cs : List Char) : Nat :=
  ((cs.take 4).takeWhile (· == quote)).length

/-- A text of several lines whose three opening quotes have been taken. After a backslash at the
end of a line the text is `trimming`: it goes on at the next character that is no blank. Of three to
five quotes in a row the last three end the text. -/
def scanBlock (quote : Char) (escapes trimming : Bool) (cs : List Char) :
    Option (List Char × List Char) :=
  match cs with
  | [] => none
  | '\n' :: cs =>
      if trimming then scanBlock quote escapes true cs
      else do
        let (chars, rest) ← scanBlock quote escapes false cs
        return ('\n' :: chars, rest)
  | '\r' :: '\n' :: cs =>
      if trimming then scanBlock quote escapes true cs
      else do
        let (chars, rest) ← scanBlock quote escapes false cs
        return ('\n' :: chars, rest)
  | c :: cs =>
      if trimming && isGap c then scanBlock quote escapes true cs
      else if c = quote then
        let count := countQuotes quote cs
        if count < 2 then do
          let (chars, rest) ← scanBlock quote escapes false cs
          return (c :: chars, rest)
        else some (List.replicate (count - 2) quote, cs.drop count)
      else if escapes && c == '\\' then
        if (skipNewline? (skipGaps cs)).isSome then scanBlock quote escapes true cs
        else
          match escape? cs with
          | none => none
          | some (e, length) => do
              let (chars, rest) ← scanBlock quote escapes false (cs.drop length)
              return (e :: chars, rest)
      else if isPlain c then do
        let (chars, rest) ← scanBlock quote escapes false cs
        return (c :: chars, rest)
      else none
termination_by cs.length
decreasing_by all_goals (simp only [List.length_drop, List.length_cons]; omega)

/-- A quoted text of one line or of several. A line end right behind three opening quotes does not
count. -/
def scanText : Scan String := fun cs => do
  let (chars, rest) ←
    match cs with
    | '"' :: '"' :: '"' :: cs => scanBlock '"' true false ((skipNewline? cs).getD cs)
    | '\x27' :: '\x27' :: '\x27' :: cs => scanBlock '\x27' false false ((skipNewline? cs).getD cs)
    | '"' :: cs => scanLine '"' true cs
    | '\x27' :: cs => scanLine '\x27' false cs
    | _ => none
  return (String.ofList chars, rest)

end Rulebook.Toml
