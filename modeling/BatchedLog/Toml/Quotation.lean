import BatchedLog.Toml.Scalar

/-!
# TOML strings

Basic strings have escapes, literal ones have none; either may run over several lines between
threefold quotes. Line breaks in a string are read as `\n` however they are written, and one right
after the opening quotes does not count.
-/

namespace BatchedLog.Toml

def isBlank (c : Char) : Bool := c = ' ' || c = '\t'

/-- What may stand in a line besides its end: no control character but the tab. -/
def isLineChar (c : Char) : Bool := c = '\t' || (0x20 ≤ c.toNat && c.toNat != 0x7f)

/-- A line break, if the text starts with one. -/
def dropNewline? : List Char → Option (List Char)
  | '\n' :: rest => some rest
  | '\r' :: '\n' :: rest => some rest
  | _ => none

def readCodePoint (width : Nat) (s : List Char) : Read Char :=
  let ds := s.take width
  if ds.length = width ∧ ds.all isHexDigit then
    let n := number 16 ds
    if n.isValidChar then some (Char.ofNat n, s.drop width) else none
  else none

/-- What follows a backslash. -/
def readEscape : List Char → Read Char
  | 'b' :: rest => some ('\x08', rest)
  | 't' :: rest => some ('\t', rest)
  | 'n' :: rest => some ('\n', rest)
  | 'f' :: rest => some ('\x0c', rest)
  | 'r' :: rest => some ('\r', rest)
  | '"' :: rest => some ('"', rest)
  | '\\' :: rest => some ('\\', rest)
  | 'u' :: rest => readCodePoint 4 rest
  | 'U' :: rest => readCodePoint 8 rest
  | _ => none

/-- Blanks and line breaks. -/
def dropBlankLines : List Char → List Char
  | '\n' :: rest => dropBlankLines rest
  | '\r' :: '\n' :: rest => dropBlankLines rest
  | ' ' :: rest => dropBlankLines rest
  | '\t' :: rest => dropBlankLines rest
  | rest => rest

/-- After a backslash: blanks up to the end of the line, and all blank lines after it. -/
def dropContinuation? (s : List Char) : Option (List Char) :=
  (dropNewline? (s.dropWhile isBlank)).map dropBlankLines

/-- Closing quotes of a string over several lines: up to two more in front of them belong to it. -/
def closing? (quote : Char) (s : List Char) : Option (Nat × List Char) :=
  let run := (s.takeWhile (· = quote)).length
  if 3 ≤ run then
    let extra := min (run - 3) 2
    some (extra, s.drop (extra + 3))
  else none

def finish (acc : List Char) (quote : Char) (extra : Nat) : String :=
  String.ofList (acc.reverse ++ List.replicate extra quote)

/-- The characters of a basic string after its opening quote; `acc` holds those read, last first,
and `fuel` may be the length of the text. -/
def readBasic (fuel : Nat) (acc s : List Char) : Read String :=
  match fuel, s with
  | _, '"' :: rest => some (String.ofList acc.reverse, rest)
  | fuel + 1, '\\' :: rest =>
    match readEscape rest with
    | some (c, rest) => readBasic fuel (c :: acc) rest
    | none => none
  | fuel + 1, c :: rest => if isLineChar c then readBasic fuel (c :: acc) rest else none
  | _, _ => none

def readBasicLines (fuel : Nat) (acc s : List Char) : Read String :=
  match closing? '"' s with
  | some (extra, rest) => some (finish acc '"' extra, rest)
  | none =>
    match fuel, s with
    | fuel + 1, '\\' :: rest =>
      match dropContinuation? rest with
      | some rest => readBasicLines fuel acc rest
      | none =>
        match readEscape rest with
        | some (c, rest) => readBasicLines fuel (c :: acc) rest
        | none => none
    | fuel + 1, c :: rest =>
      match dropNewline? (c :: rest) with
      | some rest => readBasicLines fuel ('\n' :: acc) rest
      | none => if isLineChar c then readBasicLines fuel (c :: acc) rest else none
    | _, _ => none

def readLiteral (acc : List Char) : List Char → Read String
  | [] => none
  | '\'' :: rest => some (String.ofList acc.reverse, rest)
  | c :: rest => if isLineChar c then readLiteral (c :: acc) rest else none

def readLiteralLines (fuel : Nat) (acc s : List Char) : Read String :=
  match closing? '\'' s with
  | some (extra, rest) => some (finish acc '\'' extra, rest)
  | none =>
    match fuel, s with
    | fuel + 1, c :: rest =>
      match dropNewline? (c :: rest) with
      | some rest => readLiteralLines fuel ('\n' :: acc) rest
      | none => if isLineChar c then readLiteralLines fuel (c :: acc) rest else none
    | _, _ => none

/-- A string on one line. -/
def readLineString : List Char → Read String
  | '"' :: rest => readBasic rest.length [] rest
  | '\'' :: rest => readLiteral [] rest
  | _ => none

def readString (s : List Char) : Read String :=
  match s with
  | '"' :: '"' :: '"' :: rest =>
    let rest := (dropNewline? rest).getD rest
    readBasicLines rest.length [] rest
  | '\'' :: '\'' :: '\'' :: rest =>
    let rest := (dropNewline? rest).getD rest
    readLiteralLines rest.length [] rest
  | s => readLineString s

end BatchedLog.Toml
