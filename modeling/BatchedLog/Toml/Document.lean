import BatchedLog.Toml.Quotation
import BatchedLog.Toml.Tree

/-!
# TOML documents

A document is a sequence of lines: headers, keys with values, comments and blanks. Each line is read
and entered into the tree of tables. `read` gives the whole document as a table, or nothing if the
text is not a document.

Values nest to 79 levels, and a dotted key has at most 79 parts.
-/

namespace BatchedLog.Toml

def isBareChar (c : Char) : Bool := c.isAlphanum || c = '-' || c = '_'

def skipBlanks (s : List Char) : List Char := s.dropWhile isBlank

/-- One part of a key. -/
def readPart (s : List Char) : Option (String × List Char) :=
  match s with
  | '"' :: _ | '\'' :: _ => readLineString s
  | s =>
    let name := s.takeWhile isBareChar
    if name.isEmpty then none else some (String.ofList name, s.dropWhile isBareChar)

/-- The parts of a key, with blanks around each. -/
def readParts : Nat → List Char → Option (List String × List Char)
  | 0, _ => none
  | fuel + 1, s => do
    let (part, s) ← readPart (skipBlanks s)
    match skipBlanks s with
    | '.' :: rest => do
      let (parts, rest) ← readParts fuel rest
      some (part :: parts, rest)
    | rest => some ([part], rest)

/-- The most parts a key may have. -/
def maxParts : Nat := 79

/-- The most levels values may nest. -/
def maxDepth : Nat := 79

/-- A key, split into the path to a table and the name in it. -/
def readKey (s : List Char) : Option ((List String × String) × List Char) := do
  let (parts, rest) ← readParts s.length s
  if parts.length ≤ maxParts then some ((parts.dropLast, parts.getLastD ""), rest) else none

/-- A comment up to the end of its line. -/
def skipComment (s : List Char) : List Char := s.dropWhile isLineChar

/-- Blanks, line breaks and whole comments. -/
def skipVoid : Nat → List Char → List Char
  | 0, s => s
  | fuel + 1, s =>
    match skipBlanks s with
    | '#' :: rest =>
      match dropNewline? (skipComment rest) with
      | some rest => skipVoid fuel rest
      | none => '#' :: rest
    | rest =>
      match dropNewline? rest with
      | some rest => skipVoid fuel rest
      | none => rest

mutual
def readValue (fuel depth : Nat) (s : List Char) : Option (Toml × List Char) :=
  match fuel with
  | 0 => none
  | fuel + 1 =>
    match s with
    | '"' :: _ | '\'' :: _ => (readString s).map fun (text, rest) => (.string text, rest)
    | '[' :: rest =>
      match depth with
      | 0 => none
      | depth + 1 => (readItems fuel depth rest).map fun (items, rest) => (.array items, rest)
    | '{' :: rest =>
      match depth with
      | 0 => none
      | depth + 1 =>
        match skipBlanks rest with
        | '}' :: rest => some (.table [], rest)
        | rest =>
          (readPairs fuel depth [] rest).map fun (es, rest) => (.table (entriesToToml es), rest)
    | 't' :: _ | 'f' :: _ => readTruth s
    | 'i' :: _ | 'n' :: _ => readFloat s
    | '+' :: _ | '-' :: _ => readNumeric s
    | c :: _ => if c.isDigit then readNumeric s else none
    | [] => none

/-- The items of an array up to its closing bracket; a comma may follow the last. -/
def readItems (fuel depth : Nat) (s : List Char) : Option (List Toml × List Char) :=
  match fuel with
  | 0 => none
  | fuel + 1 =>
    match skipVoid s.length s with
    | ']' :: rest => some ([], rest)
    | s =>
      (readValue fuel depth s).bind fun (v, s) =>
        match skipVoid s.length s with
        | ',' :: rest => (readItems fuel depth rest).map fun (vs, rest) => (v :: vs, rest)
        | ']' :: rest => some ([v], rest)
        | _ => none

/-- The keys and values of an inline table up to its closing brace. -/
def readPairs (fuel depth : Nat) (es : Entries) (s : List Char) : Option (Entries × List Char) :=
  match fuel with
  | 0 => none
  | fuel + 1 =>
    (readKey s).bind fun ((path, key), s) =>
      match s with
      | '=' :: rest =>
        (readValue fuel depth (skipBlanks rest)).bind fun (v, s) =>
          (assign [] path key v es).bind fun es =>
            match skipBlanks s with
            | ',' :: rest => readPairs fuel depth es rest
            | '}' :: rest => some (es, rest)
            | _ => none
      | _ => none
end

/-- The end of a line, after blanks and a comment. -/
def endLine? (s : List Char) : Option (List Char) :=
  let s :=
    match skipBlanks s with
    | '#' :: rest => skipComment rest
    | rest => rest
  if s.isEmpty then some [] else dropNewline? s

/-- The tree so far, and the table that keys go to. -/
structure Draft where
  root : Entries
  header : List String

def Draft.empty : Draft := ⟨[], []⟩

/-- Read one line into the tree. -/
def readLine (draft : Draft) (s : List Char) : Option (Draft × List Char) :=
  match skipBlanks s with
  | [] => some (draft, [])
  | '#' :: rest => (endLine? ('#' :: rest)).map fun rest => (draft, rest)
  | '[' :: '[' :: rest => do
    let ((path, key), rest) ← readKey rest
    let rest ← expect ']' rest
    let rest ← expect ']' rest
    let rest ← endLine? rest
    let root ← openElement path key draft.root
    some (⟨root, path ++ [key]⟩, rest)
  | '[' :: rest => do
    let ((path, key), rest) ← readKey rest
    let rest ← expect ']' rest
    let rest ← endLine? rest
    let root ← openTable path key draft.root
    some (⟨root, path ++ [key]⟩, rest)
  | s =>
    match dropNewline? s with
    | some rest => some (draft, rest)
    | none => do
      let ((path, key), rest) ← readKey s
      let rest ← expect '=' rest
      let rest := skipBlanks rest
      let (v, rest) ← readValue (2 * rest.length + 2) maxDepth rest
      let rest ← endLine? rest
      let root ← assign draft.header path key v draft.root
      some ({ draft with root }, rest)

def readLines : Nat → Draft → List Char → Option Draft
  | 0, draft, s => if s.isEmpty then some draft else none
  | fuel + 1, draft, s =>
    if s.isEmpty then some draft
    else (readLine draft s).bind fun (draft, rest) => readLines fuel draft rest

/-- A byte order mark in front is no part of the text. -/
def dropMark : List Char → List Char
  | '\ufeff' :: rest => rest
  | s => s

def read (text : String) : Option (List (String × Toml)) :=
  let s := dropMark text.toList
  (readLines (s.length + 1) .empty s).map fun draft => entriesToToml draft.root

end BatchedLog.Toml
