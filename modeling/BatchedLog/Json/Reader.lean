import BatchedLog.Json.Basic
import BatchedLog.Json.Scientific

/-!
# Reading JSON

A reader for JSON text that says why and where a text is refused. Integers outside 64 bits and the
integer `-0` are read as floats; of equal keys in an object all are kept, in order. Nesting is
limited to 127 levels.

A refusal names the place by line and column, the column counted in bytes.
-/

namespace BatchedLog.Json

inductive Refusal
  | endInList
  | endInObject
  | endInString
  | endInValue
  | noColon
  | noListEnd
  | noObjectEnd
  | badWord
  | noValue
  | badEscape
  | badNumber
  | numberTooLarge
  | controlCharacter
  | keyNotString
  | loneSurrogate
  | trailingComma
  | trailingCharacters
  | cutSurrogate
  | tooDeep
  deriving DecidableEq, Repr

def Refusal.message : Refusal → String
  | .endInList => "EOF while parsing a list"
  | .endInObject => "EOF while parsing an object"
  | .endInString => "EOF while parsing a string"
  | .endInValue => "EOF while parsing a value"
  | .noColon => "expected `:`"
  | .noListEnd => "expected `,` or `]`"
  | .noObjectEnd => "expected `,` or `\x7d`"
  | .badWord => "expected ident"
  | .noValue => "expected value"
  | .badEscape => "invalid escape"
  | .badNumber => "invalid number"
  | .numberTooLarge => "number out of range"
  | .controlCharacter => "control character (\\u0000-\\u001F) found while parsing a string"
  | .keyNotString => "key must be a string"
  | .loneSurrogate => "lone leading surrogate in hex escape"
  | .trailingComma => "trailing comma"
  | .trailingCharacters => "trailing characters"
  | .cutSurrogate => "unexpected end of hex escape"
  | .tooDeep => "recursion limit exceeded"

/-- A refusal `ahead` bytes past the start of `rest`, or at the end if that comes first. -/
structure Stop where
  cause : Refusal
  rest : List Char
  ahead : Nat

/-- A value and what is left after it. -/
abbrev Read (α : Type) := Except Stop (α × List Char)

/-- Goes on with what was read. -/
def Read.andThen {α β : Type} (r : Read α) (next : α → List Char → Read β) : Read β :=
  match r with
  | .ok (a, rest) => next a rest
  | .error stop => .error stop

/-- Refused `ahead` bytes into what is left. -/
def refuse {α : Type} (cause : Refusal) (rest : List Char) (ahead : Nat) : Read α :=
  .error ⟨cause, rest, ahead⟩

def isBlank (c : Char) : Bool := c = ' ' || c = '\n' || c = '\t' || c = '\r'

def skipBlanks (s : List Char) : List Char := s.dropWhile isBlank

def hexValue? (c : Char) : Option Nat :=
  if '0' ≤ c ∧ c ≤ '9' then some (c.toNat - '0'.toNat)
  else if 'a' ≤ c ∧ c ≤ 'f' then some (c.toNat - 'a'.toNat + 10)
  else if 'A' ≤ c ∧ c ≤ 'F' then some (c.toNat - 'A'.toNat + 10)
  else none

def utf8Length (s : List Char) : Nat := s.foldr (fun c n => c.utf8Size + n) 0

/-- Four hexadecimal digits; a refusal lies behind the four bytes that were looked at. -/
def readHex4 (s : List Char) : Read Nat :=
  match s with
  | a :: b :: c :: d :: rest =>
    match hexValue? a, hexValue? b, hexValue? c, hexValue? d with
    | some a, some b, some c, some d => .ok (((a * 16 + b) * 16 + c) * 16 + d, rest)
    | _, _, _, _ => refuse .badEscape s 4
  | _ => if utf8Length s ≥ 4 then refuse .badEscape s 4 else refuse .endInString [] 0

/-- The second half of a surrogate pair whose first half is `high`. -/
def readLowSurrogate (high : Nat) (s : List Char) : Read Char :=
  match s with
  | [] => refuse .endInString [] 0
  | '\\' :: [] => refuse .endInString [] 0
  | '\\' :: 'u' :: rest => (readHex4 rest).andThen fun low rest =>
    if 0xdc00 ≤ low ∧ low ≤ 0xdfff then
      .ok (Char.ofNat (0x10000 + (high - 0xd800) * 0x400 + (low - 0xdc00)), rest)
    else refuse .loneSurrogate rest 0
  | '\\' :: rest => refuse .cutSurrogate rest 1
  | rest => refuse .cutSurrogate rest 1

/-- What follows a backslash. -/
def readEscape (s : List Char) : Read Char :=
  match s with
  | [] => refuse .endInString [] 0
  | '"' :: rest => .ok ('"', rest)
  | '\\' :: rest => .ok ('\\', rest)
  | '/' :: rest => .ok ('/', rest)
  | 'b' :: rest => .ok ('\x08', rest)
  | 'f' :: rest => .ok ('\x0c', rest)
  | 'n' :: rest => .ok ('\n', rest)
  | 'r' :: rest => .ok ('\r', rest)
  | 't' :: rest => .ok ('\t', rest)
  | 'u' :: rest => (readHex4 rest).andThen fun n rest =>
    if 0xdc00 ≤ n ∧ n ≤ 0xdfff then refuse .loneSurrogate rest 0
    else if 0xd800 ≤ n ∧ n ≤ 0xdbff then readLowSurrogate n rest
    else .ok (Char.ofNat n, rest)
  | rest => refuse .badEscape rest 1

/-- The characters of a string up to its closing quote; `acc` holds those read, last first. An
escape takes at least one character, so `fuel` may be the length of the text. -/
def readString (fuel : Nat) (acc s : List Char) : Read String :=
  match fuel, s with
  | _, [] => refuse .endInString [] 0
  | _, '"' :: rest => .ok (String.ofList acc.reverse, rest)
  | 0, s => refuse .endInString s 0
  | fuel + 1, '\\' :: rest =>
    (readEscape rest).andThen fun c rest => readString fuel (c :: acc) rest
  | fuel + 1, c :: rest =>
    if c.toNat < 0x20 then refuse .controlCharacter (c :: rest) 1
    else readString fuel (c :: acc) rest

/-- A float, refused behind its last digit if it is too large. -/
def readFloat (negative : Bool) (x : Scientific) (rest : List Char) : Read Json :=
  let f := x.toDouble negative
  if f.isFinite then .ok (.float f, rest) else refuse .numberTooLarge rest 0

/-- The largest exponent. -/
def maxExponent : Nat := 2147483647

/-- The digits of an exponent put behind `e`, and what follows them; none once they go beyond the
largest exponent. -/
def takeExponent (e : Nat) (s : List Char) : Option Nat × List Char :=
  match s with
  | [] => (some e, [])
  | c :: rest =>
    if c.isDigit then
      let next := e * 10 + digitValue c
      if next ≤ maxExponent then takeExponent next rest else (none, rest)
    else (some e, c :: rest)

/-- A float after its `e`. An exponent beyond the largest is refused at the digit that takes it
there, unless the number is zero whatever follows. -/
def readExponent (negative : Bool) (x : Scientific) (s : List Char) : Read Json :=
  let (down, s) : Bool × List Char :=
    match s with
    | '+' :: rest => (false, rest)
    | '-' :: rest => (true, rest)
    | rest => (false, rest)
  match s with
  | [] => refuse .endInValue [] 0
  | c :: _ =>
    if c.isDigit then
      match takeExponent 0 s with
      | (some e, rest) => readFloat negative (x.shift (if down then -(e : Int) else e)) rest
      | (none, rest) =>
        if down ∨ x.digits = 0 then .ok (.float (.zero negative), rest.dropWhile Char.isDigit)
        else refuse .numberTooLarge rest 0
    else refuse .badNumber s 1

/-- A number without point and exponent: an integer if it takes at most 64 bits and is not `-0`. -/
def readInteger (negative : Bool) (x : Scientific) (rest : List Char) : Read Json :=
  if x.exponent = 0 ∧ ¬negative then .ok (.integer x.digits, rest)
  else if x.exponent = 0 ∧ 0 < x.digits ∧ x.digits ≤ Nat.pow 2 63 then
    .ok (.integer (-(x.digits : Int)), rest)
  else readFloat negative x rest

/-- A number after its sign. -/
def readNumber (negative : Bool) (s : List Char) : Read Json :=
  match s with
  | [] => refuse .endInValue [] 0
  | c :: after =>
    if c = '0' ∧ (after.head?.any Char.isDigit) then refuse .badNumber after 1
    else if c.isDigit then
      let x := Scientific.ofWhole (s.takeWhile Char.isDigit)
      match s.dropWhile Char.isDigit with
      | '.' :: rest =>
        let decimals := rest.takeWhile Char.isDigit
        match decimals, rest.dropWhile Char.isDigit with
        | [], [] => refuse .endInValue [] 0
        | [], rest => refuse .badNumber rest 1
        | decimals, 'e' :: rest => readExponent negative (x.withDecimals decimals) rest
        | decimals, 'E' :: rest => readExponent negative (x.withDecimals decimals) rest
        | decimals, rest => readFloat negative (x.withDecimals decimals) rest
      | 'e' :: rest => readExponent negative x rest
      | 'E' :: rest => readExponent negative x rest
      | rest => readInteger negative x rest
    else refuse .badNumber s 1

/-- The letters of a word after its first one. -/
def readWord (letters : List Char) (value : Json) (s : List Char) : Read Json :=
  match letters, s with
  | [], rest => .ok (value, rest)
  | _ :: _, [] => refuse .endInValue [] 0
  | l :: letters, c :: rest =>
    if l = c then readWord letters value rest else refuse .badWord (c :: rest) 1

mutual
/-- A value, after blanks. `depth` levels of nesting are left; `fuel` bounds the recursion and is
never used up when it is twice the length of the text. -/
def readValue (fuel depth : Nat) (s : List Char) : Read Json :=
  match fuel with
  | 0 => refuse .endInValue s 0
  | fuel + 1 =>
    match skipBlanks s with
    | [] => refuse .endInValue [] 0
    | 'n' :: rest => readWord ['u', 'l', 'l'] .null rest
    | 't' :: rest => readWord ['r', 'u', 'e'] (.bool true) rest
    | 'f' :: rest => readWord ['a', 'l', 's', 'e'] (.bool false) rest
    | '-' :: rest => readNumber true rest
    | '"' :: rest =>
      (readString rest.length [] rest).andThen fun text rest => .ok (.string text, rest)
    | '[' :: rest =>
      match depth with
      | 0 => refuse .tooDeep ('[' :: rest) 1
      | depth + 1 =>
        (readItems fuel depth true rest).andThen fun items rest => .ok (.array items, rest)
    | '{' :: rest =>
      match depth with
      | 0 => refuse .tooDeep ('{' :: rest) 1
      | depth + 1 =>
        (readFields fuel depth true rest).andThen fun fields rest => .ok (.object fields, rest)
    | c :: rest =>
      if c.isDigit then readNumber false (c :: rest) else refuse .noValue (c :: rest) 1

/-- The items of a list up to its closing bracket. -/
def readItems (fuel depth : Nat) (first : Bool) (s : List Char) : Read (List Json) :=
  match fuel with
  | 0 => refuse .endInList s 0
  | fuel + 1 =>
    match skipBlanks s with
    | [] => refuse .endInList [] 0
    | ']' :: rest => .ok ([], rest)
    | c :: rest =>
      if first then
        (readValue fuel depth (c :: rest)).andThen fun j rest =>
          (readItems fuel depth false rest).andThen fun items rest => .ok (j :: items, rest)
      else if c = ',' then
        match skipBlanks rest with
        | [] => refuse .endInValue [] 0
        | ']' :: rest => refuse .trailingComma (']' :: rest) 1
        | rest =>
          (readValue fuel depth rest).andThen fun j rest =>
            (readItems fuel depth false rest).andThen fun items rest => .ok (j :: items, rest)
      else refuse .noListEnd (c :: rest) 1

/-- The fields of an object up to its closing brace. -/
def readFields (fuel depth : Nat) (first : Bool) (s : List Char) : Read (List (String × Json)) :=
  match fuel with
  | 0 => refuse .endInObject s 0
  | fuel + 1 =>
    match skipBlanks s with
    | [] => refuse .endInObject [] 0
    | '}' :: rest => .ok ([], rest)
    | c :: rest =>
      if first then
        if c = '"' then readField fuel depth rest else refuse .keyNotString (c :: rest) 1
      else if c = ',' then
        match skipBlanks rest with
        | [] => refuse .endInValue [] 0
        | '"' :: rest => readField fuel depth rest
        | '}' :: rest => refuse .trailingComma ('}' :: rest) 1
        | rest => refuse .keyNotString rest 1
      else refuse .noObjectEnd (c :: rest) 1

/-- A field after the opening quote of its key, and the fields after it. -/
def readField (fuel depth : Nat) (s : List Char) : Read (List (String × Json)) :=
  match fuel with
  | 0 => refuse .endInObject s 0
  | fuel + 1 =>
    (readString s.length [] s).andThen fun key rest =>
      match skipBlanks rest with
      | [] => refuse .endInObject [] 0
      | ':' :: rest =>
        (readValue fuel depth rest).andThen fun j rest =>
          (readFields fuel depth false rest).andThen fun fields rest =>
            .ok ((key, j) :: fields, rest)
      | rest => refuse .noColon rest 1
end

/-- Why a text is not JSON, and where. -/
structure SyntaxError where
  cause : Refusal
  line : Nat
  column : Nat
  deriving DecidableEq, Repr

def SyntaxError.message (e : SyntaxError) : String :=
  e.cause.message ++ " at line " ++ toString e.line ++ " column " ++ toString e.column

/-- Line and column of a stop in `text`: the line breaks among the bytes before it, and the bytes
since the last of them. A byte that was looked at and is a line break itself counts as read. -/
def Stop.locate (stop : Stop) (text : List Char) : SyntaxError :=
  let bytes := text.flatMap String.utf8EncodeChar
  let read := bytes.take (bytes.length - utf8Length stop.rest + stop.ahead)
  { cause := stop.cause
    line := read.count '\n'.toUInt8 + 1
    column := (read.reverse.takeWhile (· ≠ '\n'.toUInt8)).length }

def read (text : String) : Except SyntaxError Json :=
  let s := text.toList
  match readValue (2 * s.length + 2) 127 s with
  | .error stop => .error (stop.locate s)
  | .ok (j, rest) =>
    match skipBlanks rest with
    | [] => .ok j
    | rest => .error (Stop.locate ⟨.trailingCharacters, rest, 1⟩ s)

end BatchedLog.Json
