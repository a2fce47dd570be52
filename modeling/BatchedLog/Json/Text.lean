import BatchedLog.Json.Basic
import BatchedLog.Text.Quoted

/-!
# JSON text

The compact form: no blanks, strings escape the quote, the backslash and the control characters
below U+0020, and every other character stands for itself. A float that is not a number is written
as `null`. The `fragments` of a string are the pieces in which its text is handed to a writer: each
run of characters that stand for themselves, and each escape.
-/

namespace BatchedLog.Json

/-- How a character is written inside a string, if not as itself. -/
def escape? (c : Char) : Option String :=
  if c = '"' then some "\\\""
  else if c = '\\' then some "\\\\"
  else if c = '\x08' then some "\\b"
  else if c = '\t' then some "\\t"
  else if c = '\n' then some "\\n"
  else if c = '\x0c' then some "\\f"
  else if c = '\r' then some "\\r"
  else if c.toNat < 0x10 then some ("\\u000" ++ Text.hex c.toNat)
  else if c.toNat < 0x20 then some ("\\u00" ++ Text.hex c.toNat)
  else none

def escapeChar (c : Char) : List Char :=
  match escape? c with
  | some e => e.toList
  | none => [c]

/-- The text of a string between its quotes. -/
def escaped (s : List Char) : List Char := s.flatMap escapeChar

def quoted (s : String) : String := "\"" ++ String.ofList (escaped s.toList) ++ "\""

/-- The text between the quotes, cut into runs of plain characters and single escapes; `run` holds
the plain characters before the present one, last first. -/
def fragments (run : List Char) : List Char → List String
  | [] => if run.isEmpty then [] else [String.ofList run.reverse]
  | c :: rest =>
    match escape? c with
    | none => fragments (c :: run) rest
    | some e =>
      (if run.isEmpty then [] else [String.ofList run.reverse]) ++ e :: fragments [] rest

mutual
/-- Compact text. -/
def compact : Json → String
  | .null => "null"
  | .bool b => if b then "true" else "false"
  | .integer i => toString i
  | .float x => x.compactText?.getD "null"
  | .string s => quoted s
  | .array items => "[" ++ compactItems items ++ "]"
  | .object fields => "\x7b" ++ compactFields fields ++ "\x7d"

def compactItems : List Json → String
  | [] => ""
  | [j] => j.compact
  | j :: rest => j.compact ++ "," ++ compactItems rest

def compactFields : List (String × Json) → String
  | [] => ""
  | [(k, j)] => quoted k ++ ":" ++ j.compact
  | (k, j) :: rest => quoted k ++ ":" ++ j.compact ++ "," ++ compactFields rest
end

end BatchedLog.Json
