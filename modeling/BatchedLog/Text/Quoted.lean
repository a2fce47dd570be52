import BatchedLog.Text.Printable

/-!
# Quoted text

The diagnostic form of a text: double quotes around it, a backslash before a quote or a backslash,
short escapes for NUL, tab, newline and carriage return, and `\u{…}` with the hexadecimal code for
every other character that is not printable. Lists are written in brackets.
-/

namespace BatchedLog.Text

/-- Lower-case hexadecimal digits of `n`, without leading zeros. -/
def hex (n : Nat) : String := String.ofList (Nat.toDigits 16 n)

def quoteChar (c : Char) : String :=
  if c = '"' then "\\\""
  else if c = '\\' then "\\\\"
  else if c = '\x00' then "\\0"
  else if c = '\t' then "\\t"
  else if c = '\n' then "\\n"
  else if c = '\r' then "\\r"
  else if isPrintable c then c.toString
  else "\\u\x7b" ++ hex c.toNat ++ "\x7d"

def quote (s : String) : String := "\"" ++ String.join (s.toList.map quoteChar) ++ "\""

def quoteList (xs : List String) : String :=
  "[" ++ String.intercalate ", " (xs.map quote) ++ "]"

end BatchedLog.Text
