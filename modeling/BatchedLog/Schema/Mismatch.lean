import BatchedLog.Json.Basic
import BatchedLog.Text.Quoted

/-!
# Values that do not fit

Decoding a value into a typed field fails in a few ways. A `Mismatch` says which, with the value
found reduced to its `Shape`.
-/

namespace BatchedLog

/-- What was found where something else was expected. -/
inductive Shape
  | null
  | bool (b : Bool)
  | integer (i : Int)
  | float (x : Double)
  | text (s : String)
  | sequence
  | map
  deriving DecidableEq, Repr

def Json.shape : Json → Shape
  | .null => .null
  | .bool b => .bool b
  | .integer i => .integer i
  | .float x => .float x
  | .string s => .text s
  | .array _ => .sequence
  | .object _ => .map

inductive Mismatch
  | wrongType (found : Shape) (expected : String)
  | wrongValue (found : Shape) (expected : String)
  | unknownVariant (given : String) (variants : List String)
  | duplicateField (name : String)
  deriving DecidableEq, Repr

/-- The text of a shape; how floats are written depends on the notation they were read from. -/
def Shape.describe (float : Double → String) : Shape → String
  | .null => "null"
  | .bool b => "boolean `" ++ (if b then "true" else "false") ++ "`"
  | .integer i => "integer `" ++ toString i ++ "`"
  | .float x => "floating point `" ++ float x ++ "`"
  | .text s => "string " ++ Text.quote s
  | .sequence => "sequence"
  | .map => "map"

def tick (s : String) : String := "`" ++ s ++ "`"

/-- A list of alternatives: `a`, `a` or `b`, one of `a`, `b`, `c`. -/
def alternatives : List String → String
  | [] => "there are no variants"
  | [a] => "expected " ++ tick a
  | [a, b] => "expected " ++ tick a ++ " or " ++ tick b
  | xs => "expected one of " ++ String.intercalate ", " (xs.map tick)

def Mismatch.message (float : Double → String) : Mismatch → String
  | .wrongType found expected =>
    "invalid type: " ++ found.describe float ++ ", expected " ++ expected
  | .wrongValue found expected =>
    "invalid value: " ++ found.describe float ++ ", expected " ++ expected
  | .unknownVariant given variants =>
    "unknown variant " ++ tick given ++ ", " ++ alternatives variants
  | .duplicateField name => "duplicate field " ++ tick name

end BatchedLog
