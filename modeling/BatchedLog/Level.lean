import BatchedLog.Schema.Mismatch
import BatchedLog.Text.WhiteSpace

/-!
# Severity levels

Four levels with one bit each. A level is written by its name; it is read from its name in any
letter case with white space around it, and `warn` is short for `warning`.
-/

namespace BatchedLog

inductive Level
  | error
  | warning
  | info
  | trace
  deriving DecidableEq, Repr, Inhabited

namespace Level

/-- All levels, most severe first. -/
def all : List Level := [error, warning, info, trace]

def bits : Level → Nat
  | error => 1
  | warning => 2
  | info => 4
  | trace => 8

def name : Level → String
  | error => "error"
  | warning => "warning"
  | info => "info"
  | trace => "trace"

/-- Bits in combination are no level. -/
def ofBits? (n : Nat) : Option Level := all.find? fun l => l.bits = n

/-- The name of any number: `unknown` unless it is a level's bit. -/
def nameOf (value : Int) : String :=
  match value with
  | .ofNat n => ((ofBits? n).map name).getD "unknown"
  | .negSucc _ => "unknown"

/-- The spellings in lower case. -/
def ofWord? (word : String) : Option Level :=
  if word = "error" then some error
  else if word = "warning" ∨ word = "warn" then some warning
  else if word = "info" then some info
  else if word = "trace" then some trace
  else none

/-- A text that is no level, as it was given. -/
structure Unrecognized where
  text : String
  deriving DecidableEq, Repr

def Unrecognized.message (e : Unrecognized) : String := "unrecognized log level: " ++ e.text

def parse (s : String) : Except Unrecognized Level :=
  match ofWord? (String.ofList ((Text.trim s.toList).map Char.toLower)) with
  | some l => .ok l
  | none => .error ⟨s⟩

def variants : List String := all.map name

def ofVariant (s : String) : Except Mismatch Level :=
  match all.find? fun l => l.name = s with
  | some l => .ok l
  | none => .error (.unknownVariant s variants)

/-- A level as a JSON value: its name, or an object with its name as the only key and `null`
under it. -/
def ofJson : Json → Except Mismatch Level
  | .string s => ofVariant s
  | .object [(key, value)] =>
    match ofVariant key with
    | .error e => .error e
    | .ok l =>
      match value with
      | .null => .ok l
      | other => .error (.wrongType other.shape "unit")
  | .object _ => .error (.wrongValue .map "map with a single key")
  | other => .error (.wrongType other.shape "string or map")

theorem ofBits?_bits (l : Level) : ofBits? l.bits = some l := by cases l <;> rfl

theorem ofWord?_name (l : Level) : ofWord? l.name = some l := by cases l <;> rfl

theorem name_injective {a b : Level} (h : a.name = b.name) : a = b := by
  have := ofWord?_name a
  rw [h, ofWord?_name] at this
  exact (Option.some.inj this).symm

end Level

end BatchedLog
