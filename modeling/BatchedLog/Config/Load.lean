import BatchedLog.Config.Schema
import BatchedLog.Config.Validation
import BatchedLog.Disk.Basic
import BatchedLog.Toml.Document

/-!
# Loading a configuration

A configuration is read from TOML text, decoded and validated. A date or time counts as a table
with its text under one key of its own.
-/

namespace BatchedLog

namespace Toml

def momentKey : String := "$__toml_private_datetime"

mutual
def toJson : Toml → Json
  | .string s => .string s
  | .integer i => .integer i
  | .float x => .float x
  | .bool b => .bool b
  | .moment m => .object [(momentKey, .string m.text)]
  | .array items => .array (itemsToJson items)
  | .table entries => .object (tableToJson entries)

def itemsToJson : List Toml → List Json
  | [] => []
  | t :: rest => t.toJson :: itemsToJson rest

def tableToJson : List (String × Toml) → List (String × Json)
  | [] => []
  | (k, t) :: rest => (k, t.toJson) :: tableToJson rest
end

end Toml

inductive ConfigError
  | io (e : IoError)
  | notToml
  | schema (e : Mismatch)
  | invalid (errors : List ValidationError)
  deriving DecidableEq, Repr

/-- The text of the error; a text that is not TOML has none here. -/
def ConfigError.message : ConfigError → String
  | .io e => "IO error: " ++ e.message
  | .notToml => ""
  | .schema e => e.message Double.plainText
  | .invalid errors =>
    "Validation failed: " ++ String.intercalate ", " (errors.map ValidationError.message)

namespace AppConfig

def parse (text : String) : Except ConfigError AppConfig :=
  match Toml.read text with
  | none => .error .notToml
  | some entries =>
    match ofJson (.object (Toml.tableToJson entries)) with
    | .error e => .error (.schema e)
    | .ok config => if config.errors.isEmpty then .ok config else .error (.invalid config.errors)

def load (d : Disk) (path : Path) : Except ConfigError AppConfig :=
  match d.readText path with
  | .error e => .error (.io e)
  | .ok text => parse text

end AppConfig

end BatchedLog
