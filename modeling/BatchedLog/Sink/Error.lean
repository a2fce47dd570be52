import BatchedLog.Disk.Error
import BatchedLog.Json.Reader
import BatchedLog.Json.Text
import BatchedLog.Schema.Mismatch

/-!
# Failures of a sink

Why a sink could not be made, or did not take a batch. A sink that panics has not ended of its own
accord: the panic is caught, and what it carries comes out as the text of an error.
-/

namespace BatchedLog

/-- Why a record could not be written. -/
inductive SerializeError
  | text (e : Json.SyntaxError)
  | io (e : IoError)
  deriving DecidableEq, Repr

def SerializeError.message : SerializeError → String
  | .text e => e.message
  | .io e => e.message

/-- What is wrong with a parameter. -/
inductive ParameterFault
  | notString (found : String)
  | unknownStream (given : String)
  | unknownFormat (given : String)
  | noPath
  | custom (reason : String)
  deriving DecidableEq, Repr

def ParameterFault.message : ParameterFault → String
  | .notString found => "expected a string, found " ++ found
  | .unknownStream given => "unknown stream " ++ tick given
  | .unknownFormat given => "unknown format " ++ tick given ++ " (expected `text` or `json`)"
  | .noPath => "a file path is required"
  | .custom reason => reason

inductive SinkError
  | io (e : IoError)
  | serialize (e : SerializeError)
  | invalidParameter (name : String) (fault : ParameterFault)
  | panicked (text : String)
  | other (text : String)
  deriving DecidableEq, Repr

namespace SinkError

def message : SinkError → String
  | .io e => "I/O error: " ++ e.message
  | .serialize e => "serialization error: " ++ e.message
  | .invalidParameter name fault => "invalid parameter " ++ tick name ++ ": " ++ fault.message
  | .panicked text => "sink panicked: " ++ text
  | .other text => text

/-- The name of the kind of failure. -/
def kind : SinkError → String
  | .io _ => "Io"
  | .serialize _ => "Serialize"
  | .invalidParameter .. => "InvalidParam"
  | .panicked _ => "Panicked"
  | .other _ => "Other"

end SinkError

/-- What a panic carries: a text that is fixed, one that was made up for it, or something else. -/
inductive Panic
  | static (text : String)
  | owned (text : String)
  | other
  deriving DecidableEq, Repr

def Panic.message : Panic → String
  | .static text => text
  | .owned text => text
  | .other => "non-string panic payload"

/-- How a sink ends with a batch. -/
inductive Ending
  | returned (result : Except SinkError Unit)
  | unwound (panic : Panic)

/-- What is left of an ending once a panic is caught. -/
def Ending.caught : Ending → Except SinkError Unit
  | .returned result => result
  | .unwound panic => .error (.panicked panic.message)

/-- A parameter that, if it is there, is a string. -/
def stringParameter (params : Fields) (name : String) : Except SinkError (Option String) :=
  match params.get? name with
  | none => .ok none
  | some (.string s) => .ok (some s)
  | some other => .error (.invalidParameter name (.notString other.compact))

end BatchedLog
