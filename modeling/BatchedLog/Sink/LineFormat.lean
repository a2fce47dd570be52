import BatchedLog.Entry
import BatchedLog.Sink.Error

/-!
# Line formats

An entry is written as one line, either as text, `[level] milliseconds | message`, or as a JSON
record. A line is handed to a writer in pieces, and a failed piece counts as a failure of the record
if it is a piece of the record itself.
-/

namespace BatchedLog

inductive LineFormat
  | text
  | json
  deriving DecidableEq, Repr

/-- A piece of a line. -/
structure Piece where
  text : String
  ofRecord : Bool
  deriving DecidableEq, Repr

namespace LineFormat

def ofParameters (params : Fields) : Except SinkError LineFormat :=
  match stringParameter params "format" with
  | .error e => .error e
  | .ok none => .ok .text
  | .ok (some s) =>
    if s = "text" then .ok .text
    else if s = "json" then .ok .json
    else .error (.invalidParameter "format" (.unknownFormat s))

def quotedPieces (s : String) : List String := "\"" :: (Json.fragments [] s.toList ++ ["\""])

/-- The pieces of a JSON record. -/
def recordPieces (e : Entry) : List String :=
  ["\x7b"] ++ quotedPieces "ts_ms" ++ [":", toString e.unixMillis, ","] ++
    quotedPieces "level" ++ [":"] ++ quotedPieces e.level.name ++ [","] ++
    quotedPieces "message" ++ [":"] ++ quotedPieces e.message ++ ["\x7d"]

def pieces (f : LineFormat) (e : Entry) : List Piece :=
  match f with
  | .text =>
    ["[", e.level.name, "] ", toString e.unixMillis, " | ", e.message, "\n"].map (⟨·, false⟩)
  | .json => (recordPieces e).map (⟨·, true⟩) ++ [⟨"\n", false⟩]

/-- The whole line. -/
def line (f : LineFormat) (e : Entry) : String :=
  String.join ((f.pieces e).map (·.text))

def render (f : LineFormat) (entries : List Entry) : String :=
  String.join (entries.map f.line)

/-- The name of a format in diagnostics. -/
def name : LineFormat → String
  | .text => "Text"
  | .json => "Json"

end LineFormat

end BatchedLog
