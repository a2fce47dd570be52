import BatchedLog.Sink.LineFormat

/-!
# The console sink

Lines go to standard output or standard error, a batch at a time.
-/

namespace BatchedLog

inductive ConsoleStream
  | stdout
  | stderr
  deriving DecidableEq, Repr

def ConsoleStream.name : ConsoleStream → String
  | .stdout => "stdout"
  | .stderr => "stderr"

structure ConsoleSink where
  stream : ConsoleStream
  format : LineFormat
  deriving DecidableEq, Repr

/-- What was written to the console. -/
structure Console where
  stdout : String
  stderr : String
  deriving DecidableEq, Repr

def Console.empty : Console := ⟨"", ""⟩

/-- What was written in turn. -/
def Console.append (a b : Console) : Console := ⟨a.stdout ++ b.stdout, a.stderr ++ b.stderr⟩

def Console.write (c : Console) (stream : ConsoleStream) (text : String) : Console :=
  match stream with
  | .stdout => { c with stdout := c.stdout ++ text }
  | .stderr => { c with stderr := c.stderr ++ text }

namespace ConsoleSink

def ofParameters (params : Fields) : Except SinkError ConsoleSink :=
  match stringParameter params "stream" with
  | .error e => .error e
  | .ok stream =>
    let stream : Except SinkError ConsoleStream :=
      match stream with
      | none => .ok .stdout
      | some s =>
        if s = "stdout" then .ok .stdout
        else if s = "stderr" then .ok .stderr
        else .error (.invalidParameter "stream" (.unknownStream s))
    match stream, LineFormat.ofParameters params with
    | .error e, _ => .error e
    | .ok _, .error e => .error e
    | .ok stream, .ok format => .ok ⟨stream, format⟩

def receive (s : ConsoleSink) (c : Console) (entries : List Entry) : Console :=
  c.write s.stream (s.format.render entries)

end ConsoleSink

end BatchedLog
