import BatchedLog.Delivery.Logger
import BatchedLog.Sink.LineFormat

/-!
# Diagnostics

What the pipeline reports about itself while it works. Each report has a source, a severity, a
message and named fields, all of them text; the dispatch of a batch is reported as a span instead.
-/

namespace BatchedLog

inductive Severity
  | error
  | warn
  | info
  | debug
  | trace
  deriving DecidableEq, Repr

def Severity.name : Severity → String
  | .error => "ERROR"
  | .warn => "WARN"
  | .info => "INFO"
  | .debug => "DEBUG"
  | .trace => "TRACE"

def Level.severity : Level → Severity
  | .error => .error
  | .warning => .warn
  | .info => .info
  | .trace => .trace

inductive Diagnostic
  | typeRegistered (type : String)
  | fileOpened (path : String) (format : LineFormat)
  | targetRegistered (sink type : String)
  | targetUntyped (sink : String)
  | targetUnknown (sink type : String)
  | dropped (pending : Nat)
  | sharedCreated (sinks : List String) (interval : Nat)
  | sinkFailed (sink : String) (error : SinkError)
  | forwarded (batch : Nat) (entry : Entry)
  | dispatch (batch : Batch) (sinks : Nat)
  deriving DecidableEq, Repr

/-- How a report reads. A batch is written as its number after a `#`. -/
structure Report where
  /-- Where it comes from, unless it is a span. -/
  source : Option String
  severity : Severity
  message : String
  fields : List (String × String)
  deriving DecidableEq, Repr

def batchLabel (n : Nat) : String := "#" ++ toString n

def Diagnostic.report : Diagnostic → Report
  | .typeRegistered type =>
    ⟨some "logpipe::sink::registry", .debug, "Sink type registered", [("kind", type)]⟩
  | .fileOpened path format =>
    ⟨some "logpipe::sink::file", .debug, "File sink opened",
      [("path", path), ("format", format.name)]⟩
  | .targetRegistered sink type =>
    ⟨some "logpipe::logger", .debug, "Log target registered", [("sink", sink), ("kind", type)]⟩
  | .targetUntyped sink =>
    ⟨some "logpipe::logger", .warn, "Log target has no type, skipping", [("sink", sink)]⟩
  | .targetUnknown sink type =>
    ⟨some "logpipe::logger", .warn, "Unknown log target type, skipping",
      [("sink", sink), ("kind", type)]⟩
  | .dropped pending =>
    ⟨some "logpipe::logger", .debug, "Logger dropped with unflushed entries",
      [("pending", toString pending)]⟩
  | .sharedCreated sinks interval =>
    ⟨some "logpipe::logger::global", .debug, "Shared logger created",
      [("sinks", Text.quoteList sinks), ("flush_interval", toString interval)]⟩
  | .sinkFailed sink error =>
    ⟨some "logpipe::pipeline::dispatch", .warn, "Sink failed to receive batch",
      [("sink", sink), ("error", error.message)]⟩
  | .forwarded batch entry =>
    ⟨some "logpipe::forward", entry.level.severity, entry.message,
      [("batch_id", batchLabel batch), ("ts_ms", toString entry.unixMillis)]⟩
  | .dispatch batch sinks =>
    ⟨none, .debug, "dispatch",
      [("event", "flush"), ("batch_id", batchLabel batch.number),
        ("entries", toString batch.entries.length), ("sinks", toString sinks)]⟩

end BatchedLog
