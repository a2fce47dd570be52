import BatchedLog.Buffer
import BatchedLog.Sink.Error

/-!
# Loggers

A logger has a buffer, an ordered list of named sinks, and two counters: how many batches were cut
from the buffer, which numbers the next one, and whose turn it is to be delivered.
-/

namespace BatchedLog

abbrev LoggerId := Nat

abbrev SinkId := Nat

/-- A sink under the name it has at a logger. -/
structure Wired where
  name : String
  sink : SinkId
  deriving DecidableEq, Repr

/-- What sinks are handed: entries, under the number of their dispatch. -/
structure Batch where
  number : Nat
  entries : List Entry
  deriving DecidableEq, Repr

structure SinkFailure where
  sink : String
  error : SinkError
  deriving DecidableEq, Repr

/-- Some of the sinks did not take a batch. -/
structure DispatchError where
  batch : Nat
  attempted : Nat
  failures : List SinkFailure
  deriving DecidableEq, Repr

namespace DispatchError

def failedSinks (e : DispatchError) : List String := e.failures.map (·.sink)

/-- The text of the error, the batch written as `batch`. -/
def message (e : DispatchError) (batch : String) : String :=
  toString e.failures.length ++ " of " ++ toString e.attempted ++
    " sinks failed to receive batch " ++ batch

end DispatchError

structure Logger where
  buffer : Buffer
  sinks : List Wired
  cut : Nat
  turn : Nat
  deriving DecidableEq, Repr

namespace Logger

def start (policy : FlushPolicy) (sinks : List Wired) : Logger := ⟨.empty policy, sinks, 0, 0⟩

def interval (l : Logger) : Nat := l.buffer.policy.interval

def sinkNames (l : Logger) : List String := l.sinks.map (·.name)

def pendingCount (l : Logger) : Nat := l.buffer.pending.length

def push (l : Logger) (e : Entry) : Logger := { l with buffer := l.buffer.push e }

/-- Number what was taken from the buffer. -/
def numbered (l : Logger) : Option (List Entry) × Buffer → Option (Nat × List Entry) × Logger
  | (none, b) => (none, { l with buffer := b })
  | (some entries, b) => (some (l.cut, entries), { l with buffer := b, cut := l.cut + 1 })

def cutDue (l : Logger) : Option (Nat × List Entry) × Logger := l.numbered l.buffer.takeDue

def cutAll (l : Logger) : Option (Nat × List Entry) × Logger := l.numbered l.buffer.take

/-- The turn passes to the next batch. -/
def passTurn (l : Logger) : Logger := { l with turn := l.turn + 1 }

end Logger

end BatchedLog
