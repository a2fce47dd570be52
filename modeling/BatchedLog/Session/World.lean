import BatchedLog.Context
import BatchedLog.Metrics
import BatchedLog.Session.Plan
import BatchedLog.Sink.Console
import BatchedLog.Sink.File

/-!
# The world of a session

All that a session can see of a process besides its loggers: sinks, files, the console, metrics,
diagnostics, the application context, and the slots in which it keeps loggers. What a sink does with
a batch and how sinks are made is settled here.
-/

namespace BatchedLog.Session

inductive SinkState
  | memory (name : String) (batches : List Batch)
  | file (sink : FileSink)
  | console (sink : ConsoleSink)
  | forward
  | scripted (label : String) (script : List (Turn Step))

/-- What is said of a logger. -/
structure Description where
  sinks : List String
  interval : Nat
  pending : Nat
  deriving DecidableEq, Repr

def describe (l : Logger) : Description := ⟨l.sinkNames, l.interval, l.pendingCount⟩

inductive BuildError
  | config (e : ConfigError)
  | logger (e : LoggerError)
  | sink (e : SinkError)
  deriving DecidableEq, Repr

/-- What threads have left in a memory sink: the sizes of its batches, the messages and how many of
them differ, and whether each thread's messages came in order. -/
structure Audit where
  sizes : List Nat
  total : Nat
  unique : Nat
  ordered : Bool
  deriving DecidableEq, Repr

inductive Reply
  | done
  | noLogger
  | count (n : Nat)
  | flag (b : Bool)
  | description (d : Description)
  | built (slot : Nat) (d : Description)
  | notBuilt (e : BuildError)
  | memories (contents : List (List Batch))
  | audit (a : Audit)
  | text (t : Option String)
  | names (ns : List String)
  | installed
  | refused (c : AppConfig)
  | notInstalled (e : ConfigError)
  | config (c : AppConfig)
  | replaced (b : Bool)
  | slots (ns : List Nat)
  | previous (slot : Option Nat)

/-- What scripted sinks write down. -/
inductive JournalLine
  | received (label : String) (batch : Batch)
  | did (label : String) (answer : Answer Reply)

structure World where
  sinks : List SinkState
  slots : List (Option LoggerId)
  /-- Loggers that nobody keeps any more, but for calls that are still under way. -/
  orphans : List LoggerId
  disk : Disk
  console : Console
  metrics : Metrics
  diagnostics : Array Diagnostic
  journal : Array JournalLine
  context : Context
  shared : Shared
  registry : Registry (Factory Step)

namespace World

def start (disk : Disk) : World :=
  { sinks := [], slots := [], orphans := [], disk, console := .empty, metrics := .empty
    diagnostics := #[], journal := #[], context := .empty, shared := .empty, registry := builtins }

def note (w : World) (d : Diagnostic) : World := { w with diagnostics := w.diagnostics.push d }

def write (w : World) (line : JournalLine) : World := { w with journal := w.journal.push line }

def slot (w : World) (i : Nat) : Option LoggerId := (w.slots[i]?).join

/-! ## Sinks at work -/

def setSink (w : World) (id : SinkId) (s : SinkState) : World :=
  { w with sinks := w.sinks.set id s }

/-- A sink takes a batch: the steps it is about to carry out, and how it will end. -/
def receive (w : World) (id : SinkId) (batch : Batch) : World × List Step × Ending :=
  match w.sinks[id]? with
  | none => (w, [], .returned (.ok ()))
  | some (.memory name batches) =>
    (w.setSink id (.memory name (batches ++ [batch])), [], .returned (.ok ()))
  | some (.file sink) =>
    let (sink, disk, result) := sink.receive w.disk batch.entries
    ({ w with disk }.setSink id (.file sink), [], .returned result)
  | some (.console sink) =>
    ({ w with console := sink.receive w.console batch.entries }, [], .returned (.ok ()))
  | some .forward =>
    (batch.entries.foldl (fun w e => w.note (.forwarded batch.number e)) w, [], .returned (.ok ()))
  | some (.scripted label script) =>
    let w := w.write (.received label batch)
    match script with
    | [] => (w, [], .returned (.ok ()))
    | turn :: rest => (w.setSink id (.scripted label rest), turn.actions, turn.ending)

/-- Scripted sinks write down what comes of their steps. -/
def answered (w : World) (id : SinkId) (answer : Answer Reply) : World :=
  match w.sinks[id]? with
  | some (.scripted label _) => w.write (.did label answer)
  | _ => w

/-- Metrics and diagnostics of what happens in the pipeline. -/
def observe (w : World) (h : Happening) : World :=
  let w := { w with metrics := w.metrics.record h }
  match h with
  | .began _ _ batch sinks => w.note (.dispatch batch sinks)
  | .failed _ _ failure => w.note (.sinkFailed failure.sink failure.error)
  | _ => w

/-! ## Making sinks -/

def addSink (w : World) (s : SinkState) : World × SinkId :=
  ({ w with sinks := w.sinks ++ [s] }, w.sinks.length)

def addOk (w : World) (s : SinkState) : World × Except SinkError SinkId :=
  let (w, id) := w.addSink s
  (w, .ok id)

def makeConsole (w : World) (params : Fields) : World × Except SinkError SinkId :=
  match ConsoleSink.ofParameters params with
  | .error e => (w, .error e)
  | .ok sink => w.addOk (.console sink)

def makeFile (w : World) (params : Fields) : World × Except SinkError SinkId :=
  match FileSink.settings params with
  | .error e => (w, .error e)
  | .ok (path, format) =>
    match FileSink.openAt w.disk path format with
    | (disk, .error e) => ({ w with disk }, .error e)
    | (disk, .ok sink) => ({ w with disk }.note (.fileOpened path.text format)).addOk (.file sink)

def makeSink (w : World) (plan : SinkPlan Step) : World × Except SinkError SinkId :=
  match plan.kind with
  | .memory => w.addOk (.memory plan.name [])
  | .file => w.makeFile plan.params
  | .console => w.makeConsole plan.params
  | .forward => w.addOk .forward
  | .scripted => w.addOk (.scripted plan.name plan.script)

/-- A planned sink goes by the target's label, or by its type if it has none. -/
def make (w : World) (factory : Factory Step) (type : String) (params : Fields) :
    World × Except SinkError SinkId :=
  match factory with
  | .console => w.makeConsole params
  | .file => w.makeFile params
  | .forward => w.addOk .forward
  | .reject param reason => (w, .error (.invalidParameter param (.custom reason)))
  | .refuse text => (w, .error (.other text))
  | .planned required plan =>
    let name :=
      match params.get? "label" with
      | some (.string s) => s
      | _ => type
    match required.filter fun key => (params.get? key).isNone with
    | some key => (w, .error (.invalidParameter key (.custom "required")))
    | none => w.makeSink { plan with name }

def workshop : Workshop (Factory Step) World := ⟨make, note⟩

/-! ## Building loggers -/

def registerAll (w : World) (plan : List (String × Factory Step)) :
    World × Registry (Factory Step) :=
  plan.foldl
    (fun (w, registry) (type, factory) =>
      (w.note (.typeRegistered type), registry.register type factory))
    (w, [])

/-- Sinks that are made and added one by one. -/
def addSinks (w : World) (wiring : Wiring) :
    List (SinkPlan Step) → World × Except BuildError Wiring
  | [] => (w, .ok wiring)
  | plan :: rest =>
    match w.makeSink plan with
    | (w, .error e) => (w, .error (.sink e))
    | (w, .ok id) =>
      match wiring.add plan.name id with
      | .error e => (w, .error (.logger e))
      | .ok wiring => w.addSinks wiring rest

def asBuild (r : World × Except LoggerError Wiring) : World × Except BuildError Wiring :=
  (r.1, r.2.mapError .logger)

def wire (w : World) : LoggerPlan Step → World × Except BuildError Wiring
  | .direct interval sinks targets registry =>
    let wiring := (interval.map Wiring.start.interval).getD .start
    match w.addSinks wiring sinks, targets with
    | (w, .ok wiring), some targets =>
      let (w, registry) := w.registerAll registry
      asBuild (wiring.addTargets workshop registry w targets)
    | result, _ => result
  | .settings settings registry =>
    let (w, registry) := w.registerAll registry
    asBuild (Wiring.ofSettings workshop registry w settings)
  | .app config registry =>
    let (w, registry) := w.registerAll registry
    asBuild (Wiring.ofConfig workshop registry w config)
  | .toml text registry =>
    match AppConfig.parse text with
    | .error e => (w, .error (.config e))
    | .ok config =>
      let (w, registry) := w.registerAll registry
      asBuild (Wiring.ofConfig workshop registry w config)
  | .independent settings => asBuild (Wiring.ofSettings workshop w.registry w settings)

end World

end BatchedLog.Session
