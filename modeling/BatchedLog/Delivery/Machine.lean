import BatchedLog.Delivery.Logger

/-!
# The delivery machine

Threads log and flush through shared loggers. What runs without interruption is one step of one
thread:

* a log call stamps its entry, puts it into the buffer and, unless this thread is delivering for the
  same logger further down its stack, cuts the buffer if it is due;
* a flush call cuts whatever is pending, with the same exception;
* a cut batch waits until its number comes up, and is then handed to the sinks one by one, each
  finishing before the next;
* a sink at work may give commands of its own, which run on the same thread before it ends; if that
  is in a panic, it is caught and counts as a failure of the sink;
* when all sinks have been handed the batch the turn passes on, and the thread looks once more for
  entries that have come due meanwhile.

A thread is a stack of frames, the innermost first. A step of a thread that waits for its turn is
not possible, and `System.step` gives `none`.

What is not the pipeline (the sinks' insides, files, what else a command may do) is a `Host`. The
machine tells it what happens, in order, as `Happening`s.
-/

namespace BatchedLog

abbrev ThreadId := Nat

/-- What a command asks of the pipeline. -/
inductive Demand
  | log (logger : LoggerId) (message : String) (level : Level)
  | flush (logger : LoggerId)
  /-- `count` messages one after the other: the text with 0, 1, … behind it. -/
  | burst (logger : LoggerId) (text : String) (level : Level) (count : Nat)
  /-- One more thread, which logs one message. -/
  | spawn (logger : LoggerId) (message : String) (level : Level)
  /-- So many more threads, each with a burst of its own, and to wait for them all. -/
  | crowd (logger : LoggerId) (threads count : Nat)
  /-- Nothing: the host carries the command out by itself. -/
  | nothing
  deriving Repr

/-- What a command comes back with. -/
inductive Answer (ρ : Type)
  | logged (result : Except DispatchError Unit)
  | flushed (result : Except DispatchError Nat)
  | burst (failed : List (Nat × DispatchError))
  | spawned
  | joined
  | other (reply : ρ)

inductive Purpose
  | log
  | flush
  deriving DecidableEq, Repr

/-- A log or flush call that has cut a batch: the entries it has delivered so far, and the first
error on the way. -/
structure Call where
  logger : LoggerId
  purpose : Purpose
  delivered : Nat
  failure : Option DispatchError
  deriving DecidableEq, Repr

def Call.start (logger : LoggerId) (purpose : Purpose) : Call := ⟨logger, purpose, 0, none⟩

def Call.answer {ρ : Type} (c : Call) : Answer ρ :=
  match c.purpose, c.failure with
  | .log, none => .logged (.ok ())
  | .log, some e => .logged (.error e)
  | .flush, none => .flushed (.ok c.delivered)
  | .flush, some e => .flushed (.error e)

/-- Only the first failure of a call is reported. -/
def Call.conclude (c : Call) (batch : Batch) (sinks : Nat) (failures : List SinkFailure) : Call :=
  let failed := if failures.isEmpty then none else some ⟨batch.number, sinks, failures⟩
  { c with delivered := c.delivered + batch.entries.length, failure := c.failure.or failed }

inductive Frame (κ : Type)
  /-- A command that has not begun. -/
  | command (c : κ)
  | log (logger : LoggerId) (message : String) (level : Level)
  | flush (logger : LoggerId)
  /-- The messages from number `next` on are still to be logged. -/
  | burst (logger : LoggerId) (text : String) (level : Level) (next count : Nat)
      (failed : List (Nat × DispatchError))
  | joining (threads : List ThreadId)
  /-- Entries that were cut and wait for their turn. -/
  | waiting (call : Call) (ticket : Nat) (entries : List Entry)
  /-- It is the batch's turn; the sinks in `left` are not done with it. -/
  | delivering (call : Call) (ticket : Nat) (batch : Batch) (left : List Wired)
      (failures : List SinkFailure)
  /-- A sink at work on the batch of the frame below; a panic in its ending is caught. -/
  | receiving (sink : SinkId) (todo : List κ) (ending : Except SinkError Unit)
  /-- The turn has passed on, and the buffer is to be looked at once more. -/
  | draining (call : Call)

/-- Whether a frame holds the turn of a logger. -/
def Frame.delivers {κ : Type} (logger : LoggerId) : Frame κ → Bool
  | .delivering call .. => call.logger == logger
  | _ => false

/-- Whether a thread with this stack is delivering for a logger. -/
def isDelivering {κ : Type} (stack : List (Frame κ)) (logger : LoggerId) : Bool :=
  stack.any (Frame.delivers logger)

/-- What the machine makes known, in order. -/
inductive Happening
  /-- A log call has put its entry into the buffer. -/
  | accepted (logger : LoggerId) (entry : Entry)
  /-- A flush call has looked at the buffer. -/
  | flushed (logger : LoggerId)
  | cut (logger : LoggerId) (ticket : Nat) (entries : List Entry)
  /-- A batch has got its turn. -/
  | began (logger : LoggerId) (ticket : Nat) (batch : Batch) (sinks : Nat)
  | handed (logger : LoggerId) (ticket : Nat) (batch : Batch) (sink : Wired)
  /-- A sink has come to a good end with a batch. -/
  | took (logger : LoggerId) (ticket : Nat) (sink : Wired)
  | failed (logger : LoggerId) (ticket : Nat) (failure : SinkFailure)
  | released (logger : LoggerId) (ticket : Nat)
  deriving DecidableEq, Repr

/-- What surrounds the pipeline: `σ` is its state, `κ` the commands and `ρ` the replies it gives to
those that are not the pipeline's. -/
structure Host (σ κ ρ : Type) where
  /-- The instant of the n-th reading. -/
  clock : Nat → Instant
  ask : σ → κ → Demand
  /-- A command by the host itself; it may open new loggers. -/
  perform : σ → List Logger → κ → σ × List (FlushPolicy × List Wired) × ρ
  /-- A sink is handed a batch: the commands it will give, and how it will end. -/
  receive : σ → SinkId → Batch → σ × List κ × Ending
  /-- A command given by a sink came back. -/
  answered : σ → SinkId → Answer ρ → σ
  observe : σ → Happening → σ

structure Thread (κ ρ : Type) where
  stack : List (Frame κ)
  answer : Option (Answer ρ)

def Thread.run {κ ρ : Type} (frame : Frame κ) : Thread κ ρ := ⟨[frame], none⟩

/-- All but the threads. -/
structure Plant (σ : Type) where
  loggers : List Logger
  /-- Batches whose dispatch has begun, over all loggers. -/
  dispatched : Nat
  /-- Clock readings so far. -/
  readings : Nat
  host : σ

structure System (σ κ ρ : Type) where
  plant : Plant σ
  threads : List (Thread κ ρ)

namespace Plant

variable {σ : Type}

def setLogger (p : Plant σ) (id : LoggerId) (l : Logger) : Plant σ :=
  { p with loggers := p.loggers.set id l }

end Plant

/-- The outcome of one step: the plant, the thread, threads that were started, and what happened. -/
structure Turnout (σ κ ρ : Type) where
  plant : Plant σ
  thread : Thread κ ρ
  started : List (Thread κ ρ)
  happenings : List Happening

namespace Machine

variable {σ κ ρ : Type} (host : Host σ κ ρ)

/-- An answer goes to the frame that waits for it, or ends the thread. -/
def reply (p : Plant σ) (answer : Answer ρ) (stack : List (Frame κ)) : Plant σ × Thread κ ρ :=
  match stack with
  | [] => (p, ⟨[], some answer⟩)
  | .receiving sink todo ending :: rest =>
    ({ p with host := host.answered p.host sink answer },
      ⟨.receiving sink todo ending :: rest, none⟩)
  | .burst logger text level next count failed :: rest =>
    let failed :=
      match answer with
      | .logged (.error e) => failed ++ [(next - 1, e)]
      | _ => failed
    (p, ⟨.burst logger text level next count failed :: rest, none⟩)
  | stack => (p, ⟨stack, none⟩)

/-- A step that ends a command. -/
def finish (p : Plant σ) (answer : Answer ρ) (stack : List (Frame κ))
    (happenings : List Happening) : Turnout σ κ ρ :=
  let (p, thread) := reply host p answer stack
  ⟨p, thread, [], happenings⟩

/-- A step after which the thread goes on. -/
def proceed (p : Plant σ) (stack : List (Frame κ)) (happenings : List Happening) :
    Turnout σ κ ρ :=
  ⟨p, ⟨stack, none⟩, [], happenings⟩

/-- A logger's buffer was looked at: what was cut waits for its turn, else the call is over. -/
def afterCut (p : Plant σ) (call : Call) (cut : Option (Nat × List Entry) × Logger)
    (stack : List (Frame κ)) (happenings : List Happening) : Turnout σ κ ρ :=
  let p := p.setLogger call.logger cut.2
  match cut.1 with
  | none => finish host p call.answer stack happenings
  | some (ticket, entries) =>
    proceed p (.waiting call ticket entries :: stack)
      (happenings ++ [.cut call.logger ticket entries])

/-- A command finds out what it asks for. -/
def begin (p : Plant σ) (c : κ) (threads : Nat) (stack : List (Frame κ)) : Turnout σ κ ρ :=
  match host.ask p.host c with
  | .log logger message level => proceed p (.log logger message level :: stack) []
  | .flush logger => proceed p (.flush logger :: stack) []
  | .burst logger text level count => proceed p (.burst logger text level 0 count [] :: stack) []
  | .spawn logger message level =>
    { finish host p .spawned stack [] with started := [.run (.log logger message level)] }
  | .crowd logger n count =>
    { proceed p (.joining ((List.range n).map (threads + ·)) :: stack) [] with
      started := (List.range n).map fun t =>
        .run (.burst logger (toString t ++ ":") .info 0 count []) }
  | .nothing =>
    let (h, opened, r) := host.perform p.host p.loggers c
    let loggers := p.loggers ++ opened.map fun (policy, sinks) => Logger.start policy sinks
    finish host { p with loggers, host := h } (.other r) stack []

/-- One step of a thread with this stack, if it can take one. `done` says which threads are. -/
def stepStack (p : Plant σ) (done : List Bool) (stack : List (Frame κ)) :
    Option (Turnout σ κ ρ) :=
  match stack with
  | [] => none
  | .command c :: rest => some (begin host p c done.length rest)
  | .log id message level :: rest =>
    match p.loggers[id]? with
    | none => some (finish host p (.logged (.ok ())) rest [])
    | some l =>
      let entry : Entry := ⟨message, level, host.clock p.readings⟩
      let p := { p with readings := p.readings + 1 }
      let l := l.push entry
      if isDelivering rest id then
        some (finish host (p.setLogger id l) (.logged (.ok ())) rest [.accepted id entry])
      else some (afterCut host p (.start id .log) l.cutDue rest [.accepted id entry])
  | .flush id :: rest =>
    match p.loggers[id]? with
    | none => some (finish host p (.flushed (.ok 0)) rest [])
    | some l =>
      if isDelivering rest id then some (finish host p (.flushed (.ok 0)) rest [])
      else some (afterCut host p (.start id .flush) l.cutAll rest [.flushed id])
  | .burst id text level next count failed :: rest =>
    if next < count then
      some (proceed p (.log id (text ++ toString next) level ::
        .burst id text level (next + 1) count failed :: rest) [])
    else some (finish host p (.burst failed) rest [])
  | .joining threads :: rest =>
    if threads.all fun t => done.getD t true then some (finish host p .joined rest []) else none
  | .waiting call ticket entries :: rest =>
    match p.loggers[call.logger]? with
    | none => none
    | some l =>
      if l.turn = ticket then
        let batch : Batch := ⟨p.dispatched, entries⟩
        some (proceed { p with dispatched := p.dispatched + 1 }
          (.delivering call ticket batch l.sinks [] :: rest)
          [.began call.logger ticket batch l.sinks.length])
      else none
  | .delivering call ticket batch (w :: left) failures :: rest =>
    let (h, todo, ending) := host.receive p.host w.sink batch
    some (proceed { p with host := h }
      (.receiving w.sink todo ending.caught ::
        .delivering call ticket batch (w :: left) failures :: rest)
      [.handed call.logger ticket batch w])
  | .delivering call ticket batch [] failures :: rest =>
    match p.loggers[call.logger]? with
    | none => none
    | some l =>
      some (proceed (p.setLogger call.logger l.passTurn)
        (.draining (call.conclude batch l.sinks.length failures) :: rest)
        [.released call.logger ticket])
  | .receiving sink (c :: todo) ending :: rest =>
    some (proceed p (.command c :: .receiving sink todo ending :: rest) [])
  | .receiving _ [] ending :: .delivering call ticket batch left failures :: rest =>
    let (happenings, failures) : List Happening × List SinkFailure :=
      match left, ending with
      | w :: _, .ok () => ([.took call.logger ticket w], failures)
      | w :: _, .error e =>
        ([.failed call.logger ticket ⟨w.name, e⟩], failures ++ [⟨w.name, e⟩])
      | [], _ => ([], failures)
    some (proceed p (.delivering call ticket batch left.tail failures :: rest) happenings)
  | .receiving _ [] _ :: rest => some (proceed p rest [])
  | .draining call :: rest =>
    match p.loggers[call.logger]? with
    | none => none
    | some l => some (afterCut host p call l.cutDue rest [])

end Machine

namespace System

variable {σ κ ρ : Type} (host : Host σ κ ρ)

/-- One step of thread `t`, with what happened, if it can take one. -/
def step (s : System σ κ ρ) (t : ThreadId) : Option (System σ κ ρ × List Happening) :=
  match s.threads[t]? with
  | none => none
  | some thread =>
    match Machine.stepStack host s.plant (s.threads.map (·.stack.isEmpty)) thread.stack with
    | none => none
    | some out =>
      let plant := { out.plant with host := out.happenings.foldl host.observe out.plant.host }
      some (⟨plant, s.threads.set t out.thread ++ out.started⟩, out.happenings)

end System

end BatchedLog
