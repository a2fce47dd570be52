import BatchedLog.Delivery.Run
import BatchedLog.Session.Host

/-!
# Running a session

Loggers are built one after the other, each in a slot of its own, and then each step is driven until
nothing more can happen, with all threads it has started.
-/

namespace BatchedLog.Session

abbrev State := Plant World

abbrev Machine := System World Step Reply

/-- The logger a frame works for. -/
def loggerOf? : Frame Step → Option LoggerId
  | .log l .. => some l
  | .flush l => some l
  | .burst l .. => some l
  | .waiting call .. => some call.logger
  | .delivering call .. => some call.logger
  | .draining call => some call.logger
  | _ => none

def isBusy (m : Machine) (l : LoggerId) : Bool :=
  m.threads.any fun t => t.stack.any fun f => loggerOf? f == some l

/-- Orphans go when their last call is over; what they still held is reported. -/
def settle (m : Machine) : Machine :=
  let w := m.plant.host
  match w.orphans with
  | [] => m
  | orphans =>
    let gone := orphans.filter fun l => !isBusy m l
    let held := (gone.filterMap (m.plant.loggers[·]?)).map Logger.pendingCount
    let w := (held.filter (0 < ·)).foldl (fun w n => w.note (.dropped n)) w
    { m with plant := { m.plant with host := { w with orphans := orphans.filter (isBusy m) } } }

/-- All sinks of all loggers. -/
def wiredCount (s : State) : Nat := s.loggers.foldl (fun n l => n + l.sinks.length) 0

/-- After how many steps of the machine a step is given up. It is more than one call takes if no
sink gives commands, however many sinks there are. -/
def patience (s : State) : Nat := 4 * wiredCount s + Nat.pow 2 40

variable (clock : Nat → Instant)

/-- Drive one thread, and those it starts, to the end. -/
def drive (s : State) (frame : Frame Step) : State × List (Thread Step Reply) :=
  let m := System.drive (host clock) settle (patience s) 0 ⟨s, [.run frame]⟩
  (m.plant, m.threads)

/-- What came of a step: its answer, the entries pending in each slot's logger, what sinks wrote
down, what other threads' log calls came to, and what was written to the console. -/
structure Report where
  answer : Option (Answer Reply)
  pending : List (Option Nat)
  journal : List JournalLine
  spawned : List (Except DispatchError Unit)
  console : Console

def pendingCounts (s : State) : List (Option Nat) :=
  s.host.slots.map fun slot => (slot.bind (s.loggers[·]?)).map Logger.pendingCount

def logged? (t : Thread Step Reply) : Option (Except DispatchError Unit) :=
  match t.answer with
  | some (.logged r) => some r
  | _ => none

/-- A clean journal and console for what comes next. -/
def turnPage (s : State) : State :=
  { s with host := { s.host with journal := #[], console := .empty } }

def carryOut (s : State) (frame : Frame Step) : State × Report :=
  let (s, threads) := drive clock (turnPage s) frame
  (s,
    { answer := threads.head?.bind (·.answer)
      pending := pendingCounts s
      journal := s.host.journal.toList
      spawned := (threads.drop 1).filterMap logged?
      console := s.host.console })

def start (disk : Disk) : State := ⟨[], 0, 0, .start disk⟩

/-- Build a logger into the next slot; a failure leaves the slot empty. -/
def buildInto (s : State) (plan : LoggerPlan Step) : State × Option (Answer Reply) :=
  let (s, r) := carryOut clock s (.command (.build plan))
  match r.answer with
  | some (.other (.notBuilt _)) =>
    ({ s with host := { s.host with slots := s.host.slots ++ [none] } }, r.answer)
  | answer => (s, answer)

def mapState {α β : Type} (f : State → α → State × β) : State → List α → State × List β
  | s, [] => (s, [])
  | s, a :: rest =>
    let (s, b) := f s a
    let (s, bs) := mapState f s rest
    (s, b :: bs)

def buildAll (s : State) (plans : List (LoggerPlan Step)) : State × List (Option (Answer Reply)) :=
  mapState (buildInto clock) s plans

def runAll (s : State) (steps : List Step) : State × List Report :=
  mapState (fun s step => carryOut clock s (.command step)) s steps

/-! ## One logger by hand -/

/-- Make sinks and wire them to a logger that is only flushed by hand; those that cannot be made or
added are left out. -/
def wireByHand (s : State) (plans : List (SinkPlan Step)) :
    State × List (Except BuildError Unit) :=
  let (s, wiring, results) := plans.foldl
    (fun (s, (wiring : Wiring), results) plan =>
      match s.host.makeSink plan with
      | (w, .error e) => ({ s with host := w }, wiring, results ++ [.error (.sink e)])
      | (w, .ok id) =>
        let s := { s with host := w }
        match wiring.add plan.name id with
        | .error e => (s, wiring, results ++ [.error (.logger e)])
        | .ok wiring => (s, wiring, results ++ [.ok ()]))
    (s, Wiring.start.interval 0, [])
  ({ s with loggers := [.start wiring.policy wiring.sinks] }, results)

/-- Hand a batch to the sinks of a logger wired by hand. -/
def deliverByHand (s : State) (entries : List Entry) : State × Report :=
  let loggers := s.loggers.modify 0 fun l => entries.foldl Logger.push l
  carryOut clock { s with loggers } (.flush 0)

end BatchedLog.Session
