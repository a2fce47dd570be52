import BatchedLog.Session.Run

/-!
# Threads of one process

Threads that ask the process for its shared logger, for loggers of their own, to install or to read
its configuration, and the like. Each errand is one step, but for a call for the shared logger: that
is interleaved with the others by the steps of `Shared.step`. What is seen of a run are its
`Milestone`s: each attempt to make the shared logger, and what each call for it comes back with.
-/

namespace BatchedLog.Session

inductive Errand
  /-- A call for the shared logger. -/
  | get
  /-- A logger of one's own from settings. -/
  | independent (settings : LogSettings)
  | install (source : Source)
  | config
  | setDebug (on : Bool)
  | register (type : String) (factory : Factory Step)

/-- The step of a session that an errand is, when nothing comes between. -/
def Errand.step : Errand → Step
  | .get => .get
  | .independent settings => .build (.independent settings)
  | .install source => .install source
  | .config => .config
  | .setDebug on => .setDebug on
  | .register type factory => .register type factory

structure Caller where
  /-- What is still to be done. -/
  errands : List Errand
  /-- How far the call for the shared logger has come that the thread is in. -/
  call : Option Acquiring

structure Process where
  state : State
  callers : List Caller

/-- What is seen of calls for the shared logger. -/
inductive Milestone
  /-- An attempt to make it has come to this logger. -/
  | made (caller : ThreadId) (logger : LoggerId)
  /-- An attempt to make it has failed. -/
  | unmade (caller : ThreadId) (e : LoggerError)
  | returned (caller : ThreadId) (logger : LoggerId)
  | refused (caller : ThreadId) (e : LoggerError)
  deriving DecidableEq, Repr

/-- The session with loggers that were opened in it. -/
def State.opening (s : State) (w : World) (opened : List (FlushPolicy × List Wired)) : State :=
  { s with
    host := w
    loggers := s.loggers ++ opened.map fun (policy, sinks) => Logger.start policy sinks }

/-- The session with another slot and lock for the shared logger. -/
def State.withShared (s : State) (shared : Shared) : State :=
  { s with host := { s.host with shared } }

/-- Make the shared logger from what the configuration is now. -/
def State.makeShared (s : State) : State × Except LoggerError LoggerId :=
  match World.makeShared s.loggers (s.host, []) with
  | ((w, opened), result) => (s.opening w (World.opening opened), result)

/-- What a step of a call makes known. -/
def Milestone.between (t : ThreadId) : Acquiring → Acquiring → List Milestone
  | .making, .storing l => [.made t l]
  | .making, .unlocking (.error e) => [.unmade t e]
  | _, .done (.ok l) => [.returned t l]
  | _, .done (.error e) => [.refused t e]
  | _, _ => []

/-- Where a thread is with a call after a step; one that has come to its end is over. -/
def ongoing : Acquiring → Option Acquiring
  | .done _ => none
  | a => some a

namespace Process

def shared (p : Process) : Shared := p.state.host.shared

/-- Thread `t` is left with `caller`, and the session with `s`. -/
def put (p : Process) (t : ThreadId) (s : State) (caller : Caller) : Process :=
  ⟨s, p.callers.set t caller⟩

/-- One step of a thread, if it can take one. -/
def step (p : Process) (t : ThreadId) : Option (Process × List Milestone) :=
  match p.callers[t]? with
  | none => none
  | some ⟨errands, some a⟩ =>
    match Shared.step State.makeShared p.shared p.state a with
    | none => none
    | some (shared, s, next) =>
      some (p.put t (s.withShared shared) ⟨errands, ongoing next⟩,
        Milestone.between t a next)
  | some ⟨[], none⟩ => none
  | some ⟨.get :: errands, none⟩ => some (p.put t p.state ⟨errands, some .arrived⟩, [])
  | some ⟨errand :: errands, none⟩ =>
    match p.state.host.perform p.state.loggers errand.step with
    | (w, opened, _) => some (p.put t (p.state.opening w opened) ⟨errands, none⟩, [])

/-- The threads of a schedule take a step each, in this order. -/
def follow : List ThreadId → Process → Option (Process × List Milestone)
  | [], p => some (p, [])
  | t :: schedule, p =>
    match p.step t with
    | none => none
    | some (next, now) =>
      match follow schedule next with
      | none => none
      | some (last, later) => some (last, now ++ later)

end Process

end BatchedLog.Session
