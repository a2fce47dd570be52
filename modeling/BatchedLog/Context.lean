import BatchedLog.Config.Basic
import BatchedLog.Wiring

/-!
# The process

What a process has once: its configuration, set by the first who installs or reads it, the debug
flag that lets trace messages through, and a shared logger made when it is first asked for.

Asking for the shared logger looks for it, takes a lock, looks again, makes it, stores it and gives
the lock back. Each of these is a step of its own, so `Shared.step` can be interleaved.
-/

namespace BatchedLog

structure Context where
  config : Option AppConfig
  debug : Bool

namespace Context

def empty : Context := ⟨none, false⟩

/-- The first configuration stays; another is refused. The debug flag follows an installed one. -/
def install (c : Context) (config : AppConfig) : Context × Bool :=
  match c.config with
  | some _ => (c, false)
  | none => ({ config := some config, debug := config.debug }, true)

/-- Reading the configuration settles on the default one if there is none yet. -/
def read (c : Context) : Context × AppConfig :=
  match c.config with
  | some config => (c, config)
  | none => ({ c with config := some .default }, .default)

theorem read_read (c : Context) : (c.read.1).read = c.read := by
  cases h : c.config <;> simp [read, h]

end Context

structure Shared where
  logger : Option LoggerId
  locked : Bool
  deriving DecidableEq, Repr

/-- How far a call for the shared logger has come. -/
inductive Acquiring
  | arrived
  | locking
  | lookingAgain
  | making
  | storing (logger : LoggerId)
  | unlocking (result : Except LoggerError LoggerId)
  | done (result : Except LoggerError LoggerId)

namespace Shared

variable {σ : Type}

def empty : Shared := ⟨none, false⟩

/-- One step of a call. While another holds the lock there is none, nor is there after the end. -/
def step (make : σ → σ × Except LoggerError LoggerId) (shared : Shared) (s : σ) :
    Acquiring → Option (Shared × σ × Acquiring)
  | .arrived =>
    match shared.logger with
    | some l => some (shared, s, .done (.ok l))
    | none => some (shared, s, .locking)
  | .locking =>
    if shared.locked then none else some ({ shared with locked := true }, s, .lookingAgain)
  | .lookingAgain =>
    match shared.logger with
    | some l => some (shared, s, .unlocking (.ok l))
    | none => some (shared, s, .making)
  | .making =>
    match make s with
    | (s, .ok l) => some (shared, s, .storing l)
    | (s, .error e) => some (shared, s, .unlocking (.error e))
  | .storing l => some ({ shared with logger := some l }, s, .unlocking (.ok l))
  | .unlocking r => some ({ shared with locked := false }, s, .done r)
  | .done _ => none

/-- A call while no other is under way. -/
def acquire (make : σ → σ × Except LoggerError LoggerId) (shared : Shared) (s : σ) :
    Shared × σ × Except LoggerError LoggerId :=
  match shared.logger with
  | some l => (shared, s, .ok l)
  | none =>
    match make s with
    | (s, .ok l) => ({ shared with logger := some l }, s, .ok l)
    | (s, .error e) => (shared, s, .error e)

end Shared

end BatchedLog
