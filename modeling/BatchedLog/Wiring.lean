import BatchedLog.Config.Basic
import BatchedLog.Delivery.Logger
import BatchedLog.Diagnostic
import BatchedLog.Registry

/-!
# Wiring a logger

A logger is put together from an interval, sinks that are there already, and targets whose sinks are
made by the factories of a registry. Names are unique, targets without a known type are passed over,
and the first failure ends it.
-/

namespace BatchedLog

inductive LoggerError
  | invalidConfiguration (reason : String)
  | sinkConstruction (name : String) (source : SinkError)
  | duplicateSink (name : String)
  deriving DecidableEq, Repr

def LoggerError.message : LoggerError → String
  | .invalidConfiguration reason => "invalid log configuration: " ++ reason
  | .sinkConstruction name source =>
    "failed to construct sink " ++ tick name ++ ": " ++ source.message
  | .duplicateSink name => "sink " ++ tick name ++ " is already registered"

/-- Where sinks are made: a factory turns a target's type and parameters into a sink. -/
structure Workshop (φ σ : Type) where
  make : σ → φ → String → Fields → σ × Except SinkError SinkId
  note : σ → Diagnostic → σ

structure Wiring where
  policy : FlushPolicy
  sinks : List Wired
  deriving DecidableEq, Repr

namespace Wiring

def start : Wiring := ⟨.default, []⟩

def interval (w : Wiring) (n : Nat) : Wiring := { w with policy := ⟨n⟩ }

def add (w : Wiring) (name : String) (sink : SinkId) : Except LoggerError Wiring :=
  if w.sinks.any fun s => s.name = name then .error (.duplicateSink name)
  else .ok { w with sinks := w.sinks ++ [⟨name, sink⟩] }

theorem add_eq_ok {w v : Wiring} {name : String} {sink : SinkId} :
    w.add name sink = .ok v ↔
      name ∉ w.sinks.map (·.name) ∧ v = { w with sinks := w.sinks ++ [⟨name, sink⟩] } := by
  have h : (w.sinks.any fun s => s.name = name) = true ↔ name ∈ w.sinks.map (·.name) := by
    simp
  unfold add
  split
  · rename_i hn
    simp [h.1 hn]
  · rename_i hn
    have hm : name ∉ w.sinks.map (·.name) := fun hm => hn (h.2 hm)
    constructor
    · intro he
      exact ⟨hm, (Except.ok.inj he).symm⟩
    · rintro ⟨-, rfl⟩
      rfl

theorem add_eq_error {w : Wiring} {name : String} {sink : SinkId} {e : LoggerError} :
    w.add name sink = .error e ↔ name ∈ w.sinks.map (·.name) ∧ e = .duplicateSink name := by
  have h : (w.sinks.any fun s => s.name = name) = true ↔ name ∈ w.sinks.map (·.name) := by
    simp
  unfold add
  split
  · rename_i hn
    constructor
    · intro he
      exact ⟨h.1 hn, (Except.error.inj he).symm⟩
    · rintro ⟨-, rfl⟩
      rfl
  · rename_i hn
    have hm : name ∉ w.sinks.map (·.name) := fun hm => hn (h.2 hm)
    simp [hm]

variable {φ σ : Type}

/-- Make and add the sinks of targets, in order. -/
def addTargets (shop : Workshop φ σ) (registry : Registry φ) (w : Wiring) (s : σ) :
    Targets → σ × Except LoggerError Wiring
  | [] => (s, .ok w)
  | (name, target) :: rest =>
    match target.type with
    | none => addTargets shop registry w (shop.note s (.targetUntyped name)) rest
    | some type =>
      match registry.find? type with
      | none => addTargets shop registry w (shop.note s (.targetUnknown name type)) rest
      | some factory =>
        match shop.make s factory type target.params with
        | (s, .error e) => (s, .error (.sinkConstruction name e))
        | (s, .ok sink) =>
          match w.add name sink with
          | .error e => (s, .error e)
          | .ok w => addTargets shop registry w (shop.note s (.targetRegistered name type)) rest

/-- Targets are required, though there may be none. -/
def ofSettings (shop : Workshop φ σ) (registry : Registry φ) (s : σ) (settings : LogSettings) :
    σ × Except LoggerError Wiring :=
  match settings.targets with
  | none => (s, .error (.invalidConfiguration "the `targets` table is required"))
  | some targets => addTargets shop registry (start.interval settings.flushInterval) s targets

/-- Without a log section there are no sinks, and the interval is the default one. -/
def ofConfig (shop : Workshop φ σ) (registry : Registry φ) (s : σ) (config : AppConfig) :
    σ × Except LoggerError Wiring :=
  match config.log with
  | none => (s, .ok start)
  | some settings => ofSettings shop registry s settings

end Wiring

/-- The diagnostic form of a list of sinks. -/
def describeDispatcher (names : List String) : String :=
  "Dispatcher \x7b sinks: " ++ Text.quoteList names ++ " \x7d"

end BatchedLog
