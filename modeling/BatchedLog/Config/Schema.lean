import BatchedLog.Config.Basic

/-!
# Schema

Decoding a document into a configuration. Keys are taken in the order of the document and the first
value that does not fit ends it; unknown keys are passed over and missing ones have defaults. A
section may also be written as a list of its values in declared order. `toJson` is the way back.
-/

namespace BatchedLog

namespace Decode

def bool : Json → Except Mismatch Bool
  | .bool b => .ok b
  | j => .error (.wrongType j.shape "a boolean")

def string : Json → Except Mismatch String
  | .string s => .ok s
  | j => .error (.wrongType j.shape "a string")

/-- A natural number of 64 bits. -/
def size : Json → Except Mismatch Nat
  | .integer i =>
    if 0 ≤ i ∧ i < UInt64.size then .ok i.toNat else .error (.wrongValue (.integer i) "usize")
  | j => .error (.wrongType j.shape "usize")

def option {α : Type} (decode : Json → Except Mismatch α) : Json → Except Mismatch (Option α)
  | .null => .ok none
  | j => (decode j).map some

/-- The value of a field that is met once at most. -/
def once {α : Type} (name : String) (decode : Json → Except Mismatch α) (before : Option α)
    (j : Json) : Except Mismatch (Option α) :=
  match before with
  | some _ => .error (.duplicateField name)
  | none => (decode j).map some

/-- The value at a position of a list, if there is one. -/
def position {α : Type} (decode : Json → Except Mismatch α) (default : α) (items : List Json)
    (i : Nat) : Except Mismatch α :=
  match items[i]? with
  | none => .ok default
  | some j => decode j

end Decode

namespace Target

def decodeField (t : Option (Option String) × Fields) (key : String) (j : Json) :
    Except Mismatch (Option (Option String) × Fields) :=
  if key = "type" then do
    let type ← Decode.once "type" (Decode.option Decode.string) t.1 j
    return (type, t.2)
  else return (t.1, t.2.put key j.sorted)

def ofJson : Json → Except Mismatch Target
  | .object fields => do
    let (type, params) ← fields.foldlM (fun t (key, j) => decodeField t key j) (none, [])
    return ⟨type.getD none, params⟩
  | j => .error (.wrongType j.shape "struct TargetConfig")

/-- The type, if there is one, then the parameters. -/
def toJson (t : Target) : Json :=
  .object ((t.type.map fun s => ("type", Json.string s)).toList ++ t.params)

end Target

namespace Targets

def ofJson : Json → Except Mismatch Targets
  | .object fields =>
    fields.foldlM (fun targets (name, j) => do return targets.put name (← Target.ofJson j)) []
  | j => .error (.wrongType j.shape "a map")

def toJson (targets : Targets) : Json :=
  .object (targets.map fun (name, t) => (name, t.toJson))

end Targets

namespace LogSettings

structure Draft where
  targets : Option (Option Targets)
  flushInterval : Option Nat

def Draft.decodeField (d : Draft) (key : String) (j : Json) : Except Mismatch Draft :=
  if key = "targets" then do
    return { d with targets := ← Decode.once "targets" (Decode.option Targets.ofJson) d.targets j }
  else if key = "flush_interval" ∨ key = "flushInterval" then do
    return { d with flushInterval := ← Decode.once "flush_interval" Decode.size d.flushInterval j }
  else return d

def ofJson : Json → Except Mismatch LogSettings
  | .object fields => do
    let d ← fields.foldlM (fun (d : Draft) (key, j) => d.decodeField key j) ⟨none, none⟩
    return ⟨d.targets.getD default.targets, d.flushInterval.getD default.flushInterval⟩
  | .array items => do
    let targets ← Decode.position (Decode.option Targets.ofJson) default.targets items 0
    let interval ← Decode.position Decode.size default.flushInterval items 1
    return ⟨targets, interval⟩
  | j => .error (.wrongType j.shape "struct LogConfig")

def toJson (s : LogSettings) : Json :=
  .object [("targets", (s.targets.map Targets.toJson).getD .null),
    ("flush_interval", .integer s.flushInterval)]

end LogSettings

namespace Observability

structure Draft where
  logLevel : Option String
  metricsEnabled : Option Bool
  metricsAddress : Option String

def Draft.decodeField (d : Draft) (key : String) (j : Json) : Except Mismatch Draft :=
  if key = "log_level" then do
    return { d with logLevel := ← Decode.once key Decode.string d.logLevel j }
  else if key = "metrics_enabled" then do
    return { d with metricsEnabled := ← Decode.once key Decode.bool d.metricsEnabled j }
  else if key = "metrics_address" then do
    return { d with metricsAddress := ← Decode.once key Decode.string d.metricsAddress j }
  else return d

def ofJson : Json → Except Mismatch Observability
  | .object fields => do
    let d ← fields.foldlM (fun (d : Draft) (key, j) => d.decodeField key j) ⟨none, none, none⟩
    return ⟨d.logLevel.getD default.logLevel, d.metricsEnabled.getD default.metricsEnabled,
      d.metricsAddress.getD default.metricsAddress⟩
  | .array items => do
    let logLevel ← Decode.position Decode.string default.logLevel items 0
    let enabled ← Decode.position Decode.bool default.metricsEnabled items 1
    let address ← Decode.position Decode.string default.metricsAddress items 2
    return ⟨logLevel, enabled, address⟩
  | j => .error (.wrongType j.shape "struct ObservabilityConfig")

def toJson (o : Observability) : Json :=
  .object [("log_level", .string o.logLevel), ("metrics_enabled", .bool o.metricsEnabled),
    ("metrics_address", .string o.metricsAddress)]

end Observability

namespace AppConfig

structure Draft where
  debug : Option Bool
  log : Option (Option LogSettings)
  observability : Option Observability

def Draft.decodeField (d : Draft) (key : String) (j : Json) : Except Mismatch Draft :=
  if key = "debug" then do
    return { d with debug := ← Decode.once key Decode.bool d.debug j }
  else if key = "log" then do
    return { d with log := ← Decode.once key (Decode.option LogSettings.ofJson) d.log j }
  else if key = "observability" then do
    return { d with
      observability := ← Decode.once key Observability.ofJson d.observability j }
  else return d

def ofJson : Json → Except Mismatch AppConfig
  | .object fields => do
    let d ← fields.foldlM (fun (d : Draft) (key, j) => d.decodeField key j) ⟨none, none, none⟩
    return ⟨d.debug.getD default.debug, d.log.getD default.log,
      d.observability.getD default.observability⟩
  | .array items => do
    let debug ← Decode.position Decode.bool default.debug items 0
    let log ← Decode.position (Decode.option LogSettings.ofJson) default.log items 1
    let observability ← Decode.position Observability.ofJson default.observability items 2
    return ⟨debug, log, observability⟩
  | j => .error (.wrongType j.shape "struct AppConfig")

def toJson (c : AppConfig) : Json :=
  .object [("debug", .bool c.debug), ("log", (c.log.map LogSettings.toJson).getD .null),
    ("observability", c.observability.toJson)]

end AppConfig

end BatchedLog
