import BatchedLog.Buffer

/-!
# Configuration

What an application sets: debug mode, the log pipeline with its targets, and diagnostics. Targets
keep the order in which they were declared, each name once.
-/

namespace BatchedLog

/-- A sink to be made: its type, if one is given, and the parameters for it. -/
structure Target where
  type : Option String
  params : Fields
  deriving Inhabited

abbrev Targets := List (String × Target)

/-- A name that is there already keeps its place. -/
def Targets.put (name : String) (target : Target) : Targets → Targets
  | [] => [(name, target)]
  | (n, t) :: rest =>
    if n = name then (name, target) :: rest else (n, t) :: Targets.put name target rest

theorem Targets.names_put (name : String) (target : Target) (ts : Targets) :
    (ts.put name target).map (·.1) =
      if name ∈ ts.map (·.1) then ts.map (·.1) else ts.map (·.1) ++ [name] := by
  induction ts with
  | nil => simp [put]
  | cons head rest ih =>
    obtain ⟨n, t⟩ := head
    unfold put
    split
    · rename_i h
      simp [h]
    · rename_i h
      rw [List.map_cons, ih]
      have h' : ¬name = n := Ne.symm h
      by_cases hr : name ∈ rest.map (·.1)
      · simp [hr]
      · simp [hr, h']

theorem Targets.names_put_nodup {name : String} {target : Target} {ts : Targets}
    (h : (ts.map (·.1)).Nodup) : ((ts.put name target).map (·.1)).Nodup := by
  rw [names_put]
  split
  · exact h
  · rename_i hn
    rw [List.nodup_append]
    refine ⟨h, by simp, ?_⟩
    intro a ha b hb hab
    rw [List.mem_singleton] at hb
    exact hn (hb ▸ hab ▸ ha)

structure LogSettings where
  targets : Option Targets
  flushInterval : Nat

def LogSettings.default : LogSettings := ⟨none, FlushPolicy.default.interval⟩

structure Observability where
  logLevel : String
  metricsEnabled : Bool
  metricsAddress : String
  deriving DecidableEq

def Observability.default : Observability := ⟨"logpipe=info", false, "127.0.0.1:9090"⟩

structure AppConfig where
  debug : Bool
  log : Option LogSettings
  observability : Observability

def AppConfig.default : AppConfig := ⟨false, none, .default⟩

/-- The targets of a configuration, if it has any. -/
def AppConfig.targets (config : AppConfig) : Targets :=
  (config.log.bind (·.targets)).getD []

/-- The flush interval that a configuration comes to. -/
def AppConfig.interval (config : AppConfig) : Nat :=
  (config.log.map (·.flushInterval)).getD FlushPolicy.default.interval

end BatchedLog
