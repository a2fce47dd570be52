import BatchedLog.Config.Load
import BatchedLog.Registry
import BatchedLog.Wiring

/-!
# Plans of a session

A session sets up loggers and carries out steps on them. Its sinks are real ones or follow a script:
for each batch they are handed they carry out steps of their own and then end as the script says.
-/

namespace BatchedLog.Session

inductive SinkKind
  | memory
  | file
  | console
  | forward
  | scripted
  deriving DecidableEq, Repr

/-- What a scripted sink does with one batch. -/
structure Turn (κ : Type) where
  actions : List κ
  ending : Ending

structure SinkPlan (κ : Type) where
  name : String
  kind : SinkKind
  params : Fields
  script : List (Turn κ)

/-- How sinks of a type are made. -/
inductive Factory (κ : Type)
  | console
  | file
  | forward
  | reject (param reason : String)
  | refuse (text : String)
  /-- A sink after a plan, once the target has the required parameter. -/
  | planned (required : Option String) (plan : SinkPlan κ)

/-- The types that are always there. -/
def builtins {κ : Type} : List (String × Factory κ) :=
  [("console", .console), ("file", .file), ("tracing", .forward)]

/-- Where a logger comes from. A registry is given by its types, in the order in which they are
registered. -/
inductive LoggerPlan (κ : Type)
  | direct (interval : Option Nat) (sinks : List (SinkPlan κ)) (targets : Option Targets)
      (registry : List (String × Factory κ))
  | settings (settings : LogSettings) (registry : List (String × Factory κ))
  | app (config : AppConfig) (registry : List (String × Factory κ))
  | toml (text : String) (registry : List (String × Factory κ))
  /-- From settings, with the registry of the process. -/
  | independent (settings : LogSettings)

/-- Where a configuration to install comes from. -/
inductive Source
  | config (c : AppConfig)
  | toml (text : String)

/-- A step; loggers are named by their slot. -/
inductive Step
  | log (slot : Nat) (text : String) (level : Level)
  | error (slot : Nat) (text : String)
  | warning (slot : Nat) (text : String)
  | info (slot : Nat) (text : String)
  | trace (slot : Nat) (text : String)
  | flush (slot : Nat)
  | logMany (slot n : Nat) (text : String) (level : Level)
  | spawn (slot : Nat) (text : String) (level : Level)
  | threads (slot threads n : Nat)
  | pending (slot : Nat)
  | describe (slot : Nat)
  | audit (threads n : Nat)
  | setDebug (on : Bool)
  | isDebug
  | build (plan : LoggerPlan Step)
  | drop (slot : Nat)
  | memory (name : String)
  | same
  | read (path : String)
  | tree
  | write (path content : String)
  | makeDirectory (path : String)
  | remove (path : String)
  | install (source : Source)
  | config
  | register (type : String) (factory : Factory Step)
  | types
  | get
  | getThreads (n : Nat)
  | replace (slot : Option Nat)

end BatchedLog.Session
