import BatchedLog.Config.Basic
import BatchedLog.Registry

/-!
# The report on a configuration

What became of each declared target, in the order of declaration, then the interval of the logger
and whether trace messages are let through.
-/

namespace BatchedLog.CommandLine

inductive TargetReport
  | wired (name type : String)
  | untyped (name : String)
  | unknown (name type : String)
  deriving DecidableEq, Repr

namespace TargetReport

def of {φ : Type} (registry : Registry φ) (name : String) (target : Target) : TargetReport :=
  match target.type with
  | none => .untyped name
  | some type => if registry.contains type then .wired name type else .unknown name type

/-- Names are padded to sixteen characters. -/
def padded (name : String) : String :=
  String.ofList (name.toList ++ List.replicate (16 - name.length) ' ')

def line : TargetReport → String
  | .wired name type => padded name ++ " " ++ type
  | .untyped name => padded name ++ " skipped (no type)"
  | .unknown name type => padded name ++ " skipped (unknown type " ++ tick type ++ ")"

/-- The name of a target that has a sink. -/
def wired? : TargetReport → Option String
  | .wired name _ => some name
  | _ => none

end TargetReport

structure CheckReport where
  targets : List TargetReport
  interval : Nat
  debug : Bool
  deriving DecidableEq, Repr

namespace CheckReport

def of {φ : Type} (registry : Registry φ) (config : AppConfig) (interval : Nat) (debug : Bool) :
    CheckReport :=
  { targets := ((config.log.bind (·.targets)).getD []).map fun (n, t) => .of registry n t
    interval, debug }

def lines (r : CheckReport) : List String :=
  r.targets.map TargetReport.line ++
    [TargetReport.padded "flush_interval" ++ " " ++ toString r.interval,
      TargetReport.padded "trace" ++ " " ++ (if r.debug then "enabled" else "disabled")]

def text (r : CheckReport) : String := String.join (r.lines.map (· ++ "\n"))

end CheckReport

end BatchedLog.CommandLine
