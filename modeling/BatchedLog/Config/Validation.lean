import BatchedLog.Config.Basic
import BatchedLog.SocketAddress
import BatchedLog.Text.WhiteSpace

/-!
# Validation

What a configuration must satisfy beyond its types. All offences are listed, in the order of the
configuration.
-/

namespace BatchedLog

inductive ValidationError
  | missingTargets
  | blankTargetName
  | blankTargetType (name : String)
  | invalidMetricsAddress (address : String)
  deriving DecidableEq, Repr

namespace ValidationError

def kind : ValidationError → String
  | .missingTargets => "MissingTargets"
  | .blankTargetName => "BlankTargetName"
  | .blankTargetType _ => "BlankTargetType"
  | .invalidMetricsAddress _ => "InvalidMetricsAddress"

def message : ValidationError → String
  | .missingTargets => "[log] section is missing the required `targets` table"
  | .blankTargetName => "log target names must not be blank"
  | .blankTargetType name => "log target " ++ tick name ++ " has a blank `type`"
  | .invalidMetricsAddress address => "invalid metrics address " ++ tick address

end ValidationError

def Target.errors (name : String) (t : Target) : List ValidationError :=
  (if Text.isBlank name then [.blankTargetName] else []) ++
    (if t.type.any Text.isBlank then [.blankTargetType name] else [])

def LogSettings.errors (s : LogSettings) : List ValidationError :=
  match s.targets with
  | none => [.missingTargets]
  | some targets => targets.flatMap fun (name, t) => t.errors name

/-- The address counts only when metrics are enabled. -/
def Observability.errors (o : Observability) : List ValidationError :=
  if o.metricsEnabled ∧ (SocketAddress.parse o.metricsAddress).isNone then
    [.invalidMetricsAddress o.metricsAddress]
  else []

def AppConfig.errors (c : AppConfig) : List ValidationError :=
  (c.log.map LogSettings.errors).getD [] ++ c.observability.errors

end BatchedLog
