import BatchedLog.Delivery.Machine

/-!
# Metrics

Counters of entries by level, of batches and of failed deliveries by sink name, and the sizes of
the batches in the order of their dispatch.
-/

namespace BatchedLog

structure Metrics where
  entries : Level → Nat
  batches : Nat
  batchSizes : Array Nat
  failures : List (String × Nat)

namespace Metrics

def empty : Metrics := ⟨fun _ => 0, 0, #[], []⟩

/-- One more under `name`. -/
def bump (name : String) : List (String × Nat) → List (String × Nat)
  | [] => [(name, 1)]
  | (n, k) :: rest => if n = name then (n, k + 1) :: rest else (n, k) :: bump name rest

def record (m : Metrics) : Happening → Metrics
  | .accepted _ e =>
    { m with entries := fun l => if l = e.level then m.entries l + 1 else m.entries l }
  | .began _ _ batch _ =>
    { m with batches := m.batches + 1, batchSizes := m.batchSizes.push batch.entries.length }
  | .failed _ _ failure => { m with failures := bump failure.sink m.failures }
  | _ => m

/-- The counters that are not zero, by name and label in the order of that text. -/
def counters (m : Metrics) : List (String × Nat) :=
  let labelled (name label : String) : String := name ++ "\x7b" ++ label ++ "\x7d"
  let levels := Level.all.map fun l =>
    (labelled "logpipe_entries_total" ("level=" ++ l.name), m.entries l)
  let failures := m.failures.map fun (sink, n) =>
    (labelled "logpipe_sink_failures_total" ("sink=" ++ sink), n)
  let all := (labelled "logpipe_batches_total" "", m.batches) :: (levels ++ failures)
  (all.filter fun (_, n) => n != 0).mergeSort fun a b => decide (a.1 ≤ b.1)

end Metrics

end BatchedLog
