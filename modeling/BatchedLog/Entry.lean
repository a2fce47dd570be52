import BatchedLog.Level
import BatchedLog.Json.Text

/-!
# Log entries

An entry is a message, its level and the instant it was logged. Sinks write the instant as whole
milliseconds since the epoch, kept within 64 bits: earlier instants count as zero.
-/

namespace BatchedLog

/-- A point in time, in nanoseconds since the epoch. -/
structure Instant where
  nanos : Int
  deriving DecidableEq, Repr, Inhabited

namespace Instant

def ofMillis (ms : Int) : Instant := ⟨ms * 1000000⟩

def maxMillis : Nat := UInt64.size - 1

/-- Fractions of a millisecond are dropped. -/
def unixMillis (t : Instant) : Nat := min (t.nanos.toNat / 1000000) maxMillis

theorem unixMillis_mono {s t : Instant} (h : s.nanos ≤ t.nanos) : s.unixMillis ≤ t.unixMillis := by
  have : s.nanos.toNat / 1000000 ≤ t.nanos.toNat / 1000000 :=
    Nat.div_le_div_right (by omega)
  unfold unixMillis
  omega

theorem unixMillis_of_neg {t : Instant} (h : t.nanos < 0) : t.unixMillis = 0 := by
  have : t.nanos.toNat = 0 := by omega
  simp [unixMillis, this]

end Instant

structure Entry where
  message : String
  level : Level
  stamp : Instant
  deriving DecidableEq, Repr, Inhabited

namespace Entry

def unixMillis (e : Entry) : Nat := e.stamp.unixMillis

/-- The record of an entry as a JSON value. -/
def record (e : Entry) : Json :=
  .object [("ts_ms", .integer e.unixMillis), ("level", .string e.level.name),
    ("message", .string e.message)]

end Entry

end BatchedLog
