import BatchedLog.Proofs.Delivery.Conservation
import BatchedLog.Proofs.Delivery.Flow
import BatchedLog.Proofs.Sink.TextLines
import Mathlib.Data.List.Flatten

/-!
# Stamps in the order of delivery

An entry is stamped in the same step that puts it into the buffer, and each reading of the clock
stamps one entry. So the entries that got into buffers have the stamps of consecutive readings, and
as batches keep the order of the buffer, what is delivered is in the order of its stamps.
-/

namespace BatchedLog

variable {σ κ ρ : Type} {host : Host σ κ ρ}

/-! ## Readings and entries -/

/-- From reading `n` on up to reading `m` the clock was read once for each of the entries. -/
structure Stamped (host : Host σ κ ρ) (n : Nat) (es : List Entry) (m : Nat) : Prop where
  readings : m = n + es.length
  stamps : es.map (·.stamp) = (List.range' n es.length).map host.clock

namespace Stamped

variable {n m k : Nat} {es more : List Entry}

theorem nil (host : Host σ κ ρ) (n : Nat) : Stamped host n [] n := ⟨rfl, rfl⟩

theorem append (first : Stamped host n es m) (next : Stamped host m more k) :
    Stamped host n (es ++ more) k := by
  constructor
  · rw [next.readings, first.readings, List.length_append, Nat.add_assoc]
  · rw [List.map_append, first.stamps, next.stamps, first.readings, List.length_append,
      ← List.range'_append_1, List.map_append]

/-- While the clock does not run backwards, no entry has an earlier stamp than one before it. -/
theorem pairwise (h : Stamped host n es m)
    (forward : ∀ i j, i ≤ j → (host.clock i).nanos ≤ (host.clock j).nanos) :
    es.Pairwise fun a b => a.stamp.nanos ≤ b.stamp.nanos := by
  have hreadings : (List.range' n es.length).Pairwise (· < ·) := List.pairwise_lt_range'
  have hstamps : ((List.range' n es.length).map host.clock).Pairwise
      fun s t : Instant => s.nanos ≤ t.nanos :=
    List.pairwise_map.2 (hreadings.imp fun {i j} hij => forward i j (Nat.le_of_lt hij))
  rw [← h.stamps, List.pairwise_map] at hstamps
  exact hstamps

end Stamped

namespace Machine

variable {p : Plant σ} {done : List Bool} {stack : List (Frame κ)} {out : Turnout σ κ ρ}

theorem readings_reply (p : Plant σ) (a : Answer ρ) (stack : List (Frame κ)) :
    (reply host p a stack).1.readings = p.readings := by
  unfold reply
  split
  · rfl
  · rfl
  · rfl
  · rfl

theorem readings_afterCut (p : Plant σ) (call : Call) (cut : Option (Nat × List Entry) × Logger)
    (stack : List (Frame κ)) (hs : List Happening) :
    (afterCut host p call cut stack hs).plant.readings = p.readings := by
  obtain ⟨c, l⟩ := cut
  cases c with
  | none => exact readings_reply _ _ _
  | some c => rfl

/-- A step reads the clock exactly for the entry that it puts into a buffer, if it does. -/
theorem Rule.stamped (rule : Rule host p done stack out) :
    Stamped host p.readings (acceptedIn out.happenings) out.plant.readings := by
  have still : ∀ {n}, n = p.readings → Stamped host p.readings [] n := fun h => h ▸ .nil host _
  have stamped_entry : ∀ {id message level n}, n = p.readings + 1 →
      Stamped host p.readings (acceptedIn [.accepted id (p.entry host message level)]) n :=
    fun h => ⟨h, rfl⟩
  cases rule with
  | logHeld => exact stamped_entry (readings_reply _ _ _)
  | log =>
    rw [happenings_afterCut, acceptedIn_append, acceptedIn_cutNews, List.append_nil]
    exact stamped_entry (readings_afterCut _ _ _ _ _)
  | flush =>
    rw [happenings_afterCut, acceptedIn_append, acceptedIn_cutNews]
    exact still (readings_afterCut _ _ _ _ _)
  | drain =>
    rw [happenings_afterCut, acceptedIn_append, acceptedIn_cutNews]
    exact still (readings_afterCut _ _ _ _ _)
  | perform => exact still (readings_reply _ _ _)
  | askSpawn => exact still (readings_reply _ _ _)
  | logNowhere => exact still (readings_reply _ _ _)
  | flushNowhere => exact still (readings_reply _ _ _)
  | flushHeld => exact still (readings_reply _ _ _)
  | burstEnd => exact still (readings_reply _ _ _)
  | join => exact still (readings_reply _ _ _)
  | _ => exact .nil host _

end Machine

/-- Along any run, what got into buffers has the stamps of consecutive readings. -/
theorem Steps.stamped {s t : System σ κ ρ} {hs : List Happening} (run : Steps host s hs t) :
    Stamped host s.plant.readings (acceptedIn hs) t.plant.readings := by
  induction run with
  | refl => exact .nil host _
  | tail thread _ hstep ih =>
    obtain ⟨out, stepped, rfl⟩ := System.stepped hstep
    rw [acceptedIn_append, stepped.readings]
    exact ih.append stepped.rule.stamped

theorem entriesOf_sublist (id : LoggerId) (hs : List Happening) :
    (entriesOf id hs).Sublist (acceptedIn hs) :=
  List.filter_sublist.filterMap _

/-! ## Stamps in lines -/

/-- The milliseconds that a line shows. -/
def LineFormat.millis? (f : LineFormat) (line : String) : Option Nat :=
  match f with
  | .text => (readText line.toList).map (·.2.1)
  | .json =>
    match (Json.read line).toOption.bind (·.field? "ts_ms") with
    | some (.integer i) => some i.toNat
    | _ => none

theorem LineFormat.millis?_body (f : LineFormat) (e : Entry) :
    f.millis? (f.body e) = some e.unixMillis := by
  cases f with
  | text =>
    simp only [millis?, readText_body]
    rfl
  | json =>
    simp only [millis?, body, e.read_record]
    rfl

/-- How an instant is written: as zero before the epoch, by its whole milliseconds after it, and by
the largest number of 64 bits when these are too many. -/
theorem Instant.unixMillis_spec (t : Instant) : (t.nanos < 0 → t.unixMillis = 0) ∧
    (0 ≤ t.nanos → t.nanos < UInt64.size * 1000000 →
      t.unixMillis * 1000000 ≤ t.nanos ∧ t.nanos < (t.unixMillis + 1) * 1000000) ∧
    (UInt64.size * 1000000 ≤ t.nanos → t.unixMillis = UInt64.size - 1) := by
  have hsize : UInt64.size = 18446744073709551616 := rfl
  refine ⟨unixMillis_of_neg, ?_, ?_⟩
  · intro hstart hend
    unfold unixMillis maxMillis
    omega
  · intro hlate
    unfold unixMillis maxMillis
    omega

/-! ## Stamps and batches -/

theorem Lane.OnCourse.handedTo_isPrefix {lane : Lane κ} {id : LoggerId} {hs : List Happening}
    {l : Logger} {w : Wired} (course : lane.OnCourse id hs) (hl : lane.logger = some l)
    (hw : w ∈ l.sinks) (once : l.sinks.Nodup) : handedTo id w hs <+: cutsOf id hs := by
  have handed := (course.deeds_prefix hl).filterMap (Deed.batchTo? w)
  rwa [batchTo_rounds hw once] at handed

/-- While the clock does not run backwards, the entries of any number of batches, in the order of
their numbers, and behind them those pending have stamps that never decrease, and neither do their
milliseconds; so the lines in which a sink writes what it has been handed show milliseconds that
never decrease. Milliseconds are zero before the epoch, whole behind it, and stop at the largest
number of 64 bits. -/
theorem stamps_in_order {id : LoggerId} {s₀ s : System σ κ ρ} {hs : List Happening}
    (unused : s₀.Unused id) (run : Steps host s₀ hs s)
    (forward : ∀ i j, i ≤ j → (host.clock i).nanos ≤ (host.clock j).nanos) :
    (cutsOf id hs).map (·.1) = List.range (cutsOf id hs).length ∧
      (∀ n, (((cutsOf id hs).take n).flatMap (·.2) ++ s.pending id).Pairwise fun a b =>
        a.stamp.nanos ≤ b.stamp.nanos ∧ a.unixMillis ≤ b.unixMillis) ∧
      (∀ l, s.plant.loggers[id]? = some l → l.sinks.Nodup → ∀ w ∈ l.sinks, ∀ f : LineFormat,
        ∃ millis : List Nat, millis.Pairwise (· ≤ ·) ∧
          ((handedTo id w hs).flatMap (·.2)).map (fun e => f.millis? (f.body e)) =
            millis.map some) ∧
      ∀ t : Instant, (t.nanos < 0 → t.unixMillis = 0) ∧
        (0 ≤ t.nanos → t.nanos < UInt64.size * 1000000 →
          t.unixMillis * 1000000 ≤ t.nanos ∧ t.nanos < (t.unixMillis + 1) * 1000000) ∧
        (UInt64.size * 1000000 ≤ t.nanos → t.unixMillis = UInt64.size - 1) := by
  obtain ⟨first, lane, fresh, runs, views⟩ := run.lane_of_unused unused
  have hstamps := (run.stamped.pairwise forward).sublist (entriesOf_sublist id hs)
  have hordered : (entriesOf id hs).Pairwise fun a b =>
      a.stamp.nanos ≤ b.stamp.nanos ∧ a.unixMillis ≤ b.unixMillis :=
    hstamps.imp fun h => ⟨h, Instant.unixMillis_mono h⟩
  have balanced := runs.balanced fresh
  rw [← balanced.pending_eq views] at hordered
  have hcut : ∀ {cuts : List (Nat × List Entry)}, cuts.Sublist (cutsOf id hs) →
      (cuts.flatMap (·.2) ++ s.pending id).Pairwise fun a b =>
        a.stamp.nanos ≤ b.stamp.nanos ∧ a.unixMillis ≤ b.unixMillis := fun h =>
    hordered.sublist ((h.flatMap _).append_right _)
  refine ⟨balanced.tickets_eq, fun n => hcut (List.take_sublist ..), ?_, Instant.unixMillis_spec⟩
  intro l hl once w hw f
  have handed := (runs.onCourse fresh).handedTo_isPrefix (views.logger ▸ hl) hw once
  have hwritten := (hcut handed.sublist).sublist (List.sublist_append_left ..)
  refine ⟨((handedTo id w hs).flatMap (·.2)).map (·.unixMillis), ?_, ?_⟩
  · exact List.pairwise_map.2 (hwritten.imp And.right)
  · rw [List.map_map]
    exact List.map_congr_left fun e _ => f.millis?_body e

/-- A clock that shows an instant before the epoch, then the epoch, and then goes past all that 64
bits can hold. -/
def Host.leaping : Host Unit Demand Unit :=
  { Host.echo with clock := fun n => ⟨((n : Int) - 1) * Nat.pow 2 90⟩ }

/-- Three calls by two threads, and one more from inside the first batch. -/
theorem stamps_in_order_leaping : ∃ s hs,
    System.echo.Unused 0 ∧
      System.echo.follow .leaping ([0, 0, 1, 1] ++ List.replicate 13 0 ++ List.replicate 7 1) =
        some (s, hs) ∧
      (∀ i j, i ≤ j → (Host.leaping.clock i).nanos ≤ (Host.leaping.clock j).nanos) ∧
      ((cutsOf 0 hs).flatMap (·.2) ++ s.pending 0).map (·.unixMillis) =
        [0, 0, UInt64.size - 1, UInt64.size - 1] ∧
      ∃ millis : List Nat, millis.Pairwise (· ≤ ·) ∧
        ((handedTo 0 ⟨"second", 1⟩ hs).flatMap (·.2)).map
            (fun e => LineFormat.text.millis? (LineFormat.text.body e)) = millis.map some := by
  have forward : ∀ i j, i ≤ j → (Host.leaping.clock i).nanos ≤ (Host.leaping.clock j).nanos := by
    intro i j hij
    have hpow : (0 : Int) ≤ Nat.pow 2 90 := Int.natCast_nonneg _
    exact Int.mul_le_mul_of_nonneg_right (by omega) hpow
  have steps : ∀ start schedule {s hs}, System.follow .leaping schedule start = some (s, hs) →
      Steps .leaping start hs s := fun _ _ _ _ h => System.steps_of_follow h
  have run := steps System.echo
    ([0, 0, 1, 1] ++ List.replicate 13 0 ++ List.replicate 7 1) rfl
  obtain ⟨-, -, written, -⟩ := stamps_in_order System.echo_unused run forward
  exact ⟨_, _, System.echo_unused, rfl, forward, by decide +kernel,
    written _ rfl (by decide) _ (.tail _ (.head _)) .text⟩

end BatchedLog
