import BatchedLog.Proofs.Delivery.Turns

/-!
# No due entries are stranded

What a thread logs while it delivers for the same logger is held in the buffer even when it is due.
Such entries are never forgotten: as long as there are any, some thread has the turn, or has passed
it on and is about to look at the buffer.
-/

namespace BatchedLog

variable {σ κ ρ : Type}

/-- Whether a call will look at the buffer once more before it waits for anything or returns. -/
def Phase.attends : Phase → Bool
  | .waiting .. => false
  | .delivering .. => true
  | .receiving .. => true
  | .draining => true

/-- Whether a frame has the turn of a logger, or is about to look at its buffer again. -/
def Frame.attends (id : LoggerId) : Frame κ → Bool
  | .delivering call .. => call.logger == id
  | .draining call => call.logger == id
  | _ => false

theorem Frame.serves_of_attends {id : LoggerId} {f : Frame κ} (h : f.attends id = true) :
    f.serves id = true := by
  cases f with
  | delivering => exact h
  | draining => exact h
  | _ => cases h

/-- A frame attends to the logger exactly if the call it shows does. -/
theorem Frame.attends_eq {id : LoggerId} {f : Frame κ} {phase : Phase}
    (hserves : f.serves id = true) (hticket : f.ticket? = phase.ticket?)
    (hdelivers : f.delivers id = phase.inTurn) :
    f.attends id = phase.attends := by
  have hattends : f.attends id = (f.delivers id || f.ticket?.isNone) := by
    cases f with
    | waiting => rfl
    | delivering => simp_all [attends, serves, delivers]
    | draining => simpa [attends, serves, ticket?] using hserves
    | _ => cases hserves
  rw [hattends, hticket, hdelivers]
  cases phase <;> rfl

namespace Logger

theorem pendingCount_cutAll (l : Logger) : l.cutAll.2.pendingCount = 0 := by
  by_cases h : l.buffer.pending = []
  · simp [cutAll, Buffer.take, numbered, pendingCount, h]
  · simp [cutAll, Buffer.take, numbered, pendingCount, h]

theorem interval_cutDue (l : Logger) : l.cutDue.2.interval = l.interval := by
  rcases l.cutDue_cuts with h | ⟨-, h⟩
  · rw [h]
  · rw [h]
    rfl

/-- After a look at the buffer nothing in it is due. -/
theorem pendingCount_cutDue_lt {l : Logger} (h : 0 < l.interval) :
    l.cutDue.2.pendingCount < l.interval := by
  cases hdue : l.buffer.policy.due l.pendingCount with
  | false =>
    rw [cutDue_of_not_due hdue]
    apply Nat.not_le.1
    intro hle
    have : l.buffer.policy.due l.pendingCount = true := FlushPolicy.due_iff.2 ⟨h, hle⟩
    rw [hdue] at this
    cases this
  | true =>
    rw [cutDue_of_due hdue, pendingCount_cutAll]
    exact h

end Logger

namespace Lane

/-- If entries are due, the call of some thread attends to them. -/
def Attended (lane : Lane κ) : Prop :=
  ∀ {l}, lane.logger = some l → 0 < l.interval → l.interval ≤ l.pendingCount →
    ∃ t s, lane.station t = some s ∧ s.phase.attends = true

variable {id : LoggerId} {hs now : List Happening} {lane first : Lane κ} {t : ThreadId}
  {l : Logger} {o : Option Logger} {st : Option (Station κ)}

theorem Fresh.attended (h : lane.Fresh) : lane.Attended := by
  intro l hl positive due
  obtain ⟨policy, sinks, rfl⟩ := h.logger hl
  exact absurd due (Nat.not_le.2 positive)

/-- Nothing is due. -/
theorem attended_of_lt (h : 0 < l.interval → l.pendingCount < l.interval) :
    (lane.put t (some l) st).Attended := by
  intro l' hl' positive due
  obtain rfl : l = l' := Option.some.inj hl'
  exact absurd due (Nat.not_le.2 (h positive))

/-- The thread itself attends. -/
theorem attended_of_attends {s : Station κ} (h : s.phase.attends = true) :
    (lane.put t o (some s)).Attended :=
  fun _ _ _ => ⟨t, s, station_put_self .., h⟩

/-- Whoever cuts nothing though he could, attends; and a look at the buffer leaves nothing due. -/
theorem Attended.step (h : lane.Attended)
    (move : Move id lane.logger (lane.station t) now o st) : (lane.put t o st).Attended := by
  generalize hl : lane.logger = before at move
  generalize hst : lane.station t = s at move
  cases move with
  | elsewhere =>
    rw [← hl, ← hst, put_self]
    exact h
  | opened =>
    apply attended_of_lt
    exact fun positive => positive
  | @log l e =>
    apply attended_of_lt
    rw [Logger.interval_cutDue]
    exact fun positive => Logger.pendingCount_cutDue_lt positive
  | @flush l =>
    apply attended_of_lt
    rw [Logger.pendingCount_cutAll]
    exact fun positive => positive
  | @drain l =>
    apply attended_of_lt
    rw [Logger.interval_cutDue]
    exact fun positive => Logger.pendingCount_cutDue_lt positive
  | _ => exact attended_of_attends rfl

theorem Runs.attended (runs : Runs id first hs lane) (fresh : first.Fresh) : lane.Attended := by
  induction runs with
  | refl => exact fresh.attended
  | tail t _ move ih => exact ih.step move

end Lane

/-- From where a logger with a positive interval is unused, whatever the threads and the sinks do:
as long as entries are due, some thread has the turn, or has passed it on and not yet looked at the
buffer again. So where no call on the logger is under way, fewer than the interval are pending. -/
theorem due_attended {host : Host σ κ ρ} {id : LoggerId} {s₀ s : System σ κ ρ}
    {hs : List Happening} {l : Logger} (unused : s₀.Unused id) (run : Steps host s₀ hs s)
    (here : s.plant.loggers[id]? = some l) (positive : 0 < l.interval) :
    (l.interval ≤ l.pendingCount → ∃ t, ∃ f ∈ s.stack t, f.attends id = true) ∧
      (s.Idle id → l.pendingCount < l.interval) := by
  obtain ⟨first, lane, fresh, runs, views⟩ := run.lane_of_unused unused
  have hl : lane.logger = some l := views.logger ▸ here
  have attended : l.interval ≤ l.pendingCount → ∃ t, ∃ f ∈ s.stack t, f.attends id = true := by
    intro due
    obtain ⟨t, st, hst, hattends⟩ := runs.attended fresh hl positive due
    obtain ⟨above, f, hstack, hserves, hticket, hdelivers⟩ := (hst ▸ views.stands t).exists_frame
    refine ⟨t, f, by simp [hstack], ?_⟩
    rw [Frame.attends_eq hserves hticket hdelivers]
    exact hattends
  refine ⟨attended, ?_⟩
  intro idle
  apply Nat.not_le.1
  intro due
  obtain ⟨t, f, hf, hattends⟩ := attended due
  have := held_none_iff.1 (idle.held t) f hf
  rw [Frame.serves_of_attends hattends] at this
  cases this

/-- Thread 1's entry and the one that the first sink logs from inside batch 0 make two, which is the
interval; the delivering thread takes them out at the end. -/
theorem due_attended_echo :
    (∃ s hs l, System.echo.follow .echo [0, 0, 1, 0, 0, 0, 0, 0] = some (s, hs) ∧
      s.plant.loggers[0]? = some l ∧ 0 < l.interval ∧ l.pendingCount = 2 ∧ l.interval = 2 ∧
      ∃ t, ∃ f ∈ s.stack t, f.attends 0 = true) ∧
    ∃ s hs l, System.echo.follow .echo ([0, 0, 1] ++ List.replicate 20 0) = some (s, hs) ∧
      s.plant.loggers[0]? = some l ∧ s.Idle 0 ∧ l.pendingCount < l.interval := by
  have steps : ∀ schedule {s hs}, System.echo.follow .echo schedule = some (s, hs) →
      Steps .echo .echo hs s := fun _ _ _ h => System.steps_of_follow h
  have midway := due_attended System.echo_unused (steps [0, 0, 1, 0, 0, 0, 0, 0] rfl) rfl
    (by decide)
  have final := due_attended System.echo_unused
    (steps ([0, 0, 1] ++ List.replicate 20 0) rfl) rfl (by decide)
  refine ⟨⟨_, _, _, rfl, rfl, by decide, rfl, rfl, ?_⟩, ⟨_, _, _, rfl, rfl, ?idle, ?_⟩⟩
  · exact midway.1 (by decide)
  · decide
  · exact final.2 ?idle

end BatchedLog
