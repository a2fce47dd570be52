import BatchedLog.Proofs.Delivery.Lane

/-!
# Tickets and turns

Of the batches cut from a logger those before its turn are done with, and each of the others belongs
to exactly one thread, which waits for its turn or has it. `Lane.Orderly` says so, and
`Lane.Runs.orderly` that it holds after every run.
-/

namespace BatchedLog

variable {σ κ ρ : Type}

namespace Logger

/-- The logger once everything pending is cut. -/
def emptied (l : Logger) : Logger :=
  { l with buffer := { l.buffer with pending := [] }, cut := l.cut + 1 }

/-- What a look at the buffer comes to: nothing is cut, or all there is, under the next number. -/
def Cuts (l : Logger) (r : Option (Nat × List Entry) × Logger) : Prop :=
  r = (none, l) ∨ l.buffer.pending ≠ [] ∧ r = (some (l.cut, l.buffer.pending), l.emptied)

theorem cutAll_cuts (l : Logger) : l.Cuts l.cutAll := by
  by_cases h : l.buffer.pending = []
  · left
    simp [cutAll, Buffer.take, numbered, h]
  · right
    refine ⟨h, ?_⟩
    simp [cutAll, Buffer.take, numbered, emptied, h]

/-- Entries that are not due stay. -/
theorem cutDue_of_not_due {l : Logger} (h : l.buffer.policy.due l.pendingCount = false) :
    l.cutDue = (none, l) := by
  have h' : l.buffer.policy.due l.buffer.pending.length = false := h
  simp [cutDue, Buffer.takeDue, numbered, h']

theorem cutDue_of_due {l : Logger} (h : l.buffer.policy.due l.pendingCount = true) :
    l.cutDue = l.cutAll := by
  have h' : l.buffer.policy.due l.buffer.pending.length = true := h
  simp [cutDue, cutAll, Buffer.takeDue, h']

theorem cutDue_cuts (l : Logger) : l.Cuts l.cutDue := by
  cases h : l.buffer.policy.due l.pendingCount with
  | false => exact Or.inl (cutDue_of_not_due h)
  | true =>
    rw [cutDue_of_due h]
    exact cutAll_cuts l

theorem Cuts.turn_eq {l : Logger} {r : Option (Nat × List Entry) × Logger} (h : l.Cuts r) :
    r.2.turn = l.turn := by
  rcases h with rfl | ⟨-, rfl⟩
  · rfl
  · rfl

theorem Cuts.sinks_eq {l : Logger} {r : Option (Nat × List Entry) × Logger} (h : l.Cuts r) :
    r.2.sinks = l.sinks := by
  rcases h with rfl | ⟨-, rfl⟩
  · rfl
  · rfl

end Logger

/-- A logger's turn only goes forward, and its sinks stay. -/
theorem Move.keeps {id : LoggerId} {l : Logger} {o : Option Logger} {now : List Happening}
    {st st' : Option (Station κ)} (move : Move id (some l) st now o st') :
    ∃ l', o = some l' ∧ l.turn ≤ l'.turn ∧ l'.sinks = l.sinks := by
  cases move with
  | @log _ e =>
    have cuts := (l.push e).cutDue_cuts
    exact ⟨_, rfl, Nat.le_of_eq cuts.turn_eq.symm, cuts.sinks_eq⟩
  | flush => exact ⟨_, rfl, Nat.le_of_eq l.cutAll_cuts.turn_eq.symm, l.cutAll_cuts.sinks_eq⟩
  | release => exact ⟨_, rfl, Nat.le_succ _, rfl⟩
  | drain => exact ⟨_, rfl, Nat.le_of_eq l.cutDue_cuts.turn_eq.symm, l.cutDue_cuts.sinks_eq⟩
  | _ => exact ⟨_, rfl, Nat.le_refl _, rfl⟩

namespace Lane

/-- The number of the batch that thread `t` has cut and is not done with. -/
def ticket? (lane : Lane κ) (t : ThreadId) : Option Nat :=
  (lane.station t).bind (·.phase.ticket?)

def inTurn (lane : Lane κ) (t : ThreadId) : Bool :=
  (lane.station t).any (·.phase.inTurn)

/-- Each batch that is cut and not done with has one owner, and who has the turn owns its batch. -/
structure Owned (lane : Lane κ) (l : Logger) : Prop where
  turn_le : l.turn ≤ l.cut
  bounds : ∀ {t k}, lane.ticket? t = some k → l.turn ≤ k ∧ k < l.cut
  inTurn : ∀ {t}, lane.inTurn t = true → lane.ticket? t = some l.turn
  owner : ∀ {k}, l.turn ≤ k → k < l.cut → ∃ t, lane.ticket? t = some k
  unique : ∀ {t u k}, lane.ticket? t = some k → lane.ticket? u = some k → t = u

structure Orderly (lane : Lane κ) : Prop where
  absent : lane.logger = none → ∀ t, lane.station t = none
  owned : ∀ {l}, lane.logger = some l → lane.Owned l

variable {lane : Lane κ} {t : ThreadId} {l l' : Logger} {st : Option (Station κ)}

/-- One thread at most has the turn. -/
theorem Owned.inTurn_unique {u : ThreadId} (h : lane.Owned l) (ht : lane.inTurn t = true)
    (hu : lane.inTurn u = true) : t = u :=
  h.unique (h.inTurn ht) (h.inTurn hu)

/-- Where no thread is in a call on the logger, its turn has come to the end of the batches. -/
theorem Owned.turn_eq (h : lane.Owned l) (hnone : ∀ t, lane.station t = none) : l.turn = l.cut := by
  apply Nat.le_antisymm h.turn_le
  apply Nat.not_lt.1
  intro hlt
  obtain ⟨t, ht⟩ := h.owner (Nat.le_refl _) hlt
  simp [ticket?, hnone] at ht

theorem put_self (lane : Lane κ) (t : ThreadId) :
    lane.put t lane.logger (lane.station t) = lane := by
  obtain ⟨logger, station⟩ := lane
  simp only [put, Lane.mk.injEq, true_and]
  funext v
  by_cases hv : v = t
  · simp [hv]
  · simp [hv]

@[simp] theorem ticket?_put (lane : Lane κ) (t v : ThreadId) (l : Option Logger)
    (st : Option (Station κ)) :
    (lane.put t l st).ticket? v =
      if v = t then st.bind (·.phase.ticket?) else lane.ticket? v := by
  by_cases hv : v = t
  · simp [ticket?, put, hv]
  · simp [ticket?, put, hv]

@[simp] theorem inTurn_put (lane : Lane κ) (t v : ThreadId) (l : Option Logger)
    (st : Option (Station κ)) :
    (lane.put t l st).inTurn v = if v = t then st.any (·.phase.inTurn) else lane.inTurn v := by
  by_cases hv : v = t
  · simp [inTurn, put, hv]
  · simp [inTurn, put, hv]

theorem inTurn_of_station {s : Station κ} (hs : lane.station t = some s) :
    lane.inTurn t = s.phase.inTurn := by
  simp [inTurn, hs]

theorem exists_station_of_inTurn (h : lane.inTurn t = true) :
    ∃ s, lane.station t = some s ∧ s.phase.inTurn = true := by
  unfold inTurn at h
  cases hs : lane.station t with
  | none => simp [hs] at h
  | some s => exact ⟨s, rfl, by simpa [hs] using h⟩

theorem Fresh.orderly (h : lane.Fresh) : lane.Orderly := by
  have hticket : ∀ t, lane.ticket? t = none := fun t => by simp [ticket?, h.station t]
  refine ⟨fun _ => h.station, ?_⟩
  intro l hl
  obtain ⟨policy, sinks, rfl⟩ := h.logger hl
  refine ⟨Nat.le_refl 0, ?_, ?_, ?_, ?_⟩
  · intro t k hk
    simp [hticket] at hk
  · intro t ht
    simp [Lane.inTurn, h.station t] at ht
  · intro k _ hk
    exact absurd hk (Nat.not_lt_zero k)
  · intro t u k hk
    simp [hticket] at hk

/-- A thread that keeps its ticket, or has none and cuts nothing. -/
theorem Owned.put_same {o : Option Logger} (h : lane.Owned l) (hturn : l'.turn = l.turn)
    (hcut : l'.cut = l.cut) (hticket : st.bind (·.phase.ticket?) = lane.ticket? t)
    (hin : st.any (·.phase.inTurn) = true → lane.ticket? t = some l.turn) :
    (lane.put t o st).Owned l' := by
  have hsame : ∀ v, (lane.put t o st).ticket? v = lane.ticket? v := by
    intro v
    by_cases hv : v = t
    · simp [hv, hticket]
    · simp [hv]
  refine ⟨by rw [hturn, hcut]; exact h.turn_le, ?_, ?_, ?_, ?_⟩
  · intro v k hk
    rw [hturn, hcut]
    exact h.bounds (hsame v ▸ hk)
  · intro v hv
    rw [hsame, hturn]
    by_cases hvt : v = t
    · subst hvt
      exact hin (by simpa using hv)
    · exact h.inTurn (by simpa [hvt] using hv)
  · intro k hk hk'
    rw [hturn] at hk
    rw [hcut] at hk'
    obtain ⟨v, hv⟩ := h.owner hk hk'
    exact ⟨v, (hsame v).trans hv⟩
  · intro v u k hv hu
    exact h.unique (hsame v ▸ hv) (hsame u ▸ hu)

/-- A thread that has no ticket gets the next one. -/
theorem Owned.put_cut {o : Option Logger} (h : lane.Owned l) (hturn : l'.turn = l.turn)
    (hcut : l'.cut = l.cut + 1) (hnone : lane.ticket? t = none)
    (hticket : st.bind (·.phase.ticket?) = some l.cut) (hin : st.any (·.phase.inTurn) = false) :
    (lane.put t o st).Owned l' := by
  have hle := h.turn_le
  refine ⟨by omega, ?_, ?_, ?_, ?_⟩
  · intro v k hk
    by_cases hv : v = t
    · have : l.cut = k := by simpa [hv, hticket] using hk
      omega
    · have := h.bounds (by simpa [hv] using hk)
      omega
  · intro v hv
    by_cases hvt : v = t
    · simp [hvt, hin] at hv
    · rw [ticket?_put, if_neg hvt, hturn]
      exact h.inTurn (by simpa [hvt] using hv)
  · intro k hk hk'
    rcases Nat.lt_or_ge k l.cut with hlt | hge
    · obtain ⟨v, hv⟩ := h.owner (hturn ▸ hk) hlt
      have hvt : v ≠ t := by
        rintro rfl
        simp [hnone] at hv
      exact ⟨v, by simp [hvt, hv]⟩
    · have : k = l.cut := by omega
      exact ⟨t, by simp [hticket, this]⟩
  · intro v u k hv hu
    by_cases hvt : v = t
    · by_cases hut : u = t
      · rw [hvt, hut]
      · have hk : l.cut = k := by simpa [hvt, hticket] using hv
        have := h.bounds (by simpa [hut] using hu)
        omega
    · by_cases hut : u = t
      · have hk : l.cut = k := by simpa [hut, hticket] using hu
        have := h.bounds (by simpa [hvt] using hv)
        omega
      · exact h.unique (by simpa [hvt] using hv) (by simpa [hut] using hu)

/-- The thread that has the turn passes it on. -/
theorem Owned.put_release {o : Option Logger} (h : lane.Owned l) (hturn : l'.turn = l.turn + 1)
    (hcut : l'.cut = l.cut) (hhas : lane.ticket? t = some l.turn)
    (hticket : st.bind (·.phase.ticket?) = none) (hin : st.any (·.phase.inTurn) = false) :
    (lane.put t o st).Owned l' := by
  have hother : ∀ {v k}, (lane.put t o st).ticket? v = some k →
      v ≠ t ∧ lane.ticket? v = some k := by
    intro v k hk
    by_cases hv : v = t
    · simp [hv, hticket] at hk
    · exact ⟨hv, by simpa [hv] using hk⟩
  have hlt := (h.bounds hhas).2
  refine ⟨by omega, ?_, ?_, ?_, ?_⟩
  · intro v k hk
    obtain ⟨hv, hk⟩ := hother hk
    have hb := h.bounds hk
    have hne : k ≠ l.turn := by
      rintro rfl
      exact hv (h.unique hk hhas)
    omega
  · intro v hv
    by_cases hvt : v = t
    · simp [hvt, hin] at hv
    · have hk := h.inTurn (t := v) (by simpa [hvt] using hv)
      exact absurd (h.unique hk hhas) hvt
  · intro k hk hk'
    obtain ⟨v, hv⟩ := h.owner (k := k) (by omega) (by omega)
    have hvt : v ≠ t := by
      rintro rfl
      rw [hhas] at hv
      have := Option.some.inj hv
      omega
    exact ⟨v, by simp [hvt, hv]⟩
  · intro v u k hv hu
    exact h.unique (hother hv).2 (hother hu).2

/-- A thread that is not in the way of others looks at the buffer. -/
theorem Owned.put_afterCut {o : Option Logger} {call : Call} {below : List (Frame κ)}
    {r : Option (Nat × List Entry) × Logger} (h : lane.Owned l) (cuts : l'.Cuts r)
    (hturn : l'.turn = l.turn) (hcut : l'.cut = l.cut) (hnone : lane.ticket? t = none) :
    (lane.put t o (Station.afterCut call below r)).Owned r.2 := by
  rcases cuts with rfl | ⟨-, rfl⟩
  · exact h.put_same hturn hcut (by simp [Station.afterCut, hnone]) (by simp [Station.afterCut])
  · refine h.put_cut hturn ?_ hnone ?_ ?_
    · simp [Logger.emptied, hcut]
    · simp [Station.afterCut, Phase.ticket?, hcut]
    · simp [Station.afterCut, Phase.inTurn]

variable {id : LoggerId} {now : List Happening} {o : Option Logger}

theorem Orderly.of_owned (hl : lane.logger = some l) (h : lane.Owned l) : lane.Orderly := by
  refine ⟨fun hn => ?_, fun {l₂} hl₂ => ?_⟩
  · rw [hl] at hn
    cases hn
  · rw [hl] at hl₂
    cases hl₂
    exact h

/-- Who is in a call on a logger is so on one that is there. -/
theorem Orderly.exists_logger {s : Station κ} (h : lane.Orderly) (hs : lane.station t = some s) :
    ∃ l, lane.logger = some l ∧ lane.Owned l := by
  cases hl : lane.logger with
  | none =>
    have := h.absent hl t
    rw [hs] at this
    cases this
  | some l => exact ⟨l, rfl, h.owned hl⟩

/-- A thread goes on with the batch it has, on a logger whose counters stay. -/
theorem Orderly.put_phase {s : Station κ} {call : Call} {below : List (Frame κ)} {phase : Phase}
    (h : lane.Orderly) (hs : lane.station t = some s) (hticket : phase.ticket? = s.phase.ticket?)
    (hin : phase.inTurn = true → s.phase.inTurn = true) :
    (lane.put t lane.logger (some ⟨call, below, phase⟩)).Orderly := by
  obtain ⟨l, hl, howned⟩ := h.exists_logger hs
  refine .of_owned hl (howned.put_same rfl rfl ?_ ?_)
  · simpa [ticket?, hs] using hticket
  · intro ht
    apply howned.inTurn
    simpa [Lane.inTurn, hs] using hin (by simpa using ht)

/-- A logger that has just been opened is one that no thread has used. -/
theorem Orderly.fresh_opened (h : lane.Orderly) (hl : lane.logger = none) (t : ThreadId)
    (policy : FlushPolicy) (sinks : List Wired) :
    (lane.put t (some (.start policy sinks)) (lane.station t)).Fresh := by
  have hnone := h.absent hl
  refine ⟨fun hnew => ⟨policy, sinks, (Option.some.inj hnew).symm⟩, ?_⟩
  intro v
  by_cases hv : v = t
  · rw [hv, station_put_self, hnone]
  · rw [station_put_of_ne hv, hnone]

theorem Orderly.step (h : lane.Orderly) (move : Move id lane.logger (lane.station t) now o st) :
    (lane.put t o st).Orderly := by
  generalize hl : lane.logger = before at move
  generalize hs : lane.station t = s at move
  have hticket : lane.ticket? t = s.bind (·.phase.ticket?) := by simp [ticket?, hs]
  cases move with
  | elsewhere =>
    rw [← hl, ← hs, put_self]
    exact h
  | opened =>
    rw [← hs]
    exact (h.fresh_opened hl ..).orderly
  | @log l e below =>
    exact .of_owned rfl ((h.owned hl).put_afterCut (l.push e).cutDue_cuts rfl rfl hticket)
  | hold =>
    refine .of_owned rfl ((h.owned hl).put_same rfl rfl hticket.symm ?_)
    intro _
    exact (h.owned hl).inTurn (by simp [Lane.inTurn, hs, Phase.inTurn])
  | @flush l below =>
    exact .of_owned rfl ((h.owned hl).put_afterCut l.cutAll_cuts rfl rfl hticket)
  | @turn l call below k n es hk =>
    refine .of_owned rfl ((h.owned hl).put_same rfl rfl hticket.symm ?_)
    intro _
    rw [hticket, hk]
    rfl
  | hand =>
    rw [← hl]
    exact h.put_phase hs rfl (fun _ => rfl)
  | took =>
    rw [← hl]
    exact h.put_phase hs rfl (fun _ => rfl)
  | failed =>
    rw [← hl]
    exact h.put_phase hs rfl (fun _ => rfl)
  | release =>
    have hturn := (h.owned hl).inTurn (t := t) (by simp [Lane.inTurn, hs, Phase.inTurn])
    exact .of_owned rfl ((h.owned hl).put_release rfl rfl hturn rfl rfl)
  | @drain l call below =>
    exact .of_owned rfl ((h.owned hl).put_afterCut l.cutDue_cuts rfl rfl hticket)

variable {first : Lane κ} {hs : List Happening}

theorem Runs.orderly_of (runs : Runs id first hs lane) (h : first.Orderly) : lane.Orderly := by
  induction runs with
  | refl => exact h
  | tail t _ move ih => exact ih.step move

theorem Runs.orderly (runs : Runs id first hs lane) (fresh : first.Fresh) : lane.Orderly :=
  runs.orderly_of fresh.orderly

/-- A logger's sinks stay. -/
theorem Runs.sinks_eq (runs : Runs id first hs lane) (hl : first.logger = some l) :
    ∃ l', lane.logger = some l' ∧ l'.sinks = l.sinks := by
  induction runs with
  | refl => exact ⟨l, hl, rfl⟩
  | tail t _ move ih =>
    obtain ⟨l₁, hl₁, hsinks₁⟩ := ih
    obtain ⟨l₂, hl₂, -, hsinks₂⟩ := (hl₁ ▸ move).keeps
    exact ⟨l₂, hl₂, hsinks₂.trans hsinks₁⟩

end Lane

end BatchedLog
