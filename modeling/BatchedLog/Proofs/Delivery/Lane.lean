import BatchedLog.Proofs.Delivery.Station

/-!
# The lane of a logger

Seen from one logger, a system is the logger and the place of each thread in its call on it, if it
is in one: a `Lane`. Every run of the system is a run of the lane, by the moves of
`Machine.Rule.move`, whatever the threads do elsewhere. So what is to be shown of one logger over
all runs is shown by induction on `Lane.Runs`, one case for each kind of move.
-/

namespace BatchedLog

variable {σ κ ρ : Type}

namespace Machine

variable {host : Host σ κ ρ} {id : LoggerId} {p : Plant σ} {st : Option (Station κ)}

/-- What a step does to logger `id` and to the thread's place in a call on it. -/
structure Moved (id : LoggerId) (p : Plant σ) (st : Option (Station κ)) (out : Turnout σ κ ρ)
    (st' : Option (Station κ)) : Prop where
  move : Move id p.loggers[id]? st out.happenings out.plant.loggers[id]? st'
  stands : Stands id out.thread.stack st'
  started : ∀ th ∈ out.started, Held id th.stack none

/-- A step that has nothing to do with the logger. -/
theorem moved_aside {out : Turnout σ κ ρ} (loggers : out.plant.loggers[id]? = p.loggers[id]?)
    (news : ∀ h ∈ out.happenings, h.logger ≠ id) (stands : Stands id out.thread.stack st)
    (started : ∀ th ∈ out.started, Held id th.stack none) : ∃ st', Moved id p st out st' :=
  ⟨st, loggers ▸ .elsewhere news, stands, started⟩

/-- As `moved_aside`, when the thread goes on with frames that do not serve the logger. -/
theorem moved_proceed {stack : List (Frame κ)} {q : Plant σ} {news : List Happening}
    (loggers : q.loggers[id]? = p.loggers[id]?) (hn : ∀ h ∈ news, h.logger ≠ id)
    (held : Held id stack st) :
    ∃ st', Moved id p st (Machine.proceed q stack news : Turnout σ κ ρ) st' :=
  moved_aside loggers hn (.held held) (by simp [Machine.proceed])

theorem moved_finish {stack : List (Frame κ)} {q : Plant σ} {a : Answer ρ}
    (loggers : q.loggers[id]? = p.loggers[id]?) (held : Held id stack st) :
    ∃ st', Moved id p st (Machine.finish host q a stack []) st' :=
  moved_aside (by rw [loggers_finish, loggers]) (by simp [Machine.finish])
    (.held (held_finish held)) (by simp [Machine.finish])

/-- Looking at the buffer of another logger. -/
theorem moved_afterCut_of_ne {call : Call} {stack : List (Frame κ)} {q : Plant σ}
    {cut : Option (Nat × List Entry) × Logger} {news : List Happening} (hc : call.logger ≠ id)
    (loggers : q.loggers[id]? = p.loggers[id]?) (hn : ∀ h ∈ news, h.logger ≠ id)
    (held : Held id stack st) : ∃ st', Moved id p st (afterCut host q call cut stack news) st' := by
  refine moved_aside ?_ ?_ (.held (held_afterCut held hc)) ?_
  · rw [loggers_afterCut, List.getElem?_set_ne hc, loggers]
  · rw [happenings_afterCut]
    intro h hh
    rcases List.mem_append.1 hh with hh | hh
    · exact hn h hh
    · obtain ⟨c, l⟩ := cut
      cases c with
      | none => simp [cutNews] at hh
      | some c =>
        have hcut : h = .cut call.logger c.1 c.2 := by simpa [cutNews] using hh
        subst hcut
        exact hc
  · simp [started_afterCut]

/-- Looking at the buffer of the logger itself, from no call or at the end of a delivery. -/
theorem moved_afterCut_self {call : Call} {stack : List (Frame κ)} {q : Plant σ} {l : Logger}
    {cut : Option (Nat × List Entry) × Logger} {news : List Happening} (hc : call.logger = id)
    (here : q.loggers[id]? = some l)
    (move : Move id p.loggers[id]? st (news ++ cutNews id cut) (some cut.2)
      (Station.afterCut call stack cut))
    (held : Held id stack none) :
    Moved id p st (afterCut host q call cut stack news) (Station.afterCut call stack cut) := by
  have hlt : id < q.loggers.length := (List.getElem?_eq_some_iff.1 here).1
  refine ⟨?_, stands_afterCut held hc, by simp [started_afterCut]⟩
  rw [loggers_afterCut, happenings_afterCut, hc, List.getElem?_set_self hlt]
  exact move

variable {done : List Bool} {stack : List (Frame κ)} {out : Turnout σ κ ρ}

/-- Every step of a thread is a move of each logger's lane. -/
theorem Rule.move (rule : Rule host p done stack out) (stands : Stands id stack st) :
    ∃ st', Moved id p st out st' := by
  cases rule with
  | askLog => exact moved_proceed rfl (by simp) (.above rfl (stands.tail rfl (by simp)))
  | askFlush => exact moved_proceed rfl (by simp) (.above rfl (stands.tail rfl (by simp)))
  | askBurst => exact moved_proceed rfl (by simp) (.above rfl (stands.tail rfl (by simp)))
  | askSpawn =>
    refine moved_aside (by rw [loggers_finish]) (by simp [Machine.finish])
      (.held (held_reply (stands.tail rfl (by simp)))) ?_
    intro th hth
    rw [List.mem_singleton.1 hth]
    exact .above rfl .nil
  | askCrowd =>
    refine moved_aside rfl (by simp [Machine.proceed])
      (.held (.above rfl (stands.tail rfl (by simp)))) ?_
    intro th hth
    obtain ⟨t, -, rfl⟩ := List.mem_map.1 hth
    exact .above rfl .nil
  | @perform c rest h opened r =>
    have held : Held id rest st := stands.tail rfl (by simp)
    rcases loggers_grown p.loggers opened id with hsame | ⟨hnone, policy, sinks, hnew⟩
    · exact moved_finish hsame held
    · refine ⟨st, ?_, .held (held_finish held), by simp [Machine.finish]⟩
      rw [loggers_finish, hnone]
      dsimp only
      rw [hnew]
      exact .opened
  | logNowhere => exact moved_finish rfl (stands.tail rfl (by simp))
  | @logHeld l message level rest lg hl hd =>
    have held : Held id rest st := stands.tail rfl (by simp)
    by_cases hid : l = id
    · subst hid
      obtain ⟨call, below, t, b, w, left, failures, ending, rfl⟩ := held.exists_receiving hd
      refine ⟨_, ?_, .held (held_finish held), by simp [Machine.finish]⟩
      rw [loggers_finish, Plant.loggers_setLogger_self (by exact hl), hl]
      exact .hold
    · refine moved_aside ?_ ?_ (.held (held_finish held)) (by simp [Machine.finish])
      · rw [loggers_finish, Plant.loggers_setLogger_of_ne hid]
        rfl
      · simpa [Machine.finish, Happening.logger] using hid
  | @log l message level rest lg hl hd =>
    have held : Held id rest st := stands.tail rfl (by simp)
    by_cases hid : l = id
    · subst hid
      obtain rfl := held.eq_none hd
      refine ⟨_, moved_afterCut_self rfl hl ?_ held⟩
      rw [hl]
      exact .log
    · exact moved_afterCut_of_ne hid rfl (by simpa [Happening.logger] using hid) held
  | flushNowhere => exact moved_finish rfl (stands.tail rfl (by simp))
  | flushHeld => exact moved_finish rfl (stands.tail rfl (by simp))
  | @flush l rest lg hl hd =>
    have held : Held id rest st := stands.tail rfl (by simp)
    by_cases hid : l = id
    · subst hid
      obtain rfl := held.eq_none hd
      refine ⟨_, moved_afterCut_self rfl hl ?_ held⟩
      rw [hl]
      exact .flush
    · exact moved_afterCut_of_ne hid rfl (by simpa [Happening.logger] using hid) held
  | burstNext =>
    exact moved_proceed rfl (by simp) (.above rfl (.above rfl (stands.tail rfl (by simp))))
  | burstEnd => exact moved_finish rfl (stands.tail rfl (by simp))
  | join => exact moved_finish rfl (stands.tail rfl (by simp))
  | @turn call t es rest l hl ht =>
    by_cases hid : call.logger = id
    · obtain ⟨rfl, hbelow⟩ := stands.inv_waiting hid
      refine ⟨_, ?_, .delivering hid hbelow, by simp [Machine.proceed]⟩
      subst hid
      simp only [Machine.proceed, hl]
      exact .turn ht
    · have hf : (Frame.waiting call t es : Frame κ).serves id = false := by
        simpa [Frame.serves] using hid
      exact moved_proceed rfl (by simpa [Happening.logger] using hid)
        (.above (by simpa [Frame.serves] using hid) (stands.tail hf (by simp)))
  | @hand call t b w left failures rest h todo ending _ =>
    by_cases hid : call.logger = id
    · obtain ⟨rfl, hbelow⟩ := stands.inv_delivering hid
      refine ⟨_, ?_, .held (.receiving hid hbelow), by simp [Machine.proceed]⟩
      subst hid
      exact .hand
    · have hf : (Frame.delivering call t b (w :: left) failures : Frame κ).serves id = false := by
        simpa [Frame.serves] using hid
      exact moved_proceed rfl (by simpa [Happening.logger] using hid)
        (.above rfl (.above hf (stands.tail hf (by simp))))
  | @release call t b failures rest l hl =>
    by_cases hid : call.logger = id
    · obtain ⟨rfl, hbelow⟩ := stands.inv_delivering hid
      refine ⟨_, ?_, .draining hid hbelow, by simp [Machine.proceed]⟩
      subst hid
      simp only [Machine.proceed, Plant.loggers_setLogger_self hl, hl]
      exact .release
    · have hf : (Frame.delivering call t b [] failures : Frame κ).serves id = false := by
        simpa [Frame.serves] using hid
      exact moved_proceed (Plant.loggers_setLogger_of_ne hid)
        (by simpa [Happening.logger] using hid)
        (.above (by simpa [Frame.serves, Call.conclude] using hid) (stands.tail hf (by simp)))
  | @order sink c todo ending rest =>
    cases stands with
    | held h =>
      cases h with
      | above hf h => exact moved_proceed rfl (by simp) (.above rfl (.above rfl h))
      | receiving hc h => exact moved_proceed rfl (by simp) (.above rfl (.receiving hc h))
  | @took sink call t b w left failures rest =>
    cases stands with
    | held h =>
      cases h with
      | above _ h =>
        cases h with
        | above hf h =>
          have hid : call.logger ≠ id := by simpa [Frame.serves] using hf
          exact moved_proceed rfl (by simpa [Happening.logger] using hid)
            (.above (by simpa [Frame.serves] using hid) h)
      | receiving hc h =>
        subst hc
        exact ⟨_, .took, .delivering rfl h, by simp [Machine.proceed]⟩
  | @failed sink e call t b w left failures rest =>
    cases stands with
    | held h =>
      cases h with
      | above _ h =>
        cases h with
        | above hf h =>
          have hid : call.logger ≠ id := by simpa [Frame.serves] using hf
          exact moved_proceed rfl (by simpa [Happening.logger] using hid)
            (.above (by simpa [Frame.serves] using hid) h)
      | receiving hc h =>
        subst hc
        exact ⟨_, .failed, .delivering rfl h, by simp [Machine.proceed]⟩
  | @astray sink ending rest hne =>
    cases stands with
    | held h =>
      cases h with
      | above _ h => exact moved_proceed rfl (by simp) h
      | receiving => exact absurd rfl (hne _ _ _ _ _ _ _)
  | @drain call rest l hl =>
    by_cases hid : call.logger = id
    · obtain ⟨rfl, hbelow⟩ := stands.inv_draining hid
      subst hid
      refine ⟨_, moved_afterCut_self rfl hl ?_ hbelow⟩
      rw [hl]
      exact .drain
    · have hf : (Frame.draining call : Frame κ).serves id = false := by
        simpa [Frame.serves] using hid
      exact moved_afterCut_of_ne hid rfl (by simp) (stands.tail hf (by simp))

end Machine

/-- A logger, once there is one, and where each thread stands with it. -/
structure Lane (κ : Type) where
  logger : Option Logger
  station : ThreadId → Option (Station κ)

namespace Lane

/-- The logger has become `l`, and thread `t` now stands at `st`. -/
def put (lane : Lane κ) (t : ThreadId) (l : Option Logger) (st : Option (Station κ)) : Lane κ :=
  ⟨l, fun v => if v = t then st else lane.station v⟩

@[simp] theorem logger_put (lane : Lane κ) (t : ThreadId) (l : Option Logger)
    (st : Option (Station κ)) : (lane.put t l st).logger = l := rfl

@[simp] theorem station_put_self (lane : Lane κ) (t : ThreadId) (l : Option Logger)
    (st : Option (Station κ)) : (lane.put t l st).station t = st := by
  simp [put]

theorem station_put_of_ne {lane : Lane κ} {t v : ThreadId} {l : Option Logger}
    {st : Option (Station κ)} (h : v ≠ t) : (lane.put t l st).station v = lane.station v := by
  simp [put, h]

/-- No thread is in a call on the logger, and what there is of it is new. -/
structure Fresh (lane : Lane κ) : Prop where
  logger : ∀ {l}, lane.logger = some l → ∃ policy sinks, l = .start policy sinks
  station : ∀ t, lane.station t = none

/-- The runs of a lane: any thread makes any move, any number of times. -/
inductive Runs (id : LoggerId) : Lane κ → List Happening → Lane κ → Prop
  | refl (lane : Lane κ) : Runs id lane [] lane
  | tail {first lane : Lane κ} {before now : List Happening} {l : Option Logger}
      {st : Option (Station κ)} (t : ThreadId) : Runs id first before lane →
      Move id lane.logger (lane.station t) now l st →
      Runs id first (before ++ now) (lane.put t l st)

theorem Runs.trans {id : LoggerId} {first mid last : Lane κ} {before after : List Happening}
    (h : Runs id first before mid) (h' : Runs id mid after last) :
    Runs id first (before ++ after) last := by
  induction h' with
  | refl => rwa [List.append_nil]
  | tail t _ move ih =>
    rw [← List.append_assoc]
    exact ih.tail t move

end Lane

/-- `lane` is what is to be seen of logger `id` in a system. -/
structure System.Views (s : System σ κ ρ) (id : LoggerId) (lane : Lane κ) : Prop where
  logger : s.plant.loggers[id]? = lane.logger
  stands : ∀ t, Stands id (s.stack t) (lane.station t)

/-- A step of the system is a move of every lane. -/
theorem System.Views.step {host : Host σ κ ρ} {s u : System σ κ ρ} {id : LoggerId}
    {lane : Lane κ} {t : ThreadId} {now : List Happening} (views : s.Views id lane)
    (h : s.step host t = some (u, now)) :
    ∃ l st, Move id lane.logger (lane.station t) now l st ∧
      u.Views id (lane.put t l st) := by
  obtain ⟨out, stepped, rfl⟩ := stepped h
  obtain ⟨st, moved⟩ := stepped.rule.move (views.stands t)
  refine ⟨_, st, views.logger ▸ moved.move, congrArg (·[id]?) stepped.loggers, ?_⟩
  intro v
  by_cases hv : v = t
  · subst hv
    rw [stepped.self, Lane.station_put_self]
    exact moved.stands
  · rw [Lane.station_put_of_ne hv]
    rcases stepped.other v hv with hsame | ⟨hnil, th, hth, hnew⟩
    · rw [hsame]
      exact views.stands v
    · have hstation : lane.station v = none := by
        have hs := views.stands v
        rw [hnil] at hs
        generalize lane.station v = st at hs
        cases hs with
        | held h =>
          cases h
          rfl
      rw [hstation, hnew]
      exact .held (moved.started th hth)

/-- Runs of the system are runs of every lane. -/
theorem Steps.lane {host : Host σ κ ρ} {s t : System σ κ ρ} {id : LoggerId} {lane : Lane κ}
    {hs : List Happening} (run : Steps host s hs t) (views : s.Views id lane) :
    ∃ last, Lane.Runs id lane hs last ∧ t.Views id last := by
  induction run with
  | refl => exact ⟨lane, .refl lane, views⟩
  | tail thread _ hstep ih =>
    obtain ⟨mid, runs, hmid⟩ := ih
    obtain ⟨l, st, move, hlast⟩ := hmid.step hstep
    exact ⟨_, runs.tail thread move, hlast⟩

namespace System

/-- Thread `t` is delivering batch `k` of the logger, maybe below other calls. -/
def Delivers (s : System σ κ ρ) (id : LoggerId) (t : ThreadId) (k : Nat) : Prop :=
  ∃ f ∈ s.stack t, f.delivers id = true ∧ f.ticket? = some k

theorem Delivers.exists_station {s : System σ κ ρ} {id : LoggerId} {lane : Lane κ} {t : ThreadId}
    {k : Nat} (h : s.Delivers id t k) (views : s.Views id lane) :
    ∃ st, lane.station t = some st ∧ st.phase.ticket? = some k ∧ st.phase.inTurn = true := by
  obtain ⟨f, hf, hd, hk⟩ := h
  have hserves : f.serves id = true := by
    cases f <;> simp_all [Frame.delivers, Frame.serves]
  obtain ⟨st, hst, hticket, hturn⟩ := (views.stands t).of_serves hf hserves
  exact ⟨st, hst, hticket ▸ hk, hturn ▸ hd⟩

/-- No thread is in a call on the logger that has cut a batch. -/
def Idle (s : System σ κ ρ) (id : LoggerId) : Prop :=
  ∀ th ∈ s.threads, ∀ f ∈ th.stack, f.serves id = false

instance (s : System σ κ ρ) (id : LoggerId) : Decidable (s.Idle id) :=
  inferInstanceAs (Decidable (∀ th ∈ s.threads, ∀ f ∈ th.stack, f.serves id = false))

/-- The logger is new or not yet there, and no call on it has cut a batch. Threads may be anywhere
in calls on other loggers. -/
structure Unused (s : System σ κ ρ) (id : LoggerId) : Prop where
  start : ∀ l, s.plant.loggers[id]? = some l → ∃ policy sinks, l = .start policy sinks
  idle : s.Idle id

theorem Idle.held {s : System σ κ ρ} {id : LoggerId} (h : s.Idle id) (t : ThreadId) :
    Held id (s.stack t) none := by
  rw [held_none_iff]
  intro f hf
  unfold stack at hf
  cases ht : s.threads[t]? with
  | none => simp [ht] at hf
  | some th =>
    simp only [ht, Option.map_some, Option.getD_some] at hf
    exact h th (List.mem_of_getElem? ht) f hf

theorem echo_unused : System.echo.Unused 0 := by
  constructor
  · rintro l ⟨⟩
    exact ⟨_, _, rfl⟩
  · intro th hth f hf
    revert f th
    simp [System.echo, Frame.serves]

end System

theorem System.Unused.exists_fresh {s : System σ κ ρ} {id : LoggerId} (unused : s.Unused id) :
    ∃ lane : Lane κ, lane.Fresh ∧ s.Views id lane := by
  refine ⟨⟨s.plant.loggers[id]?, fun _ => none⟩, ⟨?_, fun _ => rfl⟩, rfl, ?_⟩
  · intro l hl
    exact unused.start l hl
  · intro v
    exact .held (unused.idle.held v)

/-- A run from where a logger is unused is a run of its lane from a fresh one. -/
theorem Steps.lane_of_unused {host : Host σ κ ρ} {s t : System σ κ ρ} {id : LoggerId}
    {hs : List Happening} (run : Steps host s hs t) (unused : s.Unused id) :
    ∃ first last, first.Fresh ∧ Lane.Runs id first hs last ∧ t.Views id last := by
  obtain ⟨first, fresh, views⟩ := unused.exists_fresh
  obtain ⟨last, runs, hlast⟩ := run.lane views
  exact ⟨first, last, fresh, runs, hlast⟩

end BatchedLog
