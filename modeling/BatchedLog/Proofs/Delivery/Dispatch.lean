import BatchedLog.Proofs.Delivery.Alone

/-!
# One dispatch

A batch that has its turn is handed to the sinks of the logger one by one. A sink may come to a good
end with it, report an error or panic; whichever it is, the next sink is handed the batch.
`Lane.Tried` compares the sinks that were handed a batch, and how they ended, with what the thread
in turn has left to do and the failures it has noted.
-/

namespace BatchedLog

variable {σ κ ρ : Type}

/-! ## How sinks end -/

/-- A sink is handed a batch, and will end in this way. -/
structure HandOver where
  batch : Batch
  sink : Wired
  ending : Ending

def HandOver.failure? (a : HandOver) : Option SinkFailure :=
  match a.ending with
  | .returned (.ok ()) => none
  | .returned (.error e) => some ⟨a.sink.name, e⟩
  | .unwound panic => some ⟨a.sink.name, .panicked panic.message⟩

/-- What the dispatch of a batch comes to. -/
def Batch.outcome (b : Batch) (sinks : Nat) (failures : List SinkFailure) : Option DispatchError :=
  if failures.isEmpty then none else some ⟨b.number, sinks, failures⟩

namespace Batch

variable {b : Batch} {sinks : Nat} {failures : List SinkFailure}

theorem outcome_eq_none : b.outcome sinks failures = none ↔ failures = [] := by
  unfold outcome
  cases failures with
  | nil => simp
  | cons => simp

theorem eq_of_outcome {e : DispatchError} (h : b.outcome sinks failures = some e) :
    e = ⟨b.number, sinks, failures⟩ := by
  unfold outcome at h
  split at h
  · cases h
  · exact (Option.some.inj h).symm

end Batch

/-- The sink that a thread with this stack hands batch `k` of a logger next. -/
def handOverOf (host : Host σ κ ρ) (h : σ) (id : LoggerId) (k : Nat) :
    List (Frame κ) → List HandOver
  | .delivering call ticket batch (w :: _) _ :: _ =>
    if call.logger = id ∧ ticket = k then [⟨batch, w, (host.receive h w.sink batch).2.2⟩] else []
  | _ => []

namespace System

/-- The sinks that are handed batch `k` of a logger along a schedule, in this order. -/
def handOvers (host : Host σ κ ρ) (id : LoggerId) (k : Nat) :
    List ThreadId → System σ κ ρ → List HandOver
  | [], _ => []
  | t :: schedule, s =>
    handOverOf host s.plant.host id k (s.stack t) ++
      match s.step host t with
      | none => []
      | some (next, _) => handOvers host id k schedule next

end System

namespace HandOver

theorem failure?_of_ok {a : HandOver} (h : a.ending.caught = .ok ()) : a.failure? = none := by
  unfold failure?
  cases hend : a.ending with
  | returned r =>
    rw [hend] at h
    obtain rfl : r = .ok () := h
    rfl
  | unwound panic =>
    rw [hend] at h
    cases h

theorem failure?_of_error {a : HandOver} {e : SinkError} (h : a.ending.caught = .error e) :
    a.failure? = some ⟨a.sink.name, e⟩ := by
  unfold failure?
  cases hend : a.ending with
  | returned r =>
    rw [hend] at h
    obtain rfl : r = .error e := h
    rfl
  | unwound panic =>
    rw [hend] at h
    cases h
    rfl

theorem failure?_eq_none {a : HandOver} : a.failure? = none ↔ a.ending = .returned (.ok ()) := by
  constructor
  · intro h
    cases hend : a.ending with
    | returned r =>
      cases r with
      | ok => rfl
      | error e => simp [failure?, hend] at h
    | unwound panic => simp [failure?, hend] at h
  · intro h
    exact failure?_of_ok (by rw [h]; rfl)

end HandOver

/-! ## Who was handed the batch -/

/-- All sinks but those left were handed the batch, in order, and the failures are theirs. -/
structure Tried (sinks : List Wired) (b : Batch) (left : List Wired) (failures : List SinkFailure)
    (past : List HandOver) : Prop where
  sinks_eq : past.map (·.sink) ++ left = sinks
  batch_eq : ∀ a ∈ past, a.batch = b
  failures_eq : failures = past.filterMap HandOver.failure?

/-- While a sink is at work, it is the last that was handed the batch. -/
def Phase.Tried (sinks : List Wired) (past : List HandOver) : Phase → Prop
  | .delivering _ b left failures => BatchedLog.Tried sinks b left failures past
  | .receiving _ b w left failures ending => ∃ before a, past = before ++ [a] ∧ a.batch = b ∧
      a.sink = w ∧ a.ending.caught = ending ∧ BatchedLog.Tried sinks b (w :: left) failures before
  | _ => True

section

variable {sinks left : List Wired} {b : Batch} {failures : List SinkFailure}
  {past : List HandOver} {w : Wired} {k : Nat}

theorem Tried.sinks_snoc {before : List HandOver} {a : HandOver}
    (h : Tried sinks b (w :: left) failures before) (hsink : a.sink = w) :
    (before ++ [a]).map (·.sink) ++ left = sinks := by
  rw [← h.sinks_eq, List.map_append, List.map_singleton, hsink, List.append_assoc]
  rfl

theorem Tried.batch_snoc {before : List HandOver} {a : HandOver}
    (h : Tried sinks b left failures before) (hbatch : a.batch = b) :
    ∀ a' ∈ before ++ [a], a'.batch = b := by
  intro a' ha'
  rcases List.mem_append.1 ha' with ha' | ha'
  · exact h.batch_eq a' ha'
  · rw [List.mem_singleton.1 ha', hbatch]

/-- A sink that comes to a good end adds no failure. -/
theorem Phase.Tried.took (h : (Phase.receiving k b w left failures (.ok ())).Tried sinks past) :
    (Phase.delivering k b left failures).Tried sinks past := by
  obtain ⟨before, a, rfl, hbatch, hsink, hcaught, tried⟩ := h
  refine ⟨tried.sinks_snoc hsink, tried.batch_snoc hbatch, ?_⟩
  rw [List.filterMap_append, ← tried.failures_eq,
    List.filterMap_cons_none (HandOver.failure?_of_ok hcaught), List.filterMap_nil, List.append_nil]

/-- One that does not adds its own. -/
theorem Phase.Tried.failed {e : SinkError}
    (h : (Phase.receiving k b w left failures (.error e)).Tried sinks past) :
    (Phase.delivering k b left (failures ++ [⟨w.name, e⟩])).Tried sinks past := by
  obtain ⟨before, a, rfl, hbatch, rfl, hcaught, tried⟩ := h
  refine ⟨tried.sinks_snoc rfl, tried.batch_snoc hbatch, ?_⟩
  rw [List.filterMap_append, ← tried.failures_eq,
    List.filterMap_cons_some (HandOver.failure?_of_error hcaught), List.filterMap_nil]

end

namespace Lane

/-- Batch `k` was handed to nobody before its turn, and during it to all sinks but those that the
thread in turn has left. -/
structure Tried (lane : Lane κ) (k : Nat) (past : List HandOver) : Prop where
  begun : past ≠ [] →
    ∃ l, lane.logger = some l ∧ (k < l.turn ∨ k = l.turn ∧ ∃ t, lane.inTurn t = true)
  underway : ∀ {l t s}, lane.logger = some l → k = l.turn → lane.station t = some s →
    s.phase.inTurn = true → s.phase.Tried l.sinks past

/-- What a move hands to a sink: the next of those left, if it is a move of that kind. -/
inductive Hands (id : LoggerId) (k : Nat) (st : Option (Station κ)) (now : List Happening)
    (st' : Option (Station κ)) : List HandOver → Prop
  | nothing : (∀ b w, .handed id k b w ∉ now) → Hands id k st now st' []
  | next {call below b w left failures ending} :
      st = some ⟨call, below, .delivering k b (w :: left) failures⟩ →
      st' = some ⟨call, below, .receiving k b w left failures ending.caught⟩ →
      Hands id k st now st' [⟨b, w, ending⟩]

variable {id : LoggerId} {lane : Lane κ} {k : Nat} {past past' new : List HandOver} {t : ThreadId}
  {l l' : Logger} {o : Option Logger} {st : Option (Station κ)} {s s' : Station κ}
  {now : List Happening}

theorem Fresh.tried (h : lane.Fresh) (k : Nat) : lane.Tried k [] := by
  refine ⟨fun hne => absurd rfl hne, ?_⟩
  intro l t s _ _ hs
  rw [h.station t] at hs
  cases hs

theorem Owned.ticket?_phase (owned : lane.Owned l) (hst : lane.station t = some s)
    (hin : s.phase.inTurn = true) : s.phase.ticket? = some l.turn := by
  have hturn := owned.inTurn ((inTurn_of_station hst).trans hin)
  rwa [ticket?, hst] at hturn

/-- A thread that has not the turn, and does not get it, is beside the point. -/
theorem Tried.aside (h : lane.Tried k past) (hl : lane.logger = some l) (hturn : l'.turn = l.turn)
    (hsinks : l'.sinks = l.sinks) (hnot : lane.inTurn t = false)
    (hnot' : st.any (·.phase.inTurn) = false) : (lane.put t (some l') st).Tried k past := by
  refine ⟨?_, ?_⟩
  · intro hne
    obtain ⟨l₀, hl₀, hbegun⟩ := h.begun hne
    obtain rfl : l = l₀ := Option.some.inj (hl.symm.trans hl₀)
    refine ⟨l', rfl, ?_⟩
    rw [hturn]
    refine hbegun.imp_right ?_
    rintro ⟨hk, v, hv⟩
    refine ⟨hk, v, ?_⟩
    have hne : v ≠ t := by
      rintro rfl
      rw [hnot] at hv
      cases hv
    rw [inTurn_put, if_neg hne, hv]
  · intro l₂ v s hl₂ hk hs hin
    obtain rfl : l' = l₂ := Option.some.inj hl₂
    have hne : v ≠ t := by
      rintro rfl
      rw [station_put_self] at hs
      rw [hs] at hnot'
      exact Bool.eq_false_iff.1 hnot' hin
    rw [station_put_of_ne hne] at hs
    rw [hsinks]
    exact h.underway hl (hk.trans hturn) hs hin

/-- The thread in turn goes on with its batch. -/
theorem Tried.onward (h : lane.Tried k past) (hl : lane.logger = some l) (owned : lane.Owned l)
    (hturn : l'.turn = l.turn) (hsinks : l'.sinks = l.sinks) (hst : lane.station t = some s)
    (hin : s.phase.inTurn = true) (hin' : s'.phase.inTurn = true)
    (hsame : k ≠ l.turn → past' = past)
    (hphase : k = l.turn → s.phase.Tried l.sinks past → s'.phase.Tried l.sinks past') :
    (lane.put t (some l') (some s')).Tried k past' := by
  refine ⟨?_, ?_⟩
  · intro hne
    refine ⟨l', rfl, ?_⟩
    by_cases hk : k = l.turn
    · refine .inr ⟨hk.trans hturn.symm, t, ?_⟩
      rw [inTurn_put, if_pos rfl]
      exact hin'
    · rw [hsame hk] at hne
      obtain ⟨l₀, hl₀, hbegun⟩ := h.begun hne
      obtain rfl : l = l₀ := Option.some.inj (hl.symm.trans hl₀)
      rw [hturn]
      exact .inl (hbegun.resolve_right fun held => hk held.1)
  · intro l₂ v s₂ hl₂ hk hs₂ hin₂
    obtain rfl : l' = l₂ := Option.some.inj hl₂
    have hv : v = t := by
      apply Decidable.byContradiction
      intro hv
      rw [station_put_of_ne hv] at hs₂
      exact hv (owned.inTurn_unique ((inTurn_of_station hs₂).trans hin₂)
        ((inTurn_of_station hst).trans hin))
    rw [hv, station_put_self] at hs₂
    obtain rfl : s' = s₂ := Option.some.inj hs₂
    have hk : k = l.turn := hk.trans hturn
    rw [hsinks]
    exact hphase hk (h.underway hl hk hst hin)

/-- Who gets the turn has handed the batch to nobody. -/
theorem Tried.begin {call : Call} {below : List (Frame κ)} {n : Nat} {es : List Entry}
    (h : lane.Tried k past) (hl : lane.logger = some l) (owned : lane.Owned l)
    (hst : lane.station t = some ⟨call, below, .waiting l.turn es⟩) :
    (lane.put t (some l) (some ⟨call, below, .delivering l.turn ⟨n, es⟩ l.sinks []⟩)).Tried k
      past := by
  have hticket : lane.ticket? t = some l.turn := by simp [ticket?, hst, Phase.ticket?]
  -- Whoever had the turn would own the same number.
  have hnone : ∀ v, lane.inTurn v = false := by
    intro v
    cases hv : lane.inTurn v with
    | false => rfl
    | true =>
      obtain rfl := owned.unique (owned.inTurn hv) hticket
      rw [inTurn_of_station hst] at hv
      cases hv
  have before : past ≠ [] → k < l.turn := by
    intro hne
    obtain ⟨l₀, hl₀, hbegun⟩ := h.begun hne
    obtain rfl : l = l₀ := Option.some.inj (hl.symm.trans hl₀)
    refine hbegun.resolve_right ?_
    rintro ⟨-, v, hv⟩
    rw [hnone v] at hv
    cases hv
  refine ⟨fun hne => ⟨l, rfl, .inl (before hne)⟩, ?_⟩
  intro l₂ v s hl₂ hk hs hin
  obtain rfl : l = l₂ := Option.some.inj hl₂
  have hnil : past = [] := by
    apply Decidable.byContradiction
    intro hne
    have hlt := before hne
    omega
  subst hnil
  by_cases hv : v = t
  · rw [hv, station_put_self] at hs
    cases hs
    exact ⟨rfl, by simp, rfl⟩
  · rw [station_put_of_ne hv] at hs
    have hv_in := hnone v
    rw [inTurn_of_station hs, hin] at hv_in
    cases hv_in

theorem Tried.put_release {call' : Call} {below : List (Frame κ)} (h : lane.Tried k past)
    (hl : lane.logger = some l) (owned : lane.Owned l) (ht : lane.inTurn t = true) :
    (lane.put t (some l.passTurn) (some ⟨call', below, .draining⟩)).Tried k past := by
  refine ⟨?_, ?_⟩
  · intro hne
    obtain ⟨l₀, hl₀, hbegun⟩ := h.begun hne
    obtain rfl : l = l₀ := Option.some.inj (hl.symm.trans hl₀)
    have hle : k ≤ l.turn := hbegun.elim Nat.le_of_lt fun held => Nat.le_of_eq held.1
    exact ⟨_, rfl, .inl (Nat.lt_succ_of_le hle)⟩
  · intro l₂ v s _ _ hs hin
    by_cases hv : v = t
    · rw [hv, station_put_self] at hs
      cases hs
      cases hin
    · rw [station_put_of_ne hv] at hs
      exact absurd (owned.inTurn_unique ((inTurn_of_station hs).trans hin) ht) hv

theorem Tried.step (h : lane.Tried k past) (orderly : lane.Orderly)
    (move : Move id lane.logger (lane.station t) now o st)
    (hands : Hands id k (lane.station t) now st new) : (lane.put t o st).Tried k (past ++ new) := by
  generalize hl : lane.logger = before at move
  generalize hst : lane.station t = s at move hands
  have hin : lane.inTurn t = s.any (·.phase.inTurn) := by simp [inTurn, hst]
  have hafter : ∀ {call below} {r : Option (Nat × List Entry) × Logger},
      (Station.afterCut call below r : Option (Station κ)).any (·.phase.inTurn) = false := by
    intro call below r
    obtain ⟨c, l⟩ := r
    cases c with
    | none => rfl
    | some c => rfl
  cases hands with
  | @next call below b w left failures ending hs hs' =>
    subst hs hs'
    obtain ⟨l, hl', owned⟩ := orderly.exists_logger hst
    have hk : k = l.turn := Option.some.inj (owned.ticket?_phase hst rfl)
    have hlogger : o = some l := by
      rw [← hl']
      cases move with
      | hand => exact hl.symm
    rw [hlogger]
    exact h.onward hl' owned rfl rfl hst rfl rfl (absurd hk)
      fun _ tried => ⟨past, _, rfl, rfl, rfl, rfl, tried⟩
  | nothing none =>
    rw [List.append_nil]
    cases move with
    | elsewhere =>
      rw [← hl, ← hst, put_self]
      exact h
    | opened =>
      have hnil : past = [] := by
        apply Decidable.byContradiction
        intro hne
        obtain ⟨l, hl', -⟩ := h.begun hne
        rw [hl] at hl'
        cases hl'
      rw [hnil, ← hst]
      exact (orderly.fresh_opened hl ..).tried k
    | @log l e below =>
      have cuts := (l.push e).cutDue_cuts
      exact h.aside hl cuts.turn_eq cuts.sinks_eq hin hafter
    | hold => exact h.onward hl (orderly.owned hl) rfl rfl hst rfl rfl (fun _ => rfl) fun _ h => h
    | @flush l below =>
      have cuts := l.cutAll_cuts
      exact h.aside hl cuts.turn_eq cuts.sinks_eq hin hafter
    | turn hk =>
      subst hk
      exact h.begin hl (orderly.owned hl) hst
    | @hand _ call below k' b w left failures ending =>
      obtain ⟨l, hl', owned⟩ := orderly.exists_logger hst
      have hk' : k' = l.turn := Option.some.inj (owned.ticket?_phase hst rfl)
      have hk : k ≠ l.turn := by
        rintro rfl
        exact none b w (by simp [hk'])
      rw [← hl, hl']
      exact h.onward hl' owned rfl rfl hst rfl rfl (fun _ => rfl) fun heq => absurd heq hk
    | took =>
      obtain ⟨l, hl', owned⟩ := orderly.exists_logger hst
      rw [← hl, hl']
      exact h.onward hl' owned rfl rfl hst rfl rfl (fun _ => rfl) fun _ tried => tried.took
    | failed =>
      obtain ⟨l, hl', owned⟩ := orderly.exists_logger hst
      rw [← hl, hl']
      exact h.onward hl' owned rfl rfl hst rfl rfl (fun _ => rfl) fun _ tried => tried.failed
    | release => exact h.put_release hl (orderly.owned hl) hin
    | @drain l call below =>
      have cuts := l.cutDue_cuts
      exact h.aside hl cuts.turn_eq cuts.sinks_eq hin hafter

end Lane

/-! ## Runs -/

namespace Machine

variable {host : Host σ κ ρ} {p : Plant σ} {done : List Bool} {stack : List (Frame κ)}
  {out : Turnout σ κ ρ} {id : LoggerId} {k : Nat}

/-- A step hands a batch to a sink just if the thread is at that point of its dispatch, and then the
sink is at work and will end as it does. -/
theorem Rule.handOver (id : LoggerId) (k : Nat) (rule : Rule host p done stack out) :
    (handOverOf host p.host id k stack = [] ∧ ∀ b w, .handed id k b w ∉ out.happenings) ∨
      ∃ call b w left failures rest todo ending, call.logger = id ∧
        stack = .delivering call k b (w :: left) failures :: rest ∧
        handOverOf host p.host id k stack = [⟨b, w, ending⟩] ∧
        out.thread.stack = .receiving w.sink todo ending.caught :: stack := by
  have quiet : ∀ {q : Plant σ} {call : Call} {cut : Option (Nat × List Entry) × Logger}
      {rest : List (Frame κ)} {x : List Happening}, (∀ b w, .handed id k b w ∉ x) →
      ∀ b w, .handed id k b w ∉ (afterCut host q call cut rest x).happenings := by
    intro q call cut rest x hx b w hmem
    rw [happenings_afterCut] at hmem
    rcases List.mem_append.1 hmem with hmem | hmem
    · exact hx b w hmem
    · simp [cutNews] at hmem
  cases rule with
  | @hand call ticket b w left failures rest h todo ending hreceive =>
    by_cases hhere : call.logger = id ∧ ticket = k
    · obtain ⟨hid, rfl⟩ := hhere
      refine .inr ⟨call, b, w, left, failures, rest, todo, ending, hid, rfl, ?_, rfl⟩
      rw [handOverOf, if_pos ⟨hid, rfl⟩, hreceive]
    · refine .inl ⟨if_neg hhere, ?_⟩
      intro b' w' hmem
      obtain heq := List.mem_singleton.1 hmem
      cases heq
      exact hhere ⟨rfl, rfl⟩
  | log => exact .inl ⟨rfl, quiet (by simp)⟩
  | flush => exact .inl ⟨rfl, quiet (by simp)⟩
  | drain => exact .inl ⟨rfl, quiet (by simp)⟩
  | _ => exact .inl ⟨rfl, by simp [proceed, finish]⟩

end Machine

section

variable {host : Host σ κ ρ} {id : LoggerId} {k : Nat}
  {s u : System σ κ ρ} {t : ThreadId} {lane : Lane κ} {past : List HandOver} {hs : List Happening}

theorem Stands.inv_receiving {sink : SinkId} {todo : List κ} {ending : Except SinkError Unit}
    {call : Call} {b : Batch} {w : Wired} {left : List Wired} {failures : List SinkFailure}
    {rest : List (Frame κ)} {st : Option (Station κ)}
    (h : Stands id
      (.receiving sink todo ending :: .delivering call k b (w :: left) failures :: rest) st)
    (hid : call.logger = id) : st = some ⟨call, rest, .receiving k b w left failures ending⟩ := by
  cases h with
  | held h =>
    cases h with
    | above _ h =>
      cases h with
      | above hf => simp [Frame.serves, hid] at hf
    | receiving => rfl

/-- What a step hands to a sink shows in the lane. -/
theorem System.Views.hands {now : List Happening} {st : Option (Station κ)}
    (views : s.Views id lane) (hstep : s.step host t = some (u, now))
    (stands : Stands id (u.stack t) st) :
    Lane.Hands id k (lane.station t) now st (handOverOf host s.plant.host id k (s.stack t)) := by
  obtain ⟨out, stepped, rfl⟩ := System.stepped hstep
  rcases stepped.rule.handOver id k with
    ⟨hnone, hnot⟩ | ⟨call, b, w, left, failures, rest, todo, ending, hid, hstack, hover, hafter⟩
  · rw [hnone]
    exact .nothing hnot
  · obtain ⟨hst, -⟩ := (hstack ▸ views.stands t).inv_delivering hid
    rw [stepped.self, hafter, hstack] at stands
    rw [hover]
    exact .next hst (stands.inv_receiving hid)

theorem Lane.Tried.follow : ∀ {schedule : List ThreadId}
    {s : System σ κ ρ} {lane : Lane κ} {past : List HandOver} {hs : List Happening},
    lane.Tried k past → s.Views id lane → lane.Orderly →
    s.follow host schedule = some (u, hs) →
    ∃ last, u.Views id last ∧ last.Orderly ∧
      last.Tried k (past ++ s.handOvers host id k schedule) := by
  intro schedule
  induction schedule with
  | nil =>
    intro s lane past hs tried views orderly run
    cases run
    rw [System.handOvers, List.append_nil]
    exact ⟨lane, views, orderly, tried⟩
  | cons t rest ih =>
    intro s lane past hs tried views orderly run
    unfold System.follow at run
    split at run
    · cases run
    · rename_i next now hstep
      split at run
      · cases run
      · rename_i last later hrest
        cases run
        obtain ⟨l, st, move, viewsNext⟩ := views.step hstep
        have stands := viewsNext.stands t
        rw [Lane.station_put_self] at stands
        have hands := views.hands (k := k) hstep stands
        obtain ⟨last, viewsLast, orderlyLast, triedLast⟩ :=
          ih (tried.step orderly move hands) viewsNext (orderly.step move) hrest
        refine ⟨last, viewsLast, orderlyLast, ?_⟩
        rw [System.handOvers, hstep]
        rwa [List.append_assoc] at triedLast

/-- A dispatch at its end has handed the batch to all sinks. -/
theorem System.Unused.tried {s₀ : System σ κ ρ} {schedule : List ThreadId} {call : Call} {b : Batch}
    {left : List Wired} {failures : List SinkFailure} {rest : List (Frame κ)}
    (unused : s₀.Unused id) (run : s₀.follow host schedule = some (s, hs))
    (hstack : s.stack t = .delivering call k b left failures :: rest) (hid : call.logger = id) :
    ∃ l, s.plant.loggers[id]? = some l ∧
      Tried l.sinks b left failures (s₀.handOvers host id k schedule) := by
  obtain ⟨first, fresh, views₀⟩ := unused.exists_fresh
  obtain ⟨lane, views, orderly, tried⟩ :=
    (fresh.tried k).follow views₀ fresh.orderly run
  obtain ⟨hst, -⟩ := (hstack ▸ views.stands t).inv_delivering hid
  obtain ⟨l, hl, owned⟩ := orderly.exists_logger hst
  have hk : k = l.turn := Option.some.inj (owned.ticket?_phase hst rfl)
  exact ⟨l, views.logger.trans hl, tried.underway hl hk hst rfl⟩

/-! ## To the end -/

namespace System

theorem not_blocked_delivering {p : Plant σ} {done : List Bool} {call : Call} {b : Batch}
    {left : List Wired} {failures : List SinkFailure} {rest : List (Frame κ)} {l : Logger}
    (hl : p.loggers[call.logger]? = some l) :
    ¬Machine.Blocked p done (.delivering call k b left failures :: rest) := by
  intro hblocked
  cases hblocked with
  | nowhere hserves hnone =>
    obtain rfl := beq_iff_eq.1 hserves
    rw [hl] at hnone
    cases hnone

theorem exists_stepped (host : Host σ κ ρ) (h : ¬Machine.Blocked s.plant s.done (s.stack t)) :
    ∃ out u, s.step host t = some (u, out.happenings) ∧ s.Stepped host t out u := by
  have hcan : s.canStep host t = true := by
    apply Classical.byContradiction
    intro hcan
    exact h (blocked_of_canStep (Bool.eq_false_iff.2 hcan))
  obtain ⟨⟨u, now⟩, hstep⟩ := Option.isSome_iff_exists.1 hcan
  obtain ⟨out, stepped, rfl⟩ := stepped hstep
  exact ⟨out, u, hstep, stepped⟩

variable {call : Call} {b : Batch} {rest : List (Frame κ)} {l : Logger}

/-- A batch whose turn has come is about to be handed to all sinks. -/
theorem exists_began (host : Host σ κ ρ) {es : List Entry}
    (hstack : s.stack t = .waiting call k es :: rest)
    (hl : s.plant.loggers[call.logger]? = some l) (hturn : l.turn = k) :
    ∃ u now, s.step host t = some (u, now) ∧ u.plant.loggers = s.plant.loggers ∧
      u.stack t = .delivering call k ⟨s.plant.dispatched, es⟩ l.sinks [] :: rest := by
  have hfree : ¬Machine.Blocked s.plant s.done (s.stack t) := by
    rw [hstack]
    intro hblocked
    cases hblocked with
    | waiting hl' hne =>
      rw [hl] at hl'
      cases hl'
      exact hne hturn
    | nowhere hserves hnone =>
      obtain rfl := beq_iff_eq.1 hserves
      rw [hl] at hnone
      cases hnone
  obtain ⟨out, u, hstep, stepped⟩ := exists_stepped host hfree
  have rule := stepped.rule
  rw [hstack] at rule
  cases rule with
  | turn hl' =>
    rw [hl] at hl'
    cases hl'
    exact ⟨u, _, hstep, stepped.loggers, stepped.self⟩

/-- A dispatch hands the batch to the next sink. -/
theorem exists_handed (host : Host σ κ ρ) {w : Wired} {left : List Wired}
    {failures : List SinkFailure}
    (hstack : s.stack t = .delivering call k b (w :: left) failures :: rest)
    (hl : s.plant.loggers[call.logger]? = some l) :
    ∃ u now ending, s.step host t = some (u, now) ∧ u.plant.loggers = s.plant.loggers ∧
      u.stack t = .receiving w.sink (host.receive s.plant.host w.sink b).2.1 ending ::
        .delivering call k b (w :: left) failures :: rest := by
  have hfree : ¬Machine.Blocked s.plant s.done (s.stack t) := hstack ▸ not_blocked_delivering hl
  obtain ⟨out, u, hstep, stepped⟩ := exists_stepped host hfree
  have rule := stepped.rule
  rw [hstack] at rule
  cases rule with
  | hand hreceive =>
    rw [hreceive]
    exact ⟨u, _, _, hstep, stepped.loggers, stepped.self⟩

/-- A sink that has nothing left to do gives way to the next. -/
theorem exists_ended (host : Host σ κ ρ) {w : Wired} {left : List Wired}
    {failures : List SinkFailure} {ending : Except SinkError Unit} (hstack : s.stack t =
      .receiving w.sink [] ending :: .delivering call k b (w :: left) failures :: rest) :
    ∃ u now failures', s.step host t = some (u, now) ∧ u.plant.loggers = s.plant.loggers ∧
      u.stack t = .delivering call k b left failures' :: rest := by
  have hfree : ¬Machine.Blocked s.plant s.done (s.stack t) := by
    rw [hstack]
    intro hblocked
    cases hblocked with
    | nowhere hserves => cases hserves
  obtain ⟨out, u, hstep, stepped⟩ := exists_stepped host hfree
  have rule := stepped.rule
  rw [hstack] at rule
  cases rule with
  | took => exact ⟨u, _, _, hstep, stepped.loggers, stepped.self⟩
  | failed => exact ⟨u, _, _, hstep, stepped.loggers, stepped.self⟩
  | astray hne => exact absurd rfl (hne _ _ _ _ _ _ _)

/-- A dispatch comes to its end if the sinks call nothing. -/
theorem exists_dispatched {left : List Wired}
    (hcalls : ∀ w ∈ left, ∀ h, (host.receive h w.sink b).2.1 = []) :
    ∀ {s : System σ κ ρ} {failures : List SinkFailure},
      s.stack t = .delivering call k b left failures :: rest →
      s.plant.loggers[call.logger]? = some l →
      ∃ u hs failures', s.follow host (List.replicate (2 * left.length) t) = some (u, hs) ∧
        u.stack t = .delivering call k b [] failures' :: rest := by
  induction left with
  | nil =>
    intro s failures hstack _
    exact ⟨s, [], failures, rfl, hstack⟩
  | cons w left ih =>
    intro s failures hstack hl
    obtain ⟨v, now, ending, hstep, hloggers, hvstack⟩ := exists_handed host hstack hl
    rw [hcalls w List.mem_cons_self] at hvstack
    obtain ⟨v', now', failures', hstep', hloggers', hvstack'⟩ := exists_ended host hvstack
    rw [← hloggers, ← hloggers'] at hl
    obtain ⟨u, later, failures'', hrest, hustack⟩ :=
      ih (fun w' hw' => hcalls w' (List.mem_cons_of_mem _ hw')) hvstack' hl
    exact ⟨u, _, failures'', follow_cons hstep (follow_cons hstep' hrest), hustack⟩

/-- At the end of a dispatch the turn passes on, and the call notes what came of it. -/
theorem exists_released (host : Host σ κ ρ) {failures : List SinkFailure}
    (hstack : s.stack t = .delivering call k b [] failures :: rest)
    (hl : s.plant.loggers[call.logger]? = some l) :
    ∃ u, s.step host t = some (u, [.released call.logger k]) ∧
      u.stack t = .draining (call.conclude b l.sinks.length failures) :: rest := by
  have hfree : ¬Machine.Blocked s.plant s.done (s.stack t) := hstack ▸ not_blocked_delivering hl
  obtain ⟨out, u, hstep, stepped⟩ := exists_stepped host hfree
  have rule := stepped.rule
  rw [hstack] at rule
  cases rule with
  | release hl' =>
    rw [hl] at hl'
    cases hl'
    exact ⟨u, hstep, stepped.self⟩

end System

end

/-- Each sink of a logger is handed a batch once, in the order of registration and whatever those
before it did with it, by whichever thread and with whatever else under way. Sinks that call nothing
on their part bring the dispatch to its end. At its end it has failed just if one of the sinks has:
the error has the number of the batch, that of the sinks, and the failures of those that failed, in
order. Of a panic it has the text, or a fixed one if it was none. -/
theorem dispatch_attempts_every_sink {host : Host σ κ ρ} {id : LoggerId} {s₀ s : System σ κ ρ}
    {schedule : List ThreadId} {hs : List Happening} (unused : s₀.Unused id)
    (run : s₀.follow host schedule = some (s, hs)) :
    (∀ {t call k es rest l}, s.stack t = .waiting call k es :: rest → call.logger = id →
      s.plant.loggers[id]? = some l → l.turn = k →
      (∀ w ∈ l.sinks, ∀ h, (host.receive h w.sink ⟨s.plant.dispatched, es⟩).2.1 = []) →
      ∃ u later failures,
        s.follow host (List.replicate (2 * l.sinks.length + 1) t) = some (u, later) ∧
        u.stack t = .delivering call k ⟨s.plant.dispatched, es⟩ [] failures :: rest) ∧
    ∀ {t call k b failures rest}, s.stack t = .delivering call k b [] failures :: rest →
      call.logger = id → ∃ l u, s.plant.loggers[id]? = some l ∧
        ((s₀.handOvers host id k schedule).map (·.sink) = l.sinks ∧
          (∀ a ∈ s₀.handOvers host id k schedule, a.batch = b) ∧
          failures = (s₀.handOvers host id k schedule).filterMap HandOver.failure?) ∧
        (s.step host t = some (u, [.released id k]) ∧
          u.stack t = .draining (call.conclude b l.sinks.length failures) :: rest ∧
          (call.conclude b l.sinks.length failures).failure =
            call.failure.or (b.outcome l.sinks.length failures)) ∧
        (b.outcome l.sinks.length failures = none ↔
          ∀ a ∈ s₀.handOvers host id k schedule, a.ending = .returned (.ok ())) ∧
        (∀ e, b.outcome l.sinks.length failures = some e →
          e = ⟨b.number, l.sinks.length, failures⟩) ∧
        ∀ a ∈ s₀.handOvers host id k schedule,
          (∀ text, a.ending = .unwound (.static text) ∨ a.ending = .unwound (.owned text) →
            ⟨a.sink.name, .panicked text⟩ ∈ failures) ∧
          (a.ending = .unwound .other →
            ⟨a.sink.name, .panicked "non-string panic payload"⟩ ∈ failures) := by
  constructor
  · rintro t call k es rest l hstack rfl hl hturn hcalls
    obtain ⟨v, now, hstep, hloggers, hvstack⟩ := System.exists_began host hstack hl hturn
    obtain ⟨u, later, failures, hrest, hustack⟩ :=
      System.exists_dispatched hcalls hvstack (hloggers ▸ hl)
    exact ⟨u, _, failures, System.follow_cons hstep hrest, hustack⟩
  · rintro t call k b failures rest hstack rfl
    obtain ⟨l, hl, tried⟩ := unused.tried run hstack rfl
    obtain ⟨u, hstep, hustack⟩ := System.exists_released host hstack hl
    have hsinks := tried.sinks_eq
    rw [List.append_nil] at hsinks
    refine ⟨l, u, hl, ⟨hsinks, tried.batch_eq, tried.failures_eq⟩, ⟨hstep, hustack, rfl⟩,
      ?_, ?_, ?_⟩
    · rw [Batch.outcome_eq_none, tried.failures_eq, List.filterMap_eq_nil_iff]
      simp only [HandOver.failure?_eq_none]
    · intro e he
      exact Batch.eq_of_outcome he
    · intro a ha
      have noted : ∀ panic, a.ending = .unwound panic →
          ⟨a.sink.name, .panicked panic.message⟩ ∈ failures := by
        intro panic hpanic
        rw [tried.failures_eq]
        refine List.mem_filterMap.2 ⟨a, ha, ?_⟩
        rw [HandOver.failure?, hpanic]
      exact ⟨fun text hpanic => hpanic.elim (noted _) (noted _), noted .other⟩

/-- Sink 0 takes what it is handed, sink 1 is full, and the others panic. -/
def Ending.mixed : SinkId → Ending
  | 0 => .returned (.ok ())
  | 1 => .returned (.error (.other "full"))
  | 2 => .unwound (.owned "gone")
  | _ => .unwound .other

def Host.mixed : Host Unit Demand Unit := .ofSinks fun sink _ => ([], Ending.mixed sink)

/-- One thread before a call, on a logger of interval 1. -/
def System.mixed : System Unit Demand Unit where
  plant := ⟨[.start ⟨1⟩ [⟨"full", 1⟩, ⟨"gone", 2⟩, ⟨"sound", 0⟩, ⟨"odd", 3⟩]], 0, 0, ()⟩
  threads := [⟨[.log 0 "x" .info], none⟩]

/-- Once it has its turn the batch is through in nine steps. Three of four sinks have failed, and
the third was handed the batch all the same. -/
theorem dispatch_attempts_every_sink_mixed :
    (∃ s hs, System.mixed.follow .mixed [0] = some (s, hs) ∧
      ∃ u later call b failures, s.follow .mixed (List.replicate 9 0) = some (u, later) ∧
        u.stack 0 = [.delivering call 0 b [] failures]) ∧
    ∃ s hs call b failures, System.mixed.follow .mixed (List.replicate 10 0) = some (s, hs) ∧
      s.stack 0 = [.delivering call 0 b [] failures] ∧
      failures =
        (System.mixed.handOvers .mixed 0 0 (List.replicate 10 0)).filterMap HandOver.failure? ∧
      failures = [⟨"full", .other "full"⟩, ⟨"gone", .panicked "gone"⟩,
        ⟨"odd", .panicked "non-string panic payload"⟩] ∧
      b.outcome 4 failures ≠ none := by
  have unused : System.mixed.Unused 0 := by
    constructor
    · rintro l ⟨⟩
      exact ⟨_, _, rfl⟩
    · intro th hth f hf
      revert f th
      simp [System.mixed, Frame.serves]
  constructor
  · obtain ⟨s, hs, run, call, es, l, hstack, hid, hl, hturn, hsinks⟩ : ∃ s hs,
        System.mixed.follow .mixed [0] = some (s, hs) ∧ ∃ call es l,
        s.stack 0 = [.waiting call 0 es] ∧ call.logger = 0 ∧ s.plant.loggers[0]? = some l ∧
        l.turn = 0 ∧ l.sinks.length = 4 :=
      ⟨_, _, rfl, _, _, _, rfl, rfl, rfl, rfl, rfl⟩
    obtain ⟨goes_on, -⟩ := dispatch_attempts_every_sink unused run
    obtain ⟨u, later, failures, hrest, hustack⟩ := goes_on hstack hid hl hturn fun _ _ _ => rfl
    rw [hsinks] at hrest
    exact ⟨s, hs, run, u, later, call, _, failures, hrest, hustack⟩
  · obtain ⟨s, hs, run, call, b, failures, hstack, hid, hfailures⟩ : ∃ s hs,
        System.mixed.follow .mixed (List.replicate 10 0) = some (s, hs) ∧ ∃ call b failures,
        s.stack 0 = [.delivering call 0 b [] failures] ∧ call.logger = 0 ∧
        failures = [⟨"full", .other "full"⟩, ⟨"gone", .panicked "gone"⟩,
          ⟨"odd", .panicked "non-string panic payload"⟩] :=
      ⟨_, _, rfl, _, _, _, rfl, rfl, rfl⟩
    obtain ⟨-, ended⟩ := dispatch_attempts_every_sink unused run
    obtain ⟨l, u, -, ⟨-, -, hhanded⟩, -, -, -, -⟩ := ended hstack hid
    exact ⟨s, hs, call, b, failures, run, hstack, hhanded, hfailures, by
      rw [hfailures, Ne, Batch.outcome_eq_none]
      exact List.cons_ne_nil _ _⟩

end BatchedLog
