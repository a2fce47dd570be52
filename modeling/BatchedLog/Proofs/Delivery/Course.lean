import BatchedLog.Proofs.Delivery.Ledger
import Mathlib.Data.List.Infix

/-!
# Ordered, exclusive delivery

What is done about the batches of a logger, from the turn of one to the end of its last sink, is
read off a run as a list of `Deed`s. Each batch has its `round`: it begins, every sink is handed it
and comes to an end with it before the next sink is, and the turn passes on. `Lane.OnCourse` says
that at all times the deeds are whole rounds of the batches in the order in which they were cut, and
a beginning of the next one that the phase of the thread in turn completes.
-/

namespace BatchedLog

variable {σ κ ρ : Type}

/-! ## Rounds -/

inductive Deed
  | began (ticket : Nat) (entries : List Entry)
  | handed (ticket : Nat) (entries : List Entry) (sink : Wired)
  /-- The sink of this name is done with the batch, well or not. -/
  | ended (ticket : Nat) (sink : String)
  | released (ticket : Nat)
  deriving DecidableEq, Repr

def Happening.deed? : Happening → Option Deed
  | .began _ ticket batch _ => some (.began ticket batch.entries)
  | .handed _ ticket batch w => some (.handed ticket batch.entries w)
  | .took _ ticket w => some (.ended ticket w.name)
  | .failed _ ticket failure => some (.ended ticket failure.sink)
  | .released _ ticket => some (.released ticket)
  | _ => none

def deedsOf (id : LoggerId) (hs : List Happening) : List Deed :=
  (about id hs).filterMap Happening.deed?

def Happening.failure? : Happening → Option SinkFailure
  | .failed _ _ failure => some failure
  | _ => none

/-- The sinks that did not take a batch, and why. -/
def failuresOf (id : LoggerId) (hs : List Happening) : List SinkFailure :=
  (about id hs).filterMap Happening.failure?

/-- Each of the sinks is handed the batch once, and is done with it before the next one is. -/
def attempts (ticket : Nat) (entries : List Entry) (sinks : List Wired) : List Deed :=
  sinks.flatMap fun w => [.handed ticket entries w, .ended ticket w.name]

/-- All that is to be done about a batch. -/
def round (sinks : List Wired) (c : Nat × List Entry) : List Deed :=
  .began c.1 c.2 :: (attempts c.1 c.2 sinks ++ [.released c.1])

/-- What is left to be done about a batch by the thread that has its turn. -/
def Phase.ahead : Phase → List Deed
  | .delivering ticket batch left _ => attempts ticket batch.entries left ++ [.released ticket]
  | .receiving ticket batch w left .. =>
    .ended ticket w.name :: (attempts ticket batch.entries left ++ [.released ticket])
  | _ => []

def Deed.batchTo? (w : Wired) : Deed → Option (Nat × List Entry)
  | .handed ticket entries v => if v = w then some (ticket, entries) else none
  | _ => none

/-- The batches that a sink has been handed, in this order. -/
def handedTo (id : LoggerId) (w : Wired) (hs : List Happening) : List (Nat × List Entry) :=
  (deedsOf id hs).filterMap (Deed.batchTo? w)

section

variable {id : LoggerId} {hs : List Happening}

theorem deedsOf_append (id : LoggerId) (hs now : List Happening) :
    deedsOf id (hs ++ now) = deedsOf id hs ++ deedsOf id now := by
  simp [deedsOf, about_append]

theorem failuresOf_append (id : LoggerId) (hs now : List Happening) :
    failuresOf id (hs ++ now) = failuresOf id hs ++ failuresOf id now := by
  simp [failuresOf, about_append]

theorem deedsOf_single {x : Happening} (hid : x.logger = id) :
    deedsOf id [x] = x.deed?.toList := by
  have habout : about id [x] = [x] := by simp [about, hid]
  rw [deedsOf, habout]
  cases h : x.deed? with
  | none => simp [h]
  | some d => simp [h]

theorem deedsOf_of_ne (h : ∀ x ∈ hs, x.logger ≠ id) : deedsOf id hs = [] := by
  simp [deedsOf, about_of_ne h]

theorem failuresOf_single {x : Happening} (hid : x.logger = id) :
    failuresOf id [x] = x.failure?.toList := by
  have habout : about id [x] = [x] := by simp [about, hid]
  rw [failuresOf, habout]
  cases h : x.failure? with
  | none => simp [h]
  | some f => simp [h]

@[simp] theorem failuresOf_cutNews (id other : LoggerId)
    (r : Option (Nat × List Entry) × Logger) : failuresOf id (cutNews other r) = [] := by
  apply List.filterMap_eq_nil_iff.2
  intro x hx
  have hx := mem_of_mem_about hx
  obtain ⟨c, -, rfl⟩ : ∃ c, r.1 = some c ∧ .cut other c.1 c.2 = x := by simpa [cutNews] using hx
  rfl

@[simp] theorem deedsOf_cutNews (id other : LoggerId) (r : Option (Nat × List Entry) × Logger) :
    deedsOf id (cutNews other r) = [] := by
  apply List.filterMap_eq_nil_iff.2
  intro x hx
  have hx := mem_of_mem_about hx
  obtain ⟨c, -, rfl⟩ : ∃ c, r.1 = some c ∧ .cut other c.1 c.2 = x := by simpa [cutNews] using hx
  rfl

theorem batchTo_attempts (w : Wired) (c : Nat × List Entry) (sinks : List Wired) :
    (attempts c.1 c.2 sinks).filterMap (Deed.batchTo? w) = List.replicate (sinks.count w) c := by
  induction sinks with
  | nil => rfl
  | cons v sinks ih =>
    have hcons : attempts c.1 c.2 (v :: sinks) =
        .handed c.1 c.2 v :: .ended c.1 v.name :: attempts c.1 c.2 sinks := rfl
    rw [hcons, List.filterMap_cons, List.filterMap_cons, ih]
    by_cases hv : v = w
    · simp [hv, Deed.batchTo?, List.replicate_succ]
    · simp [hv, Deed.batchTo?]

/-- A sink registered once is handed a batch once in its round. -/
theorem batchTo_round {w : Wired} {sinks : List Wired} (hw : w ∈ sinks) (once : sinks.Nodup)
    (c : Nat × List Entry) : (round sinks c).filterMap (Deed.batchTo? w) = [c] := by
  have hcount : sinks.count w = 1 := by simp [once.count, hw]
  have hbegan : Deed.batchTo? w (.began c.1 c.2) = none := rfl
  have hreleased : [Deed.released c.1].filterMap (Deed.batchTo? w) = [] := rfl
  rw [round, List.filterMap_cons_none hbegan, List.filterMap_append, hreleased,
    batchTo_attempts, hcount]
  rfl

theorem batchTo_rounds {w : Wired} {sinks : List Wired} (hw : w ∈ sinks) (once : sinks.Nodup)
    (cuts : List (Nat × List Entry)) :
    (cuts.flatMap (round sinks)).filterMap (Deed.batchTo? w) = cuts := by
  induction cuts with
  | nil => rfl
  | cons c cuts ih =>
    rw [List.flatMap_cons, List.filterMap_append, batchTo_round hw once, ih]
    rfl

end

/-! ## The course of a lane -/

namespace Lane

/-- The deeds are the rounds of the batches before the turn, and the beginning of one more while a
thread has the turn. The batch that a thread waits with is the one of its number. -/
structure OnCourse (lane : Lane κ) (id : LoggerId) (hs : List Happening) : Prop where
  settled : ∀ {l}, lane.logger = some l → (∀ t, lane.inTurn t = false) →
    deedsOf id hs = ((cutsOf id hs).take l.turn).flatMap (round l.sinks)
  underway : ∀ {l t s}, lane.logger = some l → lane.station t = some s → s.phase.inTurn = true →
    ∃ c past, (cutsOf id hs)[l.turn]? = some c ∧ past ++ s.phase.ahead = round l.sinks c ∧
      deedsOf id hs = ((cutsOf id hs).take l.turn).flatMap (round l.sinks) ++ past
  queued : ∀ {t call below k es}, lane.station t = some ⟨call, below, .waiting k es⟩ →
    (cutsOf id hs)[k]? = some (k, es)

variable {id : LoggerId} {hs now : List Happening} {lane first : Lane κ} {t u : ThreadId}
  {l l' : Logger} {o : Option Logger} {s : Station κ} {st : Option (Station κ)}

theorem Fresh.onCourse (h : lane.Fresh) (habout : about id hs = []) : lane.OnCourse id hs := by
  refine ⟨?_, ?_, ?_⟩
  · intro l hl _
    obtain ⟨policy, sinks, rfl⟩ := h.logger hl
    simp [deedsOf, cutsOf, habout]
  · intro l t s _ hs
    rw [h.station t] at hs
    cases hs
  · intro t call below k es hs
    rw [h.station t] at hs
    cases hs

/-- Threads other than `t` wait with the batches that they had. -/
theorem OnCourse.queued_put {cuts : List (Nat × List Entry)} (h : lane.OnCourse id hs)
    (hgrown : cutsOf id hs <+: cuts)
    (hself : ∀ {call below k es}, st = some ⟨call, below, .waiting k es⟩ →
      cuts[k]? = some (k, es)) :
    ∀ {v call below k es}, (lane.put t o st).station v = some ⟨call, below, .waiting k es⟩ →
      cuts[k]? = some (k, es) := by
  intro v call below k es hv
  by_cases hvt : v = t
  · rw [hvt, station_put_self] at hv
    exact hself hv
  · rw [station_put_of_ne hvt] at hv
    obtain ⟨more, rfl⟩ := hgrown
    have hold := h.queued hv
    rw [List.getElem?_append_left (List.getElem?_eq_some_iff.1 hold).1]
    exact hold

/-- A thread in turn goes on with its batch. -/
theorem OnCourse.onward {x : Happening} {s' : Station κ} (h : lane.OnCourse id hs)
    (hl : lane.logger = some l) (hst : lane.station t = some s) (hin : s.phase.inTurn = true)
    (hin' : s'.phase.inTurn = true) (orderly : lane.Orderly) (hturn : l'.turn = l.turn)
    (hsinks : l'.sinks = l.sinks) (hid : x.logger = id) (hcut : x.cut? = none)
    (hahead : x.deed?.toList ++ s'.phase.ahead = s.phase.ahead) :
    (lane.put t (some l') (some s')).OnCourse id (hs ++ [x]) := by
  have owned := orderly.owned hl
  have hcuts : cutsOf id (hs ++ [x]) = cutsOf id hs := by
    rw [cutsOf_append, cutsOf_single hcut, List.append_nil]
  refine ⟨?_, ?_, ?_⟩
  · intro l₂ _ hnone
    have := hnone t
    rw [inTurn_of_station (station_put_self ..), hin'] at this
    cases this
  · intro l₂ v s₂ hl₂ hs₂ hin₂
    obtain rfl : l' = l₂ := Option.some.inj hl₂
    have hv : v = t := by
      apply Decidable.byContradiction
      intro hv
      rw [station_put_of_ne hv] at hs₂
      have hv_in := (inTurn_of_station hs₂).trans hin₂
      have ht_in := (inTurn_of_station hst).trans hin
      exact hv (owned.inTurn_unique hv_in ht_in)
    rw [hv, station_put_self] at hs₂
    obtain rfl : s' = s₂ := Option.some.inj hs₂
    obtain ⟨c, past, hc, hround, hpast⟩ := h.underway hl hst hin
    refine ⟨c, past ++ x.deed?.toList, ?_, ?_, ?_⟩
    · rw [hcuts, hturn]
      exact hc
    · rw [List.append_assoc, hahead, hsinks]
      exact hround
    · rw [hcuts, hturn, hsinks, deedsOf_append, deedsOf_single hid, hpast, List.append_assoc]
  · apply h.queued_put (hcuts ▸ List.prefix_rfl)
    intro call below k es hs₂
    obtain rfl : s' = _ := Option.some.inj hs₂
    cases hin'

/-- What is neither a batch cut nor a deed does not show. -/
theorem OnCourse.quiet (h : lane.OnCourse id hs) (hcuts : cutsOf id now = [])
    (hdeeds : deedsOf id now = []) : lane.OnCourse id (hs ++ now) := by
  have hcuts' : cutsOf id (hs ++ now) = cutsOf id hs := by
    rw [cutsOf_append, hcuts, List.append_nil]
  have hdeeds' : deedsOf id (hs ++ now) = deedsOf id hs := by
    rw [deedsOf_append, hdeeds, List.append_nil]
  refine ⟨?_, ?_, ?_⟩
  · rw [hcuts', hdeeds']
    exact h.settled
  · rw [hcuts', hdeeds']
    exact h.underway
  · rw [hcuts']
    exact h.queued

/-- A thread that is not in turn looks at the buffer, which may have grown. -/
theorem OnCourse.put_afterCut {call : Call} {below : List (Frame κ)}
    {r : Option (Nat × List Entry) × Logger} (h : lane.OnCourse id hs) (hl : lane.logger = some l)
    (owned : lane.Owned l) (hlength : (cutsOf id hs).length = l.cut)
    (hnot : lane.inTurn t = false) (cuts : l'.Cuts r) (hturn : l'.turn = l.turn)
    (hsinks : l'.sinks = l.sinks) (hcut : l'.cut = l.cut) :
    (lane.put t (some r.2) (Station.afterCut call below r)).OnCourse id (hs ++ cutNews id r) := by
  have hdeeds : deedsOf id (hs ++ cutNews id r) = deedsOf id hs := by
    rw [deedsOf_append, deedsOf_cutNews, List.append_nil]
  have hcuts : cutsOf id (hs ++ cutNews id r) = cutsOf id hs ++ r.1.toList := by
    rw [cutsOf_append, cutsOf_cutNews]
  have hr₁ : r.2.turn = l.turn := cuts.turn_eq.trans hturn
  have hr₂ : r.2.sinks = l.sinks := cuts.sinks_eq.trans hsinks
  have hphase : ∀ {s}, Station.afterCut call below r = some s →
      ∃ c, r.1 = some c ∧ s = ⟨call, below, .waiting c.1 c.2⟩ := by
    intro s hs
    obtain ⟨c, hc, rfl⟩ := Option.map_eq_some_iff.1 hs
    exact ⟨c, hc, rfl⟩
  have hother : ∀ {v s},
      (lane.put t (some r.2) (Station.afterCut call below r)).station v = some s →
      s.phase.inTurn = true → lane.station v = some s := by
    intro v s hs hin
    by_cases hv : v = t
    · rw [hv, station_put_self] at hs
      obtain ⟨c, -, rfl⟩ := hphase hs
      cases hin
    · rwa [station_put_of_ne hv] at hs
  refine ⟨?_, ?_, ?_⟩
  · intro l₂ hl₂ hnone
    obtain rfl : r.2 = l₂ := Option.some.inj hl₂
    have hnone' : ∀ v, lane.inTurn v = false := by
      intro v
      by_cases hv : v = t
      · rw [hv, hnot]
      · simpa [hv] using hnone v
    rw [hdeeds, hcuts, hr₁, hr₂, List.take_append_of_le_length (hlength ▸ owned.turn_le)]
    exact h.settled hl hnone'
  · intro l₂ v s hl₂ hs hin
    obtain rfl : r.2 = l₂ := Option.some.inj hl₂
    have hs' := hother hs hin
    have hlt := (owned.bounds (owned.inTurn ((inTurn_of_station hs').trans hin))).2
    rw [hdeeds, hcuts, hr₁, hr₂, List.take_append_of_le_length (hlength ▸ owned.turn_le),
      List.getElem?_append_left (hlength ▸ hlt)]
    exact h.underway hl hs' hin
  · apply h.queued_put (hcuts ▸ List.prefix_append ..)
    intro call₂ below₂ k es hst
    obtain ⟨c, hc, heq⟩ := hphase hst
    cases heq
    have hnumber : c.1 = (cutsOf id hs).length := by
      rcases cuts with rfl | ⟨-, rfl⟩
      · cases hc
      · cases hc
        rw [hlength, hcut]
    rw [hcuts, hc, hnumber, Option.toList_some, List.getElem?_concat_length, ← hnumber]

/-- The thread whose batch has its turn begins with it. -/
theorem OnCourse.begin {call : Call} {below : List (Frame κ)} {n : Nat} {es : List Entry}
    (h : lane.OnCourse id hs) (hl : lane.logger = some l) (owned : lane.Owned l)
    (hst : lane.station t = some ⟨call, below, .waiting l.turn es⟩) :
    (lane.put t (some l) (some ⟨call, below, .delivering l.turn ⟨n, es⟩ l.sinks []⟩)).OnCourse id
      (hs ++ [.began id l.turn ⟨n, es⟩ l.sinks.length]) := by
  have hcuts : cutsOf id (hs ++ [.began id l.turn ⟨n, es⟩ l.sinks.length]) = cutsOf id hs := by
    rw [cutsOf_append, cutsOf_single rfl, List.append_nil]
  have hdeeds : deedsOf id [.began id l.turn ⟨n, es⟩ l.sinks.length] = [.began l.turn es] :=
    deedsOf_single rfl
  have hticket : lane.ticket? t = some l.turn := by simp [ticket?, hst, Phase.ticket?]
  -- Whoever had the turn would own the same number.
  have hnone : ∀ v, lane.inTurn v = false := by
    intro v
    cases hv : lane.inTurn v with
    | false => rfl
    | true =>
      obtain rfl := owned.unique (owned.inTurn hv) hticket
      rw [inTurn_of_station hst] at hv
      cases hv
  refine ⟨?_, ?_, ?_⟩
  · intro l₂ _ hall
    have := hall t
    simp [Phase.inTurn] at this
  · intro l₂ v s hl₂ hs₂ hin
    obtain rfl : l = l₂ := Option.some.inj hl₂
    by_cases hv : v = t
    · rw [hv, station_put_self] at hs₂
      cases hs₂
      refine ⟨(l.turn, es), [.began l.turn es], ?_, rfl, ?_⟩
      · rw [hcuts]
        exact h.queued hst
      · rw [hcuts, deedsOf_append, hdeeds, h.settled hl hnone]
    · rw [station_put_of_ne hv] at hs₂
      have := hnone v
      rw [inTurn_of_station hs₂, hin] at this
      cases this
  · exact h.queued_put (hcuts ▸ List.prefix_rfl) fun hwaits => by cases hwaits

/-- The thread in turn is done with its batch. -/
theorem OnCourse.put_release {call call' : Call} {below : List (Frame κ)} {k : Nat} {b : Batch}
    {failures : List SinkFailure} (h : lane.OnCourse id hs) (hl : lane.logger = some l)
    (owned : lane.Owned l)
    (hst : lane.station t = some ⟨call, below, .delivering k b [] failures⟩) :
    (lane.put t (some l.passTurn) (some ⟨call', below, .draining⟩)).OnCourse id
      (hs ++ [.released id k]) := by
  have hcuts : cutsOf id (hs ++ [.released id k]) = cutsOf id hs := by
    rw [cutsOf_append, cutsOf_single rfl, List.append_nil]
  have hdeeds : deedsOf id [.released id k] = [.released k] := deedsOf_single rfl
  have ht_in : lane.inTurn t = true := inTurn_of_station hst
  refine ⟨?_, ?_, ?_⟩
  · intro l₂ hl₂ _
    obtain rfl : l.passTurn = l₂ := Option.some.inj hl₂
    obtain ⟨c, past, hc, hround, hpast⟩ := h.underway hl hst rfl
    have hnext : (cutsOf id hs).take l.passTurn.turn = (cutsOf id hs).take l.turn ++ [c] := by
      rw [Logger.passTurn, List.take_add_one, hc]
      rfl
    have hlast : past ++ [.released k] = round l.sinks c := hround
    rw [hcuts, hnext, deedsOf_append, hdeeds, hpast, List.append_assoc, hlast, List.flatMap_append,
      List.flatMap_singleton]
    rfl
  · intro l₂ v s _ hs₂ hin
    by_cases hv : v = t
    · rw [hv, station_put_self] at hs₂
      cases hs₂
      cases hin
    · rw [station_put_of_ne hv] at hs₂
      have hv_in := (inTurn_of_station hs₂).trans hin
      exact absurd (owned.inTurn_unique hv_in ht_in) hv
  · exact h.queued_put (hcuts ▸ List.prefix_rfl) fun hwaits => by cases hwaits

theorem OnCourse.step (h : lane.OnCourse id hs) (orderly : lane.Orderly)
    (balanced : lane.Balanced id hs) (move : Move id lane.logger (lane.station t) now o st) :
    (lane.put t o st).OnCourse id (hs ++ now) := by
  generalize hl : lane.logger = before at move
  generalize hst : lane.station t = s at move
  have hin : lane.inTurn t = s.any (·.phase.inTurn) := by simp [inTurn, hst]
  cases move with
  | elsewhere hne =>
    rw [← hl, ← hst, put_self]
    exact h.quiet (silent_of_ne hne).cutsOf_eq (deedsOf_of_ne hne)
  | opened =>
    rw [← hst]
    exact (orderly.fresh_opened hl ..).onCourse (by simpa using balanced.absent hl)
  | @log l e below =>
    have hcuts : cutsOf id [.accepted id e] = [] := cutsOf_single rfl
    have pushed := h.quiet hcuts (deedsOf_single rfl)
    have hlength : (cutsOf id (hs ++ [.accepted id e])).length = l.cut := by
      rw [cutsOf_append, hcuts, List.append_nil, (balanced.ledger hl).cut_eq]
    rw [List.append_cons]
    exact pushed.put_afterCut hl (orderly.owned hl) hlength hin (l.push e).cutDue_cuts rfl rfl rfl
  | hold =>
    exact h.onward hl hst rfl rfl orderly rfl rfl rfl rfl rfl
  | @flush l below =>
    have hcuts : cutsOf id [.flushed id] = [] := cutsOf_single rfl
    have looked := h.quiet hcuts (deedsOf_single rfl)
    have hlength : (cutsOf id (hs ++ [.flushed id])).length = l.cut := by
      rw [cutsOf_append, hcuts, List.append_nil, (balanced.ledger hl).cut_eq]
    rw [List.append_cons]
    exact looked.put_afterCut hl (orderly.owned hl) hlength hin l.cutAll_cuts rfl rfl rfl
  | turn hk =>
    subst hk
    exact h.begin hl (orderly.owned hl) hst
  | hand =>
    obtain ⟨l, hl', -⟩ := orderly.exists_logger hst
    rw [← hl, hl']
    exact h.onward hl' hst rfl rfl orderly rfl rfl rfl rfl rfl
  | took =>
    obtain ⟨l, hl', -⟩ := orderly.exists_logger hst
    rw [← hl, hl']
    exact h.onward hl' hst rfl rfl orderly rfl rfl rfl rfl rfl
  | failed =>
    obtain ⟨l, hl', -⟩ := orderly.exists_logger hst
    rw [← hl, hl']
    exact h.onward hl' hst rfl rfl orderly rfl rfl rfl rfl rfl
  | release => exact h.put_release hl (orderly.owned hl) hst
  | @drain l call below =>
    exact h.put_afterCut hl (orderly.owned hl) (balanced.ledger hl).cut_eq hin l.cutDue_cuts
      rfl rfl rfl

theorem Runs.onCourse (runs : Runs id first hs lane) (fresh : first.Fresh) :
    lane.OnCourse id hs := by
  induction runs with
  | refl => exact fresh.onCourse rfl
  | tail t before move ih => exact ih.step (before.orderly fresh) (before.balanced fresh) move

/-- Of the batches before the turn all is done, and beyond that no more than a beginning. -/
theorem OnCourse.exists_past (h : lane.OnCourse id hs) (hl : lane.logger = some l) :
    ∃ past, deedsOf id hs = ((cutsOf id hs).take l.turn).flatMap (round l.sinks) ++ past ∧
      past <+: ((cutsOf id hs).drop l.turn).flatMap (round l.sinks) := by
  by_cases hin : ∃ t, lane.inTurn t = true
  · obtain ⟨t, ht⟩ := hin
    obtain ⟨s, hst, hphase⟩ := exists_station_of_inTurn ht
    obtain ⟨c, past, hc, hround, hpast⟩ := h.underway hl hst hphase
    refine ⟨past, hpast, ?_⟩
    obtain ⟨hlt, rfl⟩ := List.getElem?_eq_some_iff.1 hc
    rw [List.drop_eq_getElem_cons hlt, List.flatMap_cons, ← hround, List.append_assoc]
    exact List.prefix_append ..
  · refine ⟨[], ?_, List.nil_prefix⟩
    rw [List.append_nil]
    exact h.settled hl fun t => Bool.eq_false_iff.2 fun ht => hin ⟨t, ht⟩

/-- What is done is the beginning of the rounds of all batches cut. -/
theorem OnCourse.deeds_prefix (h : lane.OnCourse id hs) (hl : lane.logger = some l) :
    deedsOf id hs <+: (cutsOf id hs).flatMap (round l.sinks) := by
  obtain ⟨past, hpast, hnext⟩ := h.exists_past hl
  have hall : (cutsOf id hs).flatMap (round l.sinks) =
      ((cutsOf id hs).take l.turn).flatMap (round l.sinks) ++
        ((cutsOf id hs).drop l.turn).flatMap (round l.sinks) := by
    rw [← List.flatMap_append, List.take_append_drop]
  rw [hpast, hall]
  exact (List.prefix_append_right_inj _).2 hnext

/-- Of the batches before the turn all is done. -/
theorem OnCourse.rounds_prefix {n : Nat} (h : lane.OnCourse id hs) (hl : lane.logger = some l)
    (hn : n ≤ l.turn) : ((cutsOf id hs).take n).flatMap (round l.sinks) <+: deedsOf id hs := by
  obtain ⟨past, hpast, -⟩ := h.exists_past hl
  have hle : ((cutsOf id hs).take n).flatMap (round l.sinks) <+:
      ((cutsOf id hs).take l.turn).flatMap (round l.sinks) :=
    (List.take_prefix_take_left hn).flatMap _
  rw [hpast]
  exact hle.trans (List.prefix_append ..)

/-- Once no call on the logger is under way, all is done of all batches. -/
theorem OnCourse.deeds_eq (h : lane.OnCourse id hs) (hl : lane.logger = some l)
    (owned : lane.Owned l) (hlength : (cutsOf id hs).length = l.cut)
    (hnone : ∀ t, lane.station t = none) :
    deedsOf id hs = (cutsOf id hs).flatMap (round l.sinks) := by
  rw [h.settled hl fun t => by simp [inTurn, hnone], owned.turn_eq hnone, ← hlength,
    List.take_length]

/-! ## A call and its batch -/

/-- The batch is done, or thread `t` is still in the call that has cut it. -/
def Until (lane : Lane κ) (t : ThreadId) (below : List (Frame κ)) (k : Nat) : Prop :=
  (∃ l, lane.logger = some l ∧ k < l.turn) ∨
    ∃ s, lane.station t = some s ∧ s.below = below ∧ s.phase.ticket? = some k

theorem Until.step {below : List (Frame κ)} {k : Nat} (h : lane.Until u below k)
    (orderly : lane.Orderly) (move : Move id lane.logger (lane.station t) now o st) :
    (lane.put t o st).Until u below k := by
  rcases h with ⟨l, hl, hlt⟩ | ⟨s, hs, hbelow, hk⟩
  · obtain ⟨l', hl', hle, -⟩ := (hl ▸ move).keeps
    exact Or.inl ⟨l', hl', Nat.lt_of_lt_of_le hlt hle⟩
  by_cases hu : u = t
  · subst hu
    obtain ⟨l, hl, owned⟩ := orderly.exists_logger hs
    have hticket : lane.ticket? u = some k := by simp [ticket?, hs, hk]
    rw [hs, hl] at move
    cases move with
    | release =>
      -- Who releases the turn has it, so the turn was `k`.
      have hturn := owned.inTurn ((inTurn_of_station hs).trans rfl)
      obtain rfl : l.turn = k := Option.some.inj (hturn.symm.trans hticket)
      exact Or.inl ⟨l.passTurn, rfl, Nat.lt_succ_self _⟩
    | drain => cases hk
    | _ => exact Or.inr ⟨_, station_put_self .., hbelow, hk⟩
  · exact Or.inr ⟨s, (station_put_of_ne hu).trans hs, hbelow, hk⟩

theorem Runs.until {below : List (Frame κ)} {k : Nat} (runs : Runs id first hs lane)
    (orderly : first.Orderly) (h : first.Until u below k) : lane.Until u below k := by
  induction runs with
  | refl => exact h
  | tail t before move ih => exact ih.step (before.orderly_of orderly) move

end Lane

/-! ## Systems -/

variable {host : Host σ κ ρ} {id : LoggerId} {s₀ s : System σ κ ρ} {hs : List Happening}

/-- At most one batch of a logger is under delivery. -/
theorem System.Views.delivers_unique {lane : Lane κ} {t u : ThreadId} {k m : Nat}
    (views : s.Views id lane) (orderly : lane.Orderly) (ht : s.Delivers id t k)
    (hu : s.Delivers id u m) : t = u ∧ k = m := by
  obtain ⟨st, hst, hk, hin⟩ := ht.exists_station views
  obtain ⟨su, hsu, hm, hin'⟩ := hu.exists_station views
  obtain ⟨l, -, owned⟩ := orderly.exists_logger hst
  have hkt : lane.ticket? t = some k := by simp [Lane.ticket?, hst, hk]
  have hmu : lane.ticket? u = some m := by simp [Lane.ticket?, hsu, hm]
  obtain rfl : t = u := owned.inTurn_unique ((Lane.inTurn_of_station hst).trans hin)
    ((Lane.inTurn_of_station hsu).trans hin')
  exact ⟨rfl, Option.some.inj (hkt.symm.trans hmu)⟩

/-- Where no call on the logger is under way, none is in the lane either. -/
theorem System.Idle.station_eq {lane : Lane κ} (idle : s.Idle id) (views : s.Views id lane)
    (t : ThreadId) : lane.station t = none := by
  cases hst : lane.station t with
  | none => rfl
  | some st =>
    obtain ⟨above, f, hstack, hserves, -⟩ := (hst ▸ views.stands t).exists_frame
    have hmem : f ∈ s.stack t := by simp [hstack]
    rw [held_none_iff.1 (idle.held t) f hmem] at hserves
    cases hserves

/-- A call that has cut batch `k` is on its thread's stack until the batches up to `k` are done. -/
theorem Lane.Runs.rounds_of_return {first lane : Lane κ} {l : Logger} {t : ThreadId}
    {u v : System σ κ ρ} {now after : List Happening} {k : Nat} {es : List Entry}
    (runs : Runs id first hs lane) (fresh : first.Fresh) (views : s.Views id lane)
    (hl : lane.logger = some l) (hstep : s.step host t = some (u, now))
    (hcut : .cut id k es ∈ now) (later : Steps host u after v)
    (hreturned : (v.stack t).length < (u.stack t).length) :
    ((cutsOf id (hs ++ now ++ after)).take (k + 1)).flatMap (round l.sinks) <+:
      deedsOf id (hs ++ now ++ after) := by
  obtain ⟨o, st, move, viewsu⟩ := views.step hstep
  obtain ⟨call, below, rfl⟩ := move.exists_waiting hcut
  obtain ⟨last, runsv, viewsv⟩ := later.lane viewsu
  have runsu := runs.tail t move
  have course := (runsu.trans runsv).onCourse fresh
  have huntil : last.Until t below k :=
    runsv.until (runsu.orderly fresh) (Or.inr ⟨_, station_put_self .., rfl, rfl⟩)
  obtain ⟨l₁, hl₁, -, hsinks₁⟩ := (hl ▸ move).keeps
  obtain ⟨l₂, hl₂, hsinks₂⟩ := runsv.sinks_eq ((logger_put ..).trans hl₁)
  rcases huntil with ⟨l₃, hl₃, hlt⟩ | ⟨s', hs', hbelow, -⟩
  · obtain rfl : l₂ = l₃ := Option.some.inj (hl₂.symm.trans hl₃)
    rw [← hsinks₁, ← hsinks₂]
    exact course.rounds_prefix hl₂ hlt
  · -- The frame of the call would still be there.
    obtain ⟨above, f, hstack, -⟩ := (hs' ▸ viewsv.stands t).exists_frame
    have htop : u.stack t = .waiting call k es :: below := by
      have := viewsu.stands t
      rw [station_put_self] at this
      exact this.of_waiting.1
    rw [hstack, htop, hbelow] at hreturned
    simp at hreturned
    omega

/-- From where a logger is unused, whatever the threads and its sinks do: one batch at most is under
delivery; batches are numbered in the order in which they are cut; and what is done about them is a
beginning of their rounds in this order, in each of which every sink is handed the batch once, after
the sinks before it are done with it. So each sink is handed the batches in order, each once. A call
that has cut batch `k` returns only when all up to `k` have had their rounds. Where no call on the
logger is under way, all batches have had theirs, and all sinks were handed the same batches. -/
theorem delivered_in_order {l : Logger} (unused : s₀.Unused id) (run : Steps host s₀ hs s)
    (here : s.plant.loggers[id]? = some l) :
    (∀ t u k m, s.Delivers id t k → s.Delivers id u m → t = u ∧ k = m) ∧
      (cutsOf id hs).map (·.1) = List.range (cutsOf id hs).length ∧
      deedsOf id hs <+: (cutsOf id hs).flatMap (round l.sinks) ∧
      (l.sinks.Nodup → ∀ w ∈ l.sinks, handedTo id w hs <+: cutsOf id hs) ∧
      (∀ t u now k es after v, s.step host t = some (u, now) → .cut id k es ∈ now →
        Steps host u after v → (v.stack t).length < (u.stack t).length →
        ((cutsOf id (hs ++ now ++ after)).take (k + 1)).flatMap (round l.sinks) <+:
          deedsOf id (hs ++ now ++ after)) ∧
      (s.Idle id → deedsOf id hs = (cutsOf id hs).flatMap (round l.sinks) ∧
        (l.sinks.Nodup → ∀ w ∈ l.sinks, handedTo id w hs = cutsOf id hs)) := by
  obtain ⟨first, lane, fresh, runs, views⟩ := run.lane_of_unused unused
  have orderly := runs.orderly fresh
  have balanced := runs.balanced fresh
  have course := runs.onCourse fresh
  have hl : lane.logger = some l := views.logger ▸ here
  have ledger := balanced.ledger hl
  refine ⟨?_, ?_, ?_, ?_, ?_, ?_⟩
  · intro t u k m ht hu
    exact views.delivers_unique orderly ht hu
  · rw [ledger.tickets, ledger.cut_eq]
  · exact course.deeds_prefix hl
  · intro once w hw
    have := (course.deeds_prefix hl).filterMap (Deed.batchTo? w)
    rwa [batchTo_rounds hw once] at this
  · intro t u now k es after v hstep hcut later hreturned
    exact runs.rounds_of_return fresh views hl hstep hcut later hreturned
  · intro idle
    have hdone := course.deeds_eq hl (orderly.owned hl) ledger.cut_eq (idle.station_eq views)
    refine ⟨hdone, ?_⟩
    intro once w hw
    rw [handedTo, hdone, batchTo_rounds hw once]

/-- Batch 1 waits while the first sink logs from inside batch 0; the call that cut batch 0 returns
while batch 1 still waits; and in the end both sinks were handed both. -/
theorem delivered_in_order_echo :
    (∃ s hs, System.echo.follow .echo [0, 0, 1, 1, 0, 0] = some (s, hs) ∧ s.Delivers 0 0 0 ∧
      (∀ u m, s.Delivers 0 u m → 0 = u ∧ 0 = m) ∧
      handedTo 0 ⟨"first", 0⟩ hs <+: cutsOf 0 hs) ∧
    (∃ s u v hs now after es, System.echo.follow .echo [0] = some (s, hs) ∧
      s.step .echo 0 = some (u, now) ∧ .cut 0 0 es ∈ now ∧
      u.follow .echo ([1, 1] ++ List.replicate 13 0) = some (v, after) ∧
      (v.stack 0).length < (u.stack 0).length ∧
      ((cutsOf 0 (hs ++ now ++ after)).take 1).flatMap (round [⟨"first", 0⟩, ⟨"second", 1⟩]) <+:
        deedsOf 0 (hs ++ now ++ after)) ∧
    ∃ s hs, System.echo.follow .echo ([0, 0, 1, 1] ++ List.replicate 13 0 ++ List.replicate 7 1) =
        some (s, hs) ∧ s.Idle 0 ∧ (cutsOf 0 hs).map (·.1) = [0, 1] ∧
      handedTo 0 ⟨"first", 0⟩ hs = cutsOf 0 hs ∧ handedTo 0 ⟨"second", 1⟩ hs = cutsOf 0 hs := by
  have steps : ∀ start schedule {s hs}, System.follow .echo schedule start = some (s, hs) →
      Steps .echo start hs s := fun _ _ _ _ h => System.steps_of_follow h
  have midway := delivered_in_order System.echo_unused (steps _ [0, 0, 1, 1, 0, 0] rfl) rfl
  have early := delivered_in_order System.echo_unused (steps _ [0] rfl) rfl
  have final := delivered_in_order System.echo_unused
    (steps _ ([0, 0, 1, 1] ++ List.replicate 13 0 ++ List.replicate 7 1) rfl) rfl
  obtain ⟨unique, -, -, handed, -⟩ := midway
  obtain ⟨-, -, -, -, returns, -⟩ := early
  obtain ⟨-, tickets, -, -, -, idle⟩ := final
  have same := (idle (by decide)).2 (by decide)
  refine ⟨⟨_, _, rfl, ?delivers, ?_, ?_⟩,
    ⟨_, _, _, _, _, _, _, rfl, rfl, .tail _ (.head _), rfl, ?_, ?_⟩,
    ⟨_, _, rfl, by decide, tickets, ?_, ?_⟩⟩
  · exact ⟨.delivering _ 0 _ _ _, .tail _ (.head _), rfl, rfl⟩
  · intro u m h
    exact unique 0 u 0 m ?delivers h
  · exact handed (by decide) _ (.head _)
  · decide
  · exact returns 0 _ _ 0 _ _ _ rfl (.tail _ (.head _))
      (steps _ ([1, 1] ++ List.replicate 13 0) rfl) (by decide)
  · exact same _ (.head _)
  · exact same _ (.tail _ (.head _))

end BatchedLog
