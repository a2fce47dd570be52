import BatchedLog.Proofs.Delivery.Receipts
import Mathlib.Algebra.Order.BigOperators.Group.List
import Mathlib.Algebra.Order.Group.Nat

/-!
# How much a call drains

After its first batch a call cuts only what has come due meanwhile. So each further batch has as
many entries as the interval at least, all of them logged from inside the call, and what the sinks
log bounds how often the call goes round.
-/

namespace BatchedLog

variable {σ κ ρ : Type}

namespace Logger

/-- What is cut at a look at the buffer was due. -/
theorem due_of_cutDue {l : Logger} {c : Nat × List Entry} (h : l.cutDue.1 = some c) :
    0 < l.interval ∧ l.interval ≤ c.2.length := by
  cases hdue : l.buffer.policy.due l.pendingCount with
  | false =>
    rw [cutDue_of_not_due hdue] at h
    cases h
  | true =>
    rcases l.cutDue_cuts with hnone | ⟨-, hall⟩
    · rw [hnone] at h
      cases h
    · rw [hall] at h
      cases h
      exact FlushPolicy.due_iff.1 hdue

/-- Whoever cuts takes all that is pending. -/
theorem Cuts.pending_eq {l l' : Logger} {c : Nat × List Entry} (h : l.Cuts (some c, l')) :
    l'.buffer.pending = [] ∧ l'.interval = l.interval := by
  rcases h with hnone | ⟨-, hall⟩
  · cases hnone
  · cases hall
    exact ⟨rfl, rfl⟩

end Logger

/-- A call under way logs only while a sink is at work. -/
theorem Move.of_accepted {id : LoggerId} {l o : Option Logger} {st : Station κ}
    {st' : Option (Station κ)} {now : List Happening} {e : Entry}
    (move : Move id l (some st) now o st') (logged : .accepted id e ∈ now) :
    ∃ k b w left failures ending, st.phase = .receiving k b w left failures ending := by
  generalize hst : some st = before at move
  cases move with
  | elsewhere hne => exact absurd rfl (hne _ logged)
  | hold =>
    cases hst
    exact ⟨_, _, _, _, _, _, rfl⟩
  | drain => simp [cutNews] at logged
  | log => cases hst
  | flush => cases hst
  | _ => simp at logged

theorem Held.of_receiving {id : LoggerId} {stack below : List (Frame κ)} {call : Call} {k : Nat}
    {b : Batch} {w : Wired} {left : List Wired} {failures : List SinkFailure}
    {ending : Except SinkError Unit}
    (h : Held id stack (some ⟨call, below, .receiving k b w left failures ending⟩)) :
    ∃ above todo, call.logger = id ∧ stack = above ++ .receiving w.sink todo ending ::
      .delivering call k b (w :: left) failures :: below := by
  generalize hst : some (⟨call, below, .receiving k b w left failures ending⟩ : Station κ) = st at h
  induction h with
  | nil => cases hst
  | @above f _ _ _ _ ih =>
    obtain ⟨above, todo, hid, rfl⟩ := ih hst
    exact ⟨f :: above, todo, hid, rfl⟩
  | receiving hid _ =>
    cases hst
    exact ⟨[], _, hid, rfl⟩

theorem Stands.of_receiving {id : LoggerId} {stack below : List (Frame κ)} {call : Call} {k : Nat}
    {b : Batch} {w : Wired} {left : List Wired} {failures : List SinkFailure}
    {ending : Except SinkError Unit}
    (h : Stands id stack (some ⟨call, below, .receiving k b w left failures ending⟩)) :
    ∃ above todo, call.logger = id ∧ stack = above ++ .receiving w.sink todo ending ::
      .delivering call k b (w :: left) failures :: below := by
  cases h with
  | held h => exact h.of_receiving

/-- A call under way cuts nothing but what is due. -/
theorem Move.cuts_due {id : LoggerId} {l l' : Logger} {st : Station κ} {st' : Option (Station κ)}
    {now : List Happening} (move : Move id (some l) (some st) now (some l') st') :
    l'.interval = l.interval ∧ ∀ c ∈ cutsOf id now, 0 < l.interval ∧ l.interval ≤ c.2.length := by
  have none : ∀ {x : Happening}, x.cut? = none →
      ∀ c ∈ cutsOf id [x], 0 < l.interval ∧ l.interval ≤ c.2.length := by
    intro x hx c hc
    rw [cutsOf_single hx] at hc
    cases hc
  generalize hst : some st = before at move
  cases move with
  | elsewhere hne =>
    rw [(silent_of_ne hne).cutsOf_eq]
    exact ⟨rfl, by simp⟩
  | drain =>
    refine ⟨l.interval_cutDue, fun c hc => ?_⟩
    rw [cutsOf_cutNews] at hc
    exact Logger.due_of_cutDue (Option.mem_toList.1 hc)
  | log => cases hst
  | flush => cases hst
  | _ => exact ⟨rfl, none rfl⟩

theorem Stage.Goes.cuts_due {id : LoggerId} {below : List (Frame κ)} {a b : Stage}
    {hs : List Happening} (goes : Stage.Goes id below a hs b) :
    b.logger.interval = a.logger.interval ∧
      ∀ c ∈ cutsOf id hs, 0 < a.logger.interval ∧ a.logger.interval ≤ c.2.length := by
  induction goes with
  | refl => exact ⟨rfl, by simp [cutsOf, about]⟩
  | tail _ move ih =>
    obtain ⟨hinterval, due⟩ := ih
    obtain ⟨hinterval', due'⟩ := move.cuts_due
    rw [hinterval] at hinterval' due'
    refine ⟨hinterval', fun c hc => ?_⟩
    rw [cutsOf_append] at hc
    rcases List.mem_append.1 hc with hc | hc
    · exact due c hc
    · exact due' c hc

/-- When a call has cut its first batch nothing is pending. -/
theorem Call.Opens.pending_eq {id : LoggerId} {purpose : Purpose} {l l' : Logger}
    {now : List Happening} {k : Nat} {es : List Entry}
    (opens : Call.Opens id purpose l now l' k es) :
    l'.buffer.pending = [] ∧ l'.interval = l.interval := by
  cases opens with
  | @log _ e _ _ _ hcut => exact (hcut ▸ (l.push e).cutDue_cuts).pending_eq
  | flush hcut => exact (hcut ▸ l.cutAll_cuts).pending_eq

/-- What a call has delivered and what it leaves, on a logger of this interval into which its sinks
have logged `logged` meanwhile. -/
structure Drains (interval : Nat) (logged : List Entry) (delivered : List Receipt)
    (pending : List Entry) : Prop where
  manual : interval = 0 → delivered.length = 1
  rounds : 0 < interval → delivered.length ≤ 1 + logged.length / interval
  full : ∀ r ∈ delivered.tail, interval ≤ r.batch.entries.length
  balance : delivered.tail.flatMap (·.batch.entries) ++ pending = logged
  left : pending.length = logged.length - (delivered.tail.map (·.batch.entries.length)).sum
  few : 0 < interval → pending.length < interval

/-- That many batches of this size at least need that many entries. -/
theorem Drains.of_due {n : Nat} {logged pending : List Entry} {r : Receipt} {drained : List Receipt}
    (due : ∀ r ∈ drained, 0 < n ∧ n ≤ r.batch.entries.length)
    (hlogged : drained.flatMap (·.batch.entries) ++ pending = logged)
    (few : 0 < n → pending.length < n) : Drains n logged (r :: drained) pending := by
  have hsum : (drained.map (·.batch.entries.length)).sum + pending.length = logged.length := by
    rw [← hlogged, List.length_append, List.length_flatMap]
  refine ⟨?_, ?_, fun r hr => (due r hr).2, hlogged, ?_, few⟩
  · intro hzero
    cases drained with
    | nil => rfl
    | cons r' _ =>
      have hpos := (due r' List.mem_cons_self).1
      omega
  · intro hpos
    have hmul : (drained.map (·.batch.entries.length)).length * n ≤
        (drained.map (·.batch.entries.length)).sum := by
      apply List.card_nsmul_le_sum
      intro m hm
      obtain ⟨r', hr', rfl⟩ := List.mem_map.1 hm
      exact (due r' hr').2
    rw [List.length_map] at hmul
    have hrounds : drained.length ≤ logged.length / n :=
      (Nat.le_div_iff_mul_le hpos).2 (by omega)
    rw [List.length_cons, Nat.add_comm]
    exact Nat.add_le_add_left hrounds 1
  · dsimp only [List.tail_cons]
    omega

variable {host : Host σ κ ρ} {id : LoggerId} {purpose : Purpose} {f : Frame κ}
  {rest : List (Frame κ)} {l : Logger} {s₀ s s₁ v u : System σ κ ρ} {before hs now : List Happening}

namespace System

/-- Thread 0 is inside a sink at work on a batch of the logger; the call returns to `below`. -/
def Inside (s : System σ κ ρ) (id : LoggerId) (below : List (Frame κ)) : Prop :=
  ∃ above sink todo ending call k b left failures, call.logger = id ∧
    s.stack 0 = above ++ .receiving sink todo ending :: .delivering call k b left failures :: below

/-- From its first cut to its end nothing is logged into the logger but from inside the call. -/
theorem At.inside {a : Stage} {e : Entry} (h : s₁.At id rest a)
    (within : s₁.Within host rest.length hs v) (hstep : v.step host 0 = some (u, now))
    (logged : .accepted id e ∈ now) : v.Inside id rest := by
  obtain ⟨⟨l, call, phase⟩, -, hat⟩ := h.within within
  rcases hat.step hstep with ⟨_, move, -⟩ | closes
  · obtain ⟨k, b, w, left, failures, ending, rfl : phase = _⟩ := move.of_accepted logged
    have stands : Stands id (v.stack 0)
        (some ⟨call, rest, .receiving k b w left failures ending⟩) := hat.stands
    obtain ⟨above, todo, hid, hstack⟩ := stands.of_receiving
    exact ⟨above, _, todo, _, _, _, _, _, _, hid, hstack⟩
  · rw [closes.news] at logged
    cases logged

end System

/-- A call that cuts a batch does so with its first step. After that nothing is logged into the
logger but from inside the call, and what is logged is drained but for fewer entries than the
interval. -/
theorem System.Spans.drains (spans : s.Spans host rest.length hs v now u) (ready : s₀.Ready)
    (run : Steps host s₀ before s) (here : s.plant.loggers[id]? = some l)
    (calls : f.Calls id purpose) (top : s.stack 0 = f :: rest) (cuts : cutsOf id (hs ++ now) ≠ []) :
    ∃ s₁ first later, s.step host 0 = some (s₁, first) ∧ hs = first ++ later ∧
      (∀ {earlier v' news u' e}, s₁.Within host rest.length earlier v' →
        v'.step host 0 = some (u', news) → .accepted id e ∈ news → v'.Inside id rest) ∧
      Drains l.interval (entriesOf id (later ++ now)) (receiptsOf id (hs ++ now))
        (u.pending id) := by
  have unused := ready.unused id
  obtain ⟨_, lane, -, -, views⟩ := run.lane_of_unused unused
  obtain ⟨call, -, -, hentries, -⟩ := spans.account calls here top (views.stands 0)
  rcases spans.cases calls here top (views.stands 0) with
    ⟨rfl, -, passes⟩ |
    ⟨s₁, first, later, l', k, es, b, hfirst, rfl, spans', opens, -, hat, goes, closes⟩
  · exact absurd passes.quiet.1 cuts
  refine ⟨s₁, first, later, hfirst, rfl, hat.inside, ?_⟩
  obtain ⟨hpending, hinterval⟩ := opens.pending_eq
  obtain ⟨hlast, due⟩ := goes.cuts_due
  rw [hinterval] at hlast due
  obtain rfl := closes.news
  -- The first receipt is that of the first step, the others are those of later looks.
  rw [cutsOf_append, cutsOf_append, opens.quiet.1] at hentries
  obtain ⟨r, drained, hreceipts⟩ := List.exists_cons_of_ne_nil
    (l := receiptsOf id (first ++ later ++ [])) (by
      intro hnil
      rw [hnil] at hentries
      cases hentries)
  rw [hreceipts]
  have hdrained : drained.map (·.batch.entries) = (cutsOf id later).map (·.2) := by
    rw [hreceipts] at hentries
    simpa [cutsOf, about] using (List.cons.inj hentries).2.symm
  have hlogged : drained.flatMap (·.batch.entries) ++ u.pending id =
      entriesOf id (later ++ []) := by
    have hbetween := (run.tail 0 hfirst).pending_between spans'.steps unused
    have hempty : s₁.pending id = [] := by simp [System.pending, hat.logger, hpending]
    rw [hempty, List.nil_append] at hbetween
    rw [← hbetween, List.append_nil, List.flatMap_def, List.flatMap_def, hdrained]
  refine .of_due (fun r' hr' => ?_) hlogged (fun hpos => ?_)
  · have hmem : r'.batch.entries ∈ (cutsOf id later).map (·.2) :=
      hdrained ▸ List.mem_map_of_mem hr'
    obtain ⟨c, hc, heq⟩ := List.mem_map.1 hmem
    exact heq ▸ due c hc
  · have hfew : b.logger.cutDue.2.pendingCount < b.logger.interval :=
      Logger.pendingCount_cutDue_lt (hlast ▸ hpos)
    rw [closes.cut, hlast] at hfew
    simpa [System.pending, closes.logger, Logger.pendingCount] using hfew

end BatchedLog
