import BatchedLog.Proofs.Delivery.Between
import BatchedLog.Proofs.Delivery.Calls
import BatchedLog.Proofs.Delivery.Dispatch
import Mathlib.Algebra.GroupWithZero.Nat
import Mathlib.Data.List.ModifyLast

/-!
# What a call reports

What happens at a logger is read off as a list of receipts, one for each batch that got its turn,
with how the sinks ended with it. While a call goes on it accounts for the receipts so far: for the
entries of the batches that are done, and for the first failure among them.
-/

namespace BatchedLog

variable {σ κ ρ : Type}

/-- A batch, and how the sinks that are done with it ended. -/
structure Receipt where
  batch : Batch
  endings : List (String × Except SinkError Unit)
  deriving DecidableEq

namespace Receipt

def failures (r : Receipt) : List SinkFailure :=
  r.endings.filterMap fun (name, ending) =>
    match ending with
    | .ok () => none
    | .error e => some ⟨name, e⟩

def outcome (r : Receipt) (sinks : Nat) : Option DispatchError := r.batch.outcome sinks r.failures

def add (name : String) (ending : Except SinkError Unit) (r : Receipt) : Receipt :=
  { r with endings := r.endings ++ [(name, ending)] }

/-- A batch that begins has a new receipt, and a sink that ends goes into the last one. -/
def enter (rs : List Receipt) : Happening → List Receipt
  | .began _ _ batch _ => rs ++ [⟨batch, []⟩]
  | .took _ _ w => rs.modifyLast (add w.name (.ok ()))
  | .failed _ _ failure => rs.modifyLast (add failure.sink (.error failure.error))
  | _ => rs

/-- No sink has failed. -/
def Clean (r : Receipt) : Prop := ∀ x ∈ r.endings, x.2 = .ok ()

theorem failures_eq_nil {r : Receipt} : r.failures = [] ↔ r.Clean := by
  unfold failures Clean
  rw [List.filterMap_eq_nil_iff]
  refine forall₂_congr fun x _ => ?_
  obtain ⟨name, ending⟩ := x
  cases ending with
  | ok => simp
  | error => simp

theorem outcome_eq_none {r : Receipt} {sinks : Nat} : r.outcome sinks = none ↔ r.Clean :=
  Batch.outcome_eq_none.trans failures_eq_nil

theorem outcome_eq_some {r : Receipt} {sinks : Nat} {e : DispatchError} :
    r.outcome sinks = some e ↔ ¬r.Clean ∧ e = ⟨r.batch.number, sinks, r.failures⟩ := by
  constructor
  · intro h
    refine ⟨fun clean => ?_, Batch.eq_of_outcome h⟩
    rw [outcome_eq_none.2 clean] at h
    cases h
  · rintro ⟨dirty, rfl⟩
    obtain ⟨e, he⟩ := Option.ne_none_iff_exists'.1 fun hnone => dirty (outcome_eq_none.1 hnone)
    rw [he, Batch.eq_of_outcome he]

end Receipt

/-- The receipts of the batches of a logger, in the order in which these got their turn. -/
def receiptsOf (id : LoggerId) (hs : List Happening) : List Receipt :=
  (about id hs).foldl Receipt.enter []

/-- The answer to a call that has come to this result; a log call does not say how much it has
delivered. -/
def Purpose.answer (purpose : Purpose) (result : Except DispatchError Nat) : Answer ρ :=
  match purpose, result with
  | .log, .ok _ => .logged (.ok ())
  | .log, .error e => .logged (.error e)
  | .flush, result => .flushed result

def Call.result (c : Call) : Except DispatchError Nat :=
  match c.failure with
  | none => .ok c.delivered
  | some e => .error e

theorem Call.answer_eq (c : Call) : (c.answer : Answer ρ) = c.purpose.answer c.result := by
  obtain ⟨logger, purpose, delivered, failure⟩ := c
  cases purpose with
  | log => cases failure <;> rfl
  | flush => cases failure <;> rfl

/-! ## The account of a call -/

/-- All these batches are done, and the call has noted the sum of their entries and their first
failure. -/
structure Settled (sinks : List Wired) (call : Call) (past : List Receipt) : Prop where
  named : ∀ r ∈ past, r.endings.map (·.1) = sinks.map (·.name)
  delivered : call.delivered = (past.map (·.batch.entries.length)).sum
  failure : call.failure = past.findSome? (·.outcome sinks.length)

/-- The last of these batches is under delivery, with these sinks left and these failures so far. -/
def Current (sinks : List Wired) (call : Call) (b : Batch) (left : List Wired)
    (failures : List SinkFailure) (rs : List Receipt) : Prop :=
  ∃ past r, rs = past ++ [r] ∧ Settled sinks call past ∧ r.batch = b ∧ r.failures = failures ∧
    r.endings.map (·.1) ++ left.map (·.name) = sinks.map (·.name)

/-- What a call has cut and what it has noted, as far as it has come. -/
def Phase.Accounts (sinks : List Wired) (call : Call) (cuts : List (List Entry))
    (rs : List Receipt) : Phase → Prop
  | .waiting _ es => Settled sinks call rs ∧ cuts = rs.map (·.batch.entries) ++ [es]
  | .delivering _ b left failures =>
    Current sinks call b left failures rs ∧ cuts = rs.map (·.batch.entries)
  | .receiving _ b w left failures _ =>
    Current sinks call b (w :: left) failures rs ∧ cuts = rs.map (·.batch.entries)
  | .draining => Settled sinks call rs ∧ cuts = rs.map (·.batch.entries)

section

variable {sinks left : List Wired} {call : Call} {b : Batch} {failures : List SinkFailure}
  {past rs : List Receipt} {w : Wired}

theorem Settled.start (sinks : List Wired) (id : LoggerId) (purpose : Purpose) :
    Settled sinks (.start id purpose) [] := ⟨by simp, rfl, rfl⟩

/-- A call reports a failure just if a sink failed. -/
theorem Settled.result_ok (h : Settled sinks call past) :
    (∃ n, call.result = .ok n) ↔ ∀ r ∈ past, r.Clean := by
  have hnone : call.failure = none ↔ ∀ r ∈ past, r.Clean := by
    rw [h.failure, List.findSome?_eq_none_iff]
    exact forall₂_congr fun _ _ => Receipt.outcome_eq_none
  rw [← hnone, Call.result]
  cases call.failure with
  | none => simp
  | some e => simp

/-- And then it is that of the first batch with which one did. -/
theorem Settled.result_error (h : Settled sinks call past) {e : DispatchError} :
    call.result = .error e ↔ ∃ earlier r later, past = earlier ++ r :: later ∧
      (∀ r' ∈ earlier, r'.Clean) ∧ ¬r.Clean ∧ e = ⟨r.batch.number, sinks.length, r.failures⟩ := by
  have hsome : call.result = .error e ↔ call.failure = some e := by
    rw [Call.result]
    cases call.failure with
    | none => simp
    | some e => simp
  rw [hsome, h.failure, List.findSome?_eq_some_iff]
  constructor
  · rintro ⟨earlier, r, later, hsplit, hr, hearlier⟩
    exact ⟨earlier, r, later, hsplit, fun r' hr' => Receipt.outcome_eq_none.1 (hearlier r' hr'),
      Receipt.outcome_eq_some.1 hr⟩
  · rintro ⟨earlier, r, later, hsplit, hearlier, hr⟩
    exact ⟨earlier, r, later, hsplit, Receipt.outcome_eq_some.2 hr,
      fun r' hr' => Receipt.outcome_eq_none.2 (hearlier r' hr')⟩

theorem Settled.result_count (h : Settled sinks call past) {n : Nat} (hn : call.result = .ok n) :
    n = (past.map (·.batch.entries.length)).sum := by
  rw [← h.delivered]
  unfold Call.result at hn
  cases hfailure : call.failure with
  | none =>
    rw [hfailure] at hn
    exact (Except.ok.inj hn).symm
  | some e =>
    rw [hfailure] at hn
    cases hn

theorem Settled.begin (h : Settled sinks call past) (b : Batch) :
    Current sinks call b sinks [] (past ++ [⟨b, []⟩]) :=
  ⟨past, ⟨b, []⟩, rfl, h, rfl, rfl, rfl⟩

theorem Current.took (h : Current sinks call b (w :: left) failures rs) :
    Current sinks call b left failures (rs.modifyLast (Receipt.add w.name (.ok ()))) := by
  obtain ⟨past, r, rfl, settled, hbatch, hfailures, hnames⟩ := h
  rw [List.modifyLast_concat]
  refine ⟨past, _, rfl, settled, hbatch, ?_, ?_⟩
  · simpa [Receipt.add, Receipt.failures] using hfailures
  · simpa [Receipt.add] using hnames

theorem Current.failed {e : SinkError} (h : Current sinks call b (w :: left) failures rs) :
    Current sinks call b left (failures ++ [⟨w.name, e⟩])
      (rs.modifyLast (Receipt.add w.name (.error e))) := by
  obtain ⟨past, r, rfl, settled, hbatch, rfl, hnames⟩ := h
  rw [List.modifyLast_concat]
  refine ⟨past, _, rfl, settled, hbatch, ?_, ?_⟩
  · simp [Receipt.add, Receipt.failures]
  · simpa [Receipt.add] using hnames

theorem Current.map_entries (h : Current sinks call b left failures rs) (name : String)
    (ending : Except SinkError Unit) :
    (rs.modifyLast (Receipt.add name ending)).map (·.batch.entries) =
      rs.map (·.batch.entries) := by
  obtain ⟨past, r, rfl, -⟩ := h
  rw [List.modifyLast_concat, List.map_append, List.map_append]
  rfl

/-- A batch that is done with is noted by the call. -/
theorem Current.conclude (h : Current sinks call b [] failures rs) :
    Settled sinks (call.conclude b sinks.length failures) rs := by
  obtain ⟨past, r, rfl, settled, rfl, rfl, hnames⟩ := h
  refine ⟨?_, ?_, ?_⟩
  · intro r' hr'
    rcases List.mem_append.1 hr' with hr' | hr'
    · exact settled.named r' hr'
    · rw [List.mem_singleton.1 hr']
      simpa using hnames
  · rw [List.map_append, List.sum_append, ← settled.delivered]
    simp [Call.conclude]
  · rw [List.findSome?_append, ← settled.failure]
    have houtcome : [r].findSome? (·.outcome sinks.length) = r.outcome sinks.length := by
      cases h : r.outcome sinks.length <;> simp [h]
    rw [houtcome]
    rfl

end

theorem enter_cutNews (id : LoggerId) (r : Option (Nat × List Entry) × Logger) (rs : List Receipt) :
    (about id (cutNews id r)).foldl Receipt.enter rs = rs := by
  obtain ⟨c, l⟩ := r
  cases c with
  | none => rfl
  | some c => simp [cutNews, about, Happening.logger, Receipt.enter]

/-- Each move of a call keeps its account. -/
theorem Phase.Accounts.step {id : LoggerId} {below : List (Frame κ)} {l l' : Logger}
    {call call' : Call} {phase phase' : Phase} {now : List Happening} {cuts : List (List Entry)}
    {rs : List Receipt} (h : phase.Accounts l.sinks call cuts rs)
    (move : Move id (some l) (some ⟨call, below, phase⟩) now (some l')
      (some ⟨call', below, phase'⟩)) :
    phase'.Accounts l.sinks call' (cuts ++ (cutsOf id now).map (·.2))
        ((about id now).foldl Receipt.enter rs) ∧ call'.purpose = call.purpose := by
  have single : ∀ {x : Happening} {c : Call} {f : Phase}, x.logger = id → x.cut? = none →
      f.Accounts l.sinks c cuts (Receipt.enter rs x) →
      f.Accounts l.sinks c (cuts ++ (cutsOf id [x]).map (·.2))
        ((about id [x]).foldl Receipt.enter rs) := by
    intro x c f hid hcut accounts
    rw [cutsOf_single hcut, List.map_nil, List.append_nil]
    simpa [about, hid] using accounts
  generalize hst : some (⟨call', below, phase'⟩ : Station κ) = after at move
  cases move with
  | elsewhere hne =>
    cases hst
    rw [(silent_of_ne hne).cutsOf_eq, about_of_ne hne, List.map_nil, List.append_nil]
    exact ⟨h, rfl⟩
  | drain =>
    obtain ⟨c, hc, hstation⟩ := Option.map_eq_some_iff.1 hst.symm
    cases hstation
    obtain ⟨settled, rfl⟩ := h
    rw [cutsOf_cutNews, enter_cutNews, hc]
    exact ⟨⟨settled, rfl⟩, rfl⟩
  | hold =>
    cases hst
    exact ⟨single rfl rfl h, rfl⟩
  | turn =>
    cases hst
    obtain ⟨settled, rfl⟩ := h
    exact ⟨single rfl rfl ⟨settled.begin _, by simp [Receipt.enter]⟩, rfl⟩
  | hand =>
    cases hst
    exact ⟨single rfl rfl h, rfl⟩
  | took =>
    cases hst
    obtain ⟨current, rfl⟩ := h
    exact ⟨single rfl rfl ⟨current.took, (current.map_entries ..).symm⟩, rfl⟩
  | failed =>
    cases hst
    obtain ⟨current, rfl⟩ := h
    exact ⟨single rfl rfl ⟨current.failed, (current.map_entries ..).symm⟩, rfl⟩
  | release =>
    cases hst
    obtain ⟨current, rfl⟩ := h
    exact ⟨single rfl rfl ⟨current.conclude, rfl⟩, rfl⟩

/-- What a call has cut from beginning to end is what it has receipts of. -/
theorem Stage.Goes.accounts {id : LoggerId} {below : List (Frame κ)} {a b : Stage}
    {hs : List Happening} {cuts : List (List Entry)} {rs : List Receipt}
    (goes : Stage.Goes id below a hs b) (h : a.phase.Accounts a.logger.sinks a.call cuts rs) :
    b.phase.Accounts a.logger.sinks b.call (cuts ++ (cutsOf id hs).map (·.2))
        ((about id hs).foldl Receipt.enter rs) ∧
      b.call.purpose = a.call.purpose ∧ b.logger.sinks = a.logger.sinks := by
  induction goes with
  | refl => exact ⟨by simpa [about, cutsOf] using h, rfl, rfl⟩
  | tail _ move ih =>
    obtain ⟨accounts, hpurpose, hsinks⟩ := ih
    obtain ⟨l', hl', -, hsame⟩ := move.keeps
    obtain rfl := Option.some.inj hl'
    rw [← hsinks] at accounts
    obtain ⟨accounts', hpurpose'⟩ := accounts.step move
    rw [List.append_assoc, ← List.map_append, ← cutsOf_append, ← List.foldl_append,
      ← about_append, hsinks] at accounts'
    exact ⟨accounts', hpurpose'.trans hpurpose, hsame.trans hsinks⟩

theorem Call.Passes.quiet {id : LoggerId} {purpose : Purpose} {now : List Happening}
    (passes : Call.Passes id purpose now) :
    cutsOf id now = [] ∧ deedsOf id now = [] ∧ receiptsOf id now = [] := by
  cases passes with
  | log => simp [cutsOf, deedsOf, receiptsOf, about, Happening.logger, Happening.cut?,
      Happening.deed?, Receipt.enter]
  | held => simp [cutsOf, deedsOf, receiptsOf, about]
  | flush => simp [cutsOf, deedsOf, receiptsOf, about, Happening.logger, Happening.cut?,
      Happening.deed?, Receipt.enter]

theorem Call.Opens.quiet {id : LoggerId} {purpose : Purpose} {l l' : Logger} {k : Nat}
    {es : List Entry} {now : List Happening} (opens : Call.Opens id purpose l now l' k es) :
    cutsOf id now = [(k, es)] ∧ receiptsOf id now = [] ∧ l'.sinks = l.sinks := by
  cases opens with
  | @log _ e _ _ _ hcut =>
    have hsinks := (l.push e).cutDue_cuts.sinks_eq
    rw [hcut] at hsinks
    refine ⟨?_, ?_, hsinks⟩
    · simp [cutsOf, about, Happening.logger, List.filterMap_cons, Happening.cut?]
    · simp [receiptsOf, about, Happening.logger, Receipt.enter]
  | flush hcut =>
    have hsinks := l.cutAll_cuts.sinks_eq
    rw [hcut] at hsinks
    refine ⟨?_, ?_, hsinks⟩
    · simp [cutsOf, about, Happening.logger, List.filterMap_cons, Happening.cut?]
    · simp [receiptsOf, about, Happening.logger, Receipt.enter]

namespace System

variable {host : Host σ κ ρ} {id : LoggerId} {purpose : Purpose} {f : Frame κ}
  {rest : List (Frame κ)} {l : Logger} {st : Option (Station κ)} {s v u : System σ κ ρ}
  {hs now : List Happening}

/-- A call that is over answers for all batches that it has cut. -/
theorem Spans.account (spans : s.Spans host rest.length hs v now u) (calls : f.Calls id purpose)
    (hl : s.plant.loggers[id]? = some l) (hstack : s.stack 0 = f :: rest)
    (stands : Stands id (s.stack 0) st) :
    ∃ call : Call, v.Returns host 0 (purpose.answer call.result) now u ∧
      Settled l.sinks call (receiptsOf id (hs ++ now)) ∧
      (cutsOf id (hs ++ now)).map (·.2) = (receiptsOf id (hs ++ now)).map (·.batch.entries) ∧
      (cutsOf id (hs ++ now) = [] ∧ deedsOf id (hs ++ now) = [] ∨
        Held id (s.stack 0) none ∧ Held id (u.stack 0) none) := by
  rcases spans.cases calls hl hstack stands with
    ⟨rfl, returns, passes⟩ |
    ⟨_, first, later, l', k, es, b, -, rfl, -, opens, hheld, -, goes, closes⟩
  · obtain ⟨hcuts, hdeeds, hreceipts⟩ := passes.quiet
    rw [List.nil_append, hcuts, hdeeds, hreceipts]
    rw [Call.answer_eq] at returns
    exact ⟨_, returns, .start l.sinks id purpose, rfl, .inl ⟨rfl, rfl⟩⟩
  · obtain ⟨hcuts, hreceipts, hsinks⟩ := opens.quiet
    have hwaits : (Phase.waiting k es).Accounts l'.sinks (.start id purpose) [es] [] :=
      ⟨.start _ id purpose, rfl⟩
    obtain ⟨accounts, hpurpose, -⟩ := goes.accounts hwaits
    rw [closes.phase, hsinks] at accounts
    obtain ⟨settled, hentries⟩ := accounts
    have hnow := closes.news
    subst hnow
    have hall : receiptsOf id (first ++ later ++ []) = (about id later).foldl Receipt.enter [] := by
      rw [List.append_nil, receiptsOf, about_append, List.foldl_append]
      exact congrArg (List.foldl Receipt.enter · _) hreceipts
    have hcall := closes.returns
    rw [Call.answer_eq, hpurpose] at hcall
    refine ⟨b.call, hcall, hall ▸ settled, ?_, .inr ⟨?_, closes.held⟩⟩
    · rw [hall, ← hentries, List.append_nil, cutsOf_append, hcuts]
      rfl
    · rw [hstack]
      cases calls with
      | log => exact .above rfl hheld
      | flush => exact .above rfl hheld

end System

/-- A log or flush call of a thread that is alone, from where the loggers are new and the thread is
before its calls, whatever the sinks do. When it is over, all batches that it has cut were delivered
to all sinks. It comes back well just if no sink has failed with any of them, else with the error of
the first batch with which one has, though later batches were delivered as well. If a flush call
comes back well its count is that of the entries of all its batches, and that and what is pending
then is what was pending before and what the sinks have logged meanwhile. What a call has cut is not
pending afterwards, and nothing more is done about it. -/
theorem call_reports_first_failure {host : Host σ κ ρ} {id : LoggerId} {purpose : Purpose}
    {f : Frame κ} {rest : List (Frame κ)} {l : Logger} {s₀ s v u : System σ κ ρ}
    {before hs now : List Happening} (ready : s₀.Ready) (run : Steps host s₀ before s)
    (here : s.plant.loggers[id]? = some l) (calls : f.Calls id purpose)
    (top : s.stack 0 = f :: rest) (spans : s.Spans host rest.length hs v now u)
    (alone : u.threads.length = 1) :
    ∃ result : Except DispatchError Nat, v.Returns host 0 (purpose.answer result) now u ∧
      (deedsOf id (hs ++ now) = (cutsOf id (hs ++ now)).flatMap (round l.sinks) ∧
        (receiptsOf id (hs ++ now)).map (·.batch.entries) = (cutsOf id (hs ++ now)).map (·.2) ∧
        ∀ r ∈ receiptsOf id (hs ++ now), r.endings.map (·.1) = l.sinks.map (·.name)) ∧
      ((∃ n, result = .ok n) ↔
        ∀ r ∈ receiptsOf id (hs ++ now), ∀ x ∈ r.endings, x.2 = .ok ()) ∧
      (∀ e, result = .error e ↔ ∃ earlier r later,
        receiptsOf id (hs ++ now) = earlier ++ r :: later ∧
        (∀ r' ∈ earlier, ∀ x ∈ r'.endings, x.2 = .ok ()) ∧ ¬(∀ x ∈ r.endings, x.2 = .ok ()) ∧
        e = ⟨r.batch.number, l.sinks.length, r.failures⟩) ∧
      (∀ n, result = .ok n →
        n = ((receiptsOf id (hs ++ now)).map (·.batch.entries.length)).sum ∧
        n + (u.pending id).length = (s.pending id).length + (entriesOf id (hs ++ now)).length) ∧
      (cutsOf id (hs ++ now)).flatMap (·.2) ++ u.pending id =
        s.pending id ++ entriesOf id (hs ++ now) ∧
      ∀ later w, Steps host u later w →
        (∀ c ∈ cutsOf id (hs ++ now), ∀ d ∈ deedsOf id later, d.ticket ≠ c.1) ∧
        (cutsOf id later).flatMap (·.2) ++ w.pending id = u.pending id ++ entriesOf id later := by
  have unused := ready.unused id
  have alone_s : s.threads.length = 1 := spans.steps.alone alone
  obtain ⟨_, lane, -, -, views⟩ := run.lane_of_unused unused
  obtain ⟨call, returns, settled, hentries, hends⟩ := spans.account calls here top (views.stands 0)
  have hbalance := run.pending_between spans.steps unused
  refine ⟨call.result, returns, ⟨?_, hentries.symm, settled.named⟩, settled.result_ok,
    fun e => settled.result_error, ?_, hbalance, ?_⟩
  · rcases hends with ⟨hcuts, hdeeds⟩ | ⟨held, held'⟩
    · rw [hcuts, hdeeds]
      rfl
    · exact run.deeds_between spans.steps unused (System.idle_of_held alone_s held)
        (System.idle_of_held alone held') here
  · intro n hn
    have hcount := settled.result_count hn
    have hlengths := congrArg List.length hbalance
    have hsum : ((cutsOf id (hs ++ now)).flatMap (·.2)).length = n := by
      rw [hcount, List.length_flatMap]
      simpa [Function.comp_def] using congrArg (fun x => (x.map List.length).sum) hentries
    rw [List.length_append, List.length_append, hsum] at hlengths
    exact ⟨hcount, hlengths⟩
  · intro later w hlater
    refine ⟨fun c hc d hd => ?_, (run.trans spans.steps).pending_between hlater unused⟩
    rcases hends with ⟨hcuts, -⟩ | ⟨-, held'⟩
    · rw [hcuts] at hc
      cases hc
    · obtain ⟨l', hl', -⟩ := spans.steps.sinks_between run unused here
      have hlt := (run.trans spans.steps).ticket_lt hlater unused
        (System.idle_of_held alone held') hl' (c := c) (d := d)
        (cutsOf_append id before (hs ++ now) ▸ List.mem_append_right _ hc) hd
      exact Nat.ne_of_gt hlt

/-- One thread with two calls on a logger of interval 1, whose first sink logs and flushes back into
it from inside the first batch and then fails. -/
def System.relapse : System Unit Demand Unit where
  plant := ⟨[.start ⟨1⟩ [⟨"first", 0⟩, ⟨"second", 1⟩]], 0, 0, ()⟩
  threads := [⟨[.log 0 "x" .info, .flush 0], none⟩]

theorem System.relapse_ready : System.relapse.Ready := by
  refine ⟨?_, ?_⟩
  · intro l hl
    obtain rfl := List.mem_singleton.1 hl
    exact ⟨_, _, rfl⟩
  · simp [relapse, Frame.isCall]

/-- The log call delivers what its sink has logged in a batch of its own, and comes back with the
failure of the batch before. -/
theorem call_reports_first_failure_relapse : ∃ hs v now u,
    System.relapse.Spans .echo 1 hs v now u ∧ (cutsOf 0 (hs ++ now)).map (·.1) = [0, 1] ∧
      u.pending 0 = [] ∧
      v.Returns .echo 0 (.logged (.error ⟨0, 2, [⟨"first", .other "full"⟩]⟩)) now u := by
  have evaluated : (System.relapse.carry .echo 1 21).any (fun (hs, v, now, u) =>
      receiptsOf 0 (hs ++ now) = [
        ⟨⟨0, [⟨"x", .info, ⟨0⟩⟩]⟩, [("first", .error (.other "full")), ("second", .ok ())]⟩,
        ⟨⟨1, [⟨"echo", .warning, ⟨1⟩⟩]⟩, [("first", .ok ()), ("second", .ok ())]⟩] ∧
      (cutsOf 0 (hs ++ now)).map (·.1) = [0, 1] ∧ u.pending 0 = [] ∧
      u.threads.length = 1) = true := by
    decide +kernel
  obtain ⟨⟨hs, v, now, u⟩, hcarry, hall⟩ := (Option.any_eq_true _ _).1 evaluated
  obtain ⟨hreceipts, hcuts, hpending, alone⟩ := of_decide_eq_true hall
  have spans : System.relapse.Spans .echo 1 hs v now u :=
    System.spans_of_carry (Nat.lt_succ_self 1) hcarry
  obtain ⟨result, returns, -, -, fails, -⟩ := call_reports_first_failure System.relapse_ready
    (.refl _) rfl .log rfl spans alone
  have hresult : result = .error ⟨0, 2, [⟨"first", .other "full"⟩]⟩ := by
    rw [fails, hreceipts]
    exact ⟨[], _, _, rfl, by simp, by simp, rfl⟩
  rw [hresult] at returns
  exact ⟨hs, v, now, u, spans, hcuts, hpending, returns⟩

end BatchedLog
