import BatchedLog.Proofs.Delivery.Conservation
import BatchedLog.Proofs.Delivery.Drain
import BatchedLog.Proofs.Delivery.Progress

/-!
# Greedy chunking

`Chunks` is a buffer with nothing around it: a log call appends to the open segment and closes it
when it has come to the interval, a flush call closes it unless it is empty. A logger whose sinks
keep off it cuts its batches exactly so, whatever threads there are and whatever goes on at other
loggers: between any two calls fewer entries than the interval are pending, so the look at the
buffer after a delivery finds nothing.
-/

namespace BatchedLog

variable {σ κ ρ : Type} {α β : Type}

/-! ## The reference -/

inductive Op (α : Type)
  | log (a : α)
  | flush
  deriving DecidableEq, Repr

def Op.map (f : α → β) : Op α → Op β
  | .log a => .log (f a)
  | .flush => .flush

structure Chunks (α : Type) where
  closed : List (List α)
  segment : List α
  deriving DecidableEq, Repr

namespace Chunks

def empty : Chunks α := ⟨[], []⟩

def close (c : Chunks α) : Chunks α := ⟨c.closed ++ [c.segment], []⟩

def append (c : Chunks α) (a : α) : Chunks α := { c with segment := c.segment ++ [a] }

def step (n : Nat) (c : Chunks α) : Op α → Chunks α
  | .log a => if 0 < n ∧ n ≤ c.segment.length + 1 then (c.append a).close else c.append a
  | .flush => if c.segment.isEmpty then c else c.close

def run (n : Nat) (ops : List (Op α)) : Chunks α := ops.foldl (step n) empty

def map (f : α → β) (c : Chunks α) : Chunks β := ⟨c.closed.map (·.map f), c.segment.map f⟩

theorem step_map (f : α → β) (n : Nat) (c : Chunks α) (op : Op α) :
    (c.step n op).map f = (c.map f).step n (op.map f) := by
  cases op with
  | log a =>
    by_cases h : 0 < n ∧ n ≤ c.segment.length + 1
    · simp [step, Op.map, map, append, close, h]
    · simp [step, Op.map, map, append, h]
  | flush =>
    by_cases h : c.segment = []
    · simp [step, Op.map, map, h]
    · simp [step, Op.map, map, close, h]

theorem run_map (f : α → β) (n : Nat) (ops : List (Op α)) :
    (run n ops).map f = run n (ops.map (Op.map f)) := by
  have hfold : ∀ c : Chunks α,
      (ops.foldl (step n) c).map f = (ops.map (Op.map f)).foldl (step n) (c.map f) := by
    induction ops with
    | nil => exact fun _ => rfl
    | cons op ops ih =>
      intro c
      rw [List.foldl_cons, ih, step_map]
      rfl
  exact hfold empty

theorem run_concat (n : Nat) (ops : List (Op α)) (op : Op α) :
    run n (ops ++ [op]) = (run n ops).step n op := by
  simp [run, List.foldl_append]

end Chunks

/-! ## What happens at a logger as operations -/

def Happening.op? : Happening → Option (Op Entry)
  | .accepted _ e => some (.log e)
  | .flushed _ => some .flush
  | _ => none

/-- The operations on the buffer, in this order. -/
def opsOf (id : LoggerId) (hs : List Happening) : List (Op Entry) :=
  (about id hs).filterMap Happening.op?

/-- The operation on a logger's buffer that a thread with this stack carries out next. A flush call
from inside a delivery of the logger does not come to the buffer. -/
def operationOf (loggers : List Logger) (id : LoggerId) :
    List (Frame κ) → List (Op (String × Level))
  | .log l message level :: _ =>
    if l = id ∧ id < loggers.length then [.log (message, level)] else []
  | .flush l :: rest =>
    if l = id ∧ id < loggers.length ∧ isDelivering rest id = false then [.flush] else []
  | _ => []

namespace System

/-- The operations on a logger's buffer that the threads of a schedule carry out, in this order. -/
def operations (host : Host σ κ ρ) (id : LoggerId) :
    List ThreadId → System σ κ ρ → List (Op (String × Level))
  | [], _ => []
  | t :: schedule, s =>
    operationOf s.plant.loggers id (s.stack t) ++
      match s.step host t with
      | none => []
      | some (next, _) => operations host id schedule next

/-- No log or flush call on the logger is made from inside one of its deliveries: its sinks keep off
it, and so do the sinks of the loggers that these use. -/
def KeptOff (host : Host σ κ ρ) (id : LoggerId) (s₀ : System σ κ ρ) : Prop :=
  ∀ {hs s t rest}, Steps host s₀ hs s →
    ((∃ message level, s.stack t = .log id message level :: rest) ∨ s.stack t = .flush id :: rest) →
    isDelivering rest id = false

end System

section

variable {id : LoggerId} {hs now : List Happening}

theorem opsOf_append (id : LoggerId) (hs now : List Happening) :
    opsOf id (hs ++ now) = opsOf id hs ++ opsOf id now := by
  simp [opsOf, about_append]

theorem opsOf_of_ne (h : ∀ x ∈ hs, x.logger ≠ id) : opsOf id hs = [] := by
  simp [opsOf, about_of_ne h]

theorem opsOf_single {x : Happening} (h : x.op? = none) : opsOf id [x] = [] := by
  apply List.filterMap_eq_nil_iff.2
  intro y hy
  rwa [List.mem_singleton.1 (mem_of_mem_about hy)]

@[simp] theorem opsOf_cutNews (id other : LoggerId) (r : Option (Nat × List Entry) × Logger) :
    opsOf id (cutNews other r) = [] := by
  obtain ⟨c, l⟩ := r
  cases c with
  | none => rfl
  | some c => exact opsOf_single rfl

end

/-- A step works on the buffer exactly if it carries out an operation. -/
theorem Machine.Rule.opsOf_eq {host : Host σ κ ρ} {id : LoggerId} {p : Plant σ} {done : List Bool}
    {stack : List (Frame κ)} {out : Turnout σ κ ρ} (rule : Rule host p done stack out) :
    (opsOf id out.happenings).map (Op.map Entry.said) = operationOf p.loggers id stack := by
  have lt_length : ∀ {l : Logger} {i : LoggerId}, p.loggers[i]? = some l → i < p.loggers.length :=
    fun h => (List.getElem?_eq_some_iff.1 h).1
  have absent : ∀ {i : LoggerId}, p.loggers[i]? = none → ¬ (i = id ∧ id < p.loggers.length) := by
    rintro i hn ⟨rfl, hlt⟩
    exact absurd hlt (Nat.not_lt.2 (List.getElem?_eq_none_iff.1 hn))
  cases rule with
  | logNowhere hn => exact (if_neg (absent hn)).symm
  | flushNowhere hn => exact (if_neg fun h => absent hn ⟨h.1, h.2.1⟩).symm
  | @logHeld i message level rest l hl =>
    by_cases hi : i = id
    · subst hi
      simp [finish, operationOf, lt_length hl, opsOf, about, Happening.logger, Happening.op?,
        Op.map, Entry.said, Plant.entry]
    · simp [finish, operationOf, hi, opsOf, about, Happening.logger]
  | @log i message level rest l hl =>
    rw [happenings_afterCut, opsOf_append, opsOf_cutNews, List.append_nil]
    by_cases hi : i = id
    · subst hi
      simp [operationOf, lt_length hl, opsOf, about, Happening.logger, Happening.op?, Op.map,
        Entry.said, Plant.entry]
    · simp [operationOf, hi, opsOf, about, Happening.logger]
  | @flushHeld i rest hd =>
    refine (if_neg ?_).symm
    rintro ⟨rfl, -, hnot⟩
    rw [hd] at hnot
    cases hnot
  | @flush i rest l hl hd =>
    rw [happenings_afterCut, opsOf_append, opsOf_cutNews, List.append_nil]
    by_cases hi : i = id
    · subst hi
      simp [operationOf, lt_length hl, hd, opsOf, about, Happening.logger, Happening.op?, Op.map]
    · simp [operationOf, hi, opsOf, about, Happening.logger]
  | turn => rw [proceed, opsOf_single rfl]; rfl
  | hand => rw [proceed, opsOf_single rfl]; rfl
  | release => rw [proceed, opsOf_single rfl]; rfl
  | took => rw [proceed, opsOf_single rfl]; rfl
  | failed => rw [proceed, opsOf_single rfl]; rfl
  | drain =>
    rw [happenings_afterCut, opsOf_append, opsOf_cutNews]
    rfl
  | _ => rfl

/-- The operations on the buffer along a schedule are those carried out. -/
theorem System.opsOf_follow {host : Host σ κ ρ} {id : LoggerId} {s t : System σ κ ρ}
    {schedule : List ThreadId} {hs : List Happening}
    (run : s.follow host schedule = some (t, hs)) :
    (opsOf id hs).map (Op.map Entry.said) = s.operations host id schedule := by
  refine collect_follow (g := fun hs => (opsOf id hs).map (Op.map Entry.said)) rfl ?_
    (fun _ => rfl) ?_ run
  · intro hs hs'
    rw [opsOf_append, List.map_append]
  · intro thread rest s next now hstep
    obtain ⟨out, stepped, rfl⟩ := stepped hstep
    rw [stepped.rule.opsOf_eq]
    simp only [operations, hstep]

/-! ## A logger and its reference -/

namespace Logger

/-- What has been cut from a logger, and what is pending. -/
def chunks (l : Logger) (cuts : List (Nat × List Entry)) : Chunks Entry :=
  ⟨cuts.map (·.2), l.buffer.pending⟩

/-- Fewer entries than the interval are pending, if it is positive. -/
def Small (l : Logger) : Prop := 0 < l.interval → l.pendingCount < l.interval

variable {l : Logger} {cuts : List (Nat × List Entry)}

theorem cutDue_of_small (h : l.Small) : l.cutDue = (none, l) := by
  apply cutDue_of_not_due
  apply Bool.eq_false_iff.2
  intro hdue
  obtain ⟨hpos, hle⟩ := FlushPolicy.due_iff.1 hdue
  exact absurd hle (Nat.not_le.2 (h hpos))

theorem small_cutDue (l : Logger) : l.cutDue.2.Small := by
  intro hpos
  rw [interval_cutDue] at hpos ⊢
  exact pendingCount_cutDue_lt hpos

theorem interval_cutAll (l : Logger) : l.cutAll.2.interval = l.interval := by
  rcases l.cutAll_cuts with h | ⟨-, h⟩
  · rw [h]
  · rw [h]
    rfl

theorem small_cutAll (l : Logger) : l.cutAll.2.Small := by
  intro hpos
  rw [pendingCount_cutAll]
  exact hpos

/-- A flush call does what closing the open segment does. -/
theorem chunks_cutAll (l : Logger) (cuts : List (Nat × List Entry)) (n : Nat) :
    l.cutAll.2.chunks (cuts ++ l.cutAll.1.toList) = (l.chunks cuts).step n .flush := by
  by_cases h : l.buffer.pending = []
  · simp [cutAll, Buffer.take, numbered, chunks, Chunks.step, h]
  · simp [cutAll, Buffer.take, numbered, chunks, Chunks.step, Chunks.close, h]

/-- A log call does what appending to the open segment does. -/
theorem chunks_push_cutDue (l : Logger) (cuts : List (Nat × List Entry)) (e : Entry) :
    (l.push e).cutDue.2.chunks (cuts ++ (l.push e).cutDue.1.toList) =
      (l.chunks cuts).step l.interval (.log e) := by
  have hpush : (l.push e).chunks cuts = (l.chunks cuts).append e := rfl
  have hcount : (l.push e).pendingCount = (l.chunks cuts).segment.length + 1 := by
    simp [pendingCount, push, chunks]
  by_cases h : 0 < l.interval ∧ l.interval ≤ (l.chunks cuts).segment.length + 1
  · have hdue : (l.push e).buffer.policy.due (l.push e).pendingCount = true := by
      rw [hcount]
      exact FlushPolicy.due_iff.2 h
    have hflush : ((l.chunks cuts).append e).step l.interval .flush =
        ((l.chunks cuts).append e).close := by simp [Chunks.step, Chunks.append]
    rw [cutDue_of_due hdue, chunks_cutAll _ _ l.interval, hpush, hflush, Chunks.step, if_pos h]
  · have hdue : (l.push e).buffer.policy.due (l.push e).pendingCount = false := by
      apply Bool.eq_false_iff.2
      intro hdue
      rw [hcount] at hdue
      exact h (FlushPolicy.due_iff.1 hdue)
    rw [cutDue_of_not_due hdue, Option.toList_none, List.append_nil, hpush, Chunks.step, if_neg h]

/-- What a log call cuts comes up to the interval. -/
theorem length_of_push_cutDue {e : Entry} {c : Nat × List Entry} (small : l.Small)
    (h : (l.push e).cutDue.1 = some c) : 0 < l.interval ∧ c.2.length = l.interval := by
  cases hdue : (l.push e).buffer.policy.due (l.push e).pendingCount with
  | false =>
    rw [cutDue_of_not_due hdue] at h
    cases h
  | true =>
    obtain ⟨hpos, hle⟩ : 0 < l.interval ∧ l.interval ≤ (l.push e).pendingCount :=
      FlushPolicy.due_iff.1 hdue
    have hlt : l.pendingCount < l.interval := small hpos
    have hcount : (l.push e).pendingCount = l.pendingCount + 1 := by simp [pendingCount, push]
    rcases (l.push e).cutDue_cuts with hnone | ⟨-, hcut⟩
    · rw [hnone] at h
      cases h
    · rw [hcut] at h
      obtain rfl := Option.some.inj h
      refine ⟨hpos, ?_⟩
      change (l.push e).pendingCount = l.interval
      omega

/-- What a flush call cuts is not empty, and does not come up to the interval. -/
theorem length_of_cutAll {c : Nat × List Entry} (small : l.Small) (h : l.cutAll.1 = some c) :
    1 ≤ c.2.length ∧ (0 < l.interval → c.2.length ≤ l.interval - 1) := by
  rcases l.cutAll_cuts with hnone | ⟨hne, hcut⟩
  · rw [hnone] at h
    cases h
  · rw [hcut] at h
    obtain rfl := Option.some.inj h
    constructor
    · exact List.length_pos_iff.2 hne
    · intro hpos
      have hlt : l.buffer.pending.length < l.interval := small hpos
      change l.buffer.pending.length ≤ l.interval - 1
      omega

end Logger

namespace Lane

/-- The batches cut and what is pending are what the reference makes of the operations. -/
structure Chunked (lane : Lane κ) (id : LoggerId) (hs : List Happening) : Prop where
  absent : lane.logger = none → about id hs = []
  small : ∀ {l}, lane.logger = some l → l.Small
  chunks : ∀ {l}, lane.logger = some l →
    l.chunks (cutsOf id hs) = Chunks.run l.interval (opsOf id hs)

variable {id : LoggerId} {hs now : List Happening} {lane first : Lane κ} {t : ThreadId}
  {l l' : Logger} {o : Option Logger} {st : Option (Station κ)}

theorem Chunked.of_logger (hl : lane.logger = some l) (small : l.Small)
    (h : l.chunks (cutsOf id hs) = Chunks.run l.interval (opsOf id hs)) : lane.Chunked id hs := by
  refine ⟨?_, ?_, ?_⟩
  · intro hn
    rw [hl] at hn
    cases hn
  · intro l₂ hl₂
    rw [hl] at hl₂
    cases hl₂
    exact small
  · intro l₂ hl₂
    rw [hl] at hl₂
    cases hl₂
    exact h

theorem Fresh.chunked (h : lane.Fresh) (habout : about id hs = []) : lane.Chunked id hs := by
  refine ⟨fun _ => habout, ?_, ?_⟩
  · intro l hl
    obtain ⟨policy, sinks, rfl⟩ := h.logger hl
    exact fun positive => positive
  · intro l hl
    obtain ⟨policy, sinks, rfl⟩ := h.logger hl
    simp only [cutsOf, opsOf, habout]
    rfl

/-- What touches neither the buffer nor what has been cut does not show. -/
theorem Chunked.keep (h : lane.Chunked id hs) (hl : lane.logger = some l)
    (hbuffer : l'.buffer = l.buffer) (hcuts : cutsOf id now = []) (hops : opsOf id now = []) :
    (lane.put t (some l') st).Chunked id (hs ++ now) := by
  refine .of_logger rfl ?_ ?_
  · have hsmall := h.small hl
    simpa only [Logger.Small, Logger.interval, Logger.pendingCount, hbuffer] using hsmall
  · have hchunks := h.chunks hl
    rw [cutsOf_append, hcuts, List.append_nil, opsOf_append, hops, List.append_nil]
    simpa only [Logger.chunks, Logger.interval, hbuffer] using hchunks

/-- The moves of threads that do not log through the logger from inside its deliveries. -/
theorem Chunked.step (h : lane.Chunked id hs) (orderly : lane.Orderly)
    (keptOff : ∀ e, .accepted id e ∈ now → lane.station t = none)
    (move : Move id lane.logger (lane.station t) now o st) :
    (lane.put t o st).Chunked id (hs ++ now) := by
  generalize hl : lane.logger = before at move
  generalize hst : lane.station t = s at move
  have onward : ∀ {s : Station κ} {x : Happening}, lane.station t = some s → x.cut? = none →
      x.op? = none → (lane.put t lane.logger st).Chunked id (hs ++ [x]) := by
    intro s x hst hcut hop
    obtain ⟨l, hl, -⟩ := orderly.exists_logger hst
    rw [hl]
    exact h.keep hl rfl (cutsOf_single hcut) (opsOf_single hop)
  cases move with
  | elsewhere hne =>
    rw [← hl, ← hst, put_self]
    have hcuts := (silent_of_ne hne).cutsOf_eq
    refine ⟨?_, h.small, ?_⟩
    · intro hn
      rw [about_append, h.absent hn, about_of_ne hne]
      rfl
    · intro l hl
      rw [cutsOf_append, hcuts, List.append_nil, opsOf_append, opsOf_of_ne hne, List.append_nil]
      exact h.chunks hl
  | opened =>
    rw [← hst, List.append_nil]
    exact (orderly.fresh_opened hl ..).chunked (h.absent hl)
  | @log l e below =>
    refine .of_logger rfl (Logger.small_cutDue _) ?_
    have hops : opsOf id [.accepted id e] = [.log e] := by
      simp [opsOf, about, Happening.logger, Happening.op?]
    have hcuts : cutsOf id [.accepted id e] = [] := cutsOf_single rfl
    have hinterval : (l.push e).cutDue.2.interval = l.interval := Logger.interval_cutDue _
    rw [List.append_cons, cutsOf_append, cutsOf_append, hcuts, List.append_nil, cutsOf_cutNews,
      opsOf_append, opsOf_append, hops, opsOf_cutNews, List.append_nil, Chunks.run_concat,
      hinterval, ← h.chunks hl, Logger.chunks_push_cutDue]
  | hold =>
    have hnone := keptOff _ (.head _)
    rw [hst] at hnone
    cases hnone
  | @flush l below =>
    refine .of_logger rfl (Logger.small_cutAll _) ?_
    have hops : opsOf id [.flushed id] = [.flush] := by
      simp [opsOf, about, Happening.logger, Happening.op?]
    have hcuts : cutsOf id [.flushed id] = [] := cutsOf_single rfl
    rw [List.append_cons, cutsOf_append, cutsOf_append, hcuts, List.append_nil, cutsOf_cutNews,
      opsOf_append, opsOf_append, hops, opsOf_cutNews, List.append_nil, Chunks.run_concat,
      Logger.interval_cutAll, ← h.chunks hl, Logger.chunks_cutAll]
  | turn =>
    rw [← hl]
    exact onward hst rfl rfl
  | hand =>
    rw [← hl]
    exact onward hst rfl rfl
  | took =>
    rw [← hl]
    exact onward hst rfl rfl
  | failed =>
    rw [← hl]
    exact onward hst rfl rfl
  | release => exact h.keep hl rfl (cutsOf_single rfl) (opsOf_single rfl)
  | @drain l call below =>
    -- Nothing is due when the thread looks once more.
    rw [Logger.cutDue_of_small (h.small hl)]
    exact h.keep hl rfl rfl rfl

/-- Batches are cut by log calls at the interval and by flush calls before it, nothing else. -/
theorem Chunked.cut_cases {k : Nat} {es : List Entry} (h : lane.Chunked id hs)
    (keptOff : ∀ e, .accepted id e ∈ now → lane.station t = none) (hl : lane.logger = some l)
    (move : Move id lane.logger (lane.station t) now o st) (hcut : .cut id k es ∈ now) :
    ((∃ e, .accepted id e ∈ now) ∧ 0 < l.interval ∧ es.length = l.interval) ∨
      (.flushed id ∈ now ∧ 1 ≤ es.length ∧ (0 < l.interval → es.length ≤ l.interval - 1)) := by
  have small := h.small hl
  have mem_news : ∀ {r : Option (Nat × List Entry) × Logger}, .cut id k es ∈ cutNews id r →
      r.1 = some (k, es) := by
    intro r hmem
    obtain ⟨c, hc, heq⟩ : ∃ c, r.1 = some c ∧ Happening.cut id c.1 c.2 = .cut id k es := by
      simpa [cutNews] using hmem
    cases heq
    exact hc
  rw [hl] at move
  generalize hst : lane.station t = s at move
  cases move with
  | elsewhere hne => exact absurd rfl (hne _ hcut)
  | log =>
    have hnews := mem_news ((List.mem_cons.1 hcut).resolve_left (by simp))
    exact Or.inl ⟨⟨_, .head _⟩, Logger.length_of_push_cutDue small hnews⟩
  | flush =>
    have hnews := mem_news ((List.mem_cons.1 hcut).resolve_left (by simp))
    exact Or.inr ⟨.head _, Logger.length_of_cutAll small hnews⟩
  | drain =>
    rw [Logger.cutDue_of_small small] at hcut
    cases hcut
  | _ => simp at hcut

end Lane

/-! ## Systems -/

namespace System

variable {host : Host σ κ ρ} {id : LoggerId} {s₀ s u : System σ κ ρ} {t : ThreadId}
  {hs now : List Happening}

/-- Entries get into the buffer by log calls, and it is looked at by flush calls. -/
theorem exists_call_of_op {op : Op Entry} (hstep : s.step host t = some (u, now))
    (hop : op ∈ opsOf id now) :
    (∃ e message level rest, op = .log e ∧ s.stack t = .log id message level :: rest) ∨
      ∃ rest, op = .flush ∧ s.stack t = .flush id :: rest := by
  obtain ⟨out, stepped, rfl⟩ := stepped hstep
  have hmem : op.map Entry.said ∈ operationOf s.plant.loggers id (s.stack t) := by
    rw [← stepped.rule.opsOf_eq]
    exact List.mem_map_of_mem hop
  generalize s.stack t = stack at hmem
  unfold operationOf at hmem
  split at hmem
  · split at hmem
    · rename_i h
      obtain ⟨rfl, -⟩ := h
      cases op with
      | log e => exact Or.inl ⟨e, _, _, _, rfl, rfl⟩
      | flush => simp [Op.map] at hmem
    · cases hmem
  · split at hmem
    · rename_i h
      obtain ⟨rfl, -⟩ := h
      cases op with
      | log e => simp [Op.map] at hmem
      | flush => exact Or.inr ⟨_, rfl, rfl⟩
    · cases hmem
  · cases hmem

theorem exists_log_of_accepted {e : Entry} (hstep : s.step host t = some (u, now))
    (h : .accepted id e ∈ now) :
    ∃ message level rest, s.stack t = .log id message level :: rest := by
  have hop : .log e ∈ opsOf id now := by
    have habout : .accepted id e ∈ about id now := List.mem_filter.2 ⟨h, by simp [Happening.logger]⟩
    exact List.mem_filterMap.2 ⟨_, habout, rfl⟩
  rcases exists_call_of_op hstep hop with ⟨_, message, level, rest, -, hstack⟩ | ⟨_, heq, -⟩
  · exact ⟨message, level, rest, hstack⟩
  · cases heq

theorem exists_flush_of_flushed (hstep : s.step host t = some (u, now))
    (h : .flushed id ∈ now) : ∃ rest, s.stack t = .flush id :: rest := by
  have hop : .flush ∈ opsOf id now := by
    have habout : .flushed id ∈ about id now := List.mem_filter.2 ⟨h, by simp [Happening.logger]⟩
    exact List.mem_filterMap.2 ⟨_, habout, rfl⟩
  rcases exists_call_of_op hstep hop with ⟨_, _, _, _, heq, -⟩ | ⟨rest, -, hstack⟩
  · cases heq
  · exact ⟨rest, hstack⟩

/-- Who logs through a logger that is kept off is in no call on it. -/
theorem KeptOff.station_eq {lane : Lane κ} {e : Entry} (keptOff : s₀.KeptOff host id)
    (run : Steps host s₀ hs s) (views : s.Views id lane) (hstep : s.step host t = some (u, now))
    (h : .accepted id e ∈ now) : lane.station t = none := by
  obtain ⟨message, level, rest, hstack⟩ := exists_log_of_accepted hstep h
  have hfree := keptOff run (Or.inl ⟨message, level, hstack⟩)
  have held : Held id rest (lane.station t) := (hstack ▸ views.stands t).tail rfl (by simp)
  exact held.eq_none hfree

/-- Runs that keep off a logger are those of its reference. -/
theorem KeptOff.chunked (keptOff : s₀.KeptOff host id) (unused : s₀.Unused id)
    (run : Steps host s₀ hs s) :
    ∃ lane : Lane κ, s.Views id lane ∧ lane.Orderly ∧ lane.Chunked id hs := by
  induction run with
  | refl =>
    obtain ⟨lane, fresh, views⟩ := unused.exists_fresh
    exact ⟨lane, views, fresh.orderly, fresh.chunked rfl⟩
  | @tail s u before now t run hstep ih =>
    obtain ⟨lane, views, orderly, chunked⟩ := ih
    obtain ⟨l, st, move, views'⟩ := views.step hstep
    have free := fun e h => keptOff.station_eq (e := e) run views hstep h
    exact ⟨_, views', orderly.step move, chunked.step orderly free move⟩

/-- A logger is kept off if what its sinks use, directly or through others, is never itself. -/
theorem Ready.keptOff {R : LoggerId → LoggerId → Prop} (ready : s₀.Ready)
    (trans : ∀ {i m l}, R i m → R m l → R i l) (inside : s₀.SinksInside host R)
    (irrefl : ¬ R id id) : s₀.KeptOff host id := by
  intro hs s t rest run hcall
  have stacked := ready.stacked_inside (R := R) trans inside run t
  have clears : Clears R id rest := by
    rcases hcall with ⟨message, level, hstack⟩ | hstack
    · rw [hstack] at stacked
      exact stacked.1
    · rw [hstack] at stacked
      exact stacked.1
  apply Bool.eq_false_iff.2
  intro hd
  obtain ⟨f, hf, hdelivers⟩ := List.any_eq_true.1 hd
  exact irrefl (clears f hf id hdelivers)

end System

/-- Let a logger be kept off: no call on it is made from inside its own deliveries. Then along any
schedule of any threads, wherever else their calls are made and however sinks end, the batches cut
from it are those that the reference closes, in the order of their numbers, and what is pending is
its open segment. What a log call cuts has as many entries as the interval; what a flush call cuts
has at least one and fewer than a positive interval; and nothing else cuts. -/
theorem chunks_eq_run {host : Host σ κ ρ} {id : LoggerId} {s₀ s : System σ κ ρ}
    {schedule : List ThreadId} {hs : List Happening} {l : Logger} (unused : s₀.Unused id)
    (keptOff : s₀.KeptOff host id) (run : s₀.follow host schedule = some (s, hs))
    (here : s.plant.loggers[id]? = some l) :
    (⟨(cutsOf id hs).map fun c => c.2.map Entry.said, l.buffer.pending.map Entry.said⟩ :
        Chunks (String × Level)) = Chunks.run l.interval (s₀.operations host id schedule) ∧
      (cutsOf id hs).map (·.1) = List.range (cutsOf id hs).length ∧
      ∀ t u now k es, s.step host t = some (u, now) → .cut id k es ∈ now →
        ((∃ message level rest, s.stack t = .log id message level :: rest) ∧
          0 < l.interval ∧ es.length = l.interval) ∨
        ((∃ rest, s.stack t = .flush id :: rest) ∧
          1 ≤ es.length ∧ (0 < l.interval → es.length ≤ l.interval - 1)) := by
  have steps := System.steps_of_follow run
  obtain ⟨lane, views, orderly, chunked⟩ := keptOff.chunked unused steps
  have hl : lane.logger = some l := views.logger ▸ here
  refine ⟨?_, ?_, ?_⟩
  · have hchunks := congrArg (Chunks.map Entry.said) (chunked.chunks hl)
    rw [Chunks.run_map, System.opsOf_follow run] at hchunks
    rw [← hchunks]
    simp [Chunks.map, Logger.chunks]
  · obtain ⟨_, lane', fresh, runs, views'⟩ := steps.lane_of_unused unused
    have ledger := (runs.balanced fresh).ledger (l := l) (views'.logger ▸ here)
    rw [ledger.tickets, ledger.cut_eq]
  · intro t u now k es hstep hcut
    obtain ⟨o, st, move, -⟩ := views.step hstep
    have free := fun e h => keptOff.station_eq (e := e) steps views hstep h
    rcases chunked.cut_cases free hl move hcut with ⟨⟨e, he⟩, hlog⟩ | ⟨hf, hflush⟩
    · exact Or.inl ⟨System.exists_log_of_accepted hstep he, hlog⟩
    · exact Or.inr ⟨System.exists_flush_of_flushed hstep hf, hflush⟩

/-! ## Two threads and a second logger -/

/-- Two threads log and flush through logger 1, whose sink logs and flushes through logger 0. -/
def System.relay : System Unit Demand Unit where
  plant := ⟨[.start ⟨2⟩ [⟨"own", 0⟩], .start ⟨2⟩ [⟨"down", 1⟩]], 0, 0, ()⟩
  threads := [⟨[.log 1 "a" .info, .log 1 "b" .error, .flush 1], none⟩,
    ⟨[.log 1 "c" .trace, .flush 1], none⟩]

theorem System.relay_ready : System.relay.Ready := by
  refine ⟨?_, by decide⟩
  intro l hl
  obtain rfl | rfl : l = _ ∨ l = _ := by simpa [System.relay] using hl
  · exact ⟨_, _, rfl⟩
  · exact ⟨_, _, rfl⟩

theorem System.relay_keptOff : System.relay.KeptOff .cascade 1 := by
  -- All sinks use logger 0 only.
  refine System.relay_ready.keptOff (R := fun m _ => m = 0) (fun h _ => h) ?_ (by decide)
  intro hs s t c sink todo ending call k b left failures below run hstack
  have none_first : ∀ t, (System.relay.stack t).flatMap Frame.commands = []
    | 0 => rfl
    | 1 => rfl
    | _ + 2 => rfl
  have hc : c ∈ (s.stack t).flatMap Frame.commands := by simp [hstack, Frame.commands]
  obtain ⟨h, sink', batch, hgiven⟩ := run.mem_commands none_first hc
  obtain rfl | rfl : c = .log 0 "again" .info ∨ c = .flush 0 := by
    simpa [Host.cascade, Host.ofSinks] using hgiven
  · rfl
  · rfl

/-- The second entry of a batch comes from the other thread, and a flush call cuts while that batch
waits. -/
theorem chunks_eq_run_relay : System.relay.Unused 1 ∧ System.relay.KeptOff .cascade 1 ∧
    (∃ s hs l u now es, System.relay.follow .cascade [0] = some (s, hs) ∧
      s.plant.loggers[1]? = some l ∧ s.step .cascade 1 = some (u, now) ∧ .cut 1 0 es ∈ now ∧
      es.length = l.interval) ∧
    ∃ s hs l, System.relay.follow .cascade ([0, 1, 0, 0] ++ List.replicate 9 1) = some (s, hs) ∧
      s.plant.loggers[1]? = some l ∧ l.interval = 2 ∧
      (⟨(cutsOf 1 hs).map fun c => c.2.map Entry.said, l.buffer.pending.map Entry.said⟩ :
          Chunks (String × Level)) =
        Chunks.run 2 [.log ("a", .info), .log ("c", .trace), .log ("b", .error), .flush] := by
  have unused := System.relay_ready.unused 1
  refine ⟨unused, System.relay_keptOff, ?_, ?_⟩
  · obtain ⟨s, hs, l, u, now, es, run, here, hlog, hstep, hcut⟩ : ∃ s hs l u now es,
        System.relay.follow .cascade [0] = some (s, hs) ∧ s.plant.loggers[1]? = some l ∧
        s.stack 1 = [.log 1 "c" .trace, .flush 1] ∧
        s.step .cascade 1 = some (u, now) ∧ .cut 1 0 es ∈ now :=
      ⟨_, _, _, _, _, _, rfl, rfl, rfl, rfl, .tail _ (.head _)⟩
    obtain ⟨-, -, cuts⟩ := chunks_eq_run unused System.relay_keptOff run here
    have hlen : es.length = l.interval := by
      rcases cuts 1 u now 0 es hstep hcut with ⟨-, -, hlen⟩ | ⟨⟨rest, hflush⟩, -⟩
      · exact hlen
      · rw [hlog] at hflush
        cases hflush
    exact ⟨s, hs, l, u, now, es, run, here, hstep, hcut, hlen⟩
  · obtain ⟨s, hs, l, run, here, hinterval⟩ : ∃ s hs l,
        System.relay.follow .cascade ([0, 1, 0, 0] ++ List.replicate 9 1) = some (s, hs) ∧
        s.plant.loggers[1]? = some l ∧ l.interval = 2 :=
      ⟨_, _, _, rfl, rfl, rfl⟩
    obtain ⟨reference, -⟩ := chunks_eq_run unused System.relay_keptOff run here
    rw [hinterval] at reference
    exact ⟨s, hs, l, run, here, hinterval, reference⟩

end BatchedLog
