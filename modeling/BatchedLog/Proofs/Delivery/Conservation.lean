import BatchedLog.Proofs.Delivery.Ledger
import BatchedLog.Session.Host

/-!
# Every log call in one batch, in order

Log calls are counted as threads carry them out, without a look at what becomes of them: a call is
carried out when a thread with the call at its top takes a step. `entries_conserved` compares them
with the batches cut and what is pending.
-/

namespace BatchedLog

variable {σ κ ρ : Type} {host : Host σ κ ρ} {id : LoggerId}

/-- What a log call says; the stamp is not the caller's. -/
def Entry.said (e : Entry) : String × Level := (e.message, e.level)

/-- The log call on a logger that a thread with this stack carries out next. -/
def logCallOf (loggers : List Logger) (id : LoggerId) : List (Frame κ) → List (String × Level)
  | .log l message level :: _ => if l = id ∧ id < loggers.length then [(message, level)] else []
  | _ => []

namespace System

/-- The log calls on a logger that the threads of a schedule carry out, in this order. -/
def logCalls (host : Host σ κ ρ) (id : LoggerId) :
    List ThreadId → System σ κ ρ → List (String × Level)
  | [], _ => []
  | t :: schedule, s =>
    logCallOf s.plant.loggers id (s.stack t) ++
      match s.step host t with
      | none => []
      | some (next, _) => logCalls host id schedule next

/-- The entries pending at a logger. -/
def pending (s : System σ κ ρ) (id : LoggerId) : List Entry :=
  ((s.plant.loggers[id]?).map (·.buffer.pending)).getD []

end System

/-- A step puts an entry into the buffer exactly if it carries out a log call. -/
theorem Machine.Rule.entriesOf_eq {p : Plant σ} {done : List Bool} {stack : List (Frame κ)}
    {out : Turnout σ κ ρ} (rule : Rule host p done stack out) :
    (entriesOf id out.happenings).map Entry.said = logCallOf p.loggers id stack := by
  have exists_iff : ∀ {l : Logger} {i : LoggerId}, p.loggers[i]? = some l → i < p.loggers.length :=
    fun h => (List.getElem?_eq_some_iff.1 h).1
  cases rule with
  | logNowhere hn =>
    have hge := List.getElem?_eq_none_iff.1 hn
    refine (if_neg ?_).symm
    rintro ⟨rfl, hlt⟩
    exact absurd hlt (Nat.not_lt.2 hge)
  | @logHeld i message level rest l hl =>
    by_cases hi : i = id
    · subst hi
      simp [finish, logCallOf, exists_iff hl, entriesOf, about, Happening.logger,
        Happening.entry?, Entry.said, Plant.entry]
    · simp [finish, logCallOf, hi, entriesOf, about, Happening.logger]
  | @log i message level rest l hl =>
    rw [happenings_afterCut, entriesOf_append, entriesOf_cutNews, List.append_nil]
    by_cases hi : i = id
    · subst hi
      simp [logCallOf, exists_iff hl, entriesOf, about, Happening.logger,
        Happening.entry?, Entry.said, Plant.entry]
    · simp [logCallOf, hi, entriesOf, about, Happening.logger]
  | flush =>
    rw [happenings_afterCut, entriesOf_append, entriesOf_cutNews, List.append_nil,
      (silent_single rfl rfl).entriesOf_eq]
    rfl
  | turn => rw [proceed, (silent_single rfl rfl).entriesOf_eq]; rfl
  | hand => rw [proceed, (silent_single rfl rfl).entriesOf_eq]; rfl
  | release => rw [proceed, (silent_single rfl rfl).entriesOf_eq]; rfl
  | took => rw [proceed, (silent_single rfl rfl).entriesOf_eq]; rfl
  | failed => rw [proceed, (silent_single rfl rfl).entriesOf_eq]; rfl
  | drain =>
    rw [happenings_afterCut, entriesOf_append, entriesOf_cutNews]
    rfl
  | _ => rfl

/-- What got into the buffer along a schedule are the log calls carried out. -/
theorem System.entriesOf_follow {s t : System σ κ ρ} {schedule : List ThreadId}
    {hs : List Happening} (run : s.follow host schedule = some (t, hs)) :
    (entriesOf id hs).map Entry.said = s.logCalls host id schedule := by
  refine collect_follow (g := fun hs => (entriesOf id hs).map Entry.said) rfl ?_ (fun _ => rfl) ?_
    run
  · intro hs hs'
    rw [entriesOf_append, List.map_append]
  · intro thread rest s next now hstep
    obtain ⟨out, stepped, rfl⟩ := stepped hstep
    rw [stepped.rule.entriesOf_eq]
    simp only [logCalls, hstep]

theorem Lane.Balanced.pending_eq {lane : Lane κ} {s : System σ κ ρ} {hs : List Happening}
    (h : lane.Balanced id hs) (views : s.Views id lane) :
    (cutsOf id hs).flatMap (·.2) ++ s.pending id = entriesOf id hs := by
  unfold System.pending
  rw [views.logger]
  cases hl : lane.logger with
  | none => simp [cutsOf, entriesOf, h.absent hl]
  | some l => exact (h.ledger hl).balance

/-- Batches are numbered from zero without gaps, in the order in which they are cut. -/
theorem Lane.Balanced.tickets_eq {lane : Lane κ} {hs : List Happening} (h : lane.Balanced id hs) :
    (cutsOf id hs).map (·.1) = List.range (cutsOf id hs).length := by
  cases hl : lane.logger with
  | none => simp [cutsOf, h.absent hl]
  | some l => rw [(h.ledger hl).tickets, (h.ledger hl).cut_eq]

/-- A batch being delivered is one of those cut. -/
theorem System.Delivers.lt_cuts {s : System σ κ ρ} {lane : Lane κ} {hs : List Happening}
    {t : ThreadId} {k : Nat} (h : s.Delivers id t k) (views : s.Views id lane)
    (orderly : lane.Orderly) (balanced : lane.Balanced id hs) : k < (cutsOf id hs).length := by
  obtain ⟨st, hst, hticket, -⟩ := h.exists_station views
  obtain ⟨l, hl, owned⟩ := orderly.exists_logger hst
  have hlane : lane.ticket? t = some k := by simp [Lane.ticket?, hst, hticket]
  rw [(balanced.ledger hl).cut_eq]
  exact (owned.bounds hlane).2

/-- Along any schedule, from where the logger is unused: the batches cut, in the order of their
numbers, and after them what is pending, are exactly the log calls carried out, in the order in
which they took the buffer. Numbers go up from zero without gaps and no batch is empty. What is
logged from when batch `k` is under delivery on, by its sinks or by others, is in none of the
batches up to `k`: these hold what was logged before. And a trace message is a log call exactly
while the debug flag is up. -/
theorem entries_conserved {s₀ s₁ s : System σ κ ρ} {first later : List ThreadId}
    {before after : List Happening} (unused : s₀.Unused id)
    (run : s₀.follow host first = some (s₁, before))
    (rest : s₁.follow host later = some (s, after)) :
    ((cutsOf id (before ++ after)).flatMap (·.2) ++ s.pending id).map Entry.said =
        s₀.logCalls host id first ++ s₁.logCalls host id later ∧
      (cutsOf id (before ++ after)).map (·.1) =
        List.range (cutsOf id (before ++ after)).length ∧
      (∀ c ∈ cutsOf id (before ++ after), c.2 ≠ []) ∧
      (∀ t k, s₁.Delivers id t k →
        (((cutsOf id (before ++ after)).take (k + 1)).flatMap (·.2)).map Entry.said <+:
          s₀.logCalls host id first) ∧
      ∀ (w : Session.World) (slot : Nat) (text : String), w.ask (.trace slot text) =
        if w.context.debug then w.ask (.log slot text .trace) else .nothing := by
  have run₁ := System.steps_of_follow run
  have run₂ := run₁.trans (System.steps_of_follow rest)
  obtain ⟨start₁, mid, fresh₁, runs₁, views₁⟩ := run₁.lane_of_unused unused
  obtain ⟨start₂, last, fresh₂, runs₂, views₂⟩ := run₂.lane_of_unused unused
  have balanced₁ := runs₁.balanced fresh₁
  have balanced₂ := runs₂.balanced fresh₂
  refine ⟨?_, balanced₂.tickets_eq, ?_, ?_, ?_⟩
  · rw [balanced₂.pending_eq views₂, entriesOf_append, List.map_append,
      System.entriesOf_follow run, System.entriesOf_follow rest]
  · cases hl : last.logger with
    | none => simp [cutsOf, balanced₂.absent hl]
    | some l => exact (balanced₂.ledger hl).filled
  · intro t k hk
    have hlt := hk.lt_cuts views₁ (runs₁.orderly fresh₁) balanced₁
    have htake : (cutsOf id (before ++ after)).take (k + 1) = (cutsOf id before).take (k + 1) := by
      rw [cutsOf_append, List.take_append_of_le_length hlt]
    rw [htake, ← System.entriesOf_follow run, ← balanced₁.pending_eq views₁]
    have hprefix : (cutsOf id before).take (k + 1) <+: cutsOf id before := List.take_prefix ..
    obtain ⟨others, hothers⟩ := hprefix
    refine ⟨(others.flatMap (·.2) ++ s₁.pending id).map Entry.said, ?_⟩
    rw [← List.map_append, ← List.append_assoc, ← List.flatMap_append, hothers]
  · intro w slot text
    rfl

/-- Thread 1 cuts a batch of its own while the first sink is about to call back inside batch 0. -/
theorem entries_conserved_echo : ∃ s₁ s before after, System.echo.Unused 0 ∧
    System.echo.follow .echo [0, 0, 1, 1, 0, 0] = some (s₁, before) ∧
    s₁.follow .echo (List.replicate 11 0 ++ [1]) = some (s, after) ∧
    ((cutsOf 0 (before ++ after)).flatMap (·.2) ++ s.pending 0).map Entry.said =
      [("x", .info), ("y", .error), ("z", .trace), ("echo", .warning)] ∧
    s₁.Delivers 0 0 0 ∧
    (((cutsOf 0 (before ++ after)).take 1).flatMap (·.2)).map Entry.said <+:
      [("x", .info), ("y", .error), ("z", .trace)] := by
  have conserved := @entries_conserved _ _ _ .echo 0 .echo _ _ [0, 0, 1, 1, 0, 0]
    (List.replicate 11 0 ++ [1]) _ _ System.echo_unused rfl rfl
  obtain ⟨said, -, -, before_began, -⟩ := conserved
  refine ⟨_, _, _, _, System.echo_unused, rfl, rfl, said, ?delivers, before_began 0 0 ?delivers⟩
  exact ⟨.delivering _ 0 _ _ _, .tail _ (.head _), rfl, rfl⟩

end BatchedLog
