import BatchedLog.Proofs.Session.Custody
import Mathlib.Algebra.GroupWithZero.Nat

/-!
# Metrics conserve entries

The counters only ever see what happens in the pipeline, one happening after the other. Against them
stands what can be found out without them: the batches that were cut and dispatched, what is pending
in loggers that are live, what was pending in a logger when it went, and how the sinks ended that
were handed a batch. `Audited` is that comparison in the midst of a run; where no call is under way,
`metrics_conserve_entries` comes of it.
-/

namespace BatchedLog

/-- How many of the entries are of a level. -/
def inLevel (level : Level) (es : List Entry) : Nat := es.countP fun e => e.level = level

/-! ## What the counters have seen -/

namespace Metrics

/-- How many deliveries to sinks of this name have failed. -/
def failed (m : Metrics) (name : String) : Nat := (m.failures.lookup name).getD 0

theorem lookup_bump (name other : String) (failures : List (String × Nat)) :
    ((bump name failures).lookup other).getD 0 =
      (failures.lookup other).getD 0 + [name].count other := by
  induction failures with
  | nil =>
    by_cases h : other = name
    · simp [bump, h]
    · have hbeq : (other == name) = false := beq_false_of_ne h
      simp [bump, List.lookup_cons, hbeq, Ne.symm h]
  | cons head rest ih =>
    obtain ⟨n, k⟩ := head
    unfold bump
    split
    · rename_i hn
      subst hn
      by_cases h : other = n
      · simp [h]
      · have hbeq : (other == n) = false := beq_false_of_ne h
        simp [List.lookup_cons, hbeq, Ne.symm h]
    · rename_i hn
      by_cases h : other = n
      · simp [h, Ne.symm hn]
      · have hbeq : (other == n) = false := beq_false_of_ne h
        simpa only [List.lookup_cons, hbeq] using ih

theorem entries_record (m : Metrics) (h : Happening) (level : Level) :
    (m.record h).entries level = m.entries level + inLevel level (acceptedIn [h]) := by
  cases h with
  | accepted id e =>
    by_cases hl : level = e.level
    · simp [record, inLevel, acceptedIn, Happening.entry?, hl]
    · simp [record, inLevel, acceptedIn, Happening.entry?, hl, Ne.symm hl]
  | _ => rfl

theorem entries_recorded (hs : List Happening) : ∀ (m : Metrics) (level : Level),
    (hs.foldl record m).entries level = m.entries level + inLevel level (acceptedIn hs) := by
  induction hs with
  | nil => exact fun _ _ => rfl
  | cons h hs ih =>
    intro m level
    have hcons : acceptedIn (h :: hs) = acceptedIn [h] ++ acceptedIn hs := acceptedIn_append [h] hs
    rw [List.foldl_cons, ih, entries_record, hcons, inLevel, inLevel, inLevel, List.countP_append,
      Nat.add_assoc]

theorem batches_recorded (hs : List Happening) : ∀ m : Metrics,
    (hs.foldl record m).batches = m.batches + (begunIn hs).length := by
  induction hs with
  | nil => exact fun _ => rfl
  | cons h hs ih =>
    intro m
    have hcons : begunIn (h :: hs) = begunIn [h] ++ begunIn hs := begunIn_append [h] hs
    have hrecord : (m.record h).batches = m.batches + (begunIn [h]).length := by
      cases h <;> rfl
    rw [List.foldl_cons, ih, hrecord, hcons, List.length_append, Nat.add_assoc]

theorem batchSizes_recorded (hs : List Happening) : ∀ m : Metrics,
    (hs.foldl record m).batchSizes.toList =
      m.batchSizes.toList ++ (begunIn hs).map List.length := by
  induction hs with
  | nil => exact fun m => (List.append_nil _).symm
  | cons h hs ih =>
    intro m
    have hcons : begunIn (h :: hs) = begunIn [h] ++ begunIn hs := begunIn_append [h] hs
    have hrecord : (m.record h).batchSizes.toList =
        m.batchSizes.toList ++ (begunIn [h]).map List.length := by
      cases h with
      | began id ticket batch sinks => exact Array.toList_push
      | _ => exact (List.append_nil _).symm
    rw [List.foldl_cons, ih, hrecord, hcons, List.map_append, List.append_assoc]

theorem failed_recorded (hs : List Happening) : ∀ (m : Metrics) (name : String),
    (hs.foldl record m).failed name = m.failed name + (failedIn hs).count name := by
  induction hs with
  | nil => exact fun _ _ => rfl
  | cons h hs ih =>
    intro m name
    have hcons : failedIn (h :: hs) = failedIn [h] ++ failedIn hs := failedIn_append [h] hs
    have hrecord : (m.record h).failed name = m.failed name + (failedIn [h]).count name := by
      cases h with
      | failed id ticket failure => exact lookup_bump ..
      | _ => rfl
    rw [List.foldl_cons, ih, hrecord, hcons, List.count_append, Nat.add_assoc]

end Metrics

namespace Session

/-! ## Runs of a session -/

/-- What is kept of a run: what happened, the loggers that went with what was pending in them, and
the names of the sinks that were handed a batch they could not end well. -/
structure Tally where
  happenings : List Happening
  dropped : List (LoggerId × List Entry)
  refused : List String

namespace Tally

def empty : Tally := ⟨[], [], []⟩

def append (a b : Tally) : Tally :=
  ⟨a.happenings ++ b.happenings, a.dropped ++ b.dropped, a.refused ++ b.refused⟩

theorem append_empty (a : Tally) : a.append empty = a := by
  simp [append, empty]

theorem append_assoc (a b c : Tally) : (a.append b).append c = a.append (b.append c) := by
  simp [append]

end Tally

def pendingOf (m : Machine) (l : LoggerId) : List Entry :=
  ((m.plant.loggers[l]?).map (·.buffer.pending)).getD []

section

variable (clock : Nat → Instant)

/-- One step of a thread, and what settles after it. -/
def pass (m : Machine) (t : ThreadId) : Option (Machine × Tally) :=
  match m.step (host clock) t with
  | none => none
  | some (u, now) =>
    some (settle u, ⟨now, (leaving u).map fun l => (l, pendingOf u l), m.refused (host clock) t⟩)

/-- The threads of a schedule take a step each, in this order. -/
def passes : List ThreadId → Machine → Option (Machine × Tally)
  | [], m => some (m, .empty)
  | t :: schedule, m =>
    match pass clock m t with
    | none => none
    | some (next, now) =>
      match passes schedule next with
      | none => none
      | some (last, later) => some (last, now.append later)

end

variable {clock : Nat → Instant} {first m u : Machine} {t : ThreadId} {tally now : Tally}

theorem passes_cons {next : Machine} {schedule : List ThreadId} {later : Tally}
    (hpass : pass clock m t = some (next, now))
    (hrun : passes clock schedule next = some (u, later)) :
    passes clock (t :: schedule) m = some (u, now.append later) := by
  simp only [passes, hpass, hrun]

/-- What drives a session takes such steps. -/
theorem exists_passes_of_drive (clock : Nat → Instant) (fuel : Nat) :
    ∀ (t : ThreadId) (m : Machine), ∃ schedule tally,
      passes clock schedule m = some (System.drive (host clock) settle fuel t m, tally) := by
  induction fuel with
  | zero => exact fun t m => ⟨[], .empty, rfl⟩
  | succ fuel ih =>
    intro t m
    unfold System.drive
    split
    · rename_i next now hstep
      obtain ⟨schedule, tally, h⟩ := ih (if m.threads.length < next.threads.length then
        m.threads.length else t) (settle next)
      have hpass : pass clock m t = some (settle next,
          ⟨now, (leaving next).map fun l => (l, pendingOf next l), m.refused (host clock) t⟩) := by
        simp only [pass, hstep]
      exact ⟨t :: schedule, _, passes_cons hpass h⟩
    · split
      · exact ih _ m
      · exact ⟨[], .empty, rfl⟩

/-- No counter has counted, nothing is pending, all loggers are kept, and all threads stand before
commands. -/
structure Begun (m : Machine) : Prop where
  metrics : m.plant.host.metrics = .empty
  orphans : m.plant.host.orphans = []
  kept : ∀ l : Nat, l < m.plant.loggers.length ↔ m.plant.host.books.Keeps l
  empty : ∀ l ∈ m.plant.loggers, l.buffer.pending = []
  commands : ∀ th ∈ m.threads, ∀ f ∈ th.stack, ∃ c, f = .command c

/-- A session with nothing built yet, whatever its threads are going to do. -/
theorem begun_start (disk : Disk) (programs : List (List Step)) :
    Begun ⟨start disk, programs.map fun steps => ⟨steps.map .command, none⟩⟩ where
  metrics := rfl
  orphans := rfl
  kept l := iff_of_false (Nat.not_lt_zero l) (by simp [start, World.start, World.books, Books.Keeps,
    Shared.empty])
  empty := by simp [start]
  commands := by simp

/-! ## The comparison -/

/-- After a run the three accounts are balanced, the counters have seen what happened, and what was
noted of loggers that went is still so. -/
structure Audited (first m : Machine) (tally : Tally) : Prop where
  flow : first.Flow tally.happenings tally.refused m
  metrics : m.plant.host.metrics = tally.happenings.foldl Metrics.record first.plant.host.metrics
  custody : Custody m (tally.dropped.map (·.1))
  dropped : ∀ d ∈ tally.dropped, pendingOf m d.1 = d.2

theorem Begun.audited (begun : Begun m) : Audited m m .empty where
  flow := .refl m
  metrics := rfl
  custody := by
    have horphans : m.plant.host.books.orphans = [] := begun.orphans
    refine ⟨⟨?_, ?_, ?_, ?_, .nil⟩, ?_⟩
    · intro l
      rw [begun.kept l, horphans]
      simp [Tally.empty]
    · simp [horphans]
    · simp [Tally.empty]
    · rw [horphans]
      exact .nil
    · intro l hl
      obtain ⟨th, hth, hserving⟩ := isBusy_iff.1 hl
      obtain ⟨f, hf, hloggers⟩ := List.mem_flatMap.1 hserving
      obtain ⟨c, rfl⟩ := begun.commands th hth f hf
      cases hloggers
  dropped := by simp [Tally.empty]

theorem metrics_of_step {hs : List Happening} (h : m.step (host clock) t = some (u, hs)) :
    u.plant.host.metrics = hs.foldl Metrics.record m.plant.host.metrics := by
  obtain ⟨th, out, hth, rule, hplant, hthreads, rfl⟩ := System.exists_turnout h
  obtain ⟨opened, turns, -⟩ := turns_of_rule rule
  have hout : out.plant.host.metrics = m.plant.host.metrics := turns.metrics_eq
  rw [hplant, ← hout]
  exact congrArg Books.metrics (World.books_of_outline (World.outline_observeAll ..))

/-- `settle` moves nothing. -/
theorem flow_settle {hs : List Happening} {refusals : List String}
    (h : first.Flow hs refusals m) : first.Flow hs refusals (settle m) := by
  obtain ⟨hthreads, hloggers, -⟩ := settle_cases m
  have hwaits : (settle m).waits = m.waits := by rw [System.waits, hthreads, System.waits]
  have howes : (settle m).owes = m.owes := by rw [System.owes, hthreads, System.owes]
  obtain ⟨entries, batches, failures⟩ := h
  exact ⟨hloggers ▸ entries, hwaits ▸ batches, howes ▸ failures⟩

theorem Audited.pass (h : Audited first m tally) (hpass : pass clock m t = some (u, now)) :
    Audited first u (tally.append now) := by
  unfold Session.pass at hpass
  split at hpass
  · cases hpass
  · rename_i next hs hstep
    cases hpass
    obtain ⟨custody, hgone⟩ := h.custody.step hstep
    obtain ⟨-, hloggers, hbooks⟩ := settle_cases next
    have hpending : ∀ l, pendingOf (settle next) l = pendingOf next l := by
      intro l
      rw [pendingOf, hloggers, pendingOf]
    refine ⟨?_, ?_, ?_, ?_⟩
    · exact flow_settle (h.flow.trans (System.flow_of_step hstep))
    · have hmetrics : (settle next).plant.host.metrics = next.plant.host.metrics :=
        congrArg Books.metrics hbooks
      rw [hmetrics, metrics_of_step hstep, h.metrics]
      exact List.foldl_append.symm
    · have hids : (tally.append ⟨hs, (leaving next).map fun l => (l, pendingOf next l),
          m.refused (host clock) t⟩).dropped.map (·.1) =
          tally.dropped.map (·.1) ++ leaving next := by
        simp [Tally.append, Function.comp_def]
      rw [hids]
      exact custody.settle
    · intro d hd
      rw [hpending]
      rcases List.mem_append.1 hd with hd | hd
      · rw [← h.dropped d hd, pendingOf, pendingOf, hgone d.1 (List.mem_map_of_mem hd)]
      · obtain ⟨l, -, rfl⟩ := List.mem_map.1 hd
        rfl

theorem Audited.passes {schedule : List ThreadId} :
    ∀ {m tally now}, Audited first m tally → passes clock schedule m = some (u, now) →
      Audited first u (tally.append now) := by
  induction schedule with
  | nil =>
    intro m tally now h hrun
    cases hrun
    rw [Tally.append_empty]
    exact h
  | cons t rest ih =>
    intro m tally now h hrun
    unfold Session.passes at hrun
    split at hrun
    · cases hrun
    · rename_i next here hpass
      split at hrun
      · cases hrun
      · rename_i last later hrest
        cases hrun
        rw [← Tally.append_assoc]
        exact ih (h.pass hpass) hrest

/-! ## What is pending -/

/-- Whether a slot, the process, or a call under way holds the logger. -/
def isLive (w : World) (l : LoggerId) : Bool :=
  w.slots.contains (some l) || w.shared.logger == some l || w.orphans.contains l

theorem isLive_iff {w : World} {l : LoggerId} :
    isLive w l = true ↔ w.books.Keeps l ∨ l ∈ w.books.orphans := by
  simp [isLive, Books.Keeps, World.books]

/-- The loggers that are live. -/
def live (m : Machine) : List LoggerId :=
  (List.range m.plant.loggers.length).filter (isLive m.plant.host)

/-- The entries pending in live loggers. -/
def pendingLive (m : Machine) : List Entry := (live m).flatMap (pendingOf m)

theorem pendingIn_eq (m : Machine) :
    pendingIn m.plant.loggers = (List.range m.plant.loggers.length).flatMap (pendingOf m) := by
  have hmap : m.plant.loggers.map (·.buffer.pending) =
      (List.range m.plant.loggers.length).map (pendingOf m) := by
    apply List.ext_getElem
    · simp
    · intro i hi hi'
      have hlt : i < m.plant.loggers.length := by simpa using hi
      simp [pendingOf, hlt]
  rw [pendingIn, List.flatMap_def, List.flatMap_def, hmap]

/-- Each logger is live or gone. -/
theorem Custody.perm {gone : List LoggerId} (h : Custody m gone) :
    (List.range m.plant.loggers.length).Perm (live m ++ gone) := by
  have hlive : ∀ l : Nat, l ∈ live m ↔
      m.plant.host.books.Keeps l ∨ l ∈ m.plant.host.books.orphans := by
    intro l
    rw [live, List.mem_filter, List.mem_range, isLive_iff, h.books.somewhere l]
    exact and_iff_right_of_imp fun hl => hl.imp_right .inl
  have hnodup : (live m ++ gone).Nodup := by
    refine List.nodup_append.2 ⟨List.nodup_range.filter _, h.books.gone_nodup, ?_⟩
    rintro l hl l' hl' rfl
    have hlost := h.books.lost l hl'
    rcases (hlive l).1 hl with hkept | horphan
    · exact hlost.1 hkept
    · exact hlost.2 horphan
  rw [List.perm_ext_iff_of_nodup List.nodup_range hnodup]
  intro l
  rw [List.mem_range, List.mem_append, hlive, h.books.somewhere l, or_assoc]

/-- What is pending is so in a live logger, or was when its logger went. -/
theorem Audited.pending (h : Audited first m tally) :
    (pendingIn m.plant.loggers).Perm (pendingLive m ++ tally.dropped.flatMap (·.2)) := by
  have hgone : (tally.dropped.map (·.1)).flatMap (pendingOf m) = tally.dropped.flatMap (·.2) := by
    rw [List.flatMap_map, List.flatMap_def, List.flatMap_def, List.map_congr_left h.dropped]
  have hperm := h.custody.perm.flatMap_right (pendingOf m)
  rwa [List.flatMap_append, hgone, ← pendingIn_eq] at hperm

/-! ## Conservation -/

/-- A trace command while tracing is off does nothing that is counted. -/
theorem trace_suppressed {i : Nat} {text : String} {rest : List (Frame Step)}
    (htrace : m.stack t = .command (.trace i text) :: rest)
    (hdebug : m.plant.host.context.debug = false) (hpass : pass clock m t = some (u, now)) :
    now.happenings = [] ∧ now.refused = [] ∧ u.plant.loggers = m.plant.loggers ∧
      u.plant.host.metrics = m.plant.host.metrics := by
  have hask : (host clock).ask m.plant.host (.trace i text) = .nothing := by
    simp [host, World.ask, hdebug]
  have hperform : (host clock).perform m.plant.host m.plant.loggers (.trace i text) =
      m.plant.host.plainly (m.plant.host.ofLogger m.plant.loggers i fun _ => .done) := rfl
  unfold pass at hpass
  split at hpass
  · cases hpass
  · rename_i next hs hstep
    cases hpass
    obtain ⟨-, hsettled, hbooks⟩ := settle_cases next
    have hmetrics := metrics_of_step hstep
    obtain ⟨th, out, hth, rule, hplant, -, rfl⟩ := System.exists_turnout hstep
    rw [← System.stack_of_getElem hth, htrace] at rule
    have hrefused : m.refused (host clock) t = [] := by
      rw [System.refused, htrace]
      rfl
    cases rule with
    | perform _ hp =>
      cases hperform.symm.trans hp
      refine ⟨rfl, hrefused, ?_, (congrArg Books.metrics hbooks).trans hmetrics⟩
      rw [hsettled, hplant, Machine.loggers_finish]
      exact List.append_nil _
    | askLog h => cases hask.symm.trans h
    | askFlush h => cases hask.symm.trans h
    | askBurst h => cases hask.symm.trans h
    | askSpawn h => cases hask.symm.trans h
    | askCrowd h => cases hask.symm.trans h

/-- The counters of a run of any threads in any order, from where they stood at zero to where no
call is under way. Entries are counted once each: they were dispatched, are pending in a live
logger, or were so when theirs was dropped. Batches are counted as they were cut, with their sizes,
failures as sinks came to a bad end; and a trace command while tracing is off counts nowhere. -/
theorem metrics_conserve_entries {schedule : List ThreadId} (begun : Begun m)
    (run : passes clock schedule m = some (u, tally)) (idle : ∀ id, u.Idle id) :
    (∀ level, u.plant.host.metrics.entries level =
      inLevel level (begunIn tally.happenings).flatten + inLevel level (pendingLive u) +
        inLevel level (tally.dropped.flatMap (·.2))) ∧
    (u.plant.host.metrics.batches = (cutIn tally.happenings).length ∧
      u.plant.host.metrics.batchSizes.size = u.plant.host.metrics.batches ∧
      u.plant.host.metrics.batchSizes.toList.sum = (begunIn tally.happenings).flatten.length) ∧
    (∀ name, u.plant.host.metrics.failed name = tally.refused.count name) ∧
    ∀ (v w : Machine) (t : ThreadId) (i : Nat) (text : String) (rest : List (Frame Step))
      (now : Tally), v.stack t = .command (.trace i text) :: rest →
      v.plant.host.context.debug = false → pass clock v t = some (w, now) →
      now.happenings = [] ∧ now.refused = [] ∧ w.plant.loggers = v.plant.loggers ∧
        w.plant.host.metrics = v.plant.host.metrics := by
  have audited : Audited m u tally := begun.audited.passes run
  have idle' : ∀ id, m.Idle id := by
    intro id th hth f hf
    obtain ⟨c, rfl⟩ := begun.commands th hth f hf
    rfl
  have hnone : pendingIn m.plant.loggers = [] := List.flatMap_eq_nil_iff.2 begun.empty
  obtain ⟨hbatches, hentries, hfailures⟩ := audited.flow.of_idle hnone idle' idle
  have hmetrics := audited.metrics
  rw [begun.metrics] at hmetrics
  have hcount : u.plant.host.metrics.batches = (begunIn tally.happenings).length := by
    rw [hmetrics, Metrics.batches_recorded]
    exact Nat.zero_add _
  have hsizes : u.plant.host.metrics.batchSizes.toList =
      (begunIn tally.happenings).map List.length := by
    rw [hmetrics, Metrics.batchSizes_recorded]
    rfl
  refine ⟨?_, ⟨?_, ?_, ?_⟩, ?_, fun _ _ _ _ _ _ _ => trace_suppressed⟩
  · intro level
    have haccepted : u.plant.host.metrics.entries level =
        inLevel level (acceptedIn tally.happenings) := by
      rw [hmetrics, Metrics.entries_recorded]
      exact Nat.zero_add _
    have hspread :=
      (audited.pending.append_right (begunIn tally.happenings).flatten).symm.trans hentries
    rw [haccepted, inLevel, ← hspread.countP_eq, List.countP_append, List.countP_append]
    unfold inLevel
    omega
  · rw [hcount, hbatches.length_eq]
  · rw [hcount, ← Array.length_toList, hsizes, List.length_map]
  · rw [hsizes, List.length_flatten]
  · intro name
    have hfailed : u.plant.host.metrics.failed name = (failedIn tally.happenings).count name := by
      rw [hmetrics, Metrics.failed_recorded]
      exact Nat.zero_add _
    rw [hfailed, hfailures.count_eq]

/-- A logger of interval 2 with a bold sink and a memory sink, and one that is only flushed by hand
and has none. The bold sink logs and drops the second logger from inside its batch, and panics. -/
def leaky : Machine where
  plant :=
    { loggers := [.start ⟨2⟩ [⟨"bold", 0⟩, ⟨"kept", 1⟩], .start ⟨0⟩ []]
      dispatched := 0
      readings := 0
      host :=
        { World.start .empty with
          sinks := [
            .scripted "bold" [⟨[.log 0 "again" .warning, .drop 1], .unwound .other⟩],
            .memory "kept" []]
          slots := [some 0, some 1] } }
  threads := [
    ⟨[.command (.log 0 "x" .info), .command (.trace 0 "no"), .command (.log 0 "y" .error)], none⟩,
    ⟨[.command (.log 1 "left" .info)], none⟩]

theorem leaky_begun : Begun leaky where
  metrics := rfl
  orphans := rfl
  kept l := by
    have hkeeps : leaky.plant.host.books.Keeps l ↔ l = 0 ∨ l = 1 := by
      simp [leaky, World.books, Books.Keeps, World.start, Shared.empty]
    have hlength : leaky.plant.loggers.length = 2 := rfl
    rw [hkeeps, hlength]
    omega
  empty := by decide
  commands := by simp [leaky]

/-- An entry is dropped with the second logger, one stays pending in the first, and one batch is
dispatched. -/
theorem metrics_conserve_entries_leaky : Begun leaky ∧ ∃ u tally,
    passes (fun n => ⟨n⟩) ([1, 1] ++ List.replicate 17 0) leaky = some (u, tally) ∧
      (∀ id, u.Idle id) ∧ u.plant.host.metrics.entries .info = 1 + 0 + 1 ∧
      u.plant.host.metrics.entries .warning = 0 + 1 + 0 ∧
      u.plant.host.metrics.entries .trace = 0 + 0 + 0 ∧ u.plant.host.metrics.batches = 1 ∧
      u.plant.host.metrics.failed "bold" = 1 := by
  have figures : (passes (fun n => ⟨n⟩) ([1, 1] ++ List.replicate 17 0) leaky).map (fun r =>
      (r.1.threads.all (·.stack.isEmpty),
        [(begunIn r.2.happenings).flatten, pendingLive r.1, r.2.dropped.flatMap (·.2)].map fun es =>
          Level.all.map (inLevel · es),
        (cutIn r.2.happenings).length, r.2.refused)) =
      some (true, [[1, 0, 1, 0], [0, 1, 0, 0], [0, 0, 1, 0]], 1, ["bold"]) := by
    decide +kernel
  obtain ⟨⟨u, tally⟩, run, hfigures⟩ := Option.map_eq_some_iff.1 figures
  simp only [Level.all, List.map_cons, List.map_nil, Prod.mk.injEq, List.cons.injEq, and_true]
    at hfigures
  obtain ⟨hdone, ⟨hbegun, hlive, hdropped⟩, hcut, hrefused⟩ := hfigures
  have idle : ∀ id, u.Idle id := by
    intro id th hth f hf
    have hnil : th.stack = [] := List.isEmpty_iff.1 (List.all_eq_true.1 hdone th hth)
    rw [hnil] at hf
    cases hf
  obtain ⟨hentries, ⟨hbatches, -, -⟩, hfailed, -⟩ := metrics_conserve_entries leaky_begun run idle
  refine ⟨leaky_begun, u, tally, run, idle, ?_, ?_, ?_, ?_, ?_⟩
  · rw [hentries, hbegun.2.2.1, hlive.2.2.1, hdropped.2.2.1]
  · rw [hentries, hbegun.2.1, hlive.2.1, hdropped.2.1]
  · rw [hentries, hbegun.2.2.2, hlive.2.2.2, hdropped.2.2.2]
  · rw [hbatches, hcut]
  · rw [hfailed, hrefused]
    rfl

end Session

end BatchedLog
