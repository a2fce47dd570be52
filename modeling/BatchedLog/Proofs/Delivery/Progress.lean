import BatchedLog.Proofs.Delivery.Ranks
import BatchedLog.Proofs.Delivery.Turns

/-!
# Deadlock freedom

A blocked thread waits for its turn at a logger, or for other threads to end. Whose turn it is at
the logger has a call on it under way; blocked itself, that thread would wait at a logger of lower
rank, and so on down. And of the threads that wait for others the last has nobody to wait for.
-/

namespace BatchedLog

variable {σ κ ρ : Type}

/-! ## Blocked threads -/

namespace Machine

variable {host : Host σ κ ρ}

/-- Why a thread cannot take a step. -/
inductive Blocked (p : Plant σ) (done : List Bool) : List (Frame κ) → Prop
  | finished : Blocked p done []
  | joining {threads rest t} : t ∈ threads → done.getD t true = false →
      Blocked p done (.joining threads :: rest)
  | waiting {call k es rest l} : p.loggers[call.logger]? = some l → l.turn ≠ k →
      Blocked p done (.waiting call k es :: rest)
  | nowhere {f rest id} : f.serves id = true → p.loggers[id]? = none → Blocked p done (f :: rest)

theorem blocked_of_stepStack {p : Plant σ} {done : List Bool} {stack : List (Frame κ)}
    (h : stepStack host p done stack = none) : Blocked p done stack := by
  cases stack with
  | nil => exact .finished
  | cons f rest =>
    cases f with
    | joining threads =>
      obtain ⟨t, ht, hdone⟩ : ∃ t ∈ threads, done.getD t true = false := by
        simpa [stepStack] using h
      exact .joining ht hdone
    | waiting call k es =>
      cases hl : p.loggers[call.logger]? with
      | none => exact .nowhere (beq_self_eq_true _) hl
      | some l =>
        refine .waiting hl ?_
        intro hturn
        simp [stepStack, hl, hturn] at h
    | delivering call k b left failures =>
      cases left with
      | cons w left => simp [stepStack] at h
      | nil =>
        cases hl : p.loggers[call.logger]? with
        | none => exact .nowhere (beq_self_eq_true _) hl
        | some l => simp [stepStack, hl] at h
    | draining call =>
      cases hl : p.loggers[call.logger]? with
      | none => exact .nowhere (beq_self_eq_true _) hl
      | some l => simp [stepStack, hl] at h
    | receiving sink todo ending =>
      cases todo with
      | cons c todo => simp [stepStack] at h
      | nil =>
        cases rest with
        | nil => simp [stepStack] at h
        | cons g below => cases g <;> simp [stepStack] at h
    | command c => simp [stepStack] at h
    | log id message level =>
      cases hl : p.loggers[id]? with
      | none => simp [stepStack, hl] at h
      | some l =>
        simp only [stepStack, hl] at h
        split at h <;> cases h
    | flush id =>
      cases hl : p.loggers[id]? with
      | none => simp [stepStack, hl] at h
      | some l =>
        simp only [stepStack, hl] at h
        split at h <;> cases h
    | burst id text level next count failed =>
      simp only [stepStack] at h
      split at h <;> cases h

end Machine

namespace System

variable {host : Host σ κ ρ} {rank : LoggerId → Nat} {s : System σ κ ρ}

theorem blocked_of_canStep {t : ThreadId} (h : s.canStep host t = false) :
    Machine.Blocked s.plant s.done (s.stack t) := by
  have hstep : s.step host t = none := by simpa [canStep] using h
  unfold step at hstep
  split at hstep
  · rename_i ht
    rw [stack, ht]
    exact .finished
  · rename_i thread ht
    split at hstep
    · rename_i hout
      rw [stack, ht]
      exact Machine.blocked_of_stepStack hout
    · cases hstep

/-- Threads that do not exist count as done. -/
theorem done_getD (s : System σ κ ρ) (t : ThreadId) :
    s.done.getD t true = (s.stack t).isEmpty := by
  unfold done stack
  rw [List.getD_eq_getElem?_getD, List.getElem?_map]
  cases s.threads[t]? with
  | none => rfl
  | some th => rfl

theorem Ready.unused (h : s.Ready) (id : LoggerId) : s.Unused id := by
  refine ⟨fun l hl => h.loggers l (List.mem_of_getElem? hl), ?_⟩
  intro th hth f hf
  have hcall := h.calls th hth f hf
  cases f with
  | waiting => cases hcall
  | delivering => cases hcall
  | draining => cases hcall
  | _ => rfl

variable {id : LoggerId} {lane : Lane κ} {t : ThreadId}

/-- Who is in a call on a logger is so on one that is there. -/
theorem Views.exists_logger {f : Frame κ} (view : s.Views id lane) (orderly : lane.Orderly)
    (hf : f ∈ s.stack t) (hserves : f.serves id = true) :
    ∃ l, s.plant.loggers[id]? = some l ∧ lane.Owned l := by
  obtain ⟨st, hst, -⟩ := (view.stands t).of_serves hf hserves
  obtain ⟨l, hl, owned⟩ := orderly.exists_logger hst
  exact ⟨l, view.logger.trans hl, owned⟩

/-- A blocked thread that has a turn waits at a logger of lower rank. -/
theorem exists_lower {st : Station κ}
    (views : ∀ id, ∃ lane : Lane κ, s.Views id lane ∧ lane.Orderly) (view : s.Views id lane)
    (hst : lane.station t = some st) (hin : st.phase.inTurn = true)
    (blocked : Machine.Blocked s.plant s.done (s.stack t))
    (stacked : Stacked (LoggerId.Under rank) t (s.stack t)) :
    ∃ call k es rest, s.stack t = .waiting call k es :: rest ∧ rank call.logger < rank id := by
  have stands := hst ▸ view.stands t
  obtain ⟨above, f, hstack, -, -, hdelivers⟩ := stands.exists_frame
  have hf : f ∈ s.stack t := by simp [hstack]
  rw [hin] at hdelivers
  generalize hs : s.stack t = stack at blocked
  rw [hs] at stacked stands hf
  cases blocked with
  | finished => cases hf
  | joining =>
    obtain ⟨⟨outside, -⟩, -⟩ := stacked
    rcases List.mem_cons.1 hf with rfl | hf
    · cases hdelivers
    · rw [outside f hf id] at hdelivers
      cases hdelivers
  | @waiting call k es rest =>
    refine ⟨call, k, es, rest, rfl, ?_⟩
    obtain ⟨clears, -⟩ := stacked
    rcases List.mem_cons.1 hf with rfl | hf
    · cases hdelivers
    · rcases clears f hf id hdelivers with hid | hlower
      · -- A call that waits at the logger itself is not delivering.
        obtain ⟨st', hst', -, hturn⟩ := stands.of_serves (.head _) (beq_iff_eq.2 hid)
        obtain rfl : st = st' := Option.some.inj hst'
        rw [hin] at hturn
        cases hturn
      · exact hlower
  | @nowhere g rest other hserves hnone =>
    have hg : g ∈ s.stack t := by simp [hs]
    obtain ⟨otherLane, otherView, orderly⟩ := views other
    obtain ⟨l, hl, -⟩ := otherView.exists_logger orderly hg hserves
    rw [hnone] at hl
    cases hl

/-- Where every thread is blocked, none waits for its turn: the owner of the turn would wait at a
logger of lower rank. -/
theorem not_waiting (blocked : ∀ t, Machine.Blocked s.plant s.done (s.stack t))
    (stacked : ∀ t, Stacked (LoggerId.Under rank) t (s.stack t))
    (views : ∀ id, ∃ lane : Lane κ, s.Views id lane ∧ lane.Orderly) :
    ∀ n t call k es rest, rank call.logger = n → s.stack t ≠ .waiting call k es :: rest := by
  intro n
  induction n using Nat.strongRecOn with
  | ind n ih =>
    intro t call k es rest hn hstack
    obtain ⟨lane, view, orderly⟩ := views call.logger
    have hserves : (Frame.waiting call k es : Frame κ).serves call.logger = true :=
      beq_self_eq_true _
    have hmem : .waiting call k es ∈ s.stack t := hstack ▸ .head _
    obtain ⟨l, hl, owned⟩ := view.exists_logger orderly hmem hserves
    obtain ⟨st, hst, hticket, -⟩ := (view.stands t).of_serves hmem hserves
    have hk := owned.bounds (k := k) (t := t)
      (by simp [Lane.ticket?, hst, ← hticket, Frame.ticket?])
    obtain ⟨u, hu⟩ := owned.owner (Nat.le_refl _) (Nat.lt_of_le_of_lt hk.1 hk.2)
    obtain ⟨su, hsu, hphase⟩ := Option.bind_eq_some_iff.1 hu
    obtain ⟨call', below, phase⟩ := su
    cases phase with
    | draining => cases hphase
    | delivering =>
      obtain ⟨call₂, k₂, es₂, rest₂, hstack₂, hlower⟩ :=
        exists_lower views view hsu rfl (blocked u) (stacked u)
      exact ih _ (hn ▸ hlower) u call₂ k₂ es₂ rest₂ rfl hstack₂
    | receiving =>
      obtain ⟨call₂, k₂, es₂, rest₂, hstack₂, hlower⟩ :=
        exists_lower views view hsu rfl (blocked u) (stacked u)
      exact ih _ (hn ▸ hlower) u call₂ k₂ es₂ rest₂ rfl hstack₂
    | waiting m es' =>
      -- The owner waits as well, though it is its turn.
      obtain rfl : m = l.turn := Option.some.inj hphase
      obtain ⟨htop, hid⟩ := (hsu ▸ view.stands u).of_waiting
      have hblocked := htop ▸ blocked u
      cases hblocked with
      | waiting hl' hne =>
        rw [hid, hl] at hl'
        obtain rfl := Option.some.inj hl'
        exact hne rfl
      | nowhere hserves' hnone =>
        obtain rfl := beq_iff_eq.1 hserves'
        rw [hid, hl] at hnone
        cases hnone

/-- Threads that all wait for later threads to end have all ended. -/
theorem stack_eq_nil (blocked : ∀ t, Machine.Blocked s.plant s.done (s.stack t))
    (stacked : ∀ t, Stacked (LoggerId.Under rank) t (s.stack t))
    (views : ∀ id, ∃ lane : Lane κ, s.Views id lane ∧ lane.Orderly) :
    ∀ n t, s.threads.length - t ≤ n → s.stack t = [] := by
  intro n
  induction n with
  | zero =>
    intro t ht
    have hle : s.threads.length ≤ t := Nat.sub_eq_zero_iff_le.1 (Nat.le_zero.1 ht)
    simp [stack, List.getElem?_eq_none hle]
  | succ n ih =>
    intro t ht
    generalize hs : s.stack t = top
    have hblocked := hs ▸ blocked t
    cases hblocked with
    | finished => rfl
    | @joining threads rest u hu hdone =>
      obtain ⟨⟨-, later⟩, -⟩ := hs ▸ stacked t
      have hlt : t < u := later u hu
      have hnil := ih u (by omega)
      rw [done_getD, hnil] at hdone
      cases hdone
    | waiting => exact absurd hs (not_waiting blocked stacked views _ t _ _ _ _ rfl)
    | @nowhere g rest id hserves hnone =>
      have hg : g ∈ s.stack t := by simp [hs]
      obtain ⟨lane, view, orderly⟩ := views id
      obtain ⟨l, hl, -⟩ := view.exists_logger orderly hg hserves
      rw [hnone] at hl
      cases hl

end System

/-- Let the sinks of each logger log and flush only through the logger itself or loggers of lower
rank, and wait for nothing else. Then from where the threads are before their calls, in whatever
order they go on and whether sinks fail or not: as long as a thread has not finished, some thread
can take a step. -/
theorem exists_canStep {host : Host σ κ ρ} {rank : LoggerId → Nat} {s₀ s : System σ κ ρ}
    {hs : List Happening} (ready : s₀.Ready) (down : s₀.SinksCallDown host rank)
    (run : Steps host s₀ hs s) (unfinished : ∃ t, s.stack t ≠ []) :
    ∃ t, s.canStep host t = true := by
  apply Classical.byContradiction
  intro hnone
  have blocked : ∀ t, Machine.Blocked s.plant s.done (s.stack t) := fun t =>
    System.blocked_of_canStep (Bool.eq_false_iff.2 fun ht => hnone ⟨t, ht⟩)
  have views : ∀ id, ∃ lane : Lane κ, s.Views id lane ∧ lane.Orderly := by
    intro id
    obtain ⟨first, lane, fresh, runs, view⟩ := run.lane_of_unused (ready.unused id)
    exact ⟨lane, view, runs.orderly fresh⟩
  obtain ⟨t, ht⟩ := unfinished
  exact ht (System.stack_eq_nil blocked (ready.stacked_run down run) views _ t (Nat.le_refl _))

/-! ## Where commands come from -/

/-- The commands that a frame holds. -/
def Frame.commands : Frame κ → List κ
  | .command c => [c]
  | .receiving _ todo _ => todo
  | _ => []

namespace Machine

variable {host : Host σ κ ρ} {p : Plant σ} {done : List Bool} {stack : List (Frame κ)}
  {out : Turnout σ κ ρ} {c : κ}

theorem mem_commands_reply {q : Plant σ} {a : Answer ρ}
    (hc : c ∈ (reply host q a stack).2.stack.flatMap Frame.commands) :
    c ∈ stack.flatMap Frame.commands := by
  rwa [flatMap_reply rfl] at hc

theorem mem_commands_afterCut {q : Plant σ} {call : Call}
    {cut : Option (Nat × List Entry) × Logger} {hs : List Happening}
    (hc : c ∈ (afterCut host q call cut stack hs).thread.stack.flatMap Frame.commands) :
    c ∈ stack.flatMap Frame.commands := by
  rwa [flatMap_afterCut rfl rfl] at hc

/-- A command on the stack was there before, or a sink has just given it. -/
theorem Rule.mem_commands (rule : Rule host p done stack out)
    (hc : c ∈ out.thread.stack.flatMap Frame.commands) :
    c ∈ stack.flatMap Frame.commands ∨ ∃ h sink batch, c ∈ (host.receive h sink batch).2.1 := by
  cases rule with
  | askLog => exact Or.inl (.tail _ hc)
  | askFlush => exact Or.inl (.tail _ hc)
  | askBurst => exact Or.inl (.tail _ hc)
  | askCrowd => exact Or.inl (.tail _ hc)
  | askSpawn =>
    have hrest := mem_commands_reply hc
    exact Or.inl (.tail _ hrest)
  | perform =>
    have hrest := mem_commands_reply hc
    exact Or.inl (.tail _ hrest)
  | log =>
    have hrest := mem_commands_afterCut hc
    exact Or.inl hrest
  | flush =>
    have hrest := mem_commands_afterCut hc
    exact Or.inl hrest
  | drain =>
    have hrest := mem_commands_afterCut hc
    exact Or.inl hrest
  | hand hreceive =>
    rcases List.mem_append.1 (List.flatMap_cons ▸ hc) with hc | hc
    · exact Or.inr ⟨_, _, _, by rw [hreceive]; exact hc⟩
    · exact Or.inl hc
  | turn => exact Or.inl hc
  | release => exact Or.inl hc
  | order => exact Or.inl hc
  | took => exact Or.inl hc
  | failed => exact Or.inl hc
  | astray => exact Or.inl hc
  | burstNext => exact Or.inl hc
  | _ =>
    have hrest := mem_commands_reply hc
    exact Or.inl hrest

theorem Rule.commands_started (rule : Rule host p done stack out) {th : Thread κ ρ}
    (hth : th ∈ out.started) : th.stack.flatMap Frame.commands = [] := by
  rcases rule.eq_of_started hth with ⟨id, message, level, rfl⟩ | ⟨id, text, level, count, rfl⟩
  · rfl
  · rfl

end Machine

/-- If no thread has commands of its own, all commands are those that sinks have given. -/
theorem Steps.mem_commands {host : Host σ κ ρ} {s₀ s : System σ κ ρ} {hs : List Happening}
    (run : Steps host s₀ hs s) (none_first : ∀ t, (s₀.stack t).flatMap Frame.commands = []) :
    ∀ {t c}, c ∈ (s.stack t).flatMap Frame.commands →
      ∃ h sink batch, c ∈ (host.receive h sink batch).2.1 := by
  induction run with
  | refl =>
    intro t c hc
    rw [none_first] at hc
    cases hc
  | @tail s u _ _ t _ hstep ih =>
    obtain ⟨out, stepped, -⟩ := System.stepped hstep
    intro v c hc
    by_cases hv : v = t
    · subst hv
      rw [stepped.self] at hc
      rcases stepped.rule.mem_commands hc with hc | hc
      · exact ih hc
      · exact hc
    · rcases stepped.other v hv with hsame | ⟨-, th, hth, hnew⟩
      · exact ih (hsame ▸ hc)
      · rw [hnew, stepped.rule.commands_started hth] at hc
        cases hc

/-! ## Two loggers of different rank -/

/-- All sinks log and flush through logger 0, and all but sink 0 fail. -/
def Host.cascade : Host Unit Demand Unit := .ofSinks fun sink _ =>
  ([.log 0 "again" .info, .flush 0],
    .returned (if sink = 0 then .ok () else .error (.other "full")))

/-- Two threads log through logger 1, each message a batch. -/
def System.cascade : System Unit Demand Unit where
  plant := ⟨[.start ⟨2⟩ [⟨"own", 0⟩], .start ⟨1⟩ [⟨"down", 1⟩]], 0, 0, ()⟩
  threads := [⟨[.log 1 "a" .info], none⟩, ⟨[.log 1 "b" .info], none⟩]

theorem System.cascade_ready : System.cascade.Ready := by
  refine ⟨?_, by decide⟩
  intro l hl
  obtain rfl | rfl : l = _ ∨ l = _ := by simpa [System.cascade] using hl
  · exact ⟨_, _, rfl⟩
  · exact ⟨_, _, rfl⟩

theorem System.cascade_down : System.cascade.SinksCallDown .cascade id := by
  intro hs s t c sink todo ending call k b left failures below run hstack
  have none_first : ∀ t, (System.cascade.stack t).flatMap Frame.commands = []
    | 0 => rfl
    | 1 => rfl
    | _ + 2 => rfl
  have hc : c ∈ (s.stack t).flatMap Frame.commands := by simp [hstack, Frame.commands]
  obtain ⟨h, sink', batch, hgiven⟩ := run.mem_commands none_first hc
  have hzero : LoggerId.Under id 0 call.logger := by
    rcases Nat.eq_zero_or_pos call.logger with h | h
    · exact Or.inl h.symm
    · exact Or.inr h
  obtain rfl | rfl : c = .log 0 "again" .info ∨ c = .flush 0 := by
    simpa [Host.cascade, Host.ofSinks] using hgiven
  · exact hzero
  · exact hzero

/-- Thread 1 waits for thread 0, which has cut the first batch and can go on. -/
theorem exists_canStep_cascade : ∃ s hs, System.cascade.follow .cascade [0, 1] = some (s, hs) ∧
    s.canStep .cascade 1 = false ∧ ∃ t, s.canStep .cascade t = true := by
  refine ⟨_, _, rfl, rfl, ?_⟩
  have run : ∀ {s hs}, System.cascade.follow .cascade [0, 1] = some (s, hs) →
      Steps .cascade .cascade hs s := fun h => System.steps_of_follow h
  exact exists_canStep System.cascade_ready System.cascade_down (run rfl)
    ⟨1, List.cons_ne_nil _ _⟩

end BatchedLog
