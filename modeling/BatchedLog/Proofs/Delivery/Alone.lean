import BatchedLog.Proofs.Delivery.Ledger
import BatchedLog.Proofs.Delivery.Progress

/-!
# One thread alone

A thread is marked with the loggers it delivers for: it gets a mark with each turn, and gives the
latest mark of a logger back with the turn. The marks are those of the frames on its stack, so
calls may look at either. While no other thread has been started, whoever owns a ticket is this
thread; so a batch that it waits with is the next, and it can always go on.
-/

namespace BatchedLog

variable {σ κ ρ : Type}

/-! ## Marks -/

/-- What a thread's marks become, the latest first, when it makes something happen. -/
def mark (marks : List LoggerId) : Happening → List LoggerId
  | .began l .. => l :: marks
  | .released l _ => marks.erase l
  | _ => marks

/-- The marks of a thread that was alone. -/
def marksOf (hs : List Happening) : List LoggerId := hs.foldl mark []

/-- The logger whose turn a frame holds. -/
def Frame.turns : Frame κ → List LoggerId
  | .delivering call .. => [call.logger]
  | _ => []

/-- The loggers that a thread with this stack delivers for, the innermost first. -/
def turnsOf (stack : List (Frame κ)) : List LoggerId := stack.flatMap Frame.turns

/-- The threads that a frame waits for. -/
def Frame.awaits : Frame κ → List ThreadId
  | .joining threads => threads
  | _ => []

theorem mem_turnsOf {stack : List (Frame κ)} {id : LoggerId} :
    id ∈ turnsOf stack ↔ isDelivering stack id = true := by
  have hframe : ∀ f : Frame κ, id ∈ f.turns ↔ f.delivers id = true := by
    intro f
    cases f with
    | delivering call =>
      have hsymm : id = call.logger ↔ call.logger = id := eq_comm
      simpa [Frame.turns, Frame.delivers] using hsymm
    | _ => simp [Frame.turns, Frame.delivers]
  simp [turnsOf, isDelivering, hframe]

theorem turnsOf_of_isCall {stack : List (Frame κ)} (h : ∀ f ∈ stack, f.isCall = true) :
    turnsOf stack = [] := by
  apply List.eq_nil_iff_forall_not_mem.2
  intro id hid
  obtain ⟨f, hf, hdelivers⟩ := List.any_eq_true.1 (mem_turnsOf.1 hid)
  rw [outside_of_isCall h f hf id] at hdelivers
  cases hdelivers

theorem foldl_mark_cutNews (id : LoggerId) (r : Option (Nat × List Entry) × Logger)
    (marks : List LoggerId) : (cutNews id r).foldl mark marks = marks := by
  obtain ⟨c, l⟩ := r
  cases c with
  | none => rfl
  | some c => rfl

namespace Machine

variable {host : Host σ κ ρ} {p : Plant σ} {done : List Bool} {stack : List (Frame κ)}
  {out : Turnout σ κ ρ} {t : ThreadId}

/-- What a step does to the turns on a stack, and to marks. -/
inductive Turned (stack : List (Frame κ)) (out : Turnout σ κ ρ) : Prop
  | kept : turnsOf out.thread.stack = turnsOf stack →
      (∀ marks, out.happenings.foldl mark marks = marks) → Turned stack out
  | taken {call k es rest} : stack = .waiting call k es :: rest →
      turnsOf out.thread.stack = call.logger :: turnsOf rest →
      (∀ marks, out.happenings.foldl mark marks = call.logger :: marks) → Turned stack out
  | passed {l} : turnsOf stack = l :: turnsOf out.thread.stack →
      (∀ marks, out.happenings.foldl mark marks = marks.erase l) → Turned stack out

theorem turned_finish {q : Plant σ} {a : Answer ρ} {f : Frame κ} {rest : List (Frame κ)}
    {hs : List Happening} {started : List (Thread κ ρ)} (hf : f.turns = [])
    (hhs : ∀ marks, hs.foldl mark marks = marks) :
    Turned (f :: rest) { finish host q a rest hs with started := started } := by
  refine .kept ?_ hhs
  have hreply : turnsOf (reply host q a rest).2.stack = turnsOf rest := flatMap_reply rfl
  have hrest : turnsOf (f :: rest) = turnsOf rest := by simp [turnsOf, hf]
  exact hreply.trans hrest.symm

theorem turned_afterCut {q : Plant σ} {call : Call} {cut : Option (Nat × List Entry) × Logger}
    {f : Frame κ} {rest : List (Frame κ)} {hs : List Happening} (hf : f.turns = [])
    (hhs : ∀ marks, hs.foldl mark marks = marks) :
    Turned (f :: rest) (afterCut host q call cut rest hs) := by
  refine .kept ?_ ?_
  · have hafter : turnsOf (afterCut host q call cut rest hs).thread.stack = turnsOf rest :=
      flatMap_afterCut rfl rfl
    have hrest : turnsOf (f :: rest) = turnsOf rest := by simp [turnsOf, hf]
    exact hafter.trans hrest.symm
  · intro marks
    rw [happenings_afterCut, List.foldl_append, hhs, foldl_mark_cutNews]

/-- A turn is taken by a call that waited for it, and given back by the innermost that has one. -/
theorem Rule.turned (rule : Rule host p done stack out) : Turned stack out := by
  cases rule with
  | turn => exact .taken rfl rfl fun _ => rfl
  | release => exact .passed rfl fun _ => rfl
  | askSpawn => exact turned_finish rfl fun _ => rfl
  | perform => exact turned_finish rfl fun _ => rfl
  | logNowhere => exact turned_finish rfl fun _ => rfl
  | logHeld => exact turned_finish rfl fun _ => rfl
  | flushNowhere => exact turned_finish rfl fun _ => rfl
  | flushHeld => exact turned_finish rfl fun _ => rfl
  | burstEnd => exact turned_finish rfl fun _ => rfl
  | join => exact turned_finish rfl fun _ => rfl
  | log => exact turned_afterCut rfl fun _ => rfl
  | flush => exact turned_afterCut rfl fun _ => rfl
  | drain => exact turned_afterCut rfl fun _ => rfl
  | _ => exact .kept rfl fun _ => rfl

/-- Threads wait only for such as were started after them. -/
theorem Rule.awaits_later (rule : Rule host p done stack out) (live : t < done.length)
    (h : ∀ u ∈ stack.flatMap Frame.awaits, t < u) :
    ∀ u ∈ out.thread.stack.flatMap Frame.awaits, t < u := by
  have hreply : ∀ {q : Plant σ} {a : Answer ρ} {rest : List (Frame κ)},
      (∀ u ∈ rest.flatMap Frame.awaits, t < u) →
      ∀ u ∈ (reply host q a rest).2.stack.flatMap Frame.awaits, t < u := by
    intro q a rest hrest
    rwa [flatMap_reply rfl]
  have hafter : ∀ {q : Plant σ} {call : Call} {cut : Option (Nat × List Entry) × Logger}
      {rest : List (Frame κ)} {hs : List Happening}, (∀ u ∈ rest.flatMap Frame.awaits, t < u) →
      ∀ u ∈ (afterCut host q call cut rest hs).thread.stack.flatMap Frame.awaits, t < u := by
    intro q call cut rest hs hrest
    rwa [flatMap_afterCut rfl rfl]
  cases rule with
  | askCrowd =>
    intro u hu
    rcases List.mem_append.1 hu with hu | hu
    · obtain ⟨i, -, rfl⟩ := List.mem_map.1 hu
      exact Nat.lt_of_lt_of_le live (Nat.le_add_right _ _)
    · exact h u hu
  | join =>
    have hrest := fun u hu => h u (List.mem_append_right _ hu)
    exact hreply hrest
  | log => exact hafter h
  | flush => exact hafter h
  | drain => exact hafter h
  | askLog => exact h
  | askFlush => exact h
  | askBurst => exact h
  | burstNext => exact h
  | turn => exact h
  | hand => exact h
  | release => exact h
  | order => exact h
  | took => exact h
  | failed => exact h
  | astray => exact h
  | _ => exact hreply h

end Machine

/-! ## Runs of one thread -/

namespace System

/-- Thread `t` is at the end of a call, which comes back with this answer. -/
def Returns (host : Host σ κ ρ) (s : System σ κ ρ) (t : ThreadId) (a : Answer ρ)
    (now : List Happening) (u : System σ κ ρ) : Prop :=
  s.step host t = some (u, now) ∧ ∃ f rest p, s.stack t = f :: rest ∧
    Machine.stepStack host s.plant s.done (s.stack t) = some (Machine.finish host p a rest now)

variable {host : Host σ κ ρ} {s₀ s u : System σ κ ρ} {t : ThreadId} {hs now : List Happening}
  {id : LoggerId}

/-- Threads that have ended stay. -/
theorem length_threads_le_of_step (h : s.step host t = some (u, now)) :
    s.threads.length ≤ u.threads.length := by
  unfold step at h
  split at h
  · cases h
  · split at h
    · cases h
    · cases h
      simp

/-- A thread that is alone after a step was so before, and has taken the step. -/
theorem alone_of_step (h : s.step host t = some (u, now)) (alone : u.threads.length = 1) :
    t = 0 ∧ s.threads.length = 1 := by
  have hle := length_threads_le_of_step h
  obtain ⟨out, stepped, -⟩ := stepped h
  have hlive : t < s.threads.length := stepped.live
  have hlt : t < 1 := by
    rw [← alone]
    exact Nat.lt_of_lt_of_le hlive hle
  have hpos : 0 < s.threads.length := Nat.zero_lt_of_lt hlive
  exact ⟨Nat.lt_one_iff.1 hlt, by omega⟩

theorem step_of_stepStack {out : Turnout σ κ ρ} (live : t < s.threads.length)
    (h : Machine.stepStack host s.plant s.done (s.stack t) = some out) :
    ∃ u, s.step host t = some (u, out.happenings) := by
  have ht : s.threads[t]? = some s.threads[t] := List.getElem?_eq_getElem live
  have hstack : s.stack t = s.threads[t].stack := by simp [stack, ht]
  rw [hstack] at h
  have hdone : Machine.stepStack host s.plant (s.threads.map (·.stack.isEmpty)) s.threads[t].stack =
      some out := h
  simp [step, ht, hdone]

/-- While a thread is alone its marks are those of its stack, and no two are of one logger. -/
theorem Ready.marks (ready : s₀.Ready) (run : Steps host s₀ hs s) (alone : s.threads.length = 1) :
    marksOf hs = turnsOf (s.stack 0) ∧ (marksOf hs).Nodup := by
  induction run with
  | refl =>
    rw [turnsOf_of_isCall (ready.isCall 0)]
    exact ⟨rfl, List.nodup_nil⟩
  | @tail s u before now t run hstep ih =>
    obtain ⟨out, stepped, rfl⟩ := stepped hstep
    obtain ⟨rfl, alone⟩ := alone_of_step hstep alone
    obtain ⟨hmarks, hnodup⟩ := ih alone
    rw [stepped.self, marksOf, List.foldl_append]
    change List.foldl mark (marksOf before) out.happenings = _ ∧
      (List.foldl mark (marksOf before) out.happenings).Nodup
    cases stepped.rule.turned with
    | kept hturns hfold =>
      rw [hfold, hturns]
      exact ⟨hmarks, hnodup⟩
    | @taken call k es rest hstack hturns hfold =>
      -- The logger is not delivered further down, where the thread is in no call on it.
      obtain ⟨_, _, _, _, views⟩ := run.lane_of_unused (ready.unused call.logger)
      have hbelow := (hstack ▸ views.stands 0).inv_waiting rfl
      have hnew : isDelivering rest call.logger = false := hbelow.2.isDelivering_eq
      have hrest : turnsOf (s.stack 0) = turnsOf rest := by
        rw [hstack]
        rfl
      rw [hfold, hturns, hmarks, hrest]
      refine ⟨rfl, List.nodup_cons.2 ⟨?_, hrest ▸ hmarks ▸ hnodup⟩⟩
      rw [mem_turnsOf, hnew]
      exact Bool.false_ne_true
    | @passed l hturns hfold =>
      rw [hfold, hmarks, hturns, List.erase_cons_head]
      rw [hmarks, hturns] at hnodup
      exact ⟨rfl, hnodup.of_cons⟩

/-- Threads wait only for such as were started after them. -/
theorem Ready.awaits (ready : s₀.Ready) (run : Steps host s₀ hs s) (alone : s.threads.length = 1) :
    ∀ u ∈ (s.stack 0).flatMap Frame.awaits, 0 < u := by
  induction run with
  | refl =>
    intro u hu
    obtain ⟨f, hf, hawaits⟩ := List.mem_flatMap.1 hu
    have hcall := ready.isCall 0 f hf
    cases f with
    | joining => cases hcall
    | _ => cases hawaits
  | @tail s u before now t run hstep ih =>
    obtain ⟨out, stepped, rfl⟩ := stepped hstep
    obtain ⟨rfl, alone⟩ := alone_of_step hstep alone
    rw [stepped.self]
    exact stepped.rule.awaits_later (by simp [done, alone]) (ih alone)

/-- A call on a logger that its thread delivers for comes back at once, and cuts nothing. -/
theorem returns_of_isDelivering {l : Logger} {f : Frame κ} {rest : List (Frame κ)}
    (live : t < s.threads.length) (hl : s.plant.loggers[id]? = some l)
    (hd : isDelivering rest id = true) (hstack : s.stack t = f :: rest) :
    (∀ message level, f = .log id message level →
      ∃ e u, s.Returns host t (.logged (.ok ())) [.accepted id e] u) ∧
    (f = .flush id → ∃ u, s.Returns host t (.flushed (.ok 0)) [] u) := by
  constructor
  · rintro message level rfl
    let e := s.plant.entry host message level
    have hout : Machine.stepStack host s.plant s.done (s.stack t) =
        some (Machine.finish host (s.plant.read.setLogger id (l.push e)) (.logged (.ok ())) rest
          [.accepted id e]) := by
      simp only [hstack, Machine.stepStack, hl, hd, if_true]
      rfl
    obtain ⟨u, hu⟩ := step_of_stepStack live hout
    exact ⟨e, u, hu, _, rest, _, hstack, hout⟩
  · rintro rfl
    have hout : Machine.stepStack host s.plant s.done (s.stack t) =
        some (Machine.finish host s.plant (.flushed (.ok 0)) rest []) := by
      simp only [hstack, Machine.stepStack, hl, hd, if_true]
    obtain ⟨u, hu⟩ := step_of_stepStack live hout
    exact ⟨u, hu, _, rest, _, hstack, hout⟩

/-- A thread in a call on a logger is there. -/
theorem Views.lt_of_station {lane : Lane κ} {st : Station κ} (views : s.Views id lane)
    (hst : lane.station t = some st) : t < s.threads.length := by
  obtain ⟨above, f, hstack, -⟩ := (hst ▸ views.stands t).exists_frame
  apply Nat.lt_of_not_le
  intro hle
  have hnone : s.stack t = [] := by simp [stack, List.getElem?_eq_none hle]
  rw [hnone] at hstack
  simp at hstack

/-- The batch that a thread alone waits with is the next. -/
theorem Ready.turn_eq {call : Call} {k : Nat} {es : List Entry} {rest : List (Frame κ)}
    (ready : s₀.Ready) (run : Steps host s₀ hs s) (alone : s.threads.length = 1)
    (hstack : s.stack 0 = .waiting call k es :: rest) :
    ∃ l, s.plant.loggers[call.logger]? = some l ∧ l.turn = k := by
  obtain ⟨_, lane, fresh, runs, views⟩ := run.lane_of_unused (ready.unused call.logger)
  obtain ⟨hst, -⟩ := (hstack ▸ views.stands 0).inv_waiting rfl
  obtain ⟨l, hl, owned⟩ := (runs.orderly fresh).exists_logger hst
  have hticket : lane.ticket? 0 = some k := by simp [Lane.ticket?, hst, Phase.ticket?]
  have hbounds := owned.bounds hticket
  have hlt : l.turn < l.cut := by omega
  obtain ⟨u, hu⟩ := owned.owner (Nat.le_refl _) hlt
  obtain ⟨su, hsu, -⟩ := Option.bind_eq_some_iff.1 hu
  have hu_lt : u < s.threads.length := views.lt_of_station hsu
  obtain rfl : u = 0 := Nat.lt_one_iff.1 (alone ▸ hu_lt)
  rw [hticket] at hu
  exact ⟨l, views.logger.trans hl, (Option.some.inj hu).symm⟩

/-- A thread alone can go on until it has finished. -/
theorem Ready.canStep (ready : s₀.Ready) (run : Steps host s₀ hs s) (alone : s.threads.length = 1)
    (unfinished : s.stack 0 ≠ []) : s.canStep host 0 = true := by
  apply Classical.byContradiction
  intro hcan
  have hblocked := blocked_of_canStep (Bool.eq_false_iff.2 hcan)
  generalize hstack : s.stack 0 = stack at hblocked unfinished
  cases hblocked with
  | finished => exact unfinished rfl
  | @joining threads rest u hu hdone =>
    have hlater : 0 < u := by
      apply ready.awaits run alone
      rw [hstack]
      exact List.mem_append_left _ hu
    have hnone : s.stack u = [] := by
      have hle : s.threads.length ≤ u := by
        rw [alone]
        exact hlater
      simp [System.stack, List.getElem?_eq_none hle]
    rw [done_getD, hnone] at hdone
    cases hdone
  | waiting hl hne =>
    obtain ⟨l, hl', hturn⟩ := ready.turn_eq run alone hstack
    rw [hl] at hl'
    cases hl'
    exact hne hturn
  | @nowhere f rest id hserves hnone =>
    have hf : f ∈ s.stack 0 := by simp [hstack]
    obtain ⟨_, lane, fresh, runs, views⟩ := run.lane_of_unused (ready.unused id)
    obtain ⟨l, hl, -⟩ := views.exists_logger (runs.orderly fresh) hf hserves
    rw [hnone] at hl
    cases hl

end System

/-- Let a thread be alone, with any calls before it and sinks that log and flush through any
loggers. It never has to wait: the batch that it waits with is the next. Its marks are the loggers
of the deliveries on its stack, each at most once, so no logger is delivered inside of a delivery of
its own. A log or flush call on a marked logger comes back at once and well, and cuts nothing. And
between its outermost calls the thread has no marks, and at every logger the turn has come to the
end of the batches cut. -/
theorem never_waits_alone {host : Host σ κ ρ} {s₀ s : System σ κ ρ} {hs : List Happening}
    (ready : s₀.Ready) (run : Steps host s₀ hs s) (alone : s.threads.length = 1) :
    (s.stack 0 ≠ [] → s.canStep host 0 = true) ∧
      (∀ call k es rest, s.stack 0 = .waiting call k es :: rest →
        ∃ l, s.plant.loggers[call.logger]? = some l ∧ l.turn = k) ∧
      marksOf hs = turnsOf (s.stack 0) ∧ (marksOf hs).Nodup ∧
      (∀ id ∈ marksOf hs,
        (∀ message level rest, s.stack 0 = .log id message level :: rest →
          ∃ e u, s.Returns host 0 (.logged (.ok ())) [.accepted id e] u) ∧
        ∀ rest, s.stack 0 = .flush id :: rest → ∃ u, s.Returns host 0 (.flushed (.ok 0)) [] u) ∧
      ((∀ f ∈ s.stack 0, f.isCall = true) → marksOf hs = [] ∧
        ∀ id l, s.plant.loggers[id]? = some l →
          l.turn = l.cut ∧ l.cut = (cutsOf id hs).length) := by
  obtain ⟨hmarks, hnodup⟩ := ready.marks run alone
  refine ⟨ready.canStep run alone, ?_, hmarks, hnodup, ?_, ?_⟩
  · intro call k es rest hstack
    exact ready.turn_eq run alone hstack
  · intro id hid
    rw [hmarks, mem_turnsOf] at hid
    obtain ⟨f, hf, hdelivers⟩ := List.any_eq_true.1 hid
    have hserves : f.serves id = true := by
      cases f <;> simp_all [Frame.delivers, Frame.serves]
    obtain ⟨_, lane, fresh, runs, views⟩ := run.lane_of_unused (ready.unused id)
    obtain ⟨l, hl, -⟩ := views.exists_logger (runs.orderly fresh) hf hserves
    have live : 0 < s.threads.length := by omega
    constructor
    · intro message level rest hstack
      have hd : isDelivering rest id = true := by
        rw [hstack] at hid
        simpa [isDelivering, Frame.delivers] using hid
      exact (System.returns_of_isDelivering live hl hd hstack).1 message level rfl
    · intro rest hstack
      have hd : isDelivering rest id = true := by
        rw [hstack] at hid
        simpa [isDelivering, Frame.delivers] using hid
      exact (System.returns_of_isDelivering live hl hd hstack).2 rfl
  · intro hcalls
    constructor
    · rw [hmarks]
      exact turnsOf_of_isCall hcalls
    · intro id l hl
      obtain ⟨_, lane, fresh, runs, views⟩ := run.lane_of_unused (ready.unused id)
      have hl' : lane.logger = some l := views.logger ▸ hl
      have hnone : ∀ t, lane.station t = none := by
        intro t
        cases hst : lane.station t with
        | none => rfl
        | some st =>
          have hlt : t < s.threads.length := views.lt_of_station hst
          obtain rfl : t = 0 := Nat.lt_one_iff.1 (alone ▸ hlt)
          obtain ⟨above, f, hstack, hserves, -⟩ := (hst ▸ views.stands 0).exists_frame
          have hcall := hcalls f (by simp [hstack])
          cases f <;> simp_all [Frame.serves, Frame.isCall]
      have balanced := runs.balanced fresh
      exact ⟨((runs.orderly fresh).owned hl').turn_eq hnone, (balanced.ledger hl').cut_eq.symm⟩

/-! ## Loggers in a circle -/

/-- In the first two batches of all, sink 0 logs through logger 1, and sink 1 logs and flushes back
through logger 0 before it breaks down. -/
def Host.circle : Host Unit Demand Unit := .ofSinks fun sink batch =>
  if 2 ≤ batch.number then ([], .returned (.ok ()))
  else if sink = 0 then ([.log 1 "on" .info], .returned (.ok ()))
  else ([.log 0 "back" .warning, .flush 0], .unwound .other)

/-- One thread with two calls, and two loggers of interval 1. -/
def System.circle : System Unit Demand Unit where
  plant := ⟨[.start ⟨1⟩ [⟨"on", 0⟩], .start ⟨1⟩ [⟨"back", 1⟩]], 0, 0, ()⟩
  threads := [⟨[.log 0 "a" .info, .flush 1], none⟩]

theorem System.circle_ready : System.circle.Ready := by
  refine ⟨?_, by decide⟩
  intro l hl
  obtain rfl | rfl : l = _ ∨ l = _ := by simpa [System.circle] using hl
  · exact ⟨_, _, rfl⟩
  · exact ⟨_, _, rfl⟩

/-- After ten steps sink 1 logs into logger 0, which is being delivered below; after twenty that
entry is cut as batch 1 of logger 0, and its turn has come; after five more the call is over. -/
theorem never_waits_alone_circle :
    (∃ s hs, System.circle.follow .circle (List.replicate 10 0) = some (s, hs) ∧
      s.threads.length = 1 ∧ marksOf hs = [1, 0] ∧ s.canStep .circle 0 = true ∧
      ∃ e u, s.Returns .circle 0 (.logged (.ok ())) [.accepted 0 e] u) ∧
    (∃ s hs call es rest l, System.circle.follow .circle (List.replicate 20 0) = some (s, hs) ∧
      s.stack 0 = .waiting call 1 es :: rest ∧ s.plant.loggers[call.logger]? = some l ∧
      l.turn = 1) ∧
    ∃ s hs, System.circle.follow .circle (List.replicate 25 0) = some (s, hs) ∧
      s.stack 0 = [.flush 1] ∧ marksOf hs = [] ∧
      ∀ id l, s.plant.loggers[id]? = some l → l.turn = l.cut ∧ l.cut = (cutsOf id hs).length := by
  refine ⟨?_, ?_, ?_⟩
  · obtain ⟨s, hs, run, alone, hmarks, message, level, rest, hstack⟩ : ∃ s hs,
        System.circle.follow .circle (List.replicate 10 0) = some (s, hs) ∧
        s.threads.length = 1 ∧ marksOf hs = [1, 0] ∧
        ∃ message level rest, s.stack 0 = .log 0 message level :: rest :=
      ⟨_, _, rfl, rfl, rfl, _, _, _, rfl⟩
    obtain ⟨goes_on, -, -, -, held, -⟩ :=
      never_waits_alone System.circle_ready (System.steps_of_follow run) alone
    have marked : 0 ∈ marksOf hs := by simp [hmarks]
    exact ⟨s, hs, run, alone, hmarks, goes_on (by simp [hstack]),
      (held 0 marked).1 message level rest hstack⟩
  · obtain ⟨s, hs, run, alone, call, es, rest, hstack⟩ : ∃ s hs,
        System.circle.follow .circle (List.replicate 20 0) = some (s, hs) ∧
        s.threads.length = 1 ∧ ∃ call es rest, s.stack 0 = .waiting call 1 es :: rest :=
      ⟨_, _, rfl, rfl, _, _, _, rfl⟩
    obtain ⟨-, turn, -⟩ :=
      never_waits_alone System.circle_ready (System.steps_of_follow run) alone
    obtain ⟨l, hl, hturn⟩ := turn call 1 es rest hstack
    exact ⟨s, hs, call, es, rest, l, run, hstack, hl, hturn⟩
  · obtain ⟨s, hs, run, alone, hstack⟩ : ∃ s hs,
        System.circle.follow .circle (List.replicate 25 0) = some (s, hs) ∧
        s.threads.length = 1 ∧ s.stack 0 = [.flush 1] :=
      ⟨_, _, rfl, rfl, rfl⟩
    obtain ⟨-, -, -, -, -, between⟩ :=
      never_waits_alone System.circle_ready (System.steps_of_follow run) alone
    have calls : ∀ f ∈ s.stack 0, f.isCall = true := by simp [hstack, Frame.isCall]
    exact ⟨s, hs, run, hstack, between calls⟩

end BatchedLog
