import BatchedLog.Delivery.Run

/-!
# The steps of a thread as rules

`Machine.stepStack` computes the step of a thread from its stack. `Machine.Rule` has one rule for
each thing such a step can be, and `rule_of_stepStack` says that every step is by one of them. What
later modules say of runs rests on the rules alone.
-/

namespace BatchedLog

variable {σ κ ρ : Type}

/-- The stack of a thread; one that does not exist has none. -/
def System.stack (s : System σ κ ρ) (t : ThreadId) : List (Frame κ) :=
  ((s.threads[t]?).map Thread.stack).getD []

/-- The entry of the next log call, stamped by the next reading of the clock. -/
def Plant.entry (host : Host σ κ ρ) (p : Plant σ) (message : String) (level : Level) : Entry :=
  ⟨message, level, host.clock p.readings⟩

def Plant.read (p : Plant σ) : Plant σ := { p with readings := p.readings + 1 }

/-- A host of nothing but sinks: what they do with a batch depends on the batch alone, and commands
are demands. -/
def Host.ofSinks (react : SinkId → Batch → List Demand × Ending) :
    Host Unit Demand Unit where
  clock n := ⟨n⟩
  ask _ demand := demand
  perform _ _ _ := ((), [], ())
  receive _ sink batch := ((), react sink batch)
  answered _ _ _ := ()
  observe _ _ := ()

/-- Sink 0 logs and flushes back into logger 0 from inside its first batch, and then fails. -/
def Host.echo : Host Unit Demand Unit := .ofSinks fun sink batch =>
  if sink = 0 ∧ batch.number = 0 then
    ([.log 0 "echo" .warning, .flush 0], .returned (.error (.other "full")))
  else ([], .returned (.ok ()))

/-- Two threads before their calls on one logger, of interval 2 and with two sinks. -/
def System.echo : System Unit Demand Unit where
  plant := ⟨[.start ⟨2⟩ [⟨"first", 0⟩, ⟨"second", 1⟩]], 0, 0, ()⟩
  threads := [⟨[.log 0 "x" .info, .log 0 "y" .error], none⟩, ⟨[.log 0 "z" .trace, .flush 0], none⟩]

namespace Machine

variable (host : Host σ κ ρ)

/-- The loggers that a command by the host itself leaves, with those it opens. -/
def grown (loggers : List Logger) (opened : List (FlushPolicy × List Wired)) : List Logger :=
  loggers ++ opened.map fun (policy, sinks) => Logger.start policy sinks

inductive Rule (p : Plant σ) (done : List Bool) : List (Frame κ) → Turnout σ κ ρ → Prop
  | askLog {c id message level rest} : host.ask p.host c = .log id message level →
      Rule p done (.command c :: rest) (proceed p (.log id message level :: rest) [])
  | askFlush {c id rest} : host.ask p.host c = .flush id →
      Rule p done (.command c :: rest) (proceed p (.flush id :: rest) [])
  | askBurst {c id text level count rest} : host.ask p.host c = .burst id text level count →
      Rule p done (.command c :: rest) (proceed p (.burst id text level 0 count [] :: rest) [])
  | askSpawn {c id message level rest} : host.ask p.host c = .spawn id message level →
      Rule p done (.command c :: rest)
        { finish host p .spawned rest [] with started := [.run (.log id message level)] }
  | askCrowd {c id n count rest} : host.ask p.host c = .crowd id n count →
      Rule p done (.command c :: rest)
        { proceed p (.joining ((List.range n).map (done.length + ·)) :: rest) [] with
          started := (List.range n).map fun t =>
            .run (.burst id (toString t ++ ":") .info 0 count []) }
  | perform {c rest h opened r} : host.ask p.host c = .nothing →
      host.perform p.host p.loggers c = (h, opened, r) →
      Rule p done (.command c :: rest)
        (finish host { p with loggers := grown p.loggers opened, host := h } (.other r) rest [])
  | logNowhere {id message level rest} : p.loggers[id]? = none →
      Rule p done (.log id message level :: rest) (finish host p (.logged (.ok ())) rest [])
  | logHeld {id message level rest l} : p.loggers[id]? = some l → isDelivering rest id = true →
      Rule p done (.log id message level :: rest)
        (finish host (p.read.setLogger id (l.push (p.entry host message level)))
          (.logged (.ok ())) rest [.accepted id (p.entry host message level)])
  | log {id message level rest l} : p.loggers[id]? = some l → isDelivering rest id = false →
      Rule p done (.log id message level :: rest)
        (afterCut host p.read (.start id .log) (l.push (p.entry host message level)).cutDue rest
          [.accepted id (p.entry host message level)])
  | flushNowhere {id rest} : p.loggers[id]? = none →
      Rule p done (.flush id :: rest) (finish host p (.flushed (.ok 0)) rest [])
  | flushHeld {id rest} : isDelivering rest id = true →
      Rule p done (.flush id :: rest) (finish host p (.flushed (.ok 0)) rest [])
  | flush {id rest l} : p.loggers[id]? = some l → isDelivering rest id = false →
      Rule p done (.flush id :: rest)
        (afterCut host p (.start id .flush) l.cutAll rest [.flushed id])
  | burstNext {id text level next count failed rest} : next < count →
      Rule p done (.burst id text level next count failed :: rest)
        (proceed p (.log id (text ++ toString next) level ::
          .burst id text level (next + 1) count failed :: rest) [])
  | burstEnd {id text level next count failed rest} : ¬ next < count →
      Rule p done (.burst id text level next count failed :: rest)
        (finish host p (.burst failed) rest [])
  | join {threads rest} : (∀ t ∈ threads, done.getD t true = true) →
      Rule p done (.joining threads :: rest) (finish host p .joined rest [])
  | turn {call ticket entries rest l} : p.loggers[call.logger]? = some l → l.turn = ticket →
      Rule p done (.waiting call ticket entries :: rest)
        (proceed { p with dispatched := p.dispatched + 1 }
          (.delivering call ticket ⟨p.dispatched, entries⟩ l.sinks [] :: rest)
          [.began call.logger ticket ⟨p.dispatched, entries⟩ l.sinks.length])
  | hand {call ticket batch w left failures rest h todo ending} :
      host.receive p.host w.sink batch = (h, todo, ending) →
      Rule p done (.delivering call ticket batch (w :: left) failures :: rest)
        (proceed { p with host := h }
          (.receiving w.sink todo ending.caught ::
            .delivering call ticket batch (w :: left) failures :: rest)
          [.handed call.logger ticket batch w])
  | release {call ticket batch failures rest l} : p.loggers[call.logger]? = some l →
      Rule p done (.delivering call ticket batch [] failures :: rest)
        (proceed (p.setLogger call.logger l.passTurn)
          (.draining (call.conclude batch l.sinks.length failures) :: rest)
          [.released call.logger ticket])
  | order {sink c todo ending rest} :
      Rule p done (.receiving sink (c :: todo) ending :: rest)
        (proceed p (.command c :: .receiving sink todo ending :: rest) [])
  | took {sink call ticket batch w left failures rest} :
      Rule p done
        (.receiving sink [] (.ok ()) :: .delivering call ticket batch (w :: left) failures :: rest)
        (proceed p (.delivering call ticket batch left failures :: rest)
          [.took call.logger ticket w])
  | failed {sink e call ticket batch w left failures rest} :
      Rule p done
        (.receiving sink [] (.error e) ::
          .delivering call ticket batch (w :: left) failures :: rest)
        (proceed p (.delivering call ticket batch left (failures ++ [⟨w.name, e⟩]) :: rest)
          [.failed call.logger ticket ⟨w.name, e⟩])
  /-- A sink at work on nothing, which no run comes to. -/
  | astray {sink ending rest} :
      (∀ call ticket batch w left failures below,
        rest ≠ .delivering call ticket batch (w :: left) failures :: below) →
      Rule p done (.receiving sink [] ending :: rest) (proceed p rest [])
  | drain {call rest l} : p.loggers[call.logger]? = some l →
      Rule p done (.draining call :: rest) (afterCut host p call l.cutDue rest [])

theorem rule_begin (p : Plant σ) (done : List Bool) (c : κ) (rest : List (Frame κ)) :
    Rule host p done (.command c :: rest) (begin host p c done.length rest) := by
  unfold begin
  split
  · rename_i h
    exact .askLog h
  · rename_i h
    exact .askFlush h
  · rename_i h
    exact .askBurst h
  · rename_i h
    exact .askSpawn h
  · rename_i h
    exact .askCrowd h
  · rename_i h
    exact .perform h rfl

/-- Every step is by a rule. -/
theorem rule_of_stepStack {p : Plant σ} {done : List Bool} {stack : List (Frame κ)}
    {out : Turnout σ κ ρ} (h : stepStack host p done stack = some out) :
    Rule host p done stack out := by
  unfold stepStack at h
  split at h
  · cases h
  · cases h
    exact rule_begin host p done _ _
  · split at h
    · cases h
      exact .logNowhere ‹_›
    · split at h
      · cases h
        exact .logHeld ‹_› ‹_›
      · cases h
        exact .log ‹_› (Bool.not_eq_true _ ▸ ‹_›)
  · split at h
    · cases h
      exact .flushNowhere ‹_›
    · split at h
      · cases h
        exact .flushHeld ‹_›
      · cases h
        exact .flush ‹_› (Bool.not_eq_true _ ▸ ‹_›)
  · split at h
    · cases h
      exact .burstNext ‹_›
    · cases h
      exact .burstEnd ‹_›
  · split at h
    · rename_i hall
      cases h
      exact .join (List.all_eq_true.1 hall)
    · cases h
  · split at h
    · cases h
    · split at h
      · cases h
        exact .turn ‹_› ‹_›
      · cases h
  · cases h
    exact .hand rfl
  · split at h
    · cases h
    · cases h
      exact .release ‹_›
  · cases h
    exact .order
  · rename_i ending call ticket batch left failures rest
    cases left with
    | nil =>
      cases h
      exact .astray (by simp)
    | cons w left =>
      cases ending with
      | ok u =>
        cases h
        exact .took
      | error e =>
        cases h
        exact .failed
  · rename_i hne
    cases h
    exact .astray fun call ticket batch w left failures below heq =>
      hne call ticket batch (w :: left) failures below heq
  · split at h
    · cases h
    · cases h
      exact .drain ‹_›

variable {host}

/-- What frames show of themselves stays when an answer comes back, but for what bursts collect. -/
theorem flatMap_reply {α : Type} {g : Frame κ → List α} {p : Plant σ} {a : Answer ρ}
    {stack : List (Frame κ)}
    (hburst : ∀ {id text level next count failed failed'},
      g (.burst id text level next count failed) = g (.burst id text level next count failed')) :
    (reply host p a stack).2.stack.flatMap g = stack.flatMap g := by
  unfold reply
  split
  · rfl
  · rfl
  · rw [List.flatMap_cons, List.flatMap_cons, hburst]
  · rfl

theorem flatMap_afterCut {α : Type} {g : Frame κ → List α} {p : Plant σ} {call : Call}
    {cut : Option (Nat × List Entry) × Logger} {stack : List (Frame κ)} {hs : List Happening}
    (hburst : ∀ {id text level next count failed failed'},
      g (.burst id text level next count failed) = g (.burst id text level next count failed'))
    (hwaiting : ∀ {call k es}, g (.waiting call k es) = []) :
    (afterCut host p call cut stack hs).thread.stack.flatMap g = stack.flatMap g := by
  obtain ⟨c, l⟩ := cut
  cases c with
  | none => exact flatMap_reply hburst
  | some c =>
    have htop : (afterCut host p call (some c, l) stack hs).thread.stack =
        .waiting call c.1 c.2 :: stack := rfl
    rw [htop, List.flatMap_cons, hwaiting, List.nil_append]

end Machine

namespace System

/-- Which threads have nothing left to do. -/
def done (s : System σ κ ρ) : List Bool := s.threads.map (·.stack.isEmpty)

/-- A step of thread `t` as its rule, and what it leaves of loggers, clock and stacks. -/
structure Stepped (host : Host σ κ ρ) (s : System σ κ ρ) (t : ThreadId) (out : Turnout σ κ ρ)
    (u : System σ κ ρ) : Prop where
  live : t < s.threads.length
  rule : Machine.Rule host s.plant s.done (s.stack t) out
  loggers : u.plant.loggers = out.plant.loggers
  readings : u.plant.readings = out.plant.readings
  self : u.stack t = out.thread.stack
  other : ∀ v, v ≠ t →
    u.stack v = s.stack v ∨ s.stack v = [] ∧ ∃ th ∈ out.started, u.stack v = th.stack

private theorem stack_set_append (plant : Plant σ) (threads started : List (Thread κ ρ))
    (t v : ThreadId) (thread : Thread κ ρ) (hv : v ≠ t) :
    (⟨plant, threads.set t thread ++ started⟩ : System σ κ ρ).stack v =
        ((threads[v]?).map Thread.stack).getD [] ∨
      threads[v]? = none ∧ ∃ th ∈ started,
        (⟨plant, threads.set t thread ++ started⟩ : System σ κ ρ).stack v = th.stack := by
  unfold stack
  by_cases hlt : v < threads.length
  · left
    rw [List.getElem?_append_left (by simpa using hlt), List.getElem?_set_ne (Ne.symm hv)]
  · have hle : threads.length ≤ v := Nat.not_lt.1 hlt
    have hnone : threads[v]? = none := List.getElem?_eq_none hle
    rw [List.getElem?_append_right (by simpa using hle), List.length_set]
    cases hs : started[v - threads.length]? with
    | none => simp [hnone]
    | some th => exact Or.inr ⟨hnone, th, List.mem_of_getElem? hs, rfl⟩

theorem stepped {host : Host σ κ ρ} {s u : System σ κ ρ} {t : ThreadId} {now : List Happening}
    (h : s.step host t = some (u, now)) :
    ∃ out : Turnout σ κ ρ, s.Stepped host t out u ∧ now = out.happenings := by
  unfold step at h
  split at h
  · cases h
  · rename_i thread ht
    split at h
    · cases h
    · rename_i out hout
      cases h
      have hlt : t < s.threads.length := (List.getElem?_eq_some_iff.1 ht).1
      have hstack : s.stack t = thread.stack := by simp [stack, ht]
      refine ⟨out, ⟨hlt, ?_, rfl, rfl, ?_, ?_⟩, rfl⟩
      · rw [hstack]
        exact Machine.rule_of_stepStack host hout
      · simp [stack, List.getElem?_append_left, hlt]
      · intro v hv
        rcases stack_set_append _ s.threads out.started t v out.thread hv with hold | ⟨hn, hnew⟩
        · exact Or.inl hold
        · exact Or.inr ⟨by simp [stack, hn], hnew⟩

/-- What a schedule collects step by step is read off all that happens, if each step's part is. -/
theorem collect_follow {host : Host σ κ ρ} {α : Type} {g : List Happening → List α}
    {collect : List ThreadId → System σ κ ρ → List α} (gnil : g [] = [])
    (gappend : ∀ hs hs', g (hs ++ hs') = g hs ++ g hs') (cnil : ∀ s, collect [] s = [])
    (ccons : ∀ {t schedule s next now}, s.step host t = some (next, now) →
      collect (t :: schedule) s = g now ++ collect schedule next)
    {s t : System σ κ ρ} {schedule : List ThreadId} {hs : List Happening}
    (run : s.follow host schedule = some (t, hs)) : g hs = collect schedule s := by
  induction schedule generalizing s hs with
  | nil =>
    cases run
    rw [gnil, cnil]
  | cons thread rest ih =>
    unfold follow at run
    split at run
    · cases run
    · rename_i next now hstep
      split at run
      · cases run
      · rename_i last later hrest
        cases run
        rw [gappend, ih hrest, ccons hstep]

end System

end BatchedLog
