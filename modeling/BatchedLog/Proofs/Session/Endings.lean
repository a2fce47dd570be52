import BatchedLog.Proofs.Session.Alike

/-!
# Two sessions that differ in endings

What scripted sinks do is fixed by their scripts, so two sessions whose scripts differ only in how
their turns end run side by side: the host is blind to endings, and so are the driver, the steps and
whole sessions. What their sinks are handed, their batches and tickets, and all files and memory
sinks are the same.
-/

namespace BatchedLog.Session

/-- What is reported of two steps: the same, but for what log and flush calls came back with. -/
structure Report.Alike (r r' : Report) : Prop where
  answer : Option.Rel Answer.Alike r.answer r'.answer
  pending : r.pending = r'.pending
  journal : List.Forall₂ JournalLine.Alike r.journal r'.journal
  spawned : r.spawned.length = r'.spawned.length
  console : r.console = r'.console

abbrev State.Alike (s s' : State) : Prop := Plant.Alike World.Alike s s'

abbrev Machine.Alike (m m' : Machine) : Prop := System.Alike Step.Alike World.Alike m m'

/-! ## Driving -/

theorem loggerOf?_eq {f f' : Frame Step} (h : f.Alike Step.Alike f') :
    loggerOf? f = loggerOf? f' := by
  cases h with
  | waiting _ _ calls | delivering _ _ _ _ _ calls | draining calls =>
    exact congrArg some calls.logger_eq
  | _ => rfl

theorem isBusy_eq {m m' : Machine} (alike : Machine.Alike m m') (l : LoggerId) :
    isBusy m l = isBusy m' l := by
  refine any_eq alike.threads fun threads => any_eq threads.stack fun frames => ?_
  rw [loggerOf?_eq frames]

theorem settle_alike {m m' : Machine} (alike : Machine.Alike m m') :
    Machine.Alike (settle m) (settle m') := by
  have hbusy : isBusy m = isBusy m' := funext (isBusy_eq alike)
  obtain ⟨⟨hloggers, hdispatched, hreadings, worlds⟩, threads⟩ := alike
  unfold settle
  dsimp only
  rw [← worlds.orphans, ← hloggers, ← hbusy]
  cases horphans : m.plant.host.orphans with
  | nil => exact ⟨⟨hloggers, hdispatched, hreadings, worlds⟩, threads⟩
  | cons l orphans =>
    refine ⟨⟨rfl, hdispatched, hreadings, ?_⟩, threads⟩
    exact { worlds.notes Diagnostic.dropped _ with orphans := rfl }

variable (clock : Nat → Instant)

/-- What happens while a thread with this frame is driven. -/
def news (s : State) (frame : Frame Step) : List Happening :=
  System.news (host clock) settle (patience s) 0 ⟨s, [.run frame]⟩

/-- A drive with so much patience. -/
def driven (fuel : Nat) (s : State) (frame : Frame Step) :
    State × List (Thread Step Reply) :=
  let m := System.drive (host clock) settle fuel 0 ⟨s, [.run frame]⟩
  (m.plant, m.threads)

-- The patience of a session is a large number. It stands here for any other, so that nothing tries
-- to count it down.
theorem driven_alike {s s' : State} {frame frame' : Frame Step} {fuel fuel' : Nat}
    (states : State.Alike s s') (frames : frame.Alike Step.Alike frame') (hfuel : fuel = fuel') :
    State.Alike (driven clock fuel s frame).1 (driven clock fuel' s' frame').1 ∧
      List.Forall₂ (Thread.Alike Step.Alike) (driven clock fuel s frame).2
        (driven clock fuel' s' frame').2 ∧
      List.Forall₂ Happening.Alike
        (System.news (host clock) settle fuel 0 ⟨s, [.run frame]⟩)
        (System.news (host clock) settle fuel' 0 ⟨s', [.run frame']⟩) := by
  subst hfuel
  have machines : Machine.Alike ⟨s, [.run frame]⟩ ⟨s', [.run frame']⟩ :=
    ⟨states, .cons ⟨.cons frames .nil, .none⟩ .nil⟩
  obtain ⟨driven, happenings⟩ := System.drive_alike (blind_host clock) settle_alike fuel
    (t := 0) machines
  exact ⟨driven.plant, driven.threads, happenings⟩

theorem drive_alike {s s' : State} {frame frame' : Frame Step} (states : State.Alike s s')
    (frames : frame.Alike Step.Alike frame') :
    State.Alike (drive clock s frame).1 (drive clock s' frame').1 ∧
      List.Forall₂ (Thread.Alike Step.Alike) (drive clock s frame).2 (drive clock s' frame').2 ∧
      List.Forall₂ Happening.Alike (news clock s frame) (news clock s' frame') := by
  have hpatience : patience s = patience s' := by
    unfold patience wiredCount
    rw [states.loggers]
  have hdrive : ∀ s frame, drive clock s frame = driven clock (patience s) s frame :=
    fun _ _ => rfl
  have hnews : ∀ s frame, news clock s frame =
      System.news (host clock) settle (patience s) 0 ⟨s, [.run frame]⟩ := fun _ _ => rfl
  rw [hdrive, hdrive, hnews, hnews]
  exact driven_alike clock states frames hpatience

/-! ## Steps -/

theorem turnPage_alike {s s' : State} (states : State.Alike s s') :
    State.Alike (turnPage s) (turnPage s') :=
  ⟨states.loggers, states.dispatched, states.readings,
    { states.host with journal := .nil, console := rfl }⟩

theorem pendingCounts_eq {s s' : State} (states : State.Alike s s') :
    pendingCounts s = pendingCounts s' := by
  unfold pendingCounts
  rw [states.host.slots, states.loggers]

/-- Threads that are alike have both logged something or both not. -/
theorem logged?_alike {t t' : Thread Step Reply} (threads : t.Alike Step.Alike t') :
    Option.Rel (fun _ _ => True) (logged? t) (logged? t') := by
  have answers := threads.answer
  unfold logged?
  generalize t.answer = a at answers ⊢
  generalize t'.answer = a' at answers ⊢
  cases answers with
  | none => exact .none
  | some answers =>
    cases answers with
    | same =>
      rename_i a
      cases a with
      | logged => exact .some trivial
      | _ => exact .none
    | logged => exact .some trivial
    | _ => exact .none

theorem length_logged_eq {ts ts' : List (Thread Step Reply)}
    (threads : List.Forall₂ (Thread.Alike Step.Alike) ts ts') :
    (ts.filterMap logged?).length = (ts'.filterMap logged?).length :=
  (List.rel_filterMap (fun _ _ thread => logged?_alike thread) threads).length_eq

theorem carryOut_alike {s s' : State} {frame frame' : Frame Step} (states : State.Alike s s')
    (frames : frame.Alike Step.Alike frame') :
    State.Alike (carryOut clock s frame).1 (carryOut clock s' frame').1 ∧
      (carryOut clock s frame).2.Alike (carryOut clock s' frame').2 := by
  obtain ⟨driven, threads, -⟩ := drive_alike clock (turnPage_alike states) frames
  unfold carryOut
  generalize drive clock (turnPage s) frame = o at driven threads ⊢
  generalize drive clock (turnPage s') frame' = o' at driven threads ⊢
  obtain ⟨u, ts⟩ := o
  obtain ⟨u', ts'⟩ := o'
  refine ⟨driven, ?_, pendingCounts_eq driven, driven.host.journal, ?_, driven.host.console⟩
  · cases threads with
    | nil => exact .none
    | cons thread _ => exact thread.answer
  · exact length_logged_eq (List.forall₂_drop 1 threads)

/-! ## Sessions -/

theorem mapState_alike {α β : Type} {P : α → α → Prop} {O : β → β → Prop}
    {f : State → α → State × β}
    (step : ∀ {s s' a a'}, State.Alike s s' → P a a' →
      State.Alike (f s a).1 (f s' a').1 ∧ O (f s a).2 (f s' a').2)
    {as as' : List α} (alike : List.Forall₂ P as as') :
    ∀ {s s' : State}, State.Alike s s' →
      State.Alike (mapState f s as).1 (mapState f s' as').1 ∧
        List.Forall₂ O (mapState f s as).2 (mapState f s' as').2 := by
  induction alike with
  | nil => exact fun states => ⟨states, .nil⟩
  | cons first _ ih =>
    intro s s' states
    obtain ⟨stepped, outs⟩ := step states first
    obtain ⟨later, others⟩ := ih stepped
    exact ⟨later, .cons outs others⟩

/-- What comes of building a logger, with its answer at hand. -/
def placed (s : State) (answer : Option (Answer Reply)) : State × Option (Answer Reply) :=
  match answer with
  | some (.other (.notBuilt _)) =>
    ({ s with host := { s.host with slots := s.host.slots ++ [none] } }, answer)
  | answer => (s, answer)

theorem buildInto_of_carryOut {s u : State} {plan : LoggerPlan Step} {r : Report}
    (h : carryOut clock s (.command (.build plan)) = (u, r)) :
    buildInto clock s plan = placed u r.answer := by
  -- The definition is opened without being applied: comparing its two sides at `plan` would carry
  -- out the step.
  have opened : @buildInto = @buildInto := rfl
  conv at opened => rhs; delta buildInto
  rw [opened]
  dsimp -zeta -iota -proj -eta only
  rw [h]
  rfl

theorem placed_alike {s s' : State} {a a' : Option (Answer Reply)} (states : State.Alike s s')
    (answers : Option.Rel Answer.Alike a a') :
    State.Alike (placed s a).1 (placed s' a').1 ∧
      Option.Rel Answer.Alike (placed s a).2 (placed s' a').2 := by
  have vacant : State.Alike
      { s with host := { s.host with slots := s.host.slots ++ [none] } }
      { s' with host := { s'.host with slots := s'.host.slots ++ [none] } } :=
    ⟨states.loggers, states.dispatched, states.readings,
      { states.host with slots := congrArg (· ++ [none]) states.host.slots }⟩
  cases answers with
  | none => exact ⟨states, .none⟩
  | some answers =>
    cases answers with
    | same =>
      rename_i a
      have keep : Option.Rel Answer.Alike (some a) (some a) := .some (.same a)
      unfold placed
      split
      · exact ⟨vacant, keep⟩
      · exact ⟨states, keep⟩
    | logged r r' => exact ⟨states, .some (.logged r r')⟩
    | flushed r r' => exact ⟨states, .some (.flushed r r')⟩
    | burst f f' => exact ⟨states, .some (.burst f f')⟩

theorem buildInto_alike {s s' : State} {plan plan' : LoggerPlan Step} (states : State.Alike s s')
    (plans : plan.Alike Step.Alike plan') :
    State.Alike (buildInto clock s plan).1 (buildInto clock s' plan').1 ∧
      Option.Rel Answer.Alike (buildInto clock s plan).2 (buildInto clock s' plan').2 := by
  obtain ⟨built, reports⟩ := carryOut_alike clock states (.command (.build plans))
  rcases hr : carryOut clock s (.command (.build plan)) with ⟨u, r⟩
  rcases hr' : carryOut clock s' (.command (.build plan')) with ⟨u', r'⟩
  rw [hr, hr'] at built reports
  rw [buildInto_of_carryOut clock hr, buildInto_of_carryOut clock hr']
  exact placed_alike built reports.answer

/-- One step of a session. -/
def oneStep (s : State) (step : Step) : State × Report :=
  carryOut clock s (.command step)

/-- What happens in one step of a session. -/
def newsOf (s : State) (step : Step) : List Happening :=
  news clock (turnPage s) (.command step)

/-- A step `f` beside what happens in it, `g`, and the loggers after it. -/
def traced (f : State → Step → State × Report) (g : State → Step → List Happening) (s : State)
    (step : Step) : State × List Happening × List Logger :=
  ((f s step).1, g s step, (f s step).1.loggers)

/-- Along a session: what happens in each step, and the loggers after it. -/
def trail (s : State) (steps : List Step) :
    List (List Happening × List Logger) :=
  (mapState (traced (oneStep clock) (newsOf clock)) s steps).2

theorem oneStep_alike {s s' : State} {step step' : Step} (states : State.Alike s s')
    (steps : step.Alike step') :
    State.Alike (oneStep clock s step).1 (oneStep clock s' step').1 ∧
      (oneStep clock s step).2.Alike (oneStep clock s' step').2 :=
  carryOut_alike clock states (.command steps)

theorem runAll_alike {s s' : State} {steps steps' : List Step} (states : State.Alike s s')
    (alike : List.Forall₂ Step.Alike steps steps') :
    State.Alike (runAll clock s steps).1 (runAll clock s' steps').1 ∧
      List.Forall₂ Report.Alike (runAll clock s steps).2 (runAll clock s' steps').2 := by
  have hrun : ∀ s steps, runAll clock s steps = mapState (oneStep clock) s steps := fun _ _ => rfl
  rw [hrun, hrun]
  exact mapState_alike (f := oneStep clock) (oneStep_alike clock) alike states

theorem buildAll_alike {s s' : State} {plans plans' : List (LoggerPlan Step)}
    (states : State.Alike s s')
    (alike : List.Forall₂ (LoggerPlan.Alike Step.Alike) plans plans') :
    State.Alike (buildAll clock s plans).1 (buildAll clock s' plans').1 ∧
      List.Forall₂ (Option.Rel Answer.Alike) (buildAll clock s plans).2
        (buildAll clock s' plans').2 := by
  have hbuild : ∀ s plans, buildAll clock s plans = mapState (buildInto clock) s plans :=
    fun _ _ => rfl
  rw [hbuild, hbuild]
  exact mapState_alike (f := buildInto clock) (buildInto_alike clock) alike states

theorem newsOf_alike {s s' : State} {step step' : Step} (states : State.Alike s s')
    (steps : step.Alike step') :
    List.Forall₂ Happening.Alike (newsOf clock s step) (newsOf clock s' step') :=
  (drive_alike clock (turnPage_alike states) (.command steps)).2.2

/-- Besides the endings, what is told of a session. -/
def plot (trail : List (List Happening × List Logger)) : List (List Happening × List Logger) :=
  trail.map fun (hs, loggers) => (steady hs, loggers)

theorem plot_traced_eq {f : State → Step → State × Report} {g : State → Step → List Happening}
    (stepped : ∀ {s s' step step'}, State.Alike s s' → Step.Alike step step' →
      State.Alike (f s step).1 (f s' step').1)
    (told : ∀ {s s' step step'}, State.Alike s s' → Step.Alike step step' →
      List.Forall₂ Happening.Alike (g s step) (g s' step'))
    {s s' : State} {steps steps' : List Step} (states : State.Alike s s')
    (alike : List.Forall₂ Step.Alike steps steps') :
    plot (mapState (traced f g) s steps).2 = plot (mapState (traced f g) s' steps').2 := by
  have step : ∀ {s s' step step'}, State.Alike s s' → Step.Alike step step' →
      State.Alike (traced f g s step).1 (traced f g s' step').1 ∧
        (steady (traced f g s step).2.1, (traced f g s step).2.2) =
          (steady (traced f g s' step').2.1, (traced f g s' step').2.2) := by
    intro s s' step step' states steps
    have next := stepped states steps
    refine ⟨next, ?_⟩
    rw [traced, traced, steady_eq (told states steps), next.loggers]
  obtain ⟨-, side⟩ := mapState_alike (f := traced f g)
    (O := fun o o' => (steady o.1, o.2) = (steady o'.1, o'.2)) step alike states
  have maps := List.forall₂_map_left_iff.2 (List.forall₂_map_right_iff.2 side)
  rwa [List.forall₂_eq_eq_eq] at maps

theorem plot_trail_eq {s s' : State} {steps steps' : List Step} (states : State.Alike s s')
    (alike : List.Forall₂ Step.Alike steps steps') :
    plot (trail clock s steps) = plot (trail clock s' steps') :=
  plot_traced_eq (fun states steps => (oneStep_alike clock states steps).1) (newsOf_alike clock)
    states alike

/-- Two sessions whose scripts differ only in how deliveries end. In every step the same entries are
accepted and cut under the same tickets, and the same sinks are handed the same batches, in the same
order; after every step all loggers are the same, and so are the reports, but for what log and flush
calls came back with. In the end all memory sinks hold the same batches and all files the same
bytes. -/
theorem endings_leave_no_trace (clock : Nat → Instant) (disk : Disk)
    {plans plans' : List (LoggerPlan Step)} {steps steps' : List Step}
    (plansAlike : List.Forall₂ (LoggerPlan.Alike Step.Alike) plans plans')
    (stepsAlike : List.Forall₂ Step.Alike steps steps') :
    let s := (buildAll clock (start disk) plans).1
    let s' := (buildAll clock (start disk) plans').1
    plot (trail clock s steps) = plot (trail clock s' steps') ∧
      List.Forall₂ Report.Alike (runAll clock s steps).2 (runAll clock s' steps').2 ∧
      (runAll clock s steps).1.loggers = (runAll clock s' steps').1.loggers ∧
      (runAll clock s steps).1.host.memories = (runAll clock s' steps').1.host.memories ∧
      (runAll clock s steps).1.host.disk = (runAll clock s' steps').1.host.disk := by
  have started : State.Alike (start disk) (start disk) := ⟨rfl, rfl, rfl, .start disk⟩
  obtain ⟨built, -⟩ := buildAll_alike clock started plansAlike
  obtain ⟨ran, reports⟩ := runAll_alike clock built stepsAlike
  exact ⟨plot_trail_eq clock built stepsAlike, reports, ran.loggers, ran.host.memories_eq,
    ran.host.disk⟩

/-- A logger of interval 1 with a sink that logs and flushes back from inside its first batch and
ends in this way, and one that keeps all it is handed. -/
def bold (ending : Ending) : LoggerPlan Step :=
  .direct (some 1)
    [⟨"bold", .scripted, [], [⟨[.log 0 "again" .info, .flush 0], ending⟩]⟩,
      ⟨"kept", .memory, [], []⟩] none []

theorem bold_alike (ending ending' : Ending) :
    (bold ending).Alike Step.Alike (bold ending') :=
  .direct (some 1) none
    (.cons (.mk "bold" .scripted []
        (.cons (.mk ending ending' (.cons (.same _) (.cons (.same _) .nil))) .nil))
      (.cons (.refl _) .nil)) .nil

/-- Of each step, whether it came back with an error of delivery. -/
def failing (r : Report) : Bool :=
  match r.answer with
  | some (.logged (.error _)) => true
  | some (.flushed (.error _)) => true
  | _ => false

/-- The first logger is there from the start, the second is built on the way; the sink of the second
logs to the first. -/
def boldSteps (ending : Ending) : List Step :=
  [.log 0 "x" .error, .build (bold ending), .log 1 "y" .info]

theorem boldSteps_alike (ending ending' : Ending) :
    List.Forall₂ Step.Alike (boldSteps ending) (boldSteps ending') :=
  .cons (.same _) (.cons (.build (bold_alike ending ending')) (.cons (.same _) .nil))

def boldRun (ending : Ending) : State × List Report :=
  runAll (fun n => ⟨n⟩) (buildAll (fun n => ⟨n⟩) (start .empty) [bold ending]).1 (boldSteps ending)

/-- The calls of one of the sessions fail and those of the other do not, and yet the memory sinks
hold the same. -/
theorem endings_leave_no_trace_bold :
    (boldRun (.returned (.error (.other "full")))).2.map failing = [true, false, true] ∧
      (boldRun (.returned (.ok ()))).2.map failing = [false, false, false] ∧
      (boldRun (.returned (.error (.other "full")))).1.host.memories =
        (boldRun (.returned (.ok ()))).1.host.memories ∧
      (boldRun (.returned (.ok ()))).1.host.memories.map
          (fun m => m.2.map fun b => b.entries.map (·.message)) =
        [[["x"], ["again"], ["again"]], [["y"]]] := by
  refine ⟨by decide +kernel, by decide +kernel, ?_, by decide +kernel⟩
  obtain ⟨-, -, -, hmemories, -⟩ := endings_leave_no_trace (fun n => ⟨n⟩) .empty
    (.cons (bold_alike (.returned (.error (.other "full"))) (.returned (.ok ()))) .nil)
    (boldSteps_alike (.returned (.error (.other "full"))) (.returned (.ok ())))
  exact hmemories

end BatchedLog.Session
