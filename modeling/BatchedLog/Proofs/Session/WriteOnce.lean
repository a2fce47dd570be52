import BatchedLog.Proofs.Delivery.Chunks
import BatchedLog.Proofs.Session.Context
import BatchedLog.Proofs.Session.Metrics

/-!
# The configuration is settled once

What a run of a session does to its context is the course of the commands that are carried out in
it, whatever else happens: calls that log and deliver carry out none, and sinks at work may carry
out more. So no more than one configuration is installed, all who read it read the same, and the
shared logger is made from it.
-/

namespace BatchedLog

namespace Session

/-- What a thread carries out when it takes its next step, if that is a command for the host. -/
def act? (m : Machine) (t : ThreadId) : Option Act :=
  match m.stack t with
  | .command c :: _ =>
    match m.plant.host.ask c with
    | .nothing => some ⟨c, (m.plant.host.perform m.plant.loggers c).2.2⟩
    | _ => none
  | _ => none

/-- All that is carried out while the threads of a schedule take a step each. -/
def acts (clock : Nat → Instant) : List ThreadId → Machine → List Act
  | [], _ => []
  | t :: schedule, m =>
    (act? m t).toList ++
      match pass clock m t with
      | none => []
      | some (next, _) => acts clock schedule next

variable {clock : Nat → Instant} {m u : Machine} {t : ThreadId} {now tally : Tally}

theorem act?_of_ask {c : Step} {rest : List (Frame Step)} (hstack : m.stack t = .command c :: rest)
    (hask : m.plant.host.ask c = .nothing) :
    act? m t = some ⟨c, (m.plant.host.perform m.plant.loggers c).2.2⟩ := by
  simp only [act?, hstack, hask]

theorem act?_eq_none
    (h : ∀ c rest, m.stack t = .command c :: rest → m.plant.host.ask c ≠ .nothing) :
    act? m t = none := by
  unfold act?
  split
  · rename_i c rest hstack
    split
    · rename_i hask
      exact absurd hask (h c rest hstack)
    · rfl
  · rfl

/-- Loggers keep their sinks and their intervals. -/
def Kept (loggers loggers' : List Logger) : Prop :=
  ∀ (id : LoggerId) (l : Logger), loggers[id]? = some l →
    ∃ l', loggers'[id]? = some l' ∧ l'.sinks = l.sinks ∧ l'.interval = l.interval

theorem Kept.refl (loggers : List Logger) : Kept loggers loggers := fun _ l h => ⟨l, h, rfl, rfl⟩

theorem Kept.set {loggers : List Logger} {id : LoggerId} {l l' : Logger}
    (hl : loggers[id]? = some l) (hsinks : l'.sinks = l.sinks)
    (hinterval : l'.interval = l.interval) :
    Kept loggers (loggers.set id l') := by
  intro other k hk
  rw [List.getElem?_set]
  split
  · rename_i heq
    subst heq
    rw [hl] at hk
    cases hk
    exact ⟨l', by rw [if_pos (List.getElem?_eq_some_iff.1 hl).1], hsinks, hinterval⟩
  · exact ⟨k, hk, rfl, rfl⟩

theorem Kept.trans {first second third : List Logger} (h : Kept first second)
    (h' : Kept second third) : Kept first third := by
  intro id l hl
  obtain ⟨l', hl', hsinks, hinterval⟩ := h id l hl
  obtain ⟨l'', hl'', hsinks', hinterval'⟩ := h' id l' hl'
  exact ⟨l'', hl'', hsinks'.trans hsinks, hinterval'.trans hinterval⟩

/-- So a logger made from a configuration stays one. -/
theorem Kept.exists_from {φ : Type} {registry : Registry φ} {config : AppConfig}
    {loggers loggers' : List Logger} (kept : Kept loggers loggers') {id : LoggerId} {l : Logger}
    (hl : loggers[id]? = some l) (made : l.From registry config) :
    ∃ l', loggers'[id]? = some l' ∧ l'.From registry config := by
  obtain ⟨l', hl', hsinks, hinterval⟩ := kept id l hl
  refine ⟨l', hl', hinterval.trans made.interval, ?_⟩
  rw [Logger.sinkNames, hsinks]
  exact made.names

theorem kept_of_rule {p : State} {done : List Bool} {stack : List (Frame Step)}
    {out : Turnout World Step Reply} (rule : Machine.Rule (host clock) p done stack out) :
    Kept p.loggers out.plant.loggers := by
  cases rule with
  | perform =>
    rw [Machine.loggers_finish]
    intro id l hl
    refine ⟨l, ?_, rfl, rfl⟩
    rw [Machine.grown, List.getElem?_append_left (List.getElem?_eq_some_iff.1 hl).1]
    exact hl
  | logHeld hl =>
    rw [Machine.loggers_finish]
    exact .set hl rfl rfl
  | log hl =>
    rw [Machine.loggers_afterCut]
    exact .set hl (Logger.cutDue_cuts _).sinks_eq (Logger.interval_cutDue _)
  | flush hl =>
    rw [Machine.loggers_afterCut]
    exact .set hl (Logger.cutAll_cuts _).sinks_eq (Logger.interval_cutAll _)
  | drain hl =>
    rw [Machine.loggers_afterCut]
    exact .set hl (Logger.cutDue_cuts _).sinks_eq (Logger.interval_cutDue _)
  | release hl => exact .set hl rfl rfl
  | askSpawn | logNowhere | flushNowhere | flushHeld | burstEnd | join =>
    rw [Machine.loggers_finish]
    exact .refl _
  | _ => exact .refl _

/-! ### One step -/

theorem ambient_settle (m : Machine) : (settle m).plant.host.ambient = m.plant.host.ambient := by
  have noted : ∀ ns : List Nat,
      (ns.foldl (fun w n => w.note (.dropped n)) m.plant.host).ambient = m.plant.host.ambient :=
    fun ns => World.ambient_of_outline (World.outline_notes ..)
  unfold settle
  dsimp only
  split
  · rfl
  · exact noted _

/-- A step leaves the context and the shared logger alone, unless a command is carried out in it;
then it makes of them what the command does. -/
theorem pass_cases (h : pass clock m t = some (u, now)) :
    Kept m.plant.loggers u.plant.loggers ∧
      (act? m t = none ∧ u.plant.host.ambient = m.plant.host.ambient ∨
        ∃ c w opened r, act? m t = some ⟨c, r⟩ ∧
          m.plant.host.perform m.plant.loggers c = (w, opened, r) ∧
          u.plant.host.ambient = w.ambient ∧
          u.plant.loggers = Machine.grown m.plant.loggers opened) := by
  unfold pass at h
  split at h
  · cases h
  · rename_i next hs hstep
    cases h
    obtain ⟨th, out, hth, rule, hplant, -, -⟩ := System.exists_turnout hstep
    have hstack := System.stack_of_getElem hth
    have hloggers : (settle next).plant.loggers = out.plant.loggers := by
      rw [(settle_cases next).2.1, hplant]
    have hambient : (settle next).plant.host.ambient = out.plant.host.ambient := by
      have hobserved := World.ambient_of_outline
        (World.outline_observeAll out.plant.host out.happenings)
      rw [ambient_settle, hplant]
      exact hobserved
    rw [hloggers, hambient]
    refine ⟨kept_of_rule rule, ?_⟩
    rcases outline_of_rule rule with ⟨houtline, -, hidle⟩ |
      ⟨c, rest, w, opened, r, hcommand, hask, hperform, houtline, hopened⟩
    · exact .inl ⟨act?_eq_none (hstack ▸ hidle), World.ambient_of_outline houtline⟩
    · refine .inr ⟨c, w, opened, r, ?_, hperform, World.ambient_of_outline houtline, hopened⟩
      rw [act?_of_ask (hstack.trans hcommand) hask, hperform]

/-- What a step makes of the context, and of the shared logger. -/
theorem course_pass (settled : m.plant.host.Settled) (h : pass clock m t = some (u, now))
    (never : ∀ act ∈ (act? m t).toList, act.replaces = false) :
    m.plant.host.context.Course (act? m t).toList u.plant.host.context ∧
      m.plant.host.MadeBy u.plant.host u.plant.loggers := by
  obtain ⟨-, ⟨hact, hambient⟩ | ⟨c, w, opened, r, hact, hperform, hambient, hloggers⟩⟩ :=
    pass_cases h
  · obtain ⟨hcontext, hshared⟩ := Prod.mk.inj hambient
    rw [hact, hcontext]
    exact ⟨.nil, .inl (congrArg Shared.logger hshared)⟩
  · have course := World.course_perform settled m.plant.loggers c
    rw [hperform] at course
    obtain ⟨answers, hcontext, made⟩ := course
    rw [hact] at never ⊢
    rw [(Prod.mk.inj hambient).1, hcontext, hloggers]
    exact ⟨.cons answers .nil,
      (made (never _ (List.mem_singleton_self _))).of_ambient hambient⟩

theorem ambient_of_idle {w w' : World} {loggers : List Logger}
    {opened : List (FlushPolicy × List Wired)} {c : Step} {r : Reply}
    (hperform : w.perform loggers c = (w', opened, r))
    (idle : Act.isIdle ⟨c, r⟩ = true) : w'.ambient = w.ambient := by
  cases hstep : c.isAmbient with
  | false =>
    have hambient := World.ambient_perform hstep w loggers
    rw [hperform] at hambient
    exact hambient
  | true =>
    cases c with
    | install source =>
      cases hsource : source.config? with
      | none =>
        obtain ⟨e, hinstall⟩ := World.install_of_unread (w := w) hsource
        cases hinstall.symm.trans hperform
        rfl
      | some config =>
        cases hconfig : w.context.config with
        | none =>
          cases (World.install_of_none hsource hconfig).symm.trans hperform
          cases idle
        | some standing =>
          cases (World.install_of_isSome hsource (by simp [hconfig])).symm.trans hperform
          rfl
    | _ => simp [Act.isIdle, hstep] at idle

/-- A step in which no command is carried out, or one that is not about the context and the shared
logger, leaves these alone, and so does an install that is refused. -/
theorem ambient_of_pass (h : pass clock m t = some (u, now))
    (idle : ∀ act, act? m t = some act → act.isIdle = true) :
    u.plant.host.ambient = m.plant.host.ambient := by
  obtain ⟨-, ⟨-, hambient⟩ | ⟨c, w, opened, r, hact, hperform, hambient, -⟩⟩ := pass_cases h
  · exact hambient
  · exact hambient.trans (ambient_of_idle hperform (idle _ hact))

/-- What is installed stands, with its debug flag. -/
theorem context_of_installed {source : Source} (h : pass clock m t = some (u, now))
    (hact : act? m t = some ⟨.install source, .installed⟩) :
    ∃ config, source.config? = some config ∧ u.plant.host.context = ⟨some config, config.debug⟩ ∧
      u.plant.host.shared = m.plant.host.shared := by
  obtain ⟨-, ⟨hnone, -⟩ | ⟨c, w, opened, r, hsome, hperform, hambient, -⟩⟩ := pass_cases h
  · rw [hnone] at hact
    cases hact
  · cases hsome.symm.trans hact
    obtain ⟨hcontext, hshared⟩ := Prod.mk.inj hambient
    obtain ⟨answers, -, hkept⟩ := World.course_install m.plant.host source
    have hinstall : m.plant.host.install source = (w, opened, .installed) := hperform
    rw [hinstall] at answers hkept
    cases hsource : source.config? with
    | none =>
      obtain ⟨e, herror⟩ := (Context.answers_install_unread hsource _).1 answers
      cases herror
    | some config =>
      rcases (Context.answers_install hsource _).1 answers with ⟨hconfig, -⟩ | ⟨-, hrefused⟩
      · cases (World.install_of_none hsource hconfig).symm.trans hinstall
        exact ⟨config, rfl, hcontext, hshared⟩
      · cases hrefused

/-! ### All steps -/

/-- The next step of a thread makes the shared logger that `u` has, from the configuration that
stands there and with the types registered by then. -/
def MadeAt (clock : Nat → Instant) (v : Machine) (t : ThreadId) (u : Machine) : Prop :=
  v.plant.host.shared.logger = none ∧ ∃ w now id config l, pass clock v t = some (w, now) ∧
    w.plant.host.shared.logger = some id ∧ u.plant.host.shared.logger = some id ∧
    u.plant.host.context.config = some config ∧ u.plant.loggers[id]? = some l ∧
    l.From v.plant.host.registry config

/-- It was made on the way from `m`. -/
def MadeAlong (clock : Nat → Instant) (schedule : List ThreadId) (m u : Machine) : Prop :=
  ∃ before t after v tally, schedule = before ++ t :: after ∧
    passes clock before m = some (v, tally) ∧ MadeAt clock v t u

/-- What the steps of a schedule make of the context, and of the shared logger. -/
theorem course_passes (schedule : List ThreadId) : ∀ {m : Machine} {tally : Tally},
    m.plant.host.Settled → passes clock schedule m = some (u, tally) →
    (∀ act ∈ acts clock schedule m, act.replaces = false) →
    m.plant.host.context.Course (acts clock schedule m) u.plant.host.context ∧
      Kept m.plant.loggers u.plant.loggers ∧
      (u.plant.host.shared.logger = m.plant.host.shared.logger ∨ MadeAlong clock schedule m u) := by
  induction schedule with
  | nil =>
    intro m tally _ hrun _
    cases hrun
    exact ⟨.nil, .refl _, .inl rfl⟩
  | cons t schedule ih =>
    intro m tally settled hrun never
    unfold passes at hrun
    split at hrun
    · cases hrun
    rename_i next now hpass
    split at hrun
    · cases hrun
    rename_i last later hrest
    cases hrun
    have hacts : acts clock (t :: schedule) m = (act? m t).toList ++ acts clock schedule next := by
      simp only [acts, hpass]
    rw [hacts] at never ⊢
    obtain ⟨neverNow, neverLater⟩ := List.forall_mem_append.1 never
    obtain ⟨course, made⟩ := course_pass settled hpass neverNow
    obtain ⟨rest, kept, along⟩ := ih (made.settled settled course) hrest neverLater
    refine ⟨course.trans rest, (pass_cases hpass).1.trans kept, ?_⟩
    rcases along with hshared | ⟨before, t', after, v, tally, hschedule, hv, made'⟩
    · rcases made with hshared' | ⟨hnone, id, l, config, hid, hl, hconfig, hfrom⟩
      · exact .inl (hshared.trans hshared')
      · obtain ⟨l', hl', hfrom'⟩ := kept.exists_from hl hfrom
        exact .inr ⟨[], t, schedule, m, .empty, rfl, rfl, hnone, next, now, id, config, l', hpass,
          hid, hshared.trans hid, rest.config_eq_of_some hconfig, hl', hfrom'⟩
    · rw [hschedule]
      exact .inr ⟨t :: before, t', after, v, now.append tally, rfl, passes_cons hpass hv, made'⟩

/-- What there is to a run from `m` to `u` in which the configuration is settled once. -/
structure WriteOnce (clock : Nat → Instant) (schedule : List ThreadId) (m u : Machine) : Prop where
  /-- No more than one configuration is installed. -/
  installs_le_one : (acts clock schedule m).countP Act.installs ≤ 1
  /-- It is just if none was installed or read before, and else it is handed back. -/
  installed_iff : ∀ before source reply after config,
    acts clock schedule m = before ++ ⟨.install source, reply⟩ :: after →
    source.config? = some config →
    (reply = .installed ↔ ∀ act ∈ before, act.installs = false ∧ act.reads = false) ∧
      (reply = .refused config ↔ ¬∀ act ∈ before, act.installs = false ∧ act.reads = false)
  /-- What is read is always the same. -/
  reads : ∀ reply, ⟨.config, reply⟩ ∈ acts clock schedule m →
    ∃ config, reply = .config config ∧ u.plant.host.context.config = some config
  /-- The first act that settles on a configuration is the one that counts. -/
  config : u.plant.host.context.config = (acts clock schedule m).findSome? Act.settles?
  /-- The debug flag is what it was last set to, by hand or by the configuration installed. -/
  debug : u.plant.host.context.debug =
    (acts clock schedule m).foldl Act.debug m.plant.host.context.debug
  /-- Who asks for it is told so. -/
  flags : ∀ before reply after, acts clock schedule m = before ++ ⟨.isDebug, reply⟩ :: after →
    reply = .flag (before.foldl Act.debug m.plant.host.context.debug)
  /-- The shared logger was made from the configuration that stands. -/
  shared : u.plant.host.shared.logger.isSome → MadeAlong clock schedule m u
  /-- In a step of this run or any other, an install that is refused changes none of this, nor does
  anything that is not about the context: making loggers, logging to them, delivering. -/
  idle : ∀ {v w : Machine} {t : ThreadId} {now : Tally}, pass clock v t = some (w, now) →
    (∀ act, act? v t = some act → act.isIdle = true) → w.plant.host.ambient = v.plant.host.ambient
  /-- An install that succeeds sets the configuration and the debug flag, and leaves the shared
  logger alone. -/
  installed : ∀ {v w : Machine} {t : ThreadId} {now : Tally} {source : Source},
    pass clock v t = some (w, now) → act? v t = some ⟨.install source, .installed⟩ →
    ∃ config, source.config? = some config ∧ w.plant.host.context = ⟨some config, config.debug⟩ ∧
      w.plant.host.shared = v.plant.host.shared

/-- Where nothing is settled yet, whatever the threads do, in whatever order, settles the
configuration once, unless the shared logger is replaced. -/
theorem context_writeOnce {schedule : List ThreadId} (unread : m.plant.host.context.config = none)
    (fresh : m.plant.host.shared.logger = none) (hrun : passes clock schedule m = some (u, tally))
    (never : ∀ act ∈ acts clock schedule m, act.replaces = false) :
    WriteOnce clock schedule m u := by
  have settled : m.plant.host.Settled := by
    intro hshared
    rw [fresh] at hshared
    cases hshared
  obtain ⟨course, -, made⟩ := course_passes schedule settled hrun never
  refine ⟨course.installs_le_one, ?_, ?_, ?_, course.debug_eq, ?_, ?_, ambient_of_pass,
    context_of_installed⟩
  · intro before source reply after config hacts hsource
    rw [hacts] at course
    obtain ⟨mid, hbefore, answers, -⟩ := course.exists_middle
    have hmid : mid.config = none ↔ ∀ act ∈ before, act.installs = false ∧ act.reads = false :=
      hbefore.config_eq_none_iff.trans (and_iff_right unread)
    rw [← hmid]
    rcases (Context.answers_install hsource reply).1 answers with ⟨hnone, rfl⟩ | ⟨hsome, rfl⟩
    · simp [hnone]
    · simp [Option.isSome_iff_ne_none.1 hsome]
  · intro reply hread
    obtain ⟨before, after, hacts⟩ := List.append_of_mem hread
    rw [hacts] at course
    obtain ⟨mid, -, answers, hafter⟩ := course.exists_middle
    rw [Context.after_of_reads rfl rfl] at hafter
    exact ⟨mid.read.2, answers, hafter.config_eq_of_some mid.config_read⟩
  · rw [course.config_eq, unread]
    exact Option.none_or
  · intro before reply after hacts
    rw [hacts] at course
    obtain ⟨mid, hbefore, answers, -⟩ := course.exists_middle
    rw [← hbefore.debug_eq]
    exact answers
  · intro hsome
    rcases made with hsame | made
    · rw [hsame, fresh] at hsome
      cases hsome
    · exact made

/-- Debug mode, and a logger of interval 3 with a target of a type that is always there and one of a
type that is not. -/
def verbose : AppConfig :=
  ⟨true, some ⟨some [("odd", ⟨some "syslog", []⟩), ("app", ⟨some "tracing", []⟩)], 3⟩, .default⟩

/-- One thread installs a configuration, builds a logger of its own and logs to it; another asks for
the shared logger, turns the flag off, installs and reads. -/
def contested : Machine where
  plant := start .empty
  threads := [
    ⟨[.command (.build (.independent ⟨some [("own", ⟨some "tracing", []⟩)], 9⟩)),
      .command (.log 0 "early" .info), .command (.install (.config verbose))], none⟩,
    ⟨[.command .get, .command (.setDebug false), .command (.install (.config .default)),
      .command .config], none⟩]

/-- Where the first thread comes first, what it has installed is what the other finds, and the
shared logger is made from; the flag is what the other has set. -/
theorem context_writeOnce_contested : ∃ u tally config,
    passes (fun n => ⟨n⟩) [0, 0, 0, 0, 1, 1, 1, 1] contested = some (u, tally) ∧
      WriteOnce (fun n => ⟨n⟩) [0, 0, 0, 0, 1, 1, 1, 1] contested u ∧
      u.plant.host.context = ⟨some config, false⟩ ∧ config.interval = 3 ∧ config.debug = true ∧
      MadeAlong (fun n => ⟨n⟩) [0, 0, 0, 0, 1, 1, 1, 1] contested u := by
  have hrun : (passes (fun n => ⟨n⟩) [0, 0, 0, 0, 1, 1, 1, 1] contested).any
      (·.1.plant.host.shared.logger.isSome) = true := by
    decide +kernel
  have hacts : let carried := acts (fun n => ⟨n⟩) [0, 0, 0, 0, 1, 1, 1, 1] contested
      (∀ act ∈ carried, act.replaces = false) ∧
        (carried.findSome? Act.settles?).map (fun config => (config.interval, config.debug)) =
          some (3, true) ∧
        carried.foldl Act.debug false = false := by
    decide +kernel
  obtain ⟨⟨u, tally⟩, run, hshared⟩ := (Option.any_eq_true _ _).1 hrun
  obtain ⟨never, hsettled, hdebug⟩ := hacts
  obtain ⟨config, hconfig, hfigures⟩ := Option.map_eq_some_iff.1 hsettled
  obtain ⟨hinterval, hflag⟩ := Prod.mk.inj hfigures
  have once := context_writeOnce rfl rfl run never
  have hcontext : u.plant.host.context = ⟨some config, false⟩ := by
    rw [← hconfig, ← once.config, ← hdebug]
    exact congrArg (Context.mk _) once.debug
  exact ⟨u, tally, config, run, once, hcontext, hinterval, hflag, once.shared hshared⟩

end Session

end BatchedLog
