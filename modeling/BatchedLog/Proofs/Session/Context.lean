import BatchedLog.Proofs.Config.Accepted
import BatchedLog.Proofs.Delivery.Rules
import BatchedLog.Proofs.Session.Books

/-!
# What commands make of the context

The first command that installs or reads the configuration settles it, and so does a call for the
shared logger, even one that fails. An `Act` is a command that was carried out, with its reply;
`Context.after` says what it makes of the configuration and of the debug flag, and `Course` that the
replies along the way are those of the configuration as it then stood.
-/

namespace BatchedLog

/-- A logger with the interval of a configuration, and a sink for each of its targets of a
registered type. -/
structure Logger.From {φ : Type} (registry : Registry φ) (config : AppConfig) (l : Logger) :
    Prop where
  interval : l.interval = config.interval
  names : l.sinkNames = (config.targets.filter (·.2.isKnown registry)).map (·.1)

namespace Session

/-- The configuration that is to be installed, if there is one. -/
def Source.config? : Source → Option AppConfig
  | .config c => some c
  | .toml text => (AppConfig.parse text).toOption

/-- Whether a step concerns the context of the process or its shared logger. -/
def Step.isAmbient : Step → Bool
  | .install _ | .config | .setDebug _ | .get | .getThreads _ | .replace _ => true
  | _ => false

/-- A command that was carried out, and its reply. -/
structure Act where
  step : Step
  reply : Reply

namespace Act

/-- The configuration that an act settles on where none stands. -/
def settles? : Act → Option AppConfig
  | ⟨.install source, .installed⟩ => source.config?
  | ⟨.config, _⟩ | ⟨.get, _⟩ | ⟨.getThreads (_ + 1), _⟩ => some .default
  | _ => none

/-- The debug flag after an act. -/
def debug (on : Bool) : Act → Bool
  | ⟨.install source, .installed⟩ => (source.config?.map (·.debug)).getD on
  | ⟨.setDebug on, _⟩ => on
  | _ => on

/-- Whether a configuration was installed. -/
def installs : Act → Bool
  | ⟨.install _, .installed⟩ => true
  | _ => false

/-- Whether the configuration was read, by itself or in a call for the shared logger. -/
def reads : Act → Bool
  | ⟨.config, _⟩ | ⟨.get, _⟩ | ⟨.getThreads (_ + 1), _⟩ => true
  | _ => false

/-- Whether the shared logger was replaced. -/
def replaces : Act → Bool
  | ⟨.replace _, _⟩ => true
  | _ => false

/-- Whether an act has no effect on the context and the shared logger: an install that was refused
has none, nor have the commands that are not about them. -/
def isIdle : Act → Bool
  | ⟨.install _, .refused _⟩ => true
  | ⟨step, _⟩ => !step.isAmbient

end Act

end Session

open Session (Act)

namespace Context

/-- What is left by an act. A configuration that stands is not touched. -/
def after (c : Context) (act : Act) : Context := ⟨c.config.or act.settles?, act.debug c.debug⟩

/-- Whether an act has the reply that there is to it where the context is `c`. -/
def Answers (c : Context) (act : Act) : Prop :=
  match act.step with
  | .install source =>
    match source.config? with
    | some config => (c.config = none ∧ act.reply = .installed) ∨
        c.config.isSome ∧ act.reply = .refused config
    | none => ∃ e, act.reply = .notInstalled e
  | .config => act.reply = .config c.read.2
  | .isDebug => act.reply = .flag c.debug
  | _ => True

theorem answers_install {c : Context} {source : Session.Source} {config : AppConfig}
    (h : source.config? = some config) (reply : Session.Reply) :
    c.Answers ⟨.install source, reply⟩ ↔
      (c.config = none ∧ reply = .installed) ∨ (c.config.isSome ∧ reply = .refused config) := by
  simp only [Answers, h]

theorem answers_install_unread {c : Context} {source : Session.Source}
    (h : source.config? = none) (reply : Session.Reply) :
    c.Answers ⟨.install source, reply⟩ ↔ ∃ e, reply = .notInstalled e := by
  simp only [Answers, h]

/-- Acts one after the other, from one context to another. -/
inductive Course : Context → List Act → Context → Prop
  | nil {c} : Course c [] c
  | cons {c c' act acts} : c.Answers act → Course (c.after act) acts c' →
      Course c (act :: acts) c'

theorem isSome_read (c : Context) : c.read.1.config.isSome = true := by
  unfold read
  split
  · rename_i h
    simp [h]
  · rfl

theorem config_read (c : Context) : c.read.1.config = some c.read.2 := by
  unfold read
  split
  · rename_i h
    exact h
  · rfl

theorem after_of_quiet {step : Session.Step} (h : step.isAmbient = false) (c : Context)
    (reply : Session.Reply) : c.after ⟨step, reply⟩ = c := by
  cases step with
  | install | config | setDebug | get | getThreads | replace => cases h
  | _ => simp [after, Act.settles?, Act.debug]

/-- An act that reads the configuration settles it. -/
theorem after_of_reads {c : Context} {act : Act} (h : act.settles? = some .default)
    (hdebug : act.debug c.debug = c.debug) : c.after act = c.read.1 := by
  obtain ⟨config, on⟩ := c
  unfold after
  rw [h, hdebug]
  cases config with
  | none => rfl
  | some config => rfl

/-- No configuration stands after an act that neither installs nor reads one, and only then. -/
theorem config_after_eq_none {c : Context} {act : Act} (answers : c.Answers act) :
    (c.after act).config = none ↔
      c.config = none ∧ act.installs = false ∧ act.reads = false := by
  rw [after, Option.or_eq_none_iff]
  refine and_congr_right fun _ => ?_
  obtain ⟨step, reply⟩ := act
  cases step with
  | install source =>
    cases hsource : source.config? with
    | none =>
      obtain ⟨e, rfl⟩ := (answers_install_unread hsource reply).1 answers
      simp [Act.settles?, Act.installs, Act.reads]
    | some config =>
      rcases (answers_install hsource reply).1 answers with ⟨-, rfl⟩ | ⟨-, rfl⟩
      · simp [Act.settles?, Act.installs, hsource]
      · simp [Act.settles?, Act.installs, Act.reads]
  | getThreads n => cases n <;> simp [Act.settles?, Act.installs, Act.reads]
  | _ => simp [Act.settles?, Act.installs, Act.reads]

theorem read_of_isSome {c : Context} (settled : c.config.isSome) : c.read.1 = c := by
  obtain ⟨config, hsome⟩ := Option.isSome_iff_exists.1 settled
  simp only [read, hsome]

namespace Course

variable {c c' : Context} {acts : List Act}

theorem trans {c'' : Context} {more : List Act} (first : Course c acts c')
    (second : Course c' more c'') : Course c (acts ++ more) c'' := by
  induction first with
  | nil => exact second
  | cons answers _ ih => exact .cons answers (ih second)

/-- The first act to settle the configuration is the one that counts. -/
theorem config_eq (h : Course c acts c') :
    c'.config = c.config.or (acts.findSome? Act.settles?) := by
  induction h with
  | nil => simp
  | @cons c c' act acts _ _ ih =>
    rw [ih, after, List.findSome?_cons, Option.or_assoc]
    cases act.settles? with
    | none => rfl
    | some config => rfl

theorem config_eq_of_some {config : AppConfig} (h : Course c acts c')
    (hc : c.config = some config) :
    c'.config = some config := by
  rw [h.config_eq, hc]
  rfl

/-- The last act to set the flag is. -/
theorem debug_eq (h : Course c acts c') : c'.debug = acts.foldl Act.debug c.debug := by
  induction h with
  | nil => rfl
  | cons _ _ ih => exact ih

/-- An act within a course has the reply of the context as the acts before it have left it. -/
theorem exists_middle {before after : List Act} {act : Act}
    (h : Course c (before ++ act :: after) c') :
    ∃ mid, Course c before mid ∧ mid.Answers act ∧ Course (mid.after act) after c' := by
  induction before generalizing c with
  | nil =>
    cases h with
    | cons answers rest => exact ⟨c, .nil, answers, rest⟩
  | cons first before ih =>
    cases h with
    | cons answers rest =>
      obtain ⟨mid, hbefore, hact, hafter⟩ := ih rest
      exact ⟨mid, .cons answers hbefore, hact, hafter⟩

theorem config_eq_none_iff (h : Course c acts c') :
    c'.config = none ↔
      c.config = none ∧ ∀ act ∈ acts, act.installs = false ∧ act.reads = false := by
  induction h with
  | nil => simp
  | cons answers _ ih => rw [ih, config_after_eq_none answers, List.forall_mem_cons, and_assoc]

theorem after_of_isSome (settled : c.config.isSome) (act : Act) :
    (c.after act).config = c.config := by
  rw [after, Option.or_of_isSome settled]

/-- What is installed is so where nothing stands, and stands from then on. -/
theorem of_installs {act : Act} (answers : c.Answers act) (h : act.installs = true) :
    c.config = none ∧ (c.after act).config.isSome := by
  obtain ⟨step, reply⟩ := act
  cases step with
  | install source =>
    cases hsource : source.config? with
    | none =>
      obtain ⟨e, rfl⟩ := (answers_install_unread hsource reply).1 answers
      cases h
    | some config =>
      rcases (answers_install hsource reply).1 answers with ⟨hnone, rfl⟩ | ⟨-, rfl⟩
      · exact ⟨hnone, by simp [after, Act.settles?, hsource]⟩
      · cases h
  | _ => cases h

/-- Nothing is installed where a configuration stands. -/
theorem installs_eq_zero (h : Course c acts c') (settled : c.config.isSome) :
    acts.countP Act.installs = 0 := by
  induction h with
  | nil => rfl
  | @cons c c' act acts answers _ ih =>
    rw [List.countP_cons, ih (by rw [after_of_isSome settled]; exact settled), if_neg]
    intro installs
    rw [(of_installs answers installs).1] at settled
    cases settled

theorem installs_le_one (h : Course c acts c') : acts.countP Act.installs ≤ 1 := by
  induction h with
  | nil => exact Nat.zero_le _
  | @cons c c' act acts answers rest ih =>
    rw [List.countP_cons]
    split
    · rename_i installs
      have hzero := installs_eq_zero rest (of_installs answers installs).2
      exact Nat.le_of_eq (congrArg (· + 1) hzero)
    · exact ih

end Course

end Context

namespace Session

namespace World

variable {w : World} {loggers : List Logger}

/-! ## Installing -/

section

variable {source : Source} {config : AppConfig}

theorem install_eq (hsource : source.config? = some config) :
    w.install source = install.installed w config := by
  cases source with
  | config c =>
    cases hsource
    rfl
  | toml text =>
    have hparse : AppConfig.parse text = .ok config := toOption_eq_some.1 hsource
    simp only [install, hparse]

theorem install_of_none (hsource : source.config? = some config) (h : w.context.config = none) :
    w.install source =
      ({ w with context := ⟨some config, config.debug⟩ }, [], .installed) := by
  simp only [install_eq hsource, install.installed, Context.install, h]
  rfl

theorem install_of_isSome (hsource : source.config? = some config)
    (h : w.context.config.isSome) : w.install source = (w, [], .refused config) := by
  obtain ⟨standing, hsome⟩ := Option.isSome_iff_exists.1 h
  simp only [install_eq hsource, install.installed, Context.install, hsome]
  rfl

theorem install_of_unread (hsource : source.config? = none) :
    ∃ e, w.install source = (w, [], .notInstalled e) := by
  cases source with
  | config c => cases hsource
  | toml text =>
    cases hparse : AppConfig.parse text with
    | error e => exact ⟨e, by simp only [install, hparse]; rfl⟩
    | ok config =>
      rw [Source.config?, hparse] at hsource
      cases hsource

end

/-! ## Calls for the shared logger -/

/-- A shared logger that is there was made from a configuration that stands. -/
def Settled (w : World) : Prop := w.shared.logger.isSome → w.context.config.isSome

/-- What calls for the shared logger do, one or several: they settle the configuration, and if there
was no shared logger there may be one now, made from that configuration. -/
structure Tried (loggers : List Logger) (before after : World × List Wiring) : Prop where
  registry : after.1.registry = before.1.registry
  context : after.1.context = before.1.context.read.1
  shared : (after.1.shared.logger = before.1.shared.logger ∧ after.2 = before.2) ∨
    (before.1.shared.logger = none ∧ ∃ wiring : Wiring, after.2 = before.2 ++ [wiring] ∧
      after.1.shared.logger = some (loggers.length + before.2.length) ∧
      (Logger.start wiring.policy wiring.sinks).From before.1.registry before.1.context.read.2)

variable {before mid after : World × List Wiring}

theorem Tried.settled (h : Tried loggers before after) : after.1.Settled := by
  intro _
  rw [h.context]
  exact Context.isSome_read _

theorem Tried.trans (first : Tried loggers before mid) (second : Tried loggers mid after) :
    Tried loggers before after where
  registry := second.registry.trans first.registry
  context := by rw [second.context, first.context, Context.read_read]
  shared := by
    rcases first.shared with ⟨hshared, hopened⟩ | ⟨hnone, wiring, hopened, hshared, made⟩
    · have hsecond := second.shared
      rw [hshared, hopened, first.registry, first.context, Context.read_read] at hsecond
      exact hsecond
    · rcases second.shared with ⟨hshared', hopened'⟩ | ⟨hnone', -⟩
      · exact .inr ⟨hnone, wiring, hopened'.trans hopened, hshared'.trans hshared, made⟩
      · rw [hshared] at hnone'
        cases hnone'

theorem tried_acquire (loggers : List Logger) (before : World × List Wiring)
    (settled : before.1.Settled) : Tried loggers before (acquire loggers before).1 := by
  cases hshared : before.1.shared.logger with
  | some l =>
    have hacquire : acquire loggers before = (before, .ok l) := by
      simp only [acquire, Shared.acquire, hshared]
    rw [hacquire]
    refine ⟨rfl, (Context.read_of_isSome (settled ?_)).symm, .inl ⟨rfl, rfl⟩⟩
    rw [hshared]
    rfl
  | none =>
    obtain ⟨w, houtline, hmade⟩ := makeShared_cases loggers before
    have hregistry := registry_of_outline houtline
    have hcontext := context_of_outline houtline
    rcases hmade with ⟨e, hmake⟩ | ⟨wiring, hwire, hmake⟩
    · have hacquire : acquire loggers before =
          (({ w with shared := before.1.shared }, before.2), .error e) := by
        simp only [acquire, Shared.acquire, hshared, hmake]
      rw [hacquire]
      exact ⟨hregistry, hcontext, .inl ⟨rfl, rfl⟩⟩
    · have hacquire : acquire loggers before =
          (({ w with shared :=
                { before.1.shared with logger := some (loggers.length + before.2.length) } },
            before.2 ++ [wiring]), .ok (loggers.length + before.2.length)) := by
        simp only [acquire, Shared.acquire, hshared, hmake]
      obtain ⟨supplies, hpolicy, -⟩ := Wiring.supplies_of_ofConfig (Prod.ext rfl hwire)
      rw [hacquire]
      refine ⟨hregistry, hcontext, .inr ⟨hshared, wiring, rfl, rfl, ?_, supplies.names⟩⟩
      rw [hpolicy]
      rfl

theorem tried_getMany (loggers : List Logger) (n : Nat) : ∀ before : World × List Wiring,
    before.1.Settled → Tried loggers before (getMany loggers (n + 1) before).1 := by
  induction n with
  | zero => exact fun before settled => tried_acquire loggers before settled
  | succ n ih =>
    intro before settled
    have first := tried_acquire loggers before settled
    exact first.trans (ih _ first.settled)

/-! ## Commands -/

/-- The context of the process and its shared logger. -/
def ambient (w : World) : Context × Shared := (w.context, w.shared)

theorem ambient_of_outline {w w' : World} (h : w'.outline = w.outline) : w'.ambient = w.ambient :=
  Prod.ext (context_of_outline h) (shared_of_outline h)

theorem ambient_slotOf (w : World) (l : LoggerId) : (w.slotOf l).1.ambient = w.ambient := by
  unfold slotOf
  split
  · rfl
  · rfl

theorem ambient_slotAll (ls : List LoggerId) : ∀ (w : World) (is : List Nat),
    (ls.foldl (fun (w, is) l => let (w, i) := slotOf w l; (w, is ++ [i])) (w, is)).1.ambient =
      w.ambient := by
  induction ls with
  | nil => exact fun _ _ => rfl
  | cons l ls ih => exact fun w is => (ih _ _).trans (ambient_slotOf w l)

theorem ambient_build (w : World) (loggers : List Logger) (plan : LoggerPlan Step) :
    (w.build loggers plan).1.ambient = w.ambient := by
  have hwire := ambient_of_outline (outline_wire w plan)
  unfold build
  generalize w.wire plan = result at hwire ⊢
  obtain ⟨w', e | wiring⟩ := result
  · exact hwire
  · exact (ambient_slotOf ..).trans hwire

theorem ambient_drop (w : World) (i : Nat) : (w.drop i).1.ambient = w.ambient := by
  unfold drop
  split
  · rfl
  · dsimp only [plainly, release]
    split
    · rfl
    · rfl

/-- All other commands leave the context and the shared logger alone. -/
theorem ambient_perform {step : Step} (h : step.isAmbient = false) (w : World)
    (loggers : List Logger) : (w.perform loggers step).1.ambient = w.ambient := by
  cases step with
  | build plan => exact ambient_build w loggers plan
  | drop i => exact ambient_drop w i
  | remove path =>
    unfold perform
    dsimp only
    split
    · rfl
    · rfl
  | install | config | setDebug | get | getThreads | replace => cases h
  | _ => rfl

/-- What a command makes of the shared logger, unless it replaces it: nothing, or where there was
none it is made from the configuration and the registry as they stand. -/
def MadeBy (w w' : World) (loggers : List Logger) : Prop :=
  w'.shared.logger = w.shared.logger ∨
    w.shared.logger = none ∧ ∃ id l config, w'.shared.logger = some id ∧
      loggers[id]? = some l ∧ w'.context.config = some config ∧ l.From w.registry config

theorem Tried.madeBy {w' : World} {opened : List Wiring}
    (h : Tried loggers (w, []) (w', opened)) :
    w.MadeBy w' (Machine.grown loggers (opening opened)) := by
  rcases h.shared with ⟨hshared, -⟩ | ⟨hnone, wiring, hopened, hshared, made⟩
  · exact .inl hshared
  · obtain rfl : opened = [wiring] := hopened
    refine .inr ⟨hnone, loggers.length, _, _, hshared, ?_, ?_, made⟩
    · simp [Machine.grown, opening]
    · have hcontext : w'.context = w.context.read.1 := h.context
      rw [hcontext, Context.config_read]

theorem MadeBy.settled {w' : World} {acts : List Act} (made : w.MadeBy w' loggers)
    (settled : w.Settled) (course : w.context.Course acts w'.context) : w'.Settled := by
  intro hshared'
  rcases made with hshared | ⟨-, id, l, config, -, -, hconfig, -⟩
  · obtain ⟨config, hconfig⟩ := Option.isSome_iff_exists.1 (settled (hshared ▸ hshared'))
    rw [course.config_eq_of_some hconfig]
    rfl
  · rw [hconfig]
    rfl

theorem MadeBy.of_ambient {w' w'' : World} (made : w.MadeBy w' loggers)
    (h : w''.ambient = w'.ambient) : w.MadeBy w'' loggers := by
  obtain ⟨hcontext, hshared⟩ := Prod.mk.inj h
  unfold MadeBy at made ⊢
  rw [hcontext, hshared]
  exact made

variable (loggers) in
theorem madeBy_get (settled : w.Settled) :
    (w.get loggers).1.context = w.context.read.1 ∧
      w.MadeBy (w.get loggers).1 (Machine.grown loggers (w.get loggers).2.1) := by
  have tried := tried_acquire loggers (w, []) settled
  unfold get
  generalize acquire loggers (w, []) = result at tried ⊢
  obtain ⟨⟨w', opened⟩, e | l⟩ := result
  · exact ⟨tried.context, tried.madeBy⟩
  · have hslot := ambient_slotOf w' l
    exact ⟨(Prod.mk.inj hslot).1.trans tried.context, tried.madeBy.of_ambient hslot⟩

variable (loggers) in
theorem madeBy_getThreads (settled : w.Settled) (n : Nat) :
    (w.getThreads loggers (n + 1)).1.context = w.context.read.1 ∧
      w.MadeBy (w.getThreads loggers (n + 1)).1
        (Machine.grown loggers (w.getThreads loggers (n + 1)).2.1) := by
  have tried := tried_getMany loggers n (w, []) settled
  unfold getThreads
  generalize getMany loggers (n + 1) (w, []) = result at tried ⊢
  obtain ⟨⟨w', opened⟩, ls⟩ := result
  have hslots := ambient_slotAll ls w' []
  exact ⟨(Prod.mk.inj hslots).1.trans tried.context, tried.madeBy.of_ambient hslots⟩

theorem course_install (w : World) (source : Source) :
    w.context.Answers ⟨.install source, (w.install source).2.2⟩ ∧
      (w.install source).1.context = w.context.after ⟨.install source, (w.install source).2.2⟩ ∧
      (w.install source).1.shared = w.shared := by
  cases hsource : source.config? with
  | none =>
    obtain ⟨e, hinstall⟩ := install_of_unread (w := w) hsource
    rw [hinstall, Context.answers_install_unread hsource]
    exact ⟨⟨e, rfl⟩, by simp [Context.after, Act.settles?, Act.debug], rfl⟩
  | some config =>
    rw [Context.answers_install hsource]
    cases hconfig : w.context.config with
    | none =>
      rw [install_of_none hsource hconfig]
      exact ⟨.inl ⟨rfl, rfl⟩, by simp [Context.after, Act.settles?, Act.debug, hsource, hconfig],
        rfl⟩
    | some standing =>
      rw [install_of_isSome hsource (by simp [hconfig])]
      exact ⟨.inr ⟨rfl, rfl⟩, by simp [Context.after, Act.settles?, Act.debug], rfl⟩

theorem context_replace (w : World) (slot : Option Nat) :
    (w.replace slot).1.context = w.context := by
  unfold replace
  dsimp only
  split
  · rfl
  · exact congrArg Prod.fst (ambient_slotOf ..)

/-- What a command makes of the context, and what its reply says of it. -/
theorem course_perform (settled : w.Settled) (loggers : List Logger) (step : Step) :
    let result := w.perform loggers step
    w.context.Answers ⟨step, result.2.2⟩ ∧
      result.1.context = w.context.after ⟨step, result.2.2⟩ ∧
      (Act.replaces ⟨step, result.2.2⟩ = false →
        w.MadeBy result.1 (Machine.grown loggers result.2.1)) := by
  intro result
  cases hstep : step.isAmbient with
  | false =>
    obtain ⟨hcontext, hshared⟩ := Prod.mk.inj (ambient_perform hstep w loggers)
    refine ⟨?_, hcontext.trans (Context.after_of_quiet hstep ..).symm,
      fun _ => .inl (congrArg Shared.logger hshared)⟩
    cases step with
    | install | config => cases hstep
    | isDebug => exact rfl
    | _ => exact trivial
  | true =>
    cases step with
    | install source =>
      obtain ⟨answers, hcontext, hshared⟩ := course_install w source
      exact ⟨answers, hcontext, fun _ => .inl (congrArg Shared.logger hshared)⟩
    | config => exact ⟨rfl, (Context.after_of_reads rfl rfl).symm, fun _ => .inl rfl⟩
    | setDebug on =>
      exact ⟨trivial, by simp [result, perform, plainly, Context.after, Act.settles?, Act.debug],
        fun _ => .inl rfl⟩
    | get =>
      obtain ⟨hcontext, made⟩ := madeBy_get loggers settled
      exact ⟨trivial, hcontext.trans (Context.after_of_reads rfl rfl).symm, fun _ => made⟩
    | getThreads n =>
      cases n with
      | zero =>
        exact ⟨trivial, by simp [result, perform, getThreads, getMany, Context.after, Act.settles?,
          Act.debug], fun _ => .inl rfl⟩
      | succ n =>
        obtain ⟨hcontext, made⟩ := madeBy_getThreads loggers settled n
        exact ⟨trivial, hcontext.trans (Context.after_of_reads rfl rfl).symm, fun _ => made⟩
    | replace slot =>
      refine ⟨trivial, ?_, fun hkept => by cases hkept⟩
      refine (context_replace w slot).trans ?_
      simp [Context.after, Act.settles?, Act.debug]
    | _ => cases hstep

end World

end Session

end BatchedLog
