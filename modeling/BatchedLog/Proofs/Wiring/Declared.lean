import BatchedLog.Proofs.Config.Accepted
import BatchedLog.Proofs.Wiring.Supply
import BatchedLog.Session.World

/-!
# A logger as it was declared

What comes of a configuration whose text was accepted, whatever types are registered and whatever
their factories do. Validation has ruled out that a table is missing and that a name is taken, so
only a factory can fail it, and then the first target whose factory refuses is to blame.
-/

namespace BatchedLog

variable {φ σ : Type}

/-! ## Factories without a state -/

/-- What the factories say depends only on what they are asked for. -/
def Workshop.Steady (shop : Workshop φ σ) (verdict : φ → String → Fields → Option SinkError) :
    Prop :=
  ∀ s factory type params e,
    (shop.make s factory type params).2 = .error e ↔ verdict factory type params = some e

/-- Why a target is refused, if its type is registered and the factory refuses it. -/
def Target.refusal? (registry : Registry φ) (verdict : φ → String → Fields → Option SinkError)
    (target : Target) : Option SinkError :=
  target.type.bind fun type => (registry.find? type).bind fun factory =>
    verdict factory type target.params

/-- The first target that is refused, and why. -/
def Targets.refusal? (registry : Registry φ) (verdict : φ → String → Fields → Option SinkError)
    (targets : Targets) : Option (String × SinkError) :=
  targets.findSome? fun named => (named.2.refusal? registry verdict).map (named.1, ·)

namespace Workshop

variable {shop : Workshop φ σ} {registry : Registry φ}
  {verdict : φ → String → Fields → Option SinkError} {s t : σ} {targets : Targets}

theorem Supplies.refusal?_eq_none {sinks : List Wired} (steady : shop.Steady verdict)
    (h : shop.Supplies registry s targets t sinks) :
    ∀ named ∈ targets, named.2.refusal? registry verdict = none := by
  induction h with
  | nil => simp
  | untyped htype _ ih => simpa [Target.refusal?, htype] using ih
  | unknown htype hnone _ ih => simpa [Target.refusal?, htype, hnone] using ih
  | @made s u name target type factory sink rest t sinks htype hfactory hmake _ ih =>
    refine List.forall_mem_cons.2 ⟨?_, ih⟩
    rw [Option.eq_none_iff_forall_ne_some]
    intro e he
    have hverdict : verdict factory type target.params = some e := by
      simpa [Target.refusal?, htype, hfactory] using he
    have herror := (steady s factory type target.params e).2 hverdict
    rw [hmake] at herror
    cases herror

theorem exists_supplies (steady : shop.Steady verdict) (targets : Targets)
    (h : ∀ named ∈ targets, named.2.refusal? registry verdict = none) :
    ∀ s, ∃ t sinks, shop.Supplies registry s targets t sinks := by
  induction targets with
  | nil => exact fun s => ⟨s, [], .nil⟩
  | cons head rest ih =>
    obtain ⟨name, target⟩ := head
    obtain ⟨hhead, hrest⟩ := List.forall_mem_cons.1 h
    intro s
    cases htype : target.type with
    | none =>
      obtain ⟨t, sinks, supplies⟩ := ih hrest (shop.note s (.targetUntyped name))
      exact ⟨t, sinks, .untyped htype supplies⟩
    | some type =>
      cases hfactory : registry.find? type with
      | none =>
        obtain ⟨t, sinks, supplies⟩ := ih hrest (shop.note s (.targetUnknown name type))
        exact ⟨t, sinks, .unknown htype hfactory supplies⟩
      | some factory =>
        rcases hmake : shop.make s factory type target.params with ⟨u, e | sink⟩
        · have hverdict := (steady s factory type target.params e).1 (by rw [hmake])
          simp [Target.refusal?, htype, hfactory, hverdict] at hhead
        · obtain ⟨t, sinks, supplies⟩ := ih hrest (shop.note u (.targetRegistered name type))
          exact ⟨t, _, .made htype hfactory hmake supplies⟩

/-- Then the first target whose parameters its factory refuses is the one that ends it. -/
theorem refuses_iff_refusal? (steady : shop.Steady verdict) {name : String} {e : SinkError} :
    (∃ t, shop.Refuses registry s targets t name e) ↔
      targets.refusal? registry verdict = some (name, e) := by
  rw [Targets.refusal?, List.findSome?_eq_some_iff]
  constructor
  · rintro ⟨t, before, target, after, u, sinks, type, factory, rfl, supplies, htype, hfactory,
      hmake⟩
    have hverdict := (steady u factory type target.params e).1 (by rw [hmake])
    refine ⟨before, (name, target), after, rfl, ?_, ?_⟩
    · simp [Target.refusal?, htype, hfactory, hverdict]
    · intro named hmem
      rw [supplies.refusal?_eq_none steady named hmem]
      rfl
  · rintro ⟨before, ⟨name', target⟩, after, rfl, hnamed, hbefore⟩
    obtain ⟨e', hrefusal, hpair⟩ := Option.map_eq_some_iff.1 hnamed
    obtain ⟨rfl, rfl⟩ := Prod.mk.inj hpair
    obtain ⟨type, htype, hbind⟩ := Option.bind_eq_some_iff.1 hrefusal
    obtain ⟨factory, hfactory, hverdict⟩ := Option.bind_eq_some_iff.1 hbind
    obtain ⟨u, sinks, supplies⟩ := exists_supplies steady before
      (fun named hmem => Option.map_eq_none_iff.1 (hbefore named hmem)) s
    have hmake := (steady u factory type target.params e').2 hverdict
    exact ⟨_, before, target, after, u, sinks, type, factory, rfl, supplies, htype, hfactory,
      Prod.ext rfl hmake⟩

end Workshop

/-! ## From the configuration to the logger -/

/-- An accepted configuration comes to what its targets come to. -/
theorem Wiring.ofConfig_of_accepted {config : AppConfig} (accepted : config.Accepted)
    (shop : Workshop φ σ) (registry : Registry φ) (s : σ) :
    ofConfig shop registry s config =
      addTargets shop registry (start.interval config.interval) s config.targets := by
  unfold ofConfig
  cases hlog : config.log with
  | none =>
    have htargets : config.targets = [] := by simp [AppConfig.targets, hlog]
    have hinterval : config.interval = FlushPolicy.default.interval := by
      simp [AppConfig.interval, hlog]
    rw [htargets, hinterval]
    rfl
  | some settings =>
    obtain ⟨targets, hsome⟩ := accepted.declared settings hlog
    have htargets : config.targets = targets := by simp [AppConfig.targets, hlog, hsome]
    have hinterval : config.interval = settings.flushInterval := by simp [AppConfig.interval, hlog]
    rw [htargets, hinterval]
    simp only [ofSettings, hsome]

/-- A configuration whose text was accepted comes to a logger unless a factory refuses a target;
then the first target to be refused is named, with the error of its factory. The logger has the
interval that was declared, or the default one, and its sinks go by the names of the declared
targets of registered types, in order, no two alike and none blank. -/
theorem declared_of_accepted {text : String} {config : AppConfig}
    (accepted : AppConfig.parse text = .ok config) (shop : Workshop φ σ) (registry : Registry φ)
    (s : σ) :
    (∀ t e, Wiring.ofConfig shop registry s config = (t, .error e) ↔
      ∃ name source, e = .sinkConstruction name source ∧
        shop.Refuses registry s config.targets t name source) ∧
    (∀ verdict, shop.Steady verdict → ∀ name source,
      (Wiring.ofConfig shop registry s config).2 = .error (.sinkConstruction name source) ↔
        config.targets.refusal? registry verdict = some (name, source)) ∧
    ∀ t wiring, Wiring.ofConfig shop registry s config = (t, .ok wiring) →
      shop.Supplies registry s config.targets t wiring.sinks ∧
      let logger := Logger.start wiring.policy wiring.sinks
      logger.interval = config.interval ∧
      logger.sinkNames = (config.targets.filter (·.2.isKnown registry)).map (·.1) ∧
      logger.sinkNames.Nodup ∧
      (∀ name ∈ logger.sinkNames, Text.isBlank name = false) ∧
      (config.log = none → logger.sinkNames = [] ∧
        logger.interval = FlushPolicy.default.interval) := by
  have sound := AppConfig.accepted_of_parse accepted
  have fails : ∀ t e, Wiring.ofConfig shop registry s config = (t, .error e) ↔
      ∃ name source, e = .sinkConstruction name source ∧
        shop.Refuses registry s config.targets t name source := by
    intro t e
    rw [Wiring.ofConfig_of_accepted sound]
    exact Wiring.addTargets_eq_error sound.once
  refine ⟨fails, ?_, ?_⟩
  · intro verdict steady name source
    rw [← Workshop.refuses_iff_refusal? (s := s) steady]
    constructor
    · intro h
      obtain ⟨_, _, heq, refuses⟩ := (fails _ _).1 (Prod.ext rfl h)
      cases heq
      exact ⟨_, refuses⟩
    · rintro ⟨t, refuses⟩
      rw [(fails t _).2 ⟨name, source, rfl, refuses⟩]
  · intro t wiring h
    rw [Wiring.ofConfig_of_accepted sound] at h
    obtain ⟨sinks, supplies, rfl, -⟩ := Wiring.supplies_of_addTargets _ h
    have hnames : sinks.map (·.name) = (config.targets.filter (·.2.isKnown registry)).map (·.1) :=
      supplies.names
    have hsublist := supplies.names_sublist
    refine ⟨supplies, rfl, hnames, sound.once.sublist hsublist, ?_, ?_⟩
    · intro name hname
      exact sound.named name (hsublist.subset hname)
    · intro hlog
      have htargets : config.targets = [] := by simp [AppConfig.targets, hlog]
      have hinterval : config.interval = FlushPolicy.default.interval := by
        simp [AppConfig.interval, hlog]
      rw [htargets] at hnames
      exact ⟨hnames, hinterval⟩

/-- Targets without a type, of types that may or may not be registered, and two at fault. -/
def mixedTargets : String :=
  "[log]\nflushInterval=3\n[log.targets]\nzeta=\x7b\x7d\nodd=\x7btype='syslog'\x7d\n" ++
  "app=\x7btype='tracing'\x7d\n" ++
  "bad=\x7btype='console',stream='tty'\x7d\nworse=\x7btype='file'\x7d\n"

open Session in
/-- With the types that are always there, the fourth target is the first to be refused. Where only
the second target's type is registered, the logger has its sink alone. -/
theorem declared_of_accepted_mixed : ∃ config, AppConfig.parse mixedTargets = .ok config ∧
    (∃ t, World.workshop.Refuses builtins (World.start .empty) config.targets t "bad"
      (.invalidParameter "stream" (.unknownStream "tty"))) ∧
    ∃ t wiring, Wiring.ofConfig World.workshop [("syslog", .forward)] (World.start .empty) config =
        (t, .ok wiring) ∧
      (Logger.start wiring.policy wiring.sinks).interval = 3 ∧
      (Logger.start wiring.policy wiring.sinks).sinkNames = ["odd"] := by
  have evaluated : (AppConfig.parse mixedTargets).toOption.any (fun config =>
      (Wiring.ofConfig World.workshop builtins (World.start .empty) config).2 =
        .error (.sinkConstruction "bad" (.invalidParameter "stream" (.unknownStream "tty"))) ∧
      (Wiring.ofConfig World.workshop [("syslog", .forward)] (World.start .empty)
        config).2.toOption.isSome ∧
      config.interval = 3 ∧
      (config.targets.filter (·.2.isKnown ([("syslog", .forward)] : Registry (Factory Step)))).map
        (·.1) = ["odd"]) = true := by
    decide +kernel
  obtain ⟨config, hparse, hall⟩ := (Option.any_eq_true _ _).1 evaluated
  obtain ⟨hrefused, hbuilt, hinterval, hnames⟩ := of_decide_eq_true hall
  have accepted := toOption_eq_some.1 hparse
  refine ⟨config, accepted, ?_, ?_⟩
  · obtain ⟨fails, -⟩ := declared_of_accepted accepted World.workshop builtins (World.start .empty)
    obtain ⟨name, source, heq, refuses⟩ := (fails _ _).1 (Prod.ext rfl hrefused)
    cases heq
    exact ⟨_, refuses⟩
  · obtain ⟨-, -, builds⟩ :=
      declared_of_accepted accepted World.workshop [("syslog", .forward)] (World.start .empty)
    obtain ⟨wiring, hwiring⟩ := Option.isSome_iff_exists.1 hbuilt
    have hok := toOption_eq_some.1 hwiring
    obtain ⟨-, interval, names, -⟩ := builds _ wiring (Prod.ext rfl hok)
    exact ⟨_, wiring, Prod.ext rfl hok, interval.trans hinterval, names.trans hnames⟩

end BatchedLog
