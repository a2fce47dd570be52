import BatchedLog.Wiring
import Mathlib.Data.List.Nodup

/-!
# Targets and their factories

Wiring asks the factories of the targets one after the other. A stretch of targets `Supplies` sinks
if none of the factories asked refuses, and then all of them are wired unless a name is taken;
otherwise the first that refuses ends it, and those after it are not asked. Factories may keep a
state, so what one of them says may depend on those that were asked before.
-/

namespace BatchedLog

variable {φ σ : Type}

/-- Whether the type of a target is registered. -/
def Target.isKnown (registry : Registry φ) (target : Target) : Bool :=
  (target.type.bind registry.find?).isSome

/-- Whether a report is about a batch on its way to the sinks. -/
def Diagnostic.isDelivery : Diagnostic → Bool
  | .sinkFailed .. | .forwarded .. | .dispatch .. => true
  | _ => false

namespace Workshop

/-- None of the factories of these targets refuses: from `s` on they make these sinks, one for each
target of a registered type, and come to `t`. -/
inductive Supplies (shop : Workshop φ σ) (registry : Registry φ) :
    σ → Targets → σ → List Wired → Prop
  | nil {s} : Supplies shop registry s [] s []
  | untyped {s name target rest t sinks} : target.type = none →
      Supplies shop registry (shop.note s (.targetUntyped name)) rest t sinks →
      Supplies shop registry s ((name, target) :: rest) t sinks
  | unknown {s name target type rest t sinks} : target.type = some type →
      registry.find? type = none →
      Supplies shop registry (shop.note s (.targetUnknown name type)) rest t sinks →
      Supplies shop registry s ((name, target) :: rest) t sinks
  | made {s u name target type factory sink rest t sinks} : target.type = some type →
      registry.find? type = some factory →
      shop.make s factory type target.params = (u, .ok sink) →
      Supplies shop registry (shop.note u (.targetRegistered name type)) rest t sinks →
      Supplies shop registry s ((name, target) :: rest) t (⟨name, sink⟩ :: sinks)

/-- The factory of a target of this name refuses with this error, after those of the targets before
it have made their sinks. -/
def Refuses (shop : Workshop φ σ) (registry : Registry φ) (s : σ) (targets : Targets) (t : σ)
    (name : String) (e : SinkError) : Prop :=
  ∃ before target after u sinks type factory, targets = before ++ (name, target) :: after ∧
    shop.Supplies registry s before u sinks ∧ target.type = some type ∧
    registry.find? type = some factory ∧ shop.make u factory type target.params = (t, .error e)

variable {shop : Workshop φ σ} {registry : Registry φ} {s t : σ} {targets : Targets}
  {sinks : List Wired}

/-- The sinks go by the names of the targets of registered types, in order. -/
theorem Supplies.names (h : shop.Supplies registry s targets t sinks) :
    sinks.map (·.name) = (targets.filter (·.2.isKnown registry)).map (·.1) := by
  induction h with
  | nil => rfl
  | untyped htype _ ih =>
    rw [ih, List.filter_cons_of_neg (by simp [Target.isKnown, htype])]
  | unknown htype hnone _ ih =>
    rw [ih, List.filter_cons_of_neg (by simp [Target.isKnown, htype, hnone])]
  | made htype hfactory _ _ ih =>
    rw [List.filter_cons_of_pos (by simp [Target.isKnown, htype, hfactory]), List.map_cons,
      List.map_cons, ih]

theorem Supplies.names_sublist (h : shop.Supplies registry s targets t sinks) :
    (sinks.map (·.name)).Sublist (targets.map (·.1)) :=
  h.names ▸ List.filter_sublist.map _

end Workshop

namespace Wiring

open Workshop

variable {shop : Workshop φ σ} {registry : Registry φ} {w v : Wiring} {s t : σ}

theorem nodup_add {name : String} {sink : SinkId} (h : w.add name sink = .ok v)
    (once : (w.sinks.map (·.name)).Nodup) : (v.sinks.map (·.name)).Nodup := by
  obtain ⟨free, rfl⟩ := add_eq_ok.1 h
  rw [List.map_append]
  refine once.append (List.nodup_singleton _) ?_
  exact List.disjoint_singleton.2 free

/-- What is left of the targets is wired after what came of those before them. -/
theorem addTargets_append (before after : Targets) : ∀ (w : Wiring) (s : σ),
    addTargets shop registry w s (before ++ after) =
      match addTargets shop registry w s before with
      | (t, .ok v) => addTargets shop registry v t after
      | (t, .error e) => (t, .error e) := by
  induction before with
  | nil => exact fun _ _ => rfl
  | cons head rest ih =>
    obtain ⟨name, target⟩ := head
    intro w s
    rw [List.cons_append, addTargets, addTargets]
    cases target.type with
    | none => exact ih w _
    | some type =>
      dsimp only
      cases registry.find? type with
      | none => exact ih w _
      | some factory =>
        dsimp only
        rcases shop.make s factory type target.params with ⟨u, e | sink⟩
        · rfl
        · dsimp only
          cases w.add name sink with
          | error e => rfl
          | ok next => exact ih next _

theorem addTargets_cons (named : String × Target) (rest : Targets) (w : Wiring) (s : σ) :
    addTargets shop registry w s (named :: rest) =
      match addTargets shop registry w s [named] with
      | (t, .ok v) => addTargets shop registry v t rest
      | (t, .error e) => (t, .error e) :=
  addTargets_append [named] rest w s

/-- Where factories refuse nothing and names are free, wiring succeeds. -/
theorem addTargets_of_supplies {targets : Targets} {sinks : List Wired}
    (h : shop.Supplies registry s targets t sinks) :
    ∀ {w : Wiring}, ((w.sinks ++ sinks).map (·.name)).Nodup →
      addTargets shop registry w s targets = (t, .ok { w with sinks := w.sinks ++ sinks }) := by
  induction h with
  | nil =>
    intro w _
    rw [addTargets, List.append_nil]
  | untyped htype _ ih =>
    intro w free
    rw [addTargets, htype]
    exact ih free
  | unknown htype hnone _ ih =>
    intro w free
    rw [addTargets, htype]
    dsimp only
    rw [hnone]
    exact ih free
  | @made s u name target type factory sink rest t sinks htype hfactory hmake _ ih =>
    intro w free
    have hsplit : w.sinks ++ ⟨name, sink⟩ :: sinks = (w.sinks ++ [⟨name, sink⟩]) ++ sinks := by simp
    rw [hsplit] at free ⊢
    have hadd : w.add name sink = .ok { w with sinks := w.sinks ++ [⟨name, sink⟩] } := by
      refine add_eq_ok.2 ⟨fun hmem => ?_, rfl⟩
      rw [List.map_append, List.map_append, List.append_assoc, List.nodup_append] at free
      exact free.2.2 name hmem name (by simp) rfl
    rw [addTargets, htype]
    dsimp only
    rw [hfactory]
    dsimp only
    rw [hmake]
    dsimp only
    rw [hadd]
    exact ih free

/-- Wiring that succeeds has wired what the factories made, under names that are free. -/
theorem supplies_of_addTargets (targets : Targets) : ∀ {w : Wiring} {s : σ},
    addTargets shop registry w s targets = (t, .ok v) →
    ∃ sinks, shop.Supplies registry s targets t sinks ∧
      v = { w with sinks := w.sinks ++ sinks } ∧
      ((w.sinks.map (·.name)).Nodup → (v.sinks.map (·.name)).Nodup) := by
  induction targets with
  | nil =>
    intro w s h
    cases h
    exact ⟨[], .nil, by rw [List.append_nil], id⟩
  | cons head rest ih =>
    obtain ⟨name, target⟩ := head
    intro w s h
    unfold addTargets at h
    split at h
    · rename_i htype
      obtain ⟨sinks, supplies, hv, names⟩ := ih h
      exact ⟨sinks, .untyped htype supplies, hv, names⟩
    · rename_i type htype
      split at h
      · rename_i hnone
        obtain ⟨sinks, supplies, hv, names⟩ := ih h
        exact ⟨sinks, .unknown htype hnone supplies, hv, names⟩
      · rename_i factory hfactory
        split at h
        · cases h
        · rename_i u sink hmake
          split at h
          · cases h
          · rename_i next hadd
            obtain ⟨sinks, supplies, hv, names⟩ := ih h
            refine ⟨_, .made htype hfactory hmake supplies, ?_,
              fun once => names (nodup_add hadd once)⟩
            obtain ⟨-, rfl⟩ := add_eq_ok.1 hadd
            rw [hv, List.append_assoc]
            rfl

/-- Wiring that fails has wired the targets before one, and fails at that one. -/
theorem exists_stop (targets : Targets) {e : LoggerError} : ∀ {w : Wiring} {s : σ},
    addTargets shop registry w s targets = (t, .error e) →
    ∃ before named after u v, targets = before ++ named :: after ∧
      addTargets shop registry w s before = (u, .ok v) ∧
      addTargets shop registry v u [named] = (t, .error e) := by
  induction targets with
  | nil =>
    intro w s h
    cases h
  | cons named rest ih =>
    intro w s h
    rw [addTargets_cons] at h
    rcases hfirst : addTargets shop registry w s [named] with ⟨u, e' | v⟩
    · rw [hfirst] at h
      cases h
      exact ⟨[], named, rest, s, w, rfl, rfl, hfirst⟩
    · rw [hfirst] at h
      obtain ⟨before, named', after, u', v', rfl, hbefore, hnamed⟩ := ih h
      refine ⟨named :: before, named', after, u', v', rfl, ?_, hnamed⟩
      rw [addTargets_cons, hfirst]
      exact hbefore

/-- At one target wiring fails if the factory refuses, or if it makes a sink for which the name is
taken. -/
theorem addTargets_single_eq_error {name : String} {target : Target} {e : LoggerError} :
    addTargets shop registry w s [(name, target)] = (t, .error e) ↔
      ∃ type factory, target.type = some type ∧ registry.find? type = some factory ∧
        ((∃ source, shop.make s factory type target.params = (t, .error source) ∧
            e = .sinkConstruction name source) ∨
          ∃ sink, shop.make s factory type target.params = (t, .ok sink) ∧
            name ∈ w.sinks.map (·.name) ∧ e = .duplicateSink name) := by
  constructor
  · intro h
    unfold addTargets at h
    split at h
    · cases h
    · rename_i type htype
      split at h
      · cases h
      · rename_i factory hfactory
        refine ⟨type, factory, htype, hfactory, ?_⟩
        split at h
        · rename_i hmake
          cases h
          exact .inl ⟨_, hmake, rfl⟩
        · rename_i hmake
          split at h
          · rename_i hadd
            cases h
            exact .inr ⟨_, hmake, add_eq_error.1 hadd⟩
          · cases h
  · rintro ⟨type, factory, htype, hfactory, ⟨source, hmake, rfl⟩ | ⟨sink, hmake, taken, rfl⟩⟩
    · simp only [addTargets, htype, hfactory, hmake]
    · simp only [addTargets, htype, hfactory, hmake, add_eq_error.2 ⟨taken, rfl⟩]

/-- Where names differ, wiring fails just if a factory refuses, and then with the error of the first
that does. -/
theorem addTargets_eq_error {targets : Targets} {e : LoggerError}
    (once : (w.sinks.map (·.name) ++ targets.map (·.1)).Nodup) :
    addTargets shop registry w s targets = (t, .error e) ↔
      ∃ name source, e = .sinkConstruction name source ∧
        shop.Refuses registry s targets t name source := by
  constructor
  · intro h
    obtain ⟨before, ⟨name, target⟩, after, u, v, rfl, hbefore, hstop⟩ := exists_stop targets h
    obtain ⟨sinks, supplies, rfl, -⟩ := supplies_of_addTargets before hbefore
    obtain ⟨type, factory, htype, hfactory, ⟨source, hmake, rfl⟩ | ⟨sink, hmake, taken, rfl⟩⟩ :=
      addTargets_single_eq_error.1 hstop
    · exact ⟨name, source, rfl, before, target, after, u, sinks, type, factory, rfl, supplies,
        htype, hfactory, hmake⟩
    · -- The name would be that of a sink which was there, or of a target before.
      rw [List.map_append, List.map_cons, ← List.append_assoc, List.nodup_append] at once
      refine absurd rfl (once.2.2 name ?_ name List.mem_cons_self)
      rw [List.map_append] at taken
      exact List.mem_append.2 ((List.mem_append.1 taken).imp_right
        fun h => supplies.names_sublist.subset h)
  · rintro ⟨name, source, rfl, before, target, after, u, sinks, type, factory, rfl, supplies, htype,
      hfactory, hmake⟩
    have free : ((w.sinks ++ sinks).map (·.name)).Nodup := by
      rw [List.map_append]
      refine once.sublist (List.Sublist.append_left ?_ _)
      rw [List.map_append]
      exact supplies.names_sublist.trans (List.sublist_append_left ..)
    have hstop : addTargets shop registry { w with sinks := w.sinks ++ sinks } u [(name, target)] =
        (t, .error (.sinkConstruction name source)) :=
      addTargets_single_eq_error.2 ⟨type, factory, htype, hfactory, .inl ⟨source, hmake, rfl⟩⟩
    rw [addTargets_append, addTargets_of_supplies supplies free]
    dsimp only
    rw [← List.singleton_append, addTargets_append, hstop]

/-! ## What factories leave alone -/

section

variable {I : σ → Prop}

/-- What holds of the state whatever the factories of the targets do, holds of it after wiring. -/
theorem keeps_addTargets {targets : Targets}
    (hnote : ∀ {s d}, Diagnostic.isDelivery d = false → I s → I (shop.note s d))
    (hmake : ∀ {s named type factory}, named ∈ targets → named.2.type = some type →
      registry.find? type = some factory → I s → I (shop.make s factory type named.2.params).1) :
    ∀ {w : Wiring} {s : σ}, I s → I (addTargets shop registry w s targets).1 := by
  induction targets with
  | nil => exact fun h => h
  | cons head rest ih =>
    obtain ⟨name, target⟩ := head
    intro w s h
    have further : ∀ {w : Wiring} {s : σ}, I s → I (addTargets shop registry w s rest).1 :=
      ih fun hmem => hmake (List.mem_cons_of_mem _ hmem)
    unfold addTargets
    cases htype : target.type with
    | none => exact further (hnote rfl h)
    | some type =>
      dsimp only
      cases hfactory : registry.find? type with
      | none => exact further (hnote rfl h)
      | some factory =>
        have made : I (shop.make s factory type target.params).1 :=
          hmake List.mem_cons_self htype hfactory h
        dsimp only
        rcases hresult : shop.make s factory type target.params with ⟨t, e | sink⟩
        all_goals rw [hresult] at made
        · exact made
        · dsimp only
          cases w.add name sink with
          | error e => exact made
          | ok next => exact further (hnote rfl made)

theorem keeps_ofSettings {settings : LogSettings}
    (hnote : ∀ {s d}, Diagnostic.isDelivery d = false → I s → I (shop.note s d))
    (hmake : ∀ {s named type factory}, named ∈ settings.targets.getD [] →
      named.2.type = some type → registry.find? type = some factory → I s →
      I (shop.make s factory type named.2.params).1) (h : I s) :
    I (ofSettings shop registry s settings).1 := by
  unfold ofSettings
  cases htargets : settings.targets with
  | none => exact h
  | some targets =>
    rw [htargets] at hmake
    exact keeps_addTargets hnote hmake h

theorem keeps_ofConfig {config : AppConfig}
    (hnote : ∀ {s d}, Diagnostic.isDelivery d = false → I s → I (shop.note s d))
    (hmake : ∀ {s named type factory}, named ∈ config.targets → named.2.type = some type →
      registry.find? type = some factory → I s → I (shop.make s factory type named.2.params).1)
    (h : I s) : I (ofConfig shop registry s config).1 := by
  unfold ofConfig
  cases hlog : config.log with
  | none => exact h
  | some settings =>
    have htargets : config.targets = settings.targets.getD [] := by simp [AppConfig.targets, hlog]
    rw [htargets] at hmake
    exact keeps_ofSettings hnote hmake h

end

/-! ## Wiring a configuration -/

theorem supplies_of_ofSettings {settings : LogSettings}
    (h : ofSettings shop registry s settings = (t, .ok v)) :
    shop.Supplies registry s (settings.targets.getD []) t v.sinks ∧
      v.policy = ⟨settings.flushInterval⟩ ∧ (v.sinks.map (·.name)).Nodup := by
  unfold ofSettings at h
  split at h
  · cases h
  · rename_i targets htargets
    obtain ⟨sinks, supplies, rfl, names⟩ := supplies_of_addTargets targets h
    rw [htargets]
    exact ⟨supplies, rfl, names List.nodup_nil⟩

/-- A configuration that comes to a logger has had all its targets supplied. -/
theorem supplies_of_ofConfig {config : AppConfig}
    (h : ofConfig shop registry s config = (t, .ok v)) :
    shop.Supplies registry s config.targets t v.sinks ∧ v.policy = ⟨config.interval⟩ ∧
      (v.sinks.map (·.name)).Nodup := by
  unfold ofConfig at h
  split at h
  · rename_i hlog
    cases h
    have htargets : config.targets = [] := by simp [AppConfig.targets, hlog]
    have hinterval : config.interval = FlushPolicy.default.interval := by
      simp [AppConfig.interval, hlog]
    rw [htargets, hinterval]
    exact ⟨.nil, rfl, List.nodup_nil⟩
  · rename_i settings hlog
    have htargets : config.targets = settings.targets.getD [] := by simp [AppConfig.targets, hlog]
    have hinterval : config.interval = settings.flushInterval := by simp [AppConfig.interval, hlog]
    rw [htargets, hinterval]
    exact supplies_of_ofSettings h

/-! ## How far wiring gets -/

/-- The targets up to the first at which wiring fails, with that one. -/
def reached (shop : Workshop φ σ) (registry : Registry φ) (w : Wiring) (s : σ) : Targets → Targets
  | [] => []
  | named :: rest =>
    named ::
      match addTargets shop registry w s [named] with
      | (_, .error _) => []
      | (s, .ok w) => reached shop registry w s rest

theorem reached_append {before : Targets} (h : addTargets shop registry w s before = (t, .ok v))
    (after : Targets) :
    reached shop registry w s (before ++ after) = before ++ reached shop registry v t after := by
  induction before generalizing w s with
  | nil =>
    cases h
    rfl
  | cons named before ih =>
    rw [addTargets_cons] at h
    rw [List.cons_append, reached]
    rcases hfirst : addTargets shop registry w s [named] with ⟨u, e | next⟩
    · rw [hfirst] at h
      cases h
    · rw [hfirst] at h
      rw [List.cons_append]
      exact congrArg _ (ih h)

/-- Wiring that succeeds gets to all targets. -/
theorem reached_of_ok {targets : Targets} (h : addTargets shop registry w s targets = (t, .ok v)) :
    reached shop registry w s targets = targets := by
  have happend := reached_append h []
  rwa [reached, List.append_nil] at happend

/-- Wiring that fails gets to the target at which it does, and what comes of it is what came of that
target. -/
theorem reached_of_error {targets : Targets} {e : LoggerError}
    (h : addTargets shop registry w s targets = (t, .error e)) :
    ∃ before named after u v, targets = before ++ named :: after ∧
      reached shop registry w s targets = before ++ [named] ∧
      addTargets shop registry w s before = (u, .ok v) ∧
      addTargets shop registry v u [named] = (t, .error e) := by
  obtain ⟨before, named, after, u, v, rfl, hbefore, hnamed⟩ := exists_stop targets h
  refine ⟨before, named, after, u, v, rfl, ?_, hbefore, hnamed⟩
  rw [reached_append hbefore, reached, hnamed]

/-- The targets that it does not get to make no difference. -/
theorem addTargets_reached (targets : Targets) (w : Wiring) (s : σ) :
    addTargets shop registry w s (reached shop registry w s targets) =
      addTargets shop registry w s targets := by
  rcases hresult : addTargets shop registry w s targets with ⟨t, e | v⟩
  · obtain ⟨before, named, after, u, v, rfl, hreached, hbefore, hnamed⟩ := reached_of_error hresult
    rw [hreached, addTargets_append, hbefore]
    exact hnamed
  · rw [reached_of_ok hresult, hresult]

theorem reached_of_ofSettings_ok {settings : LogSettings}
    (h : ofSettings shop registry s settings = (t, .ok v)) :
    (start.interval settings.flushInterval).reached shop registry s (settings.targets.getD []) =
      settings.targets.getD [] := by
  unfold ofSettings at h
  split at h
  · cases h
  · rename_i targets htargets
    rw [htargets]
    exact reached_of_ok h

theorem reached_of_ofSettings_error {settings : LogSettings} {e : LoggerError}
    (h : ofSettings shop registry s settings = (t, .error e)) :
    (settings.targets = none ∧ t = s) ∨
      ∃ before named after u v, settings.targets.getD [] = before ++ named :: after ∧
        (start.interval settings.flushInterval).reached shop registry s
          (settings.targets.getD []) = before ++ [named] ∧
        (start.interval settings.flushInterval).addTargets shop registry s before = (u, .ok v) ∧
        v.addTargets shop registry u [named] = (t, .error e) := by
  unfold ofSettings at h
  split at h
  · rename_i htargets
    cases h
    exact .inl ⟨htargets, rfl⟩
  · rename_i targets htargets
    rw [htargets]
    exact .inr (reached_of_error h)

end Wiring

end BatchedLog
