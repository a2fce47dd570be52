import BatchedLog.Proofs.Wiring.Supply
import BatchedLog.Session.World

/-!
# Building a logger call by call

A builder is given an interval, sinks that are there already, and targets, in any order and any
number of times. Each call says what names it brings. The first call that fails ends it: one with a
sink whose name is taken, or one with targets, at the first target that offends.
-/

namespace BatchedLog

variable {φ σ : Type}

inductive BuilderCall (φ : Type)
  | interval (n : Nat)
  | sink (name : String) (sink : SinkId)
  /-- Targets, with the registry that knows their types. -/
  | targets (registry : Registry φ) (targets : Targets)

namespace BuilderCall

/-- The names that a call brings, in order. -/
def names : BuilderCall φ → List String
  | .interval _ => []
  | .sink name _ => [name]
  | .targets registry ts => (ts.filter (·.2.isKnown registry)).map (·.1)

def interval? : BuilderCall φ → Option Nat
  | .interval n => some n
  | _ => none

end BuilderCall

namespace Wiring

def names (w : Wiring) : List String := w.sinks.map (·.name)

def call (shop : Workshop φ σ) (w : Wiring) (s : σ) : BuilderCall φ → σ × Except LoggerError Wiring
  | .interval n => (s, .ok (w.interval n))
  | .sink name sink => (s, w.add name sink)
  | .targets registry targets => w.addTargets shop registry s targets

/-- Calls one after the other, up to the first that fails. -/
def callAll (shop : Workshop φ σ) (w : Wiring) (s : σ) :
    List (BuilderCall φ) → σ × Except LoggerError Wiring
  | [] => (s, .ok w)
  | c :: rest =>
    match w.call shop s c with
    | (s, .error e) => (s, .error e)
    | (s, .ok w) => w.callAll shop s rest

end Wiring

/-! ## Targets that offend -/

/-- The factory that makes a target's sink, and what it is asked for. -/
def Target.order? (registry : Registry φ) (target : Target) : Option (φ × String × Fields) :=
  target.type.bind fun type => (registry.find? type).map fun factory =>
    (factory, type, target.params)

namespace Workshop

/-- A target of a registered type ends a call that has taken these names: its factory refuses, or it
makes a sink whose name is one of them. -/
inductive Offends (shop : Workshop φ σ) (registry : Registry φ) (taken : List String) (s : σ) :
    String × Target → σ → LoggerError → Prop
  | refused {name target type factory t source} : target.type = some type →
      registry.find? type = some factory →
      shop.make s factory type target.params = (t, .error source) →
      Offends shop registry taken s (name, target) t (.sinkConstruction name source)
  | doubled {name target type factory t sink} : target.type = some type →
      registry.find? type = some factory →
      shop.make s factory type target.params = (t, .ok sink) → name ∈ taken →
      Offends shop registry taken s (name, target) t (.duplicateSink name)

/-- None of the targets before it offends, but this one does. -/
def OffendsFirst (shop : Workshop φ σ) (registry : Registry φ) (taken : List String) (s : σ)
    (before : Targets) (named : String × Target) (t : σ) (e : LoggerError) : Prop :=
  ∃ u sinks, shop.Supplies registry s before u sinks ∧ (taken ++ sinks.map (·.name)).Nodup ∧
    shop.Offends registry (taken ++ sinks.map (·.name)) u named t e

/-- The same workshop with a book of what its factories were asked for. -/
def recording (shop : Workshop φ σ) : Workshop φ (σ × List (φ × String × Fields)) where
  make p factory type params :=
    (((shop.make p.1 factory type params).1, p.2 ++ [(factory, type, params)]),
      (shop.make p.1 factory type params).2)
  note p d := (shop.note p.1 d, p.2)

variable {shop : Workshop φ σ} {registry : Registry φ} {taken : List String} {s t : σ}
  {named : String × Target} {e : LoggerError}

theorem Offends.isKnown (h : shop.Offends registry taken s named t e) :
    named.2.isKnown registry = true := by
  cases h with
  | refused htype hfactory _ => simp [Target.isKnown, htype, hfactory]
  | doubled htype hfactory _ _ => simp [Target.isKnown, htype, hfactory]

theorem Offends.order?_eq {p q : σ × List (φ × String × Fields)}
    (h : shop.recording.Offends registry taken p named q e) :
    q.2 = p.2 ++ (named.2.order? registry).toList ∧
      shop.Offends registry taken p.1 named q.1 e := by
  cases h with
  | refused htype hfactory hmake =>
    obtain ⟨hstate, hresult⟩ := Prod.mk.inj hmake
    subst hstate
    exact ⟨by simp [Target.order?, htype, hfactory],
      .refused htype hfactory (Prod.ext rfl hresult)⟩
  | doubled htype hfactory hmake hmem =>
    obtain ⟨hstate, hresult⟩ := Prod.mk.inj hmake
    subst hstate
    exact ⟨by simp [Target.order?, htype, hfactory],
      .doubled htype hfactory (Prod.ext rfl hresult) hmem⟩

/-- The factories asked are those of the targets of registered types, in order. -/
theorem Supplies.order?_eq {p q : σ × List (φ × String × Fields)} {targets : Targets}
    {sinks : List Wired} (h : shop.recording.Supplies registry p targets q sinks) :
    q.2 = p.2 ++ targets.filterMap (·.2.order? registry) ∧
      shop.Supplies registry p.1 targets q.1 sinks := by
  induction h with
  | nil => exact ⟨(List.append_nil _).symm, .nil⟩
  | untyped htype _ ih =>
    obtain ⟨horders, supplies⟩ := ih
    exact ⟨by rw [horders]; simp [recording, Target.order?, htype], .untyped htype supplies⟩
  | unknown htype hnone _ ih =>
    obtain ⟨horders, supplies⟩ := ih
    exact ⟨by rw [horders]; simp [recording, Target.order?, htype, hnone],
      .unknown htype hnone supplies⟩
  | made htype hfactory hmake _ ih =>
    obtain ⟨hstate, hresult⟩ := Prod.mk.inj hmake
    obtain ⟨horders, supplies⟩ := ih
    subst hstate
    exact ⟨by rw [horders]; simp [recording, Target.order?, htype, hfactory],
      .made htype hfactory (Prod.ext rfl hresult) supplies⟩

theorem OffendsFirst.order?_eq {p q : σ × List (φ × String × Fields)} {before : Targets}
    (h : shop.recording.OffendsFirst registry taken p before named q e) :
    q.2 = p.2 ++ (before ++ [named]).filterMap (·.2.order? registry) ∧
      shop.OffendsFirst registry taken p.1 before named q.1 e := by
  obtain ⟨u, sinks, supplies, free, offends⟩ := h
  obtain ⟨hbefore, supplies⟩ := supplies.order?_eq
  obtain ⟨hnamed, offends⟩ := offends.order?_eq
  refine ⟨?_, u.1, sinks, supplies, free, offends⟩
  rw [hnamed, hbefore, List.filterMap_append, List.append_assoc]
  cases horder : named.2.order? registry with
  | none => simp [horder]
  | some order => simp [horder]

end Workshop

namespace Wiring

open Workshop

variable {shop : Workshop φ σ} {registry : Registry φ} {w v : Wiring} {s t : σ} {e : LoggerError}

/-! ## One call -/

theorem addTargets_single_offends {named : String × Target} :
    addTargets shop registry w s [named] = (t, .error e) ↔
      shop.Offends registry w.names s named t e := by
  obtain ⟨name, target⟩ := named
  rw [addTargets_single_eq_error]
  constructor
  · rintro ⟨type, factory, htype, hfactory, ⟨source, hmake, rfl⟩ | ⟨sink, hmake, taken, rfl⟩⟩
    · exact .refused htype hfactory hmake
    · exact .doubled htype hfactory hmake taken
  · intro h
    cases h with
    | refused htype hfactory hmake => exact ⟨_, _, htype, hfactory, .inl ⟨_, hmake, rfl⟩⟩
    | doubled htype hfactory hmake taken =>
      exact ⟨_, _, htype, hfactory, .inr ⟨_, hmake, taken, rfl⟩⟩

/-- Targets fail at the first of them that offends, with its error, and those after it are not
looked at. -/
theorem addTargets_eq_error_iff {targets : Targets} (once : w.names.Nodup) :
    addTargets shop registry w s targets = (t, .error e) ↔
      ∃ before named after, targets = before ++ named :: after ∧
        shop.OffendsFirst registry w.names s before named t e := by
  constructor
  · intro h
    obtain ⟨before, named, after, u, v, rfl, hbefore, hstop⟩ := exists_stop targets h
    obtain ⟨sinks, supplies, rfl, names⟩ := supplies_of_addTargets before hbefore
    have free := names once
    have offends := addTargets_single_offends.1 hstop
    rw [List.map_append] at free
    rw [Wiring.names, List.map_append] at offends
    exact ⟨before, named, after, rfl, u, sinks, supplies, free, offends⟩
  · rintro ⟨before, named, after, rfl, u, sinks, supplies, free, offends⟩
    have hnames : ({ w with sinks := w.sinks ++ sinks } : Wiring).names =
        w.names ++ sinks.map (·.name) := List.map_append
    rw [← hnames] at free offends
    rw [addTargets_append, addTargets_of_supplies supplies free]
    dsimp only
    rw [addTargets_cons, addTargets_single_offends.2 offends]

/-- Writing down what factories are asked for changes nothing else. -/
theorem addTargets_recording (targets : Targets) : ∀ (w : Wiring)
    (p : σ × List (φ × String × Fields)),
    ((addTargets shop.recording registry w p targets).1.1,
        (addTargets shop.recording registry w p targets).2) =
      addTargets shop registry w p.1 targets := by
  induction targets with
  | nil => exact fun _ _ => rfl
  | cons head rest ih =>
    obtain ⟨name, target⟩ := head
    intro w p
    rw [addTargets, addTargets]
    cases target.type with
    | none => exact ih w _
    | some type =>
      dsimp only
      cases registry.find? type with
      | none => exact ih w _
      | some factory =>
        dsimp only [recording]
        rcases shop.make p.1 factory type target.params with ⟨u, e | sink⟩
        · rfl
        · dsimp only
          cases w.add name sink with
          | error e => rfl
          | ok next => exact ih next _

/-- And the factories asked up to then are those of the targets up to that one. -/
theorem addTargets_eq_error_recording {targets : Targets} (once : w.names.Nodup) :
    addTargets shop registry w s targets = (t, .error e) ↔
      ∃ before named after, targets = before ++ named :: after ∧
        shop.OffendsFirst registry w.names s before named t e ∧
        addTargets shop.recording registry w (s, []) targets =
          ((t, (before ++ [named]).filterMap (·.2.order? registry)), .error e) := by
  constructor
  · intro herror
    have hrecorded : ((addTargets shop.recording registry w (s, []) targets).1.1,
        (addTargets shop.recording registry w (s, []) targets).2) =
          addTargets shop registry w s targets := addTargets_recording targets w (s, [])
    rcases hrun : addTargets shop.recording registry w (s, []) targets with ⟨⟨t', orders⟩, r⟩
    rw [hrun, herror] at hrecorded
    cases hrecorded
    obtain ⟨before, named, after, hsplit, offends⟩ := (addTargets_eq_error_iff once).1 hrun
    obtain ⟨horders, offends⟩ := offends.order?_eq
    rw [List.nil_append] at horders
    exact ⟨before, named, after, hsplit, offends, by rw [← horders]⟩
  · rintro ⟨before, named, after, hsplit, offends, -⟩
    exact (addTargets_eq_error_iff once).2 ⟨before, named, after, hsplit, offends⟩

/-- Targets without a type, or of one that is not registered, are passed over whatever their
names. -/
theorem addTargets_of_unknown {targets : Targets} (once : w.names.Nodup)
    (unknown : ∀ named ∈ targets, named.2.isKnown registry = false) :
    ∃ t, addTargets shop registry w s targets = (t, .ok w) := by
  rcases hrun : addTargets shop registry w s targets with ⟨t, e | v⟩
  · obtain ⟨before, named, after, rfl, ⟨_, _, _, _, offends⟩⟩ :=
      (addTargets_eq_error_iff once).1 hrun
    have hunknown := unknown named (List.mem_append_right _ List.mem_cons_self)
    rw [offends.isKnown] at hunknown
    cases hunknown
  · obtain ⟨sinks, supplies, rfl, -⟩ := supplies_of_addTargets targets hrun
    have hnone : sinks.map (·.name) = [] := by
      rw [supplies.names, List.filter_eq_nil_iff.2 (by simpa using unknown), List.map_nil]
    rw [List.map_eq_nil_iff.1 hnone, List.append_nil]
    exact ⟨t, rfl⟩

/-- A call that succeeds brings its names, and none that was taken. -/
theorem names_call {c : BuilderCall φ} (h : w.call shop s c = (t, .ok v)) :
    v.names = w.names ++ c.names ∧ (w.names.Nodup → v.names.Nodup) ∧
      v.policy = (c.interval?.map FlushPolicy.mk).getD w.policy := by
  cases c with
  | interval n =>
    cases h
    exact ⟨(List.append_nil _).symm, id, rfl⟩
  | sink name sink =>
    obtain ⟨-, hadd⟩ := Prod.mk.inj h
    have once := nodup_add hadd
    obtain ⟨-, rfl⟩ := add_eq_ok.1 hadd
    exact ⟨List.map_append, once, rfl⟩
  | targets registry targets =>
    obtain ⟨sinks, supplies, rfl, names⟩ := supplies_of_addTargets targets h
    refine ⟨?_, names, rfl⟩
    rw [BuilderCall.names, ← supplies.names]
    exact List.map_append

/-! ## Calls one after the other -/

/-- The policy that calls leave: that of the last one about it. -/
def policyAfter (p : FlushPolicy) (calls : List (BuilderCall φ)) : FlushPolicy :=
  ((calls.filterMap BuilderCall.interval?).getLast?.map FlushPolicy.mk).getD p

theorem policyAfter_cons (p : FlushPolicy) (c : BuilderCall φ) (calls : List (BuilderCall φ)) :
    policyAfter p (c :: calls) =
      policyAfter ((c.interval?.map FlushPolicy.mk).getD p) calls := by
  unfold policyAfter
  cases c with
  | interval n =>
    have hcons : (BuilderCall.interval n :: calls).filterMap BuilderCall.interval? =
        n :: calls.filterMap BuilderCall.interval? := rfl
    rw [hcons, List.getLast?_cons]
    cases (calls.filterMap BuilderCall.interval?).getLast? <;> rfl
  | sink => rfl
  | targets => rfl

theorem names_callAll {calls : List (BuilderCall φ)} (h : w.callAll shop s calls = (t, .ok v)) :
    v.names = w.names ++ calls.flatMap BuilderCall.names ∧ (w.names.Nodup → v.names.Nodup) ∧
      v.policy = policyAfter w.policy calls := by
  induction calls generalizing w s with
  | nil =>
    cases h
    exact ⟨(List.append_nil _).symm, id, rfl⟩
  | cons c rest ih =>
    unfold callAll at h
    split at h
    · cases h
    · rename_i next hcall
      obtain ⟨hnames, once, hpolicy⟩ := names_call hcall
      obtain ⟨hnames', once', hpolicy'⟩ := ih h
      refine ⟨?_, fun hw => once' (once hw), ?_⟩
      · rw [hnames', hnames, List.flatMap_cons, List.append_assoc]
      · rw [hpolicy', hpolicy, policyAfter_cons]

/-- Calls fail at the first of them that does. -/
theorem callAll_eq_error {calls : List (BuilderCall φ)} :
    w.callAll shop s calls = (t, .error e) ↔
      ∃ before c after u v, calls = before ++ c :: after ∧
        w.callAll shop s before = (u, .ok v) ∧ v.call shop u c = (t, .error e) := by
  induction calls generalizing w s with
  | nil => simp [callAll]
  | cons c rest ih =>
    rcases hcall : w.call shop s c with ⟨u, e' | v⟩
    · rw [callAll, hcall]
      constructor
      · intro h
        cases h
        exact ⟨[], c, rest, s, w, rfl, rfl, hcall⟩
      · rintro ⟨before, c', after, u', v', hsplit, hbefore, hlast⟩
        cases before with
        | nil =>
          obtain ⟨rfl, rfl⟩ := List.cons.inj hsplit
          cases hbefore
          rw [hcall] at hlast
          exact hlast
        | cons first before =>
          obtain ⟨rfl, rfl⟩ := List.cons.inj hsplit
          simp [callAll, hcall] at hbefore
    · rw [callAll, hcall]
      dsimp only
      rw [ih]
      constructor
      · rintro ⟨before, c', after, u', v', rfl, hbefore, hlast⟩
        refine ⟨c :: before, c', after, u', v', rfl, ?_, hlast⟩
        rw [callAll, hcall]
        exact hbefore
      · rintro ⟨before, c', after, u', v', hsplit, hbefore, hlast⟩
        cases before with
        | nil =>
          obtain ⟨rfl, rfl⟩ := List.cons.inj hsplit
          cases hbefore
          rw [hcall] at hlast
          cases hlast
        | cons first before =>
          obtain ⟨rfl, rfl⟩ := List.cons.inj hsplit
          rw [callAll, hcall] at hbefore
          exact ⟨before, c', after, u', v', rfl, hbefore, hlast⟩

end Wiring

open Wiring

/-- The calls that a section of the configuration comes to. -/
theorem ofSettings_eq_callAll {shop : Workshop φ σ} {registry : Registry φ} {settings : LogSettings}
    {targets : Targets} (h : settings.targets = some targets) (s : σ) :
    ofSettings shop registry s settings =
      start.callAll shop s [.interval settings.flushInterval, .targets registry targets] := by
  rw [ofSettings, h]
  dsimp only
  rw [callAll, call]
  dsimp only
  rw [callAll, call]
  rcases (start.interval settings.flushInterval).addTargets shop registry s targets with ⟨t, e | w⟩
  · rfl
  · rfl

/-- Names of sinks stay unique, in the order of the calls that bring them. Calls fail at the first
that does, a sink if its name is taken, and targets at the first that offends. Factories of targets
after that one are not asked, and those whose type is not registered never offend. -/
theorem builder_keeps_names_unique (shop : Workshop φ σ) (s : σ) (calls : List (BuilderCall φ)) :
    (∀ t e, start.callAll shop s calls = (t, .error e) ↔
      ∃ before c after u w, calls = before ++ c :: after ∧
        start.callAll shop s before = (u, .ok w) ∧ w.call shop u c = (t, .error e)) ∧
    ∀ t w, start.callAll shop s calls = (t, .ok w) →
      ((Logger.start w.policy w.sinks).sinkNames = calls.flatMap BuilderCall.names ∧
        (Logger.start w.policy w.sinks).sinkNames.Nodup ∧
        w.policy = policyAfter .default calls) ∧
      (∀ n, w.call shop t (.interval n) = (t, .ok (w.interval n))) ∧
      (∀ name sink u e, w.call shop t (.sink name sink) = (u, .error e) ↔
        name ∈ calls.flatMap BuilderCall.names ∧ e = .duplicateSink name ∧ u = t) ∧
      ∀ registry targets,
        (∀ u e, w.call shop t (.targets registry targets) = (u, .error e) ↔
          ∃ before named after, targets = before ++ named :: after ∧
            shop.OffendsFirst registry (calls.flatMap BuilderCall.names) t before named u e ∧
            w.call shop.recording (t, []) (.targets registry targets) =
              ((u, (before ++ [named]).filterMap (·.2.order? registry)), .error e)) ∧
        ((∀ named ∈ targets, named.2.isKnown registry = false) →
          ∃ u, w.call shop t (.targets registry targets) = (u, .ok w)) := by
  refine ⟨fun _ _ => callAll_eq_error, fun t w h => ?_⟩
  obtain ⟨hnames, once, hpolicy⟩ := names_callAll h
  have hnodup : w.names.Nodup := once List.nodup_nil
  have hflat : w.names = calls.flatMap BuilderCall.names := hnames
  refine ⟨⟨hflat, hnodup, hpolicy⟩, fun n => rfl, fun name sink u e => ?_,
    fun registry targets => ⟨fun u e => ?_, fun unknown => ?_⟩⟩
  · rw [call, ← hflat, Prod.mk.injEq, add_eq_error]
    constructor
    · rintro ⟨rfl, taken, rfl⟩
      exact ⟨taken, rfl, rfl⟩
    · rintro ⟨taken, rfl, rfl⟩
      exact ⟨rfl, taken, rfl⟩
  · rw [← hflat]
    exact addTargets_eq_error_recording hnodup
  · exact addTargets_of_unknown hnodup unknown

open Session in
/-- A sink `out`, then targets of which only `app` has a registered type. After them neither name is
free, so the second of the further targets fails them, though the sink it asks for could be made.
The target before it was passed over in spite of its name, and the one after it would be refused. -/
theorem builder_keeps_names_unique_twice :
    ∃ t w u, start.callAll World.workshop (World.start .empty)
        [.interval 3, .sink "out" 0, .targets builtins
          [("odd", ⟨none, []⟩), ("app", ⟨some "tracing", []⟩), ("out", ⟨some "syslog", []⟩)]] =
          (t, .ok w) ∧
      (Logger.start w.policy w.sinks).sinkNames = ["out", "app"] ∧
      w.call World.workshop t (.sink "app" 1) = (t, .error (.duplicateSink "app")) ∧
      ∃ before named after, [("app", ⟨none, []⟩), ("out", ⟨some "console", []⟩),
          ("bad", ⟨some "file", []⟩)] = before ++ named :: after ∧
        World.workshop.OffendsFirst builtins ["out", "app"] t before named u
          (.duplicateSink "out") := by
  obtain ⟨-, builds⟩ := builder_keeps_names_unique World.workshop (World.start .empty)
    [.interval 3, .sink "out" 0, .targets builtins
      [("odd", ⟨none, []⟩), ("app", ⟨some "tracing", []⟩), ("out", ⟨some "syslog", []⟩)]]
  obtain ⟨⟨names, -, -⟩, -, doubled, targets⟩ := builds _ _ rfl
  obtain ⟨fails, -⟩ := targets builtins
    [("app", ⟨none, []⟩), ("out", ⟨some "console", []⟩), ("bad", ⟨some "file", []⟩)]
  obtain ⟨before, named, after, hsplit, offends, -⟩ := (fails _ (.duplicateSink "out")).1 rfl
  exact ⟨_, _, _, rfl, names, (doubled "app" 1 _ _).2 ⟨by decide, rfl, rfl⟩, before, named, after,
    hsplit, offends⟩

end BatchedLog
