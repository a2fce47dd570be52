import BatchedLog.Session.Process

/-!
# Loggers of one's own

A logger that is built from settings takes its sinks from the registry of the process. The process's
configuration and its shared logger play no part in this: put others in their place, and the same is
built and the others are still there.
-/

namespace BatchedLog.Session

namespace World

/-- The world in a process with another configuration and another shared logger. -/
def amid (w : World) (context : Context) (shared : Shared) : World := { w with context, shared }

section

variable (w : World) (context : Context) (shared : Shared)

@[simp] theorem amid_self : w.amid w.context w.shared = w := rfl

theorem makeConsole_amid (params : Fields) :
    (w.amid context shared).makeConsole params =
      ((w.makeConsole params).1.amid context shared, (w.makeConsole params).2) := by
  unfold makeConsole
  split
  · rfl
  · rfl

theorem makeFile_amid (params : Fields) :
    (w.amid context shared).makeFile params =
      ((w.makeFile params).1.amid context shared, (w.makeFile params).2) := by
  have disk : (w.amid context shared).disk = w.disk := rfl
  unfold makeFile
  rw [disk]
  split
  · rfl
  · split
    · rfl
    · rfl

theorem makeSink_amid (plan : SinkPlan Step) :
    (w.amid context shared).makeSink plan =
      ((w.makeSink plan).1.amid context shared, (w.makeSink plan).2) := by
  unfold makeSink
  cases plan.kind with
  | file => exact makeFile_amid w context shared plan.params
  | console => exact makeConsole_amid w context shared plan.params
  | _ => rfl

theorem make_amid (factory : Factory Step) (type : String) (params : Fields) :
    (w.amid context shared).make factory type params =
      ((w.make factory type params).1.amid context shared, (w.make factory type params).2) := by
  cases factory with
  | console => exact makeConsole_amid w context shared params
  | file => exact makeFile_amid w context shared params
  | planned required plan =>
    unfold make
    dsimp only
    split
    · rfl
    · exact makeSink_amid w context shared _
  | _ => rfl

end

theorem addTargets_amid (registry : Registry (Factory Step)) (context : Context) (shared : Shared)
    (targets : Targets) : ∀ (wiring : Wiring) (w : World),
      Wiring.addTargets workshop registry wiring (w.amid context shared) targets =
        ((Wiring.addTargets workshop registry wiring w targets).1.amid context shared,
          (Wiring.addTargets workshop registry wiring w targets).2) := by
  induction targets with
  | nil => exact fun _ _ => rfl
  | cons head rest ih =>
    obtain ⟨name, target⟩ := head
    intro wiring w
    unfold Wiring.addTargets
    cases target.type with
    | none => exact ih wiring (w.note _)
    | some type =>
      dsimp only
      cases registry.find? type with
      | none => exact ih wiring (w.note _)
      | some factory =>
        have made : workshop.make (w.amid context shared) factory type target.params =
            ((workshop.make w factory type target.params).1.amid context shared,
              (workshop.make w factory type target.params).2) :=
          make_amid w context shared factory type target.params
        dsimp only
        rw [made]
        rcases workshop.make w factory type target.params with ⟨made, e | sink⟩
        · rfl
        · dsimp only
          cases wiring.add name sink with
          | error e => rfl
          | ok wiring => exact ih wiring (made.note _)

theorem ofSettings_amid (registry : Registry (Factory Step)) (w : World) (context : Context)
    (shared : Shared) (settings : LogSettings) :
    Wiring.ofSettings workshop registry (w.amid context shared) settings =
      ((Wiring.ofSettings workshop registry w settings).1.amid context shared,
        (Wiring.ofSettings workshop registry w settings).2) := by
  unfold Wiring.ofSettings
  split
  · rfl
  · exact addTargets_amid registry context shared _ _ w

theorem ofConfig_amid (registry : Registry (Factory Step)) (w : World) (context : Context)
    (shared : Shared) (config : AppConfig) :
    Wiring.ofConfig workshop registry (w.amid context shared) config =
      ((Wiring.ofConfig workshop registry w config).1.amid context shared,
        (Wiring.ofConfig workshop registry w config).2) := by
  unfold Wiring.ofConfig
  split
  · rfl
  · exact ofSettings_amid registry w context shared _

/-- What making the shared logger comes to does not depend on the slot and its lock. -/
theorem makeShared_locked (w : World) (shared : Shared) (loggers : List Logger) :
    (makeShared loggers ({ w with shared }, [])).2 = (makeShared loggers (w, [])).2 := by
  have wired := ofConfig_amid w.registry { w with context := w.context.read.1 } w.context.read.1
    shared w.context.read.2
  have before : World.amid { w with context := w.context.read.1 } w.context.read.1 shared =
      { w with context := w.context.read.1, shared } := rfl
  rw [before] at wired
  simp only [makeShared, wired]
  rcases Wiring.ofConfig workshop w.registry { w with context := w.context.read.1 }
    w.context.read.2 with ⟨made, e | wiring⟩
  · rfl
  · rfl

/-- Building a logger of one's own reads and changes neither the configuration of the process nor
its shared logger. -/
theorem perform_independent_amid (w : World) (context : Context) (shared : Shared)
    (loggers : List Logger) (settings : LogSettings) :
    (w.amid context shared).perform loggers (.build (.independent settings)) =
      ((w.perform loggers (.build (.independent settings))).1.amid context shared,
        (w.perform loggers (.build (.independent settings))).2) := by
  have wired := ofSettings_amid w.registry w context shared settings
  have registry : (w.amid context shared).registry = w.registry := rfl
  simp only [perform, build, wire, asBuild, registry, wired]
  cases (Wiring.ofSettings workshop w.registry w settings).2 with
  | error e => rfl
  | ok wiring =>
    have hbuilt : (Except.ok wiring : Except LoggerError Wiring).mapError BuildError.logger =
        .ok wiring := rfl
    simp only [hbuilt, slotOf, amid]
    split
    · rfl
    · rfl

end World

end BatchedLog.Session
