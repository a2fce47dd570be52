import BatchedLog.CommandLine.Run
import BatchedLog.Proofs.Session.Books

/-!
# The program up to its logger

Installing a configuration in a process that has none settles it, and the shared logger is made from
it, the only one there is. `connect` comes to what wiring the configuration comes to, and so does
all that the program does before its input.
-/

namespace BatchedLog.CommandLine

open Session (State World builtins)

variable {disk : Disk} {config : AppConfig} {w : World} {wiring : Wiring} {s : State}
  {id : LoggerId}

/-- The world of a process whose configuration was just installed. -/
def settled (disk : Disk) (config : AppConfig) : World :=
  { World.start disk with context := ⟨some config, config.debug⟩ }

/-- The state once the shared logger is made. -/
def connected (w : World) (wiring : Wiring) : State :=
  { Session.start w.disk with
    host :=
      { w.note (.sharedCreated (wiring.sinks.map (·.name)) wiring.policy.interval) with
        shared := ⟨some 0, false⟩ }
    loggers := [.start wiring.policy wiring.sinks] }

/-- The process reads back what was installed, and wires it with the types that are always there. -/
theorem acquire_settled (disk : Disk) (config : AppConfig) :
    World.acquire [] (settled disk config, []) =
      match Wiring.ofConfig World.workshop builtins (settled disk config) config with
      | (w, .error e) => (({ w with shared := .empty }, []), .error e)
      | (w, .ok wiring) => (((connected w wiring).host, [wiring]), .ok 0) := by
  obtain ⟨result, hresult⟩ : ∃ result, result =
      Wiring.ofConfig World.workshop builtins (settled disk config) config := ⟨_, rfl⟩
  have hwire : Wiring.ofConfig World.workshop (settled disk config).registry
      { settled disk config with context := (settled disk config).context.read.1 }
      (settled disk config).context.read.2 = result := hresult.symm
  have hnone : (settled disk config).shared.logger = none := rfl
  rw [← hresult]
  simp only [World.acquire, Shared.acquire, World.makeShared, hwire, hnone]
  obtain ⟨w, e | wiring⟩ := result
  · rfl
  · rfl

theorem connect_eq (disk : Disk) (config : AppConfig) :
    connect (Session.start disk) config =
      match Wiring.ofConfig World.workshop builtins (settled disk config) config with
      | (w, .error e) => ({ Session.start disk with host := { w with shared := .empty } }, .error e)
      | (w, .ok wiring) => (connected w wiring, .ok 0) := by
  have hcontext : { (Session.start disk).host with
      context := ((Session.start disk).host.context.install config).1 } = settled disk config := rfl
  have hloggers : (Session.start disk).loggers = [] := rfl
  unfold connect
  rw [hcontext, hloggers]
  dsimp only
  rw [acquire_settled]
  rcases Wiring.ofConfig World.workshop builtins (settled disk config) config with ⟨w, e | wiring⟩
  · rfl
  · rfl

theorem of_connect (h : connect (Session.start disk) config = (s, .ok id)) :
    ∃ w wiring, Wiring.ofConfig World.workshop builtins (settled disk config) config =
      (w, .ok wiring) ∧ s = connected w wiring ∧ id = 0 := by
  rw [connect_eq] at h
  rcases hwire : Wiring.ofConfig World.workshop builtins (settled disk config) config with
    ⟨w, e | wiring⟩
  · rw [hwire] at h
    cases h
  · rw [hwire] at h
    cases h
    exact ⟨w, wiring, rfl, rfl, rfl⟩

/-- Whatever comes of the logger, the disk is as wiring has left it. -/
theorem disk_connect (disk : Disk) (config : AppConfig) :
    (connect (Session.start disk) config).1.host.disk =
      (Wiring.ofConfig World.workshop builtins (settled disk config) config).1.disk := by
  rw [connect_eq]
  rcases Wiring.ofConfig World.workshop builtins (settled disk config) config with ⟨w, e | wiring⟩
  · rfl
  · rfl

theorem prepare_eq {arguments : List String} {path : Option String} {command : Command}
    (asked : Request.ofArguments arguments = .ok (.run path command))
    (accepted : configAt disk path = .ok config)
    (built : connect (Session.start disk) config = (s, .ok id)) :
    prepare disk arguments = .ok ⟨s, id, command⟩ := by
  unfold prepare
  simp only [asked, accepted, built]

end BatchedLog.CommandLine
