import BatchedLog.Proofs.Delivery.Endings
import BatchedLog.Session.Run

/-!
# Sessions that differ in endings

Two plans, steps or worlds are alike if they are the same but for how the turns of scripted sinks
end, however deep in them a script stands. Alike worlds have the same files, memory sinks, slots and
console; what failed deliveries leave in metrics, diagnostics and the answers scripted sinks write
down may differ. Everything a session can do to a world keeps worlds alike and comes back with the
same reply, so the host of a session is blind to endings.
-/

namespace BatchedLog.Session

/-! ## Plans -/

section

variable {κ : Type}

/-- A turn of a script that does the same may end in another way. -/
inductive Turn.Alike (R : κ → κ → Prop) : Turn κ → Turn κ → Prop
  | mk {actions actions' : List κ} (ending ending' : Ending) :
      List.Forall₂ R actions actions' → Alike R ⟨actions, ending⟩ ⟨actions', ending'⟩

inductive SinkPlan.Alike (R : κ → κ → Prop) : SinkPlan κ → SinkPlan κ → Prop
  | mk (name : String) (kind : SinkKind) (params : Fields) {script script' : List (Turn κ)} :
      List.Forall₂ (Turn.Alike R) script script' →
      Alike R ⟨name, kind, params, script⟩ ⟨name, kind, params, script'⟩

inductive Factory.Alike (R : κ → κ → Prop) : Factory κ → Factory κ → Prop
  | same (f : Factory κ) : Alike R f f
  | planned (required : Option String) {plan plan' : SinkPlan κ} : plan.Alike R plan' →
      Alike R (.planned required plan) (.planned required plan')

/-- Entries of registries, each of a type. -/
inductive Factory.Registered (R : κ → κ → Prop) : String × Factory κ → String × Factory κ → Prop
  | mk (type : String) {f f' : Factory κ} : f.Alike R f' → Registered R (type, f) (type, f')

inductive LoggerPlan.Alike (R : κ → κ → Prop) : LoggerPlan κ → LoggerPlan κ → Prop
  | direct (interval : Option Nat) {sinks sinks' : List (SinkPlan κ)} (targets : Option Targets)
      {registry registry' : List (String × Factory κ)} :
      List.Forall₂ (SinkPlan.Alike R) sinks sinks' →
      List.Forall₂ (Factory.Registered R) registry registry' →
      Alike R (.direct interval sinks targets registry) (.direct interval sinks' targets registry')
  | settings (settings : LogSettings) {registry registry' : List (String × Factory κ)} :
      List.Forall₂ (Factory.Registered R) registry registry' →
      Alike R (.settings settings registry) (.settings settings registry')
  | app (config : AppConfig) {registry registry' : List (String × Factory κ)} :
      List.Forall₂ (Factory.Registered R) registry registry' →
      Alike R (.app config registry) (.app config registry')
  | toml (text : String) {registry registry' : List (String × Factory κ)} :
      List.Forall₂ (Factory.Registered R) registry registry' →
      Alike R (.toml text registry) (.toml text registry')
  | independent (settings : LogSettings) : Alike R (.independent settings) (.independent settings)

end

/-- Steps that are the same but for the endings in the scripts they carry. -/
inductive Step.Alike : Step → Step → Prop
  | same (s : Step) : Alike s s
  | build {plan plan' : LoggerPlan Step} : LoggerPlan.Alike Alike plan plan' →
      Alike (.build plan) (.build plan')
  | register (type : String) {f f' : Factory Step} : Factory.Alike Alike f f' →
      Alike (.register type f) (.register type f')

/-! ## Worlds -/

inductive SinkState.Alike : SinkState → SinkState → Prop
  | same (s : SinkState) : Alike s s
  | scripted (label : String) {script script' : List (Turn Step)} :
      List.Forall₂ (Turn.Alike Step.Alike) script script' →
      Alike (.scripted label script) (.scripted label script')

/-- What a sink was handed is the same; what its steps came back with may not be. -/
inductive JournalLine.Alike : JournalLine → JournalLine → Prop
  | received (label : String) (batch : Batch) :
      Alike (.received label batch) (.received label batch)
  | did (label : String) {a a' : Answer Reply} : a.Alike a' → Alike (.did label a) (.did label a')

def tellsOfFailure : Diagnostic → Bool
  | .sinkFailed .. => true
  | _ => false

abbrev RegistryAlike (r r' : Registry (Factory Step)) : Prop :=
  List.Forall₂ (Factory.Registered Step.Alike) r r'

structure World.Alike (w w' : World) : Prop where
  sinks : List.Forall₂ SinkState.Alike w.sinks w'.sinks
  slots : w.slots = w'.slots
  orphans : w.orphans = w'.orphans
  disk : w.disk = w'.disk
  console : w.console = w'.console
  entries : w.metrics.entries = w'.metrics.entries
  batches : w.metrics.batches = w'.metrics.batches
  batchSizes : w.metrics.batchSizes = w'.metrics.batchSizes
  diagnostics : w.diagnostics.toList.filter (fun d => !tellsOfFailure d) =
    w'.diagnostics.toList.filter (fun d => !tellsOfFailure d)
  journal : List.Forall₂ JournalLine.Alike w.journal.toList w'.journal.toList
  context : w.context = w'.context
  shared : w.shared = w'.shared
  registry : RegistryAlike w.registry w'.registry

/-- Alike worlds with the same result. -/
def Agree {β : Type} (r r' : World × β) : Prop := r.1.Alike r'.1 ∧ r.2 = r'.2

theorem Turn.Alike.refl (t : Turn Step) : t.Alike Step.Alike t :=
  .mk _ _ (List.forall₂_same.2 fun s _ => .same s)

theorem SinkPlan.Alike.refl (p : SinkPlan Step) : p.Alike Step.Alike p :=
  .mk _ _ _ (List.forall₂_same.2 fun t _ => .refl t)

theorem RegistryAlike.refl (r : Registry (Factory Step)) : RegistryAlike r r :=
  List.forall₂_same.2 fun (type, f) _ => .mk type (.same f)

theorem LoggerPlan.Alike.refl (p : LoggerPlan Step) : p.Alike Step.Alike p := by
  cases p with
  | direct interval sinks targets registry =>
    exact .direct interval targets (List.forall₂_same.2 fun p _ => .refl p)
      (RegistryAlike.refl registry)
  | settings settings registry => exact .settings settings (RegistryAlike.refl registry)
  | app config registry => exact .app config (RegistryAlike.refl registry)
  | toml text registry => exact .toml text (RegistryAlike.refl registry)
  | independent settings => exact .independent settings

theorem World.Alike.start (disk : Disk) : (World.start disk).Alike (World.start disk) :=
  ⟨.nil, rfl, rfl, rfl, rfl, rfl, rfl, rfl, rfl, .nil, rfl, rfl, .refl _⟩

/-! ## Registries -/

section

variable {r r' : Registry (Factory Step)}

theorem find?_alike (h : RegistryAlike r r') (type : String) :
    Option.Rel (Factory.Alike Step.Alike) (r.find? type) (r'.find? type) := by
  induction h with
  | nil => exact .none
  | cons entry _ ih =>
    obtain ⟨t, factories⟩ := entry
    unfold Registry.find? at ih ⊢
    by_cases ht : t = type
    · simpa [ht] using Option.Rel.some factories
    · simpa [ht] using ih

theorem contains_eq (h : RegistryAlike r r') (type : String) :
    r.contains type = r'.contains type := by
  have found := find?_alike h type
  unfold Registry.contains
  generalize r.find? type = f at found ⊢
  generalize r'.find? type = f' at found ⊢
  cases found with
  | none => rfl
  | some => rfl

theorem register_alike (h : RegistryAlike r r') (type : String) {f f' : Factory Step}
    (factories : f.Alike Step.Alike f') :
    RegistryAlike (r.register type f) (r'.register type f') := by
  induction h with
  | nil => exact .cons (.mk type factories) .nil
  | cons entry rest ih =>
    obtain ⟨t, others⟩ := entry
    unfold Registry.register
    by_cases ht : t = type
    · simp only [if_pos ht]
      exact .cons (.mk type factories) rest
    · simp only [if_neg ht]
      exact .cons (.mk t others) ih

theorem types_eq (h : RegistryAlike r r') : r.types = r'.types := by
  have names : r.map (·.1) = r'.map (·.1) := by
    rw [← List.forall₂_eq_eq_eq]
    refine List.rel_map ?_ h
    intro entry entry' entries
    cases entries
    rfl
  unfold Registry.types
  rw [names]

end

namespace World

variable {w w' : World}

/-! ## Sinks at work -/

/-- What a scripted sink does with a batch. -/
def play (w : World) (id : SinkId) (label : String) (batch : Batch) (script : List (Turn Step)) :
    World × List Step × Ending :=
  match script with
  | [] => (w.write (.received label batch), [], .returned (.ok ()))
  | turn :: rest =>
    ((w.write (.received label batch)).setSink id (.scripted label rest), turn.actions, turn.ending)

theorem Alike.note (alike : w.Alike w') (d : Diagnostic) : (w.note d).Alike (w'.note d) := by
  refine { alike with diagnostics := ?_ }
  simp only [World.note, Array.toList_push, List.filter_append, alike.diagnostics]

theorem Alike.notes {α : Type} (f : α → Diagnostic) (xs : List α) :
    ∀ {w w' : World}, w.Alike w' →
      (xs.foldl (fun w x => w.note (f x)) w).Alike (xs.foldl (fun w x => w.note (f x)) w') := by
  induction xs with
  | nil => exact fun alike => alike
  | cons x xs ih => exact fun alike => ih (alike.note _)

theorem Alike.write (alike : w.Alike w') {line line' : JournalLine} (lines : line.Alike line') :
    (w.write line).Alike (w'.write line') := by
  refine { alike with journal := ?_ }
  simp only [World.write, Array.toList_push]
  exact List.rel_append alike.journal (.cons lines .nil)

theorem Alike.setSink (alike : w.Alike w') (id : SinkId) {s s' : SinkState} (sinks : s.Alike s') :
    (w.setSink id s).Alike (w'.setSink id s') :=
  { alike with sinks := forall₂_set alike.sinks sinks id }

/-- A scripted sink takes a batch by the next turn of its script. -/
theorem Alike.play (alike : w.Alike w') (id : SinkId) (label : String) (batch : Batch)
    {script script' : List (Turn Step)}
    (scripts : List.Forall₂ (Turn.Alike Step.Alike) script script') :
    (w.play id label batch script).1.Alike (w'.play id label batch script').1 ∧
      List.Forall₂ Step.Alike (w.play id label batch script).2.1
        (w'.play id label batch script').2.1 := by
  have written := alike.write (.received label batch)
  cases scripts with
  | nil => exact ⟨written, .nil⟩
  | cons turn rest =>
    obtain ⟨_, _, actions⟩ := turn
    exact ⟨written.setSink id (.scripted label rest), actions⟩

theorem Alike.receive (alike : w.Alike w') (id : SinkId) (batch : Batch) :
    (w.receive id batch).1.Alike (w'.receive id batch).1 ∧
      List.Forall₂ Step.Alike (w.receive id batch).2.1 (w'.receive id batch).2.1 := by
  have sinks := forall₂_getElem? alike.sinks id
  unfold World.receive
  generalize w.sinks[id]? = sink at sinks ⊢
  generalize w'.sinks[id]? = sink' at sinks ⊢
  cases sinks with
  | none => exact ⟨alike, .nil⟩
  | some sink =>
    cases sink with
    | scripted label script => exact alike.play id label batch script
    | same =>
      rename_i s
      cases s with
      | memory name batches => exact ⟨alike.setSink id (.same _), .nil⟩
      | file sink =>
        dsimp only
        rw [← alike.disk]
        have written : World.Alike
            { w with disk := (sink.receive w.disk batch.entries).2.1 }
            { w' with disk := (sink.receive w.disk batch.entries).2.1 } :=
          { alike with disk := rfl }
        exact ⟨written.setSink id (.same _), .nil⟩
      | console sink =>
        dsimp only
        rw [← alike.console]
        exact ⟨{ alike with console := rfl }, .nil⟩
      | forward => exact ⟨alike.notes _ _, .nil⟩
      | scripted label script =>
        exact alike.play id label batch (List.forall₂_same.2 fun t _ => .refl t)

theorem Alike.answered (alike : w.Alike w') (id : SinkId) {a a' : Answer Reply}
    (answers : a.Alike a') : (w.answered id a).Alike (w'.answered id a') := by
  have sinks := forall₂_getElem? alike.sinks id
  unfold World.answered
  generalize w.sinks[id]? = sink at sinks ⊢
  generalize w'.sinks[id]? = sink' at sinks ⊢
  cases sinks with
  | none => exact alike
  | some sink =>
    cases sink with
    | scripted label script => exact alike.write (.did label answers)
    | same =>
      rename_i s
      cases s with
      | scripted label script => exact alike.write (.did label answers)
      | _ => exact alike

/-- The ending of a delivery leaves nothing that is compared. -/
theorem Alike.observe_left (alike : w.Alike w') {h : Happening} (ending : h.isEnding = true) :
    (w.observe h).Alike w' := by
  cases h with
  | took => exact { alike with }
  | failed id ticket failure =>
    refine { alike with diagnostics := ?_ }
    simpa [World.observe, World.note, tellsOfFailure] using alike.diagnostics
  | _ => cases ending

theorem Alike.observe_right (alike : w.Alike w') {h : Happening} (ending : h.isEnding = true) :
    w.Alike (w'.observe h) := by
  cases h with
  | took => exact { alike with }
  | failed id ticket failure =>
    refine { alike with diagnostics := ?_ }
    simpa [World.observe, World.note, tellsOfFailure] using alike.diagnostics
  | _ => cases ending

theorem Alike.observe (alike : w.Alike w') {h h' : Happening} (happenings : h.Alike h') :
    (w.observe h).Alike (w'.observe h') := by
  cases happenings with
  | ended ending ending' => exact (alike.observe_left ending).observe_right ending'
  | same =>
    cases h with
    | accepted id e =>
      have counted : (w.observe (.accepted id e)).metrics.entries =
          (w'.observe (.accepted id e)).metrics.entries := by
        simp only [World.observe, Metrics.record, alike.entries]
      exact { alike with entries := counted }
    | began id ticket batch sinks =>
      have recorded : World.Alike
          { w with metrics := w.metrics.record (.began id ticket batch sinks) }
          { w' with metrics := w'.metrics.record (.began id ticket batch sinks) } :=
        { alike with
          batches := congrArg (· + 1) alike.batches
          batchSizes := congrArg (·.push batch.entries.length) alike.batchSizes }
      exact recorded.note _
    | failed => exact (alike.observe_left rfl).observe_right rfl
    | _ => exact { alike with }

/-! ## Making sinks -/

theorem Alike.addSink (alike : w.Alike w') {s s' : SinkState} (sinks : s.Alike s') :
    Agree (w.addSink s) (w'.addSink s') :=
  ⟨{ alike with sinks := List.rel_append alike.sinks (.cons sinks .nil) },
    alike.sinks.length_eq⟩

theorem Alike.addOk (alike : w.Alike w') {s s' : SinkState} (sinks : s.Alike s') :
    Agree (w.addOk s) (w'.addOk s') := by
  obtain ⟨added, hid⟩ := alike.addSink sinks
  exact ⟨added, congrArg Except.ok hid⟩

theorem Alike.makeConsole (alike : w.Alike w') (params : Fields) :
    Agree (w.makeConsole params) (w'.makeConsole params) := by
  unfold World.makeConsole
  cases ConsoleSink.ofParameters params with
  | error e => exact ⟨alike, rfl⟩
  | ok sink => exact alike.addOk (.same _)

theorem Alike.makeFile (alike : w.Alike w') (params : Fields) :
    Agree (w.makeFile params) (w'.makeFile params) := by
  unfold World.makeFile
  rw [← alike.disk]
  cases FileSink.settings params with
  | error e => exact ⟨alike, rfl⟩
  | ok settings =>
    obtain ⟨path, format⟩ := settings
    dsimp only
    rcases FileSink.openAt w.disk path format with ⟨disk, result⟩
    have opened : World.Alike { w with disk } { w' with disk } := { alike with disk := rfl }
    cases result with
    | error e => exact ⟨opened, rfl⟩
    | ok sink => exact (opened.note _).addOk (.same _)

theorem Alike.makeSink (alike : w.Alike w') {plan plan' : SinkPlan Step}
    (plans : plan.Alike Step.Alike plan') : Agree (w.makeSink plan) (w'.makeSink plan') := by
  obtain ⟨name, kind, params, script⟩ := plans
  cases kind with
  | memory => exact alike.addOk (.same _)
  | file => exact alike.makeFile params
  | console => exact alike.makeConsole params
  | forward => exact alike.addOk (.same _)
  | scripted => exact alike.addOk (.scripted name script)

theorem Alike.makePlanned (alike : w.Alike w') (required : Option String)
    {plan plan' : SinkPlan Step} (plans : plan.Alike Step.Alike plan') (type : String)
    (params : Fields) : Agree (w.make (.planned required plan) type params)
      (w'.make (.planned required plan') type params) := by
  obtain ⟨name, kind, params', script⟩ := plans
  unfold World.make
  dsimp only
  split
  · exact ⟨alike, rfl⟩
  · exact alike.makeSink (.mk _ kind params' script)

theorem Alike.make (alike : w.Alike w') {f f' : Factory Step}
    (factories : f.Alike Step.Alike f') (type : String) (params : Fields) :
    Agree (w.make f type params) (w'.make f' type params) := by
  cases factories with
  | planned required plans => exact alike.makePlanned required plans type params
  | same =>
    cases f with
    | console => exact alike.makeConsole params
    | file => exact alike.makeFile params
    | forward => exact alike.addOk (.same _)
    | reject => exact ⟨alike, rfl⟩
    | refuse => exact ⟨alike, rfl⟩
    | planned required plan => exact alike.makePlanned required (.refl plan) type params

/-! ## Building loggers -/

theorem Alike.registerAll {plan plan' : List (String × Factory Step)}
    (plans : List.Forall₂ (Factory.Registered Step.Alike) plan plan') (alike : w.Alike w') :
    (w.registerAll plan).1.Alike (w'.registerAll plan').1 ∧
      RegistryAlike (w.registerAll plan).2 (w'.registerAll plan').2 := by
  have folded : ∀ {r r' : Registry (Factory Step)} {w w' : World}, w.Alike w' →
      RegistryAlike r r' →
      let register (s : World × Registry (Factory Step)) (entry : String × Factory Step) :=
        (s.1.note (.typeRegistered entry.1), s.2.register entry.1 entry.2)
      (plan.foldl register (w, r)).1.Alike (plan'.foldl register (w', r')).1 ∧
        RegistryAlike (plan.foldl register (w, r)).2 (plan'.foldl register (w', r')).2 := by
    induction plans with
    | nil => exact fun alike registries => ⟨alike, registries⟩
    | cons entry _ ih =>
      obtain ⟨type, factories⟩ := entry
      exact fun alike registries => ih (alike.note _) (register_alike registries type factories)
  exact folded alike .nil

theorem Alike.addSinks {sinks sinks' : List (SinkPlan Step)}
    (plans : List.Forall₂ (SinkPlan.Alike Step.Alike) sinks sinks') :
    ∀ {w w' : World} (wiring : Wiring), w.Alike w' →
      Agree (w.addSinks wiring sinks) (w'.addSinks wiring sinks') := by
  induction plans with
  | nil => exact fun _ alike => ⟨alike, rfl⟩
  | @cons plan plan' _ _ first _ ih =>
    intro w w' wiring alike
    have hname : plan.name = plan'.name := by
      cases first
      rfl
    have made := alike.makeSink first
    unfold World.addSinks
    generalize w.makeSink plan = o at made ⊢
    generalize w'.makeSink plan' = o' at made ⊢
    obtain ⟨u, result⟩ := o
    obtain ⟨u', result'⟩ := o'
    obtain ⟨worlds, hresult⟩ := made
    obtain rfl : result = result' := hresult
    cases result with
    | error e => exact ⟨worlds, rfl⟩
    | ok id =>
      dsimp only
      rw [← hname]
      cases wiring.add plan.name id with
      | error e => exact ⟨worlds, rfl⟩
      | ok wiring => exact ih wiring worlds

theorem Alike.addTargets {r r' : Registry (Factory Step)} (registries : RegistryAlike r r')
    (targets : Targets) : ∀ {w w' : World} {wiring : Wiring}, w.Alike w' →
      Agree (Wiring.addTargets workshop r wiring w targets)
        (Wiring.addTargets workshop r' wiring w' targets) := by
  induction targets with
  | nil => exact fun alike => ⟨alike, rfl⟩
  | cons head rest ih =>
    obtain ⟨name, target⟩ := head
    intro w w' wiring alike
    unfold Wiring.addTargets
    cases target.type with
    | none => exact ih (alike.note _)
    | some type =>
      have found := find?_alike registries type
      dsimp only
      generalize r.find? type = f at found ⊢
      generalize r'.find? type = f' at found ⊢
      cases found with
      | none => exact ih (alike.note _)
      | @some f f' factories =>
        have made := alike.make factories type target.params
        dsimp only [workshop]
        generalize w.make f type target.params = o at made ⊢
        generalize w'.make f' type target.params = o' at made ⊢
        obtain ⟨u, result⟩ := o
        obtain ⟨u', result'⟩ := o'
        obtain ⟨worlds, hresult⟩ := made
        obtain rfl : result = result' := hresult
        cases result with
        | error e => exact ⟨worlds, rfl⟩
        | ok sink =>
          dsimp only
          cases wiring.add name sink with
          | error e => exact ⟨worlds, rfl⟩
          | ok wiring => exact ih (worlds.note _)

theorem Alike.ofSettings {r r' : Registry (Factory Step)} (alike : w.Alike w')
    (registries : RegistryAlike r r') (settings : LogSettings) :
    Agree (Wiring.ofSettings workshop r w settings)
      (Wiring.ofSettings workshop r' w' settings) := by
  unfold Wiring.ofSettings
  cases settings.targets with
  | none => exact ⟨alike, rfl⟩
  | some targets => exact Alike.addTargets registries targets alike

theorem Alike.ofConfig {r r' : Registry (Factory Step)} (alike : w.Alike w')
    (registries : RegistryAlike r r') (config : AppConfig) :
    Agree (Wiring.ofConfig workshop r w config) (Wiring.ofConfig workshop r' w' config) := by
  unfold Wiring.ofConfig
  cases config.log with
  | none => exact ⟨alike, rfl⟩
  | some settings => exact alike.ofSettings registries settings

theorem asBuild_agree {o o' : World × Except LoggerError Wiring} (h : Agree o o') :
    Agree (asBuild o) (asBuild o') :=
  ⟨h.1, congrArg (·.mapError BuildError.logger) h.2⟩

theorem Alike.wire (alike : w.Alike w') {plan plan' : LoggerPlan Step}
    (plans : plan.Alike Step.Alike plan') : Agree (w.wire plan) (w'.wire plan') := by
  cases plans with
  | direct interval targets sinks registry =>
    rename_i plan plan' types types'
    have added := Alike.addSinks sinks ((interval.map Wiring.start.interval).getD .start) alike
    unfold World.wire
    dsimp only
    generalize w.addSinks _ plan = o at added ⊢
    generalize w'.addSinks _ plan' = o' at added ⊢
    obtain ⟨u, result⟩ := o
    obtain ⟨u', result'⟩ := o'
    obtain ⟨worlds, hresult⟩ := added
    obtain rfl : result = result' := hresult
    cases result with
    | error e => exact ⟨worlds, rfl⟩
    | ok wiring =>
      cases targets with
      | none => exact ⟨worlds, rfl⟩
      | some targets =>
        obtain ⟨registered, registries⟩ := Alike.registerAll registry worlds
        exact asBuild_agree (Alike.addTargets registries targets registered)
  | settings settings registry =>
    obtain ⟨registered, registries⟩ := Alike.registerAll registry alike
    exact asBuild_agree (registered.ofSettings registries settings)
  | app config registry =>
    obtain ⟨registered, registries⟩ := Alike.registerAll registry alike
    exact asBuild_agree (registered.ofConfig registries config)
  | toml text registry =>
    unfold World.wire
    dsimp only
    cases AppConfig.parse text with
    | error e => exact ⟨alike, rfl⟩
    | ok config =>
      obtain ⟨registered, registries⟩ := Alike.registerAll registry alike
      exact asBuild_agree (registered.ofConfig registries config)
  | independent settings => exact asBuild_agree (alike.ofSettings alike.registry settings)

/-! ## Steps -/

theorem Alike.slot_eq (alike : w.Alike w') (i : Nat) : w.slot i = w'.slot i := by
  unfold World.slot
  rw [alike.slots]

theorem Alike.ofLogger_eq (alike : w.Alike w') (loggers : List Logger) (i : Nat)
    (reply : Logger → Reply) : w.ofLogger loggers i reply = w'.ofLogger loggers i reply := by
  unfold World.ofLogger
  rw [alike.slot_eq]

theorem Alike.ask_eq (alike : w.Alike w') {s s' : Step} (steps : s.Alike s') :
    w.ask s = w'.ask s' := by
  cases steps with
  | build => rfl
  | register => rfl
  | same =>
    unfold World.ask World.askLog
    simp only [alike.slot_eq, alike.context]

theorem Alike.slotOf (alike : w.Alike w') (l : LoggerId) : Agree (w.slotOf l) (w'.slotOf l) := by
  unfold World.slotOf
  rw [← alike.slots]
  split
  · exact ⟨alike, rfl⟩
  · exact ⟨{ alike with slots := rfl }, rfl⟩

theorem Alike.release (alike : w.Alike w') (l : LoggerId) : (w.release l).Alike (w'.release l) := by
  unfold World.release
  rw [← alike.slots, ← alike.shared, ← alike.orphans]
  split
  · exact alike
  · exact { alike with slots := rfl, orphans := rfl, shared := rfl }

theorem Alike.build (alike : w.Alike w') (loggers : List Logger) {plan plan' : LoggerPlan Step}
    (plans : plan.Alike Step.Alike plan') :
    Agree (w.build loggers plan) (w'.build loggers plan') := by
  have wired := alike.wire plans
  unfold World.build
  generalize w.wire plan = o at wired ⊢
  generalize w'.wire plan' = o' at wired ⊢
  obtain ⟨u, result⟩ := o
  obtain ⟨u', result'⟩ := o'
  obtain ⟨worlds, hresult⟩ := wired
  obtain rfl : result = result' := hresult
  cases result with
  | error e => exact ⟨worlds, rfl⟩
  | ok wiring =>
    obtain ⟨slotted, hslot⟩ := worlds.slotOf loggers.length
    refine ⟨slotted, ?_⟩
    dsimp only
    rw [hslot]

theorem Alike.drop (alike : w.Alike w') (i : Nat) : Agree (w.drop i) (w'.drop i) := by
  unfold World.drop
  rw [← alike.slot_eq, ← alike.slots]
  cases w.slot i with
  | none => exact ⟨alike, rfl⟩
  | some l =>
    have emptied : World.Alike { w with slots := w.slots.set i none }
        { w' with slots := w.slots.set i none } := { alike with slots := rfl }
    exact ⟨emptied.release l, rfl⟩

theorem Alike.memories_eq (alike : w.Alike w') : w.memories = w'.memories := by
  unfold World.memories
  rw [← List.forall₂_eq_eq_eq]
  refine List.rel_filterMap ?_ alike.sinks
  intro s s' sinks
  cases sinks with
  | scripted => exact .none
  | same =>
    cases s with
    | memory => exact .some rfl
    | _ => exact .none

theorem Alike.makeShared (alike : w.Alike w') (loggers : List Logger) (opened : List Wiring) :
    (World.makeShared loggers (w, opened)).1.1.Alike (World.makeShared loggers (w', opened)).1.1 ∧
      (World.makeShared loggers (w, opened)).1.2 = (World.makeShared loggers (w', opened)).1.2 ∧
      (World.makeShared loggers (w, opened)).2 = (World.makeShared loggers (w', opened)).2 := by
  have read : World.Alike { w with context := w.context.read.1 }
      { w' with context := w.context.read.1 } := { alike with context := rfl }
  have wired := read.ofConfig alike.registry w.context.read.2
  unfold World.makeShared
  dsimp only
  rw [← alike.context]
  generalize Wiring.ofConfig workshop w.registry _ _ = o at wired ⊢
  generalize Wiring.ofConfig workshop w'.registry _ _ = o' at wired ⊢
  obtain ⟨u, result⟩ := o
  obtain ⟨u', result'⟩ := o'
  obtain ⟨worlds, hresult⟩ := wired
  obtain rfl : result = result' := hresult
  cases result with
  | error e => exact ⟨worlds, rfl, rfl⟩
  | ok wiring => exact ⟨worlds.note _, rfl, rfl⟩

theorem Alike.acquire (alike : w.Alike w') (loggers : List Logger) (opened : List Wiring) :
    (World.acquire loggers (w, opened)).1.1.Alike (World.acquire loggers (w', opened)).1.1 ∧
      (World.acquire loggers (w, opened)).1.2 = (World.acquire loggers (w', opened)).1.2 ∧
      (World.acquire loggers (w, opened)).2 = (World.acquire loggers (w', opened)).2 := by
  have made := alike.makeShared loggers opened
  unfold World.acquire Shared.acquire
  dsimp only
  rw [← alike.shared]
  cases w.shared.logger with
  | some l => exact ⟨{ alike with shared := rfl }, rfl, rfl⟩
  | none =>
    dsimp only
    generalize World.makeShared loggers (w, opened) = o at made ⊢
    generalize World.makeShared loggers (w', opened) = o' at made ⊢
    obtain ⟨⟨u, wirings⟩, result⟩ := o
    obtain ⟨⟨u', wirings'⟩, result'⟩ := o'
    obtain ⟨worlds, hopened, hresult⟩ := made
    obtain rfl : result = result' := hresult
    cases result with
    | error e => exact ⟨{ worlds with shared := rfl }, hopened, rfl⟩
    | ok l => exact ⟨{ worlds with shared := rfl }, hopened, rfl⟩

theorem Alike.get (alike : w.Alike w') (loggers : List Logger) :
    Agree (w.get loggers) (w'.get loggers) := by
  have acquired := alike.acquire loggers []
  unfold World.get
  generalize World.acquire loggers (w, []) = o at acquired ⊢
  generalize World.acquire loggers (w', []) = o' at acquired ⊢
  obtain ⟨⟨u, opened⟩, result⟩ := o
  obtain ⟨⟨u', opened'⟩, result'⟩ := o'
  obtain ⟨worlds, hopened, hresult⟩ := acquired
  obtain rfl : opened = opened' := hopened
  obtain rfl : result = result' := hresult
  cases result with
  | error e => exact ⟨worlds, rfl⟩
  | ok l =>
    obtain ⟨slotted, hslot⟩ := worlds.slotOf l
    refine ⟨slotted, ?_⟩
    dsimp only
    rw [hslot, slotted.ofLogger_eq]

theorem Alike.getMany (loggers : List Logger) (n : Nat) :
    ∀ {w w' : World} (opened : List Wiring), w.Alike w' →
      (World.getMany loggers n (w, opened)).1.1.Alike (World.getMany loggers n (w', opened)).1.1 ∧
        (World.getMany loggers n (w, opened)).1.2 = (World.getMany loggers n (w', opened)).1.2 ∧
        (World.getMany loggers n (w, opened)).2 = (World.getMany loggers n (w', opened)).2 := by
  induction n with
  | zero => exact fun _ alike => ⟨alike, rfl, rfl⟩
  | succ n ih =>
    intro w w' opened alike
    have acquired := alike.acquire loggers opened
    unfold World.getMany
    generalize World.acquire loggers (w, opened) = o at acquired ⊢
    generalize World.acquire loggers (w', opened) = o' at acquired ⊢
    obtain ⟨⟨u, wirings⟩, result⟩ := o
    obtain ⟨⟨u', wirings'⟩, result'⟩ := o'
    obtain ⟨worlds, hopened, hresult⟩ := acquired
    obtain rfl : wirings = wirings' := hopened
    obtain rfl : result = result' := hresult
    obtain ⟨worlds', hopened', hresults⟩ := ih wirings worlds
    exact ⟨worlds', hopened', congrArg (result.toOption.toList ++ ·) hresults⟩

theorem Alike.slotAll (ls : List LoggerId) :
    ∀ {w w' : World} (is : List Nat), w.Alike w' →
      let slot (s : World × List Nat) (l : LoggerId) :=
        ((s.1.slotOf l).1, s.2 ++ [(s.1.slotOf l).2])
      Agree (ls.foldl slot (w, is)) (ls.foldl slot (w', is)) := by
  induction ls with
  | nil => exact fun _ alike => ⟨alike, rfl⟩
  | cons l ls ih =>
    intro w w' is alike
    obtain ⟨slotted, hslot⟩ := alike.slotOf l
    dsimp only [List.foldl_cons]
    rw [hslot]
    exact ih _ slotted

theorem Alike.getThreads (alike : w.Alike w') (loggers : List Logger) (n : Nat) :
    Agree (w.getThreads loggers n) (w'.getThreads loggers n) := by
  have acquired := Alike.getMany loggers n [] alike
  unfold World.getThreads
  generalize World.getMany loggers n (w, []) = o at acquired ⊢
  generalize World.getMany loggers n (w', []) = o' at acquired ⊢
  obtain ⟨⟨u, opened⟩, ls⟩ := o
  obtain ⟨⟨u', opened'⟩, ls'⟩ := o'
  obtain ⟨worlds, hopened, hls⟩ := acquired
  obtain rfl : opened = opened' := hopened
  obtain rfl : ls = ls' := hls
  obtain ⟨slotted, hslots⟩ := Alike.slotAll ls [] worlds
  exact ⟨slotted, congrArg (fun is => (opening opened, Reply.slots is)) hslots⟩

theorem Alike.plainly (alike : w.Alike w') {r r' : Reply} (h : r = r') :
    Agree (w.plainly r) (w'.plainly r') :=
  ⟨alike, congrArg ([], ·) h⟩

theorem Alike.replace (alike : w.Alike w') (slot : Option Nat) :
    Agree (w.replace slot) (w'.replace slot) := by
  have hslot : slot.bind w.slot = slot.bind w'.slot := by
    cases slot with
    | none => rfl
    | some i => exact alike.slot_eq i
  have replaced : World.Alike
      { w with shared := { w.shared with logger := slot.bind w.slot } }
      { w' with shared := { w.shared with logger := slot.bind w.slot } } :=
    { alike with shared := rfl }
  unfold World.replace
  rw [← alike.shared, ← hslot]
  cases w.shared.logger with
  | none => exact replaced.plainly rfl
  | some l =>
    obtain ⟨slotted, hi⟩ := replaced.slotOf l
    exact slotted.plainly (congrArg (fun i => Reply.previous (some i)) hi)

theorem Alike.installed (alike : w.Alike w') (config : AppConfig) :
    Agree (World.install.installed w config) (World.install.installed w' config) := by
  unfold World.install.installed
  rw [← alike.context]
  rcases w.context.install config with ⟨context, accepted⟩
  cases accepted with
  | true =>
    have installed : World.Alike { w with context } { w' with context } :=
      { alike with context := rfl }
    exact installed.plainly rfl
  | false => exact alike.plainly rfl

theorem Alike.install (alike : w.Alike w') (source : Source) :
    Agree (w.install source) (w'.install source) := by
  unfold World.install
  cases source with
  | config config => exact alike.installed config
  | toml text =>
    dsimp only
    cases AppConfig.parse text with
    | error e => exact alike.plainly rfl
    | ok config => exact alike.installed config

theorem Alike.register (alike : w.Alike w') (type : String) {f f' : Factory Step}
    (factories : f.Alike Step.Alike f') (loggers : List Logger) :
    Agree (w.perform loggers (.register type f)) (w'.perform loggers (.register type f')) := by
  have registered : World.Alike
      { w.note (.typeRegistered type) with registry := w.registry.register type f }
      { w'.note (.typeRegistered type) with registry := w'.registry.register type f' } :=
    { alike.note (.typeRegistered type) with
      registry := register_alike alike.registry type factories }
  exact registered.plainly (congrArg Reply.replaced (contains_eq alike.registry type))

theorem Alike.remove (alike : w.Alike w') (path : String) (loggers : List Logger) :
    Agree (w.perform loggers (.remove path)) (w'.perform loggers (.remove path)) := by
  unfold World.perform
  dsimp only
  rw [← alike.disk]
  cases w.disk.remove ⟨path⟩ with
  | error e => exact alike.plainly rfl
  | ok disk =>
    have removed : World.Alike { w with disk } { w' with disk } := { alike with disk := rfl }
    exact removed.plainly rfl

/-- Steps that are alike do the same to alike worlds, and come back with the same reply. -/
theorem Alike.perform (alike : w.Alike w') (loggers : List Logger) {s s' : Step}
    (steps : s.Alike s') : Agree (w.perform loggers s) (w'.perform loggers s') := by
  cases steps with
  | build plans => exact alike.build loggers plans
  | register type factories => exact alike.register type factories loggers
  | same =>
    cases s with
    | log | error | warning | info | flush | logMany | spawn | threads => exact alike.plainly rfl
    | trace i | pending i | describe i => exact alike.plainly (alike.ofLogger_eq ..)
    | audit threads n =>
      exact alike.plainly (by rw [alike.memories_eq])
    | setDebug on =>
      have set : World.Alike { w with context := { w.context with debug := on } }
          { w' with context := { w'.context with debug := on } } :=
        { alike with context := congrArg (fun c => { c with debug := on }) alike.context }
      exact set.plainly rfl
    | isDebug => exact alike.plainly (by rw [alike.context])
    | build plan => exact alike.build loggers (.refl plan)
    | drop i => exact alike.drop i
    | memory name => exact alike.plainly (by rw [alike.memories_eq])
    | same => exact alike.plainly (by rw [alike.memories_eq])
    | read path => exact alike.plainly (by rw [alike.disk])
    | tree => exact alike.plainly (by rw [alike.disk])
    | write path content =>
      have written : World.Alike { w with disk := w.disk.addText ⟨path⟩ content.toUTF8 }
          { w' with disk := w'.disk.addText ⟨path⟩ content.toUTF8 } :=
        { alike with disk := by rw [alike.disk] }
      exact written.plainly rfl
    | makeDirectory path =>
      have made : World.Alike { w with disk := (w.disk.makeDirectories ⟨path⟩).1 }
          { w' with disk := (w'.disk.makeDirectories ⟨path⟩).1 } :=
        { alike with disk := by rw [alike.disk] }
      exact made.plainly (by rw [alike.disk])
    | remove path => exact alike.remove path loggers
    | install source => exact alike.install source
    | config =>
      have read : World.Alike { w with context := w.context.read.1 }
          { w' with context := w'.context.read.1 } :=
        { alike with context := by rw [alike.context] }
      exact read.plainly (by rw [alike.context])
    | register type f => exact alike.register type (.same f) loggers
    | types => exact alike.plainly (by rw [types_eq alike.registry])
    | get => exact alike.get loggers
    | getThreads n => exact alike.getThreads loggers n
    | replace slot => exact alike.replace slot

end World

/-- The host of a session does not see how deliveries end. -/
theorem blind_host (clock : Nat → Instant) :
    (host clock).Blind Step.Alike World.Alike :=
  { ask := fun worlds steps => worlds.ask_eq steps
    perform := fun loggers worlds steps => worlds.perform loggers steps
    receive := fun sink batch worlds => worlds.receive sink batch
    answered := fun sink worlds answers => worlds.answered sink answers
    observe := fun worlds happenings => worlds.observe happenings }

end BatchedLog.Session
