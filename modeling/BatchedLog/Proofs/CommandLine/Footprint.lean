import BatchedLog.Proofs.CommandLine.Connect
import BatchedLog.Proofs.Config.Accepted
import BatchedLog.Proofs.Disk.Additions
import BatchedLog.Proofs.Session.Targets

/-!
# What building a logger leaves on the disk

Only file targets touch the disk, and they only add to it, so nothing that was there is harmed
however far the building of a logger gets. A file target whose parameters are at fault is found out
before its file is opened.
-/

namespace BatchedLog

/-- Either no format is asked for, or one that there is. -/
def LineFormat.Asked (params : Fields) : Prop :=
  ∀ format, params.get? "format" = some format → format = .string "text" ∨ format = .string "json"

theorem LineFormat.ofParameters_cases (params : Fields) :
    (∃ format, ofParameters params = .ok format ∧ Asked params) ∨
      ∃ fault, ofParameters params = .error (.invalidParameter "format" fault) ∧
        ¬ Asked params := by
  unfold ofParameters stringParameter Asked
  cases params.get? "format" with
  | none => exact .inl ⟨_, rfl, nofun⟩
  | some j =>
    cases j with
    | string s =>
      dsimp only
      by_cases htext : s = "text"
      · exact .inl ⟨.text, if_pos htext, by simp [htext]⟩
      · rw [if_neg htext]
        by_cases hjson : s = "json"
        · exact .inl ⟨.json, if_pos hjson, by simp [hjson]⟩
        · exact .inr ⟨_, if_neg hjson, by simp [htext, hjson]⟩
    | _ => exact .inr ⟨_, rfl, by simp⟩

namespace FileSink

/-- A path that is there and not blank, and no format that there is not. -/
def Complete (params : Fields) : Prop :=
  (∃ path, params.get? "path" = some (.string path) ∧ Text.isBlank path = false) ∧
    LineFormat.Asked params

/-- Parameters are refused just if they are not complete. -/
theorem settings_cases (params : Fields) :
    (∃ asked, settings params = .ok asked ∧ Complete params) ∨
      ∃ name fault, settings params = .error (.invalidParameter name fault) ∧
        ¬ Complete params := by
  unfold settings stringParameter Complete
  cases params.get? "path" with
  | none => exact .inr ⟨_, _, rfl, by simp⟩
  | some j =>
    cases j with
    | string path =>
      cases hblank : Text.isBlank path with
      | true => exact .inr ⟨"path", .noPath, by simp [Option.filter, hblank], by simp [hblank]⟩
      | false =>
        obtain ⟨format, hformat, asked⟩ | ⟨fault, hfault, asked⟩ :=
          LineFormat.ofParameters_cases params
        · exact .inl ⟨(⟨path⟩, format), by simp [Option.filter, hblank, hformat],
            by simp [hblank, asked]⟩
        · exact .inr ⟨"format", fault, by simp [Option.filter, hblank, hfault], by simp [asked]⟩
    | _ => exact .inr ⟨_, _, rfl, by simp⟩

theorem disk_openAt (d : Disk) (path : Path) (format : LineFormat) :
    (openAt d path format).1 = (d.openAppend path).1 := by
  unfold openAt
  rcases d.openAppend path with ⟨d', e | handle⟩
  · rfl
  · rfl

end FileSink

/-- The paths that file targets ask for. -/
def Targets.asksFor (targets : Targets) (path : Path) : Prop :=
  ∃ named ∈ targets, ∃ format, named.2.file? = some (path, format)

namespace Session.World

variable {w t : World} {targets : Targets}

theorem grownAlong_makeFile {paths : Path → Prop} {params : Fields} (w : World)
    (hpaths : ∀ path format, FileSink.settings params = .ok (path, format) → paths path) :
    w.disk.GrownAlong paths (w.makeFile params).1.disk := by
  unfold makeFile
  split
  · exact .refl _ _
  · rename_i path format hsettings
    have opened : w.disk.GrownAlong paths (FileSink.openAt w.disk path format).1 := by
      rw [FileSink.disk_openAt]
      exact (w.disk.grownAlong_openAppend path).mono fun _ h => h ▸ hpaths path format hsettings
    rcases hopen : FileSink.openAt w.disk path format with ⟨disk, e | sink⟩
    all_goals rw [hopen] at opened
    · exact opened
    · exact opened

/-- A factory that is always there adds to the disk only for the file that a target asks for. -/
theorem grownAlong_make {named : String × Target} {type : String} {factory : Factory Step}
    (w : World) (hmem : named ∈ targets) (htype : named.2.type = some type)
    (hfactory : Registry.find? builtins type = some factory) :
    w.disk.GrownAlong targets.asksFor (w.make factory type named.2.params).1.disk := by
  rcases of_find?_builtins hfactory with ⟨rfl, -⟩ | ⟨rfl, rfl⟩ | ⟨rfl, -⟩
  · change w.disk.GrownAlong _ (w.makeConsole named.2.params).1.disk
    unfold makeConsole
    split
    · exact .refl _ _
    · exact .refl _ _
  · refine w.grownAlong_makeFile fun path format hsettings => ⟨named, hmem, format, ?_⟩
    simp [Target.file?, htype, hsettings, Except.toOption]
  · exact .refl _ _

/-- So wiring targets adds only for those that it gets to. -/
theorem grownAlong_addTargets (targets : Targets) (wiring : Wiring) (w : World) :
    w.disk.GrownAlong (Targets.asksFor (wiring.reached workshop builtins w targets))
      (wiring.addTargets workshop builtins w targets).1.disk := by
  rw [← Wiring.addTargets_reached]
  refine Wiring.keeps_addTargets (I := fun t : World => w.disk.GrownAlong
    (Targets.asksFor (wiring.reached workshop builtins w targets)) t.disk) ?_ ?_ (.refl _ _)
  · exact fun _ grown => grown
  · exact fun hmem htype hfactory grown => grown.trans (grownAlong_make _ hmem htype hfactory)

theorem grownAlong_ofSettings (settings : LogSettings) (w : World) :
    w.disk.GrownAlong
      (Targets.asksFor ((Wiring.start.interval settings.flushInterval).reached workshop builtins w
        (settings.targets.getD [])))
      (Wiring.ofSettings workshop builtins w settings).1.disk := by
  unfold Wiring.ofSettings
  cases settings.targets with
  | none => exact .refl _ _
  | some targets => exact grownAlong_addTargets targets _ w

theorem grownAlong_ofConfig (config : AppConfig) (w : World) :
    w.disk.GrownAlong
      (Targets.asksFor ((Wiring.start.interval config.interval).reached workshop builtins w
        config.targets))
      (Wiring.ofConfig workshop builtins w config).1.disk := by
  unfold Wiring.ofConfig
  cases hlog : config.log with
  | none => exact .refl _ _
  | some settings =>
    have htargets : config.targets = settings.targets.getD [] := by simp [AppConfig.targets, hlog]
    have hinterval : config.interval = settings.flushInterval := by simp [AppConfig.interval, hlog]
    rw [htargets, hinterval]
    exact grownAlong_ofSettings settings w

/-- Parameters that are not complete are refused before anything is opened. -/
theorem makeFile_cases (w : World) (params : Fields) :
    (FileSink.Complete params ∧
      ∀ key fault, (w.makeFile params).2 ≠ .error (.invalidParameter key fault)) ∨
    ¬ FileSink.Complete params ∧
      ∃ key fault, w.makeFile params = (w, .error (.invalidParameter key fault)) := by
  unfold makeFile
  obtain ⟨⟨path, format⟩, hsettings, complete⟩ | ⟨key, fault, hsettings, complete⟩ :=
    FileSink.settings_cases params
  · refine .inl ⟨complete, fun key fault => ?_⟩
    rw [hsettings]
    dsimp only [FileSink.openAt]
    rcases w.disk.openAppend path with ⟨disk, e | handle⟩
    · exact nofun
    · exact nofun
  · exact .inr ⟨complete, key, fault, by rw [hsettings]⟩

/-- A file target is refused for its parameters just if they are not complete, and then nothing has
changed. -/
theorem addTargets_file {target : Target} (htype : target.type = some "file") (w : World)
    (wiring : Wiring) (name : String) :
    ((∃ key fault, (wiring.addTargets workshop builtins w [(name, target)]).2 =
        .error (.sinkConstruction name (.invalidParameter key fault))) ↔
      ¬ FileSink.Complete target.params) ∧
    (¬ FileSink.Complete target.params →
      (wiring.addTargets workshop builtins w [(name, target)]).1 = w) := by
  have hfactory : Registry.find? (builtins : Registry (Factory Step)) "file" = some .file := rfl
  rcases w.makeFile_cases target.params with ⟨complete, hmake⟩ | ⟨complete, key, fault, hmake⟩
  · refine ⟨iff_of_false ?_ (not_not_intro complete), absurd complete⟩
    rintro ⟨key, fault, herror⟩
    obtain ⟨type, factory, htype', hfactory', ⟨source, hrefused, heq⟩ | ⟨_, _, _, heq⟩⟩ :=
      Wiring.addTargets_single_eq_error.1 (Prod.ext rfl herror)
    · cases htype.symm.trans htype'
      cases hfactory.symm.trans hfactory'
      cases heq
      exact hmake key fault (congrArg Prod.snd hrefused)
    · cases heq
  · have hrefused : wiring.addTargets workshop builtins w [(name, target)] =
        (w, .error (.sinkConstruction name (.invalidParameter key fault))) :=
      Wiring.addTargets_single_eq_error.2
        ⟨"file", .file, htype, hfactory, .inl ⟨_, hmake, rfl⟩⟩
    rw [hrefused]
    exact ⟨iff_of_true ⟨key, fault, rfl⟩ complete, fun _ => rfl⟩

end Session.World

open CommandLine
open Session (World builtins)

/-- A check leaves the disk as wiring has left it, whether that comes to a logger or not. -/
theorem CommandLine.disk_check {disk : Disk} {arguments : List String} {path : Option String}
    {config : AppConfig} (clock : Nat → Instant) (input : ByteArray)
    (asked : Request.ofArguments arguments = .ok (.run path .check))
    (accepted : configAt disk path = .ok config) :
    (run clock disk arguments input).disk =
      (Wiring.ofConfig World.workshop builtins (settled disk config) config).1.disk := by
  rw [← disk_connect]
  unfold run prepare
  simp only [asked, accepted]
  rcases connect (Session.start disk) config with ⟨s, e | logger⟩
  · rfl
  · rfl

/-- However far the building of a logger gets, all that was on the disk still is, with what was in
it, and what is new are directories above the paths of file targets and empty files at these paths.
Only targets count for this up to the first that fails: what it leaves behind is what building comes
to, and it leaves nothing behind if it is a file target whose parameters are not complete. A check
does to the disk what building does. -/
theorem building_only_adds :
    (∀ (w : World) (settings : LogSettings),
      let targets := settings.targets.getD []
      let start := Wiring.start.interval settings.flushInterval
      let reached := start.reached World.workshop builtins w targets
      let built := Wiring.ofSettings World.workshop builtins w settings
      w.disk.GrownAlong (Targets.asksFor reached) built.1.disk ∧
      (∀ wiring, built.2 = .ok wiring → reached = targets) ∧
      ∀ e, built.2 = .error e → settings.targets = none ∧ built.1 = w ∨
        ∃ before named after u wiring, targets = before ++ named :: after ∧
          reached = before ++ [named] ∧
          start.addTargets World.workshop builtins w before = (u, .ok wiring) ∧
          wiring.addTargets World.workshop builtins u [named] = (built.1, .error e)) ∧
    (∀ (w : World) (wiring : Wiring) (name : String) (target : Target),
      target.type = some "file" →
      let built := wiring.addTargets World.workshop builtins w [(name, target)]
      ((∃ key fault, built.2 = .error (.sinkConstruction name (.invalidParameter key fault))) ↔
        ¬ FileSink.Complete target.params) ∧
      (¬ FileSink.Complete target.params → built.1 = w)) ∧
    ∀ clock disk arguments path input, Request.ofArguments arguments = .ok (.run path .check) →
      let left := (run clock disk arguments input).disk
      (∀ e, configAt disk path = .error e → left = disk) ∧
      ∀ config, configAt disk path = .ok config →
        disk.GrownAlong (Targets.asksFor ((Wiring.start.interval config.interval).reached
          World.workshop builtins (settled disk config) config.targets)) left := by
  refine ⟨?_, ?_, ?_⟩
  · intro w settings targets start reached built
    refine ⟨World.grownAlong_ofSettings settings w, ?_, ?_⟩
    · intro wiring hbuilt
      exact Wiring.reached_of_ofSettings_ok (Prod.ext rfl hbuilt)
    · intro e hfailed
      exact Wiring.reached_of_ofSettings_error (Prod.ext rfl hfailed)
  · intro w wiring name target htype
    exact World.addTargets_file htype w wiring name
  · intro clock disk arguments path input asked
    refine ⟨?_, ?_⟩
    · intro e refused
      unfold run prepare
      simp only [asked, refused]
      rfl
    · intro config accepted
      rw [disk_check clock input asked accepted]
      exact World.grownAlong_ofConfig config (settled disk config)

/-- A disk with a log file and a configuration of four file targets, the third without a path. -/
def stopping : Disk :=
  (Disk.empty.addText ⟨"kept.log"⟩ "old\n".toUTF8).addText ⟨"c.toml"⟩
    ("[log.targets]\na=\x7btype='file',path='new/a.log'\x7d\n" ++
      "b=\x7btype='file',path='kept.log'\x7d\nbad=\x7btype='file',path=' '\x7d\n" ++
      "later=\x7btype='file',path='later.log'\x7d\n").toUTF8

/-- Building stops at the third target. The file that was there is as it was, a directory and a file
are new, and the fourth target is not gone to. -/
theorem building_only_adds_stopped : ∃ config, configAt stopping (some "c.toml") = .ok config ∧
    ((Wiring.start.interval config.interval).reached World.workshop builtins
      (settled stopping config) config.targets).map (·.1) = ["a", "b", "bad"] ∧
    (∀ named ∈ config.targets, named.1 = "bad" →
      (Wiring.start.addTargets World.workshop builtins (settled stopping config)
        [("bad", named.2)]).1 = settled stopping config) ∧
    let left := (run (fun n => ⟨n⟩) stopping ["-c", "c.toml", "check"] .empty).disk
    left.content 0 = "old\n".toUTF8 ∧
      left.nodes = stopping.nodes ++ [(["tmp", "run", "new"], .directory),
        (["tmp", "run", "new", "a.log"], .file 2)] := by
  have asked :
      Request.ofArguments ["-c", "c.toml", "check"] = .ok (.run (some "c.toml") .check) := by
    decide +kernel
  have evaluated : (configAt stopping (some "c.toml")).toOption.any (fun config =>
      ((Wiring.start.interval config.interval).reached World.workshop builtins
        (settled stopping config) config.targets).map (·.1) = ["a", "b", "bad"] ∧
      (config.targets.all fun named => named.1 != "bad" || named.2.type == some "file" &&
        (FileSink.settings named.2.params).toOption.isNone) ∧
      stopping.content 0 = "old\n".toUTF8 ∧
      (run (fun n => ⟨n⟩) stopping ["-c", "c.toml", "check"] .empty).disk.nodes =
        stopping.nodes ++ [(["tmp", "run", "new"], .directory),
          (["tmp", "run", "new", "a.log"], .file 2)]) = true := by
    decide +kernel
  obtain ⟨config, hconfig, hall⟩ := (Option.any_eq_true _ _).1 evaluated
  obtain ⟨hreached, hbad, hcontent, hnodes⟩ := of_decide_eq_true hall
  have accepted := toOption_eq_some.1 hconfig
  obtain ⟨-, files, checks⟩ := building_only_adds
  obtain ⟨-, adds⟩ := checks (fun n => ⟨n⟩) stopping _ _ .empty asked
  refine ⟨config, accepted, hreached, ?_, ((adds config accepted).grown.content 0).trans hcontent,
    hnodes⟩
  intro named hmem hname
  have hnamed := List.all_eq_true.1 hbad named hmem
  simp only [hname, bne_self_eq_false, Bool.false_or, Bool.and_eq_true, beq_iff_eq] at hnamed
  obtain ⟨-, unchanged⟩ := files (settled stopping config) .start "bad" named.2 hnamed.1
  refine unchanged fun complete => ?_
  rcases FileSink.settings_cases named.2.params with ⟨_, hsettings, -⟩ | ⟨_, _, -, incomplete⟩
  · rw [hsettings] at hnamed
    cases hnamed.2
  · exact incomplete complete

end BatchedLog
