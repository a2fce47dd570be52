import BatchedLog.Proofs.CommandLine.Connect
import BatchedLog.Proofs.Config.Accepted
import BatchedLog.Proofs.Session.Targets

/-!
# What a check reports

A check looks at the configuration and the registry of the process once more and does not ask the
logger what became of the targets. That it says the same as the logger rests on both deciding by
whether a type is registered, and on neither the configuration nor the registry having changed while
the logger was made.
-/

namespace BatchedLog

namespace Session

/-- Nothing was written to the console, and no diagnostic tells of a batch. -/
structure World.Undelivered (w : World) : Prop where
  console : w.console = .empty
  diagnostics : ∀ d ∈ w.diagnostics, d.isDelivery = false

namespace World

variable {w : World}

theorem Undelivered.note (h : w.Undelivered) {d : Diagnostic} (hd : d.isDelivery = false) :
    (w.note d).Undelivered where
  console := h.console
  diagnostics d' hd' := by
    rcases Array.mem_push.1 hd' with hold | rfl
    · exact h.diagnostics d' hold
    · exact hd

theorem Undelivered.make (h : w.Undelivered) {type : String} {factory : Factory Step}
    (hfactory : Registry.find? builtins type = some factory) (params : Fields) :
    (w.make factory type params).1.Undelivered := by
  rcases of_find?_builtins hfactory with ⟨rfl, -⟩ | ⟨rfl, -⟩ | ⟨rfl, -⟩
  · change (w.makeConsole params).1.Undelivered
    unfold makeConsole
    split
    · exact h
    · exact ⟨h.console, h.diagnostics⟩
  · change (w.makeFile params).1.Undelivered
    unfold makeFile
    split
    · exact h
    · rename_i path format _
      split
      · exact ⟨h.console, h.diagnostics⟩
      · have noted := h.note (d := .fileOpened path.text format) rfl
        exact ⟨noted.console, noted.diagnostics⟩
  · exact ⟨h.console, h.diagnostics⟩

/-- Making sinks hands them nothing. -/
theorem Undelivered.ofConfig (h : w.Undelivered) (config : AppConfig) :
    (Wiring.ofConfig workshop builtins w config).1.Undelivered :=
  Wiring.keeps_ofConfig (fun hd h => h.note hd) (fun _ _ hfactory h => h.make hfactory _) h

end World

end Session

namespace CommandLine

open Session (State World builtins)

variable {φ : Type} {registry : Registry φ} {name : String} {target : Target}

namespace TargetReport

theorem of_eq_untyped : of registry name target = .untyped name ↔ target.type = none := by
  grind [of]

theorem of_eq_unknown {type : String} : of registry name target = .unknown name type ↔
    target.type = some type ∧ registry.contains type = false := by
  grind [of]

theorem of_eq_wired {type : String} : of registry name target = .wired name type ↔
    target.type = some type ∧ registry.contains type = true := by
  grind [of]

theorem wired?_of : (of registry name target).wired? =
    if target.isKnown registry then some name else none := by
  grind [of, wired?, Target.isKnown, Registry.contains]

/-- The column of names is sixteen characters wide, and longer names stand out of it. -/
theorem padded_eq (name : String) :
    padded name = name ++ String.ofList (List.replicate (16 - name.length) ' ') := by
  rw [padded, String.ofList_append, String.ofList_toList]

theorem line_unknown (name type : String) : line (.unknown name type) =
    padded name ++ " skipped (unknown type `" ++ type ++ "`)" := by
  have hopen : " skipped (unknown type `" = " skipped (unknown type " ++ "`" := rfl
  have hclose : "`)" = "`" ++ ")" := rfl
  rw [line, tick, hopen, hclose]
  simp only [String.append_assoc]

end TargetReport

theorem CheckReport.targets_of {config : AppConfig} {interval i : Nat} {debug : Bool}
    (h : config.targets[i]? = some (name, target)) :
    (of registry config interval debug).targets[i]? = some (.of registry name target) := by
  have hmap : (of registry config interval debug).targets =
      config.targets.map fun named => .of registry named.1 named.2 := rfl
  rw [hmap, List.getElem?_map, h]
  rfl

namespace CheckReport

variable {r : CheckReport}

theorem length_lines : r.lines.length = r.targets.length + 2 := by simp [lines]

theorem lines_getElem? {i : Nat} {told : TargetReport} (h : r.targets[i]? = some told) :
    r.lines[i]? = some told.line := by
  have hmap : (r.targets.map TargetReport.line)[i]? = some told.line := by
    rw [List.getElem?_map, h]
    rfl
  rw [lines, List.getElem?_append_left (List.getElem?_eq_some_iff.1 hmap).1, hmap]

/-- The lines behind those of the targets. -/
theorem drop_lines : r.lines.drop r.targets.length =
    ["flush_interval   " ++ toString r.interval,
      "trace            " ++ if r.debug then "enabled" else "disabled"] := by
  have hinterval : TargetReport.padded "flush_interval" ++ " " = "flush_interval   " := rfl
  have htrace : TargetReport.padded "trace" ++ " " = "trace            " := rfl
  rw [lines, hinterval, htrace, List.drop_left' (List.length_map ..)]

end CheckReport

/-- The targets that are reported as wired are those of registered types. -/
theorem wired_targets (registry : Registry φ) (targets : Targets) :
    (targets.map fun (name, target) => TargetReport.of registry name target).filterMap
        TargetReport.wired? =
      (targets.filter (·.2.isKnown registry)).map (·.1) := by
  induction targets with
  | nil => rfl
  | cons head rest ih =>
    obtain ⟨name, target⟩ := head
    cases hknown : target.isKnown registry with
    | true => simp [TargetReport.wired?_of, hknown, ih]
    | false => simp [TargetReport.wired?_of, hknown, ih]

section

variable {disk : Disk} {config : AppConfig} {w : World} {wiring : Wiring}
  (hwire : Wiring.ofConfig World.workshop builtins (settled disk config) config = (w, .ok wiring))

include hwire

/-- Making the logger changes neither the configuration nor the registry. -/
theorem outline_connected :
    (connected w wiring).host.context = ⟨some config, config.debug⟩ ∧
      (connected w wiring).host.registry = builtins := by
  have houtline := World.outline_ofConfig (settled disk config) builtins config
  rw [hwire] at houtline
  exact ⟨World.context_of_outline houtline, World.registry_of_outline houtline⟩

/-- So the check looks at the configuration that the logger was made from. -/
theorem report_connected :
    report (connected w wiring) 0 = .of (connected w wiring).host.registry config
      (Logger.start wiring.policy wiring.sinks).interval config.debug := by
  unfold report
  rw [(outline_connected hwire).1]
  rfl

theorem undelivered_connected : (connected w wiring).host.Undelivered := by
  have undelivered : (settled disk config).Undelivered := ⟨rfl, by simp [settled, World.start]⟩
  have undelivered' := undelivered.ofConfig config
  rw [hwire] at undelivered'
  exact ⟨undelivered'.console, (undelivered'.note rfl).diagnostics⟩

end

/-- Whatever the arguments, the disk and the configuration with which a check gets as far as its
logger: it prints one line for each declared target, in order, then the interval of the logger and
whether trace messages are let through, and nothing else. The line of a target tells its name and
that it has no type, just if it has none; or that its type is unknown, just if it is not registered;
or else its type, and those whose line is of this kind are the sinks of the logger. No batch is
dispatched: nothing was logged, no diagnostic tells of a delivery, and all files are as they
were. -/
theorem check_reports_logger {disk : Disk} {arguments : List String} {path : Option String}
    {config : AppConfig} {s : State} {id : LoggerId} (clock : Nat → Instant) (input : ByteArray)
    (asked : Request.ofArguments arguments = .ok (.run path .check))
    (accepted : configAt disk path = .ok config)
    (built : connect (Session.start disk) config = (s, .ok id)) :
    let told := report s id
    let column := fun (name : String) =>
      name ++ String.ofList (List.replicate (16 - name.length) ' ')
    ∃ l, s.loggers[id]? = some l ∧
      run clock disk arguments input =
        ⟨0, String.join (told.lines.map (· ++ "\n")), s.host.disk⟩ ∧
      told.lines.length = config.targets.length + 2 ∧
      told.lines.drop config.targets.length = ["flush_interval   " ++ toString l.interval,
        "trace            " ++ if config.debug then "enabled" else "disabled"] ∧
      told.interval = l.interval ∧ told.debug = config.debug ∧
      told.targets.length = config.targets.length ∧
      (∀ (i : Nat) (name : String) (target : Target), config.targets[i]? = some (name, target) →
        (told.targets[i]? = some (.untyped name) ↔ target.type = none) ∧
        (target.type = none → told.lines[i]? = some (column name ++ " skipped (no type)")) ∧
        ∀ type, (told.targets[i]? = some (.unknown name type) ↔
            target.type = some type ∧ s.host.registry.contains type = false) ∧
          (target.type = some type → s.host.registry.contains type = false →
            told.lines[i]? = some (column name ++ " skipped (unknown type `" ++ type ++ "`)")) ∧
          (told.targets[i]? = some (.wired name type) ↔
            target.type = some type ∧ s.host.registry.contains type = true) ∧
          (target.type = some type → s.host.registry.contains type = true →
            told.lines[i]? = some (column name ++ " " ++ type))) ∧
      told.targets.filterMap TargetReport.wired? = l.sinkNames ∧
      (s.dispatched = 0 ∧ l.pendingCount = 0 ∧ s.host.Undelivered ∧
        ∀ file, s.host.disk.content file = disk.content file) := by
  have prepared := prepare_eq asked accepted built
  obtain ⟨w, wiring, hwire, rfl, rfl⟩ := of_connect built
  obtain ⟨supplies, -, -⟩ := Wiring.supplies_of_ofConfig hwire
  obtain ⟨-, hregistry⟩ := outline_connected hwire
  have files := (World.wiredFor_ofConfig hwire).1.extended.disk.content
  intro told column
  have htold : told = .of (connected w wiring).host.registry config
      (Logger.start wiring.policy wiring.sinks).interval config.debug := report_connected hwire
  have hlength : told.targets.length = config.targets.length := by
    rw [htold]
    exact List.length_map ..
  refine ⟨_, rfl, ?_, ?_, ?_, congrArg CheckReport.interval htold, congrArg CheckReport.debug htold,
    hlength, ?_, ?_, rfl, rfl, undelivered_connected hwire, files⟩
  · unfold run
    rw [prepared]
    rfl
  · rw [← hlength]
    exact CheckReport.length_lines
  · rw [← hlength, CheckReport.drop_lines, htold]
    rfl
  · intro i name target hi
    have htarget : told.targets[i]? =
        some (.of (connected w wiring).host.registry name target) := by
      rw [htold, CheckReport.targets_of hi]
    have hline := CheckReport.lines_getElem? htarget
    have hcolumn : TargetReport.padded name = column name := TargetReport.padded_eq name
    simp only [htarget, Option.some.injEq]
    refine ⟨TargetReport.of_eq_untyped, ?_, fun type =>
      ⟨TargetReport.of_eq_unknown, ?_, TargetReport.of_eq_wired, ?_⟩⟩
    · intro htype
      rw [hline, TargetReport.of_eq_untyped.2 htype, TargetReport.line, hcolumn]
    · intro htype hunknown
      rw [hline, TargetReport.of_eq_unknown.2 ⟨htype, hunknown⟩, TargetReport.line_unknown, hcolumn]
    · intro htype hknown
      rw [hline, TargetReport.of_eq_wired.2 ⟨htype, hknown⟩, TargetReport.line, hcolumn]
  · rw [htold, hregistry]
    exact (wired_targets builtins config.targets).trans supplies.names.symm

/-- A disk with a configuration of four targets, two of them of registered types. -/
def checked : Disk :=
  Disk.empty.addText ⟨"c.toml"⟩
    ("debug=true\n[log]\nflush_interval=7\n[log.targets]\nb=\x7btype='file',path='x/b.log'\x7d\n" ++
      "plain=\x7b\x7d\nodd=\x7btype='syslog'\x7d\na=\x7btype='console'\x7d\n").toUTF8

/-- The logger has the two sinks that the check says it has, and nothing was written to the file
that was opened for one of them. -/
theorem check_reports_logger_four_targets :
    (run (fun n => ⟨n⟩) checked ["-c", "c.toml", "check"] .empty).code = 0 ∧
    (run (fun n => ⟨n⟩) checked ["-c", "c.toml", "check"] .empty).stdout =
      "b                file\n" ++ "plain            skipped (no type)\n" ++
        "odd              skipped (unknown type `syslog`)\n" ++ "a                console\n" ++
        "flush_interval   7\n" ++ "trace            enabled\n" ∧
    ∃ s id l, s.loggers[id]? = some l ∧
      (report s id).targets =
        [.wired "b" "file", .untyped "plain", .unknown "odd" "syslog", .wired "a" "console"] ∧
      (report s id).interval = 7 ∧ (report s id).debug = true ∧ l.sinkNames = ["b", "a"] ∧
      s.dispatched = 0 ∧ s.host.disk.content 1 = .empty := by
  have asked :
      Request.ofArguments ["-c", "c.toml", "check"] = .ok (.run (some "c.toml") .check) := by
    decide +kernel
  have evaluated : (configAt checked (some "c.toml")).toOption.any (fun config =>
      let made := connect (Session.start checked) config
      made.2.toOption = some 0 ∧
      report made.1 0 =
        ⟨[.wired "b" "file", .untyped "plain", .unknown "odd" "syslog", .wired "a" "console"],
          7, true⟩ ∧
      checked.content 1 = .empty) = true := by decide +kernel
  obtain ⟨config, hconfig, hall⟩ := (Option.any_eq_true _ _).1 evaluated
  obtain ⟨hlogger, htold, hempty⟩ := of_decide_eq_true hall
  rcases hconnect : connect (Session.start checked) config with ⟨s, result⟩
  rw [hconnect] at hlogger htold
  obtain rfl : result = .ok 0 := toOption_eq_some.1 hlogger
  obtain ⟨l, here, hrun, -, -, -, -, -, -, names, quiet, -, -, files⟩ :=
    check_reports_logger (fun n => ⟨n⟩) .empty asked (toOption_eq_some.1 hconfig) hconnect
  rw [htold] at hrun names
  refine ⟨by rw [hrun], ?_, s, 0, l, here, ?_, ?_, ?_, names.symm, quiet, (files 1).trans hempty⟩
  · rw [hrun]
    dsimp only
    decide +kernel
  all_goals rw [htold]

end CommandLine

end BatchedLog
