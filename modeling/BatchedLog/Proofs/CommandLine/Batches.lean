import BatchedLog.Proofs.CommandLine.Lines
import BatchedLog.Proofs.CommandLine.Pipe
import BatchedLog.Proofs.Config.Accepted
import BatchedLog.Proofs.Session.Series
import BatchedLog.Proofs.Session.Targets

/-!
# What a pipe delivers

The lines of an input go to all sinks in groups of the flush interval, the shorter rest last. No
failure of a sink changes the exit code or what the others are handed, and a file with one writer
grows by one rendered line for each line of the input.
-/

namespace BatchedLog

variable {α : Type}

/-! ## Groups -/

/-- A list in groups of `n`, the shorter rest last. With `n` zero all of it is one group. -/
def groups (n : Nat) : List α → List (List α)
  | [] => []
  | x :: xs =>
    if n = 0 then [x :: xs]
    else (x :: xs).take n :: groups n ((x :: xs).drop n)
termination_by xs => xs.length
decreasing_by
  rw [List.length_drop, List.length_cons]
  omega

theorem groups_nil (n : Nat) : groups n ([] : List α) = [] := by
  rw [groups]

theorem groups_of_le {n : Nat} {xs : List α} (hne : xs ≠ []) (h : 0 < n → xs.length ≤ n) :
    groups n xs = [xs] := by
  cases xs with
  | nil => exact absurd rfl hne
  | cons x xs =>
    rw [groups]
    split
    · rfl
    · rename_i hn
      have hle := h (Nat.pos_of_ne_zero hn)
      rw [List.take_of_length_le hle, List.drop_eq_nil_of_le hle, groups_nil]

theorem groups_append {n : Nat} {xs : List α} (hpos : 0 < n) (h : xs.length = n) (ys : List α) :
    groups n (xs ++ ys) = xs :: groups n ys := by
  cases xs with
  | nil =>
    rw [List.length_nil] at h
    omega
  | cons x xs =>
    rw [List.cons_append, groups, if_neg (Nat.ne_of_gt hpos), ← List.cons_append,
      List.take_left' h, List.drop_left' h]

theorem flatten_groups (n : Nat) (xs : List α) : (groups n xs).flatten = xs := by
  induction xs using groups.induct n with
  | case1 => rw [groups_nil, List.flatten_nil]
  | case2 x xs hn => rw [groups, if_pos hn, List.flatten_singleton]
  | case3 x xs hn ih => rw [groups, if_neg hn, List.flatten_cons, ih, List.take_append_drop]

/-- Log calls and a flush call at the end cut groups. -/
theorem Chunks.closed_log_flush (n : Nat) (xs : List α) :
    ∀ {c : Chunks α}, (0 < n → c.segment.length < n) →
    ((xs.map Op.log ++ [Op.flush]).foldl (step n) c).closed =
      c.closed ++ groups n (c.segment ++ xs) := by
  induction xs with
  | nil =>
    intro c short
    rw [List.append_nil]
    by_cases hempty : c.segment = []
    · simp [step, hempty, groups_nil]
    · rw [groups_of_le hempty fun hpos => Nat.le_of_lt (short hpos)]
      simp [step, hempty, close]
  | cons x xs ih =>
    intro c short
    have hsplit : c.segment ++ x :: xs = (c.segment ++ [x]) ++ xs := by simp
    rw [List.map_cons, List.cons_append, List.foldl_cons, hsplit]
    by_cases h : 0 < n ∧ n ≤ c.segment.length + 1
    · have hlen : (c.segment ++ [x]).length = n := by
        have hlt := short h.1
        rw [List.length_append, List.length_singleton]
        omega
      rw [step, if_pos h, groups_append h.1 hlen, ih]
      · simp [close, append]
      · exact fun hpos => hpos
    · rw [step, if_neg h, ih]
      · rfl
      · intro hpos
        have hlen : (c.append x).segment.length = c.segment.length + 1 := by simp [append]
        omega

namespace CommandLine

open Session (State carryOut carryOutAll newsOfAll frameOf mapState AtRest Came Distinct)

variable {clock : Nat → Instant} {s : State} {id : LoggerId}

/-! ## The calls of a pipe -/

/-- The calls that a pipe makes on its logger: each line is logged, and what is pending at the end
of the input is flushed. -/
def callsOf (level : Level) (input : ByteArray) : List (Op (String × Level)) :=
  let (lines, all) := linesOf input
  (lines.map fun line => (line, level)).map Op.log ++ if all then [.flush] else []

theorem mapState_eq_foldl {β γ : Type} (f : State → β → State × γ) (s : State) (bs : List β) :
    (mapState f s bs).1 = bs.foldl (fun s b => (f s b).1) s := by
  induction bs generalizing s with
  | nil => rfl
  | cons b bs ih => exact ih _

theorem mapState_log (clock : Nat → Instant) (id : LoggerId) (level : Level) (lines : List String)
    (s : State) :
    (mapState (fun s line => carryOut clock s (.log id line level)) s lines).1 =
      carryOutAll clock id s ((lines.map fun line => (line, level)).map Op.log) := by
  rw [mapState_eq_foldl, carryOutAll, List.foldl_map, List.foldl_map]
  simp only [frameOf]

/-- A pipe leaves behind what its calls do. -/
theorem pipe_eq_carryOutAll (clock : Nat → Instant) (s : State) (id : LoggerId) (level : Level)
    (input : ByteArray) :
    (pipe clock s id level input).1 = carryOutAll clock id s (callsOf level input) := by
  rcases hread : linesOf input with ⟨lines, all⟩
  rcases hlogged : mapState (fun s line => carryOut clock s (.log id line level)) s lines with
    ⟨s₁, reports⟩
  have hlines : s₁ = carryOutAll clock id s ((lines.map fun line => (line, level)).map Op.log) := by
    rw [← mapState_log, hlogged]
  unfold callsOf
  rw [hread]
  dsimp only
  cases all with
  | false =>
    rw [pipe_of_unread hread hlogged, if_neg Bool.false_ne_true, List.append_nil]
    exact hlines
  | true =>
    rcases hflush : carryOut clock s₁ (.flush id) with ⟨s₂, r⟩
    rw [pipe_of_read hread hlogged hflush, if_pos rfl, carryOutAll, List.foldl_append,
      List.foldl_cons, List.foldl_nil, ← carryOutAll, ← hlines, frameOf, hflush]

theorem code_of_read (clock : Nat → Instant) (s : State) (id : LoggerId) (level : Level)
    {input : ByteArray} (hread : (linesOf input).2 = true) :
    (pipe clock s id level input).2.1 = 0 := by
  rcases hlines : linesOf input with ⟨lines, all⟩
  rw [hlines] at hread
  obtain rfl : all = true := hread
  unfold pipe logInput
  rw [hlines]

/-! ## The program up to its input -/

/-- The logger of the program is wired from the configuration. -/
theorem wiredFor_connect {disk : Disk} {config : AppConfig}
    (h : connect (Session.start disk) config = (s, .ok id)) :
    ∃ (w w' : Session.World) (wired : List Wired), w.sinks = [] ∧ w.disk = disk ∧
      w.WiredFor w' config.targets wired ∧ (wired.map (·.name)).Nodup ∧
      s.host.sinks = w'.sinks ∧ s.host.disk = w'.disk ∧
      s.loggers[id]? = some (.start ⟨config.interval⟩ wired) := by
  obtain ⟨w', wiring, hwire, rfl, rfl⟩ := of_connect h
  obtain ⟨wired, hpolicy, names⟩ := Session.World.wiredFor_ofConfig hwire
  refine ⟨settled disk config, w', wiring.sinks, rfl, rfl, wired, names, rfl, rfl, ?_⟩
  rw [← hpolicy]
  rfl

/-! ## From the input to the sinks -/

/-- An input of text is logged and flushed whole: the lines in groups of the interval. -/
theorem came_of_pipe {l : Logger} (rest : AtRest s id l) (hempty : l.buffer.pending = [])
    (clock : Nat → Instant) (level : Level) (text : String) :
    ∃ l' batches, Came id s (pipe clock s id level text.toUTF8).1 l l'
        (newsOfAll clock id s (callsOf level text.toUTF8)) batches ∧
      batches.map (fun batch => batch.2.map Entry.said) =
        groups l.interval
          ((textLines text.toList).map fun line => (String.ofList line, level)) := by
  obtain ⟨l', batches, came, hchunks⟩ :=
    rest.carryOutAll clock (callsOf level text.toUTF8)
  rw [← pipe_eq_carryOutAll] at came
  refine ⟨l', batches, came, ?_⟩
  have hcalls : callsOf level text.toUTF8 =
      (((textLines text.toList).map fun line => (String.ofList line, level)).map Op.log) ++
        [Op.flush] := by
    unfold callsOf
    rw [linesOf_toUTF8]
    dsimp only
    rw [if_pos rfl, List.map_map, List.map_map, List.map_map]
    rfl
  have hstart : (l.chunks []).map Entry.said = Chunks.empty := by
    simp [Chunks.map, Logger.chunks, hempty, Chunks.empty]
  have hclosed := congrArg Chunks.closed (hchunks [])
  rw [hstart, hcalls, Chunks.closed_log_flush _ _ fun hpos => hpos, Chunks.map, Logger.chunks,
    List.nil_append, List.map_map] at hclosed
  exact hclosed

/-- Whatever the arguments, the disk and the configuration with which a pipe gets as far as its
input, and whatever text that is: the exit code is 0, and each sink, one for each target of a known
type, is handed the same batches, which are the lines of the text at the level asked for, in groups
of the flush interval. Where the path of one target only leads to a file, this ends with what it had
and the rendering of these entries, each a line of its own, unless the sink has failed, which it
does not where all writes go through. What other sinks do makes no difference to any of this. -/
theorem pipe_end_to_end {disk : Disk} {arguments : List String} {source : Option String}
    {level : Level} {config : AppConfig} (clock : Nat → Instant) (text : String)
    (sound : disk.Sound)
    (asked : Request.ofArguments arguments = .ok (.run source (.pipe level)))
    (accepted : configAt disk source = .ok config)
    (built : connect (Session.start disk) config = (s, .ok id)) :
    let said := (textLines text.toList).map fun line => (String.ofList line, level)
    let news := newsOfAll clock id s (callsOf level text.toUTF8)
    let outcome := run clock disk arguments text.toUTF8
    ∃ l batches, s.loggers[id]? = some l ∧
      l.sinks.map (·.name) = (config.targets.filter (·.2.isBuiltin)).map (·.1) ∧
      outcome.code = 0 ∧
      batches.map (fun batch => batch.2.map Entry.said) = groups config.interval said ∧
      (∀ x ∈ l.sinks, handedTo id x news = batches) ∧
      ∀ name target path format place file, (name, target) ∈ config.targets →
        target.file? = some (path, format) → s.host.disk.resolve path = .ok (place, .file file) →
        (∀ other ∈ config.targets, ∀ path format place, other.2.file? = some (path, format) →
          s.host.disk.resolve path = .ok (place, .file file) → other.1 = name) →
        disk.faults = [] ∨ (∀ f ∈ failuresOf id news, f.sink ≠ name) →
        ∃ entries, entries = batches.flatMap (·.2) ∧ entries.map Entry.said = said ∧
          outcome.disk.resolve path = .ok (place, .file file) ∧
          outcome.disk.content file = disk.content file ++ (format.render entries).toUTF8 ∧
          Text.split '\n' (format.render entries).toList =
            entries.map (fun e => (format.body e).toList) ++ [[]] := by
  obtain ⟨w, w', wired, hnone, hdisk, wiredFor, names, hsinks', hdisk', here⟩ :=
    wiredFor_connect built
  obtain ⟨policy, sinks, rest⟩ := atRest_of_connect built
  obtain ⟨rfl, rfl⟩ : policy = ⟨config.interval⟩ ∧ sinks = wired := by
    have heq := Option.some.inj (rest.here.symm.trans here)
    exact ⟨congrArg (·.buffer.policy) heq, congrArg Logger.sinks heq⟩
  obtain ⟨l', batches, came, hbatches⟩ := came_of_pipe rest rfl clock level text
  have hread : (linesOf text.toUTF8).2 = true := by rw [linesOf_toUTF8]
  have hcode := code_of_read clock s id level hread
  have distinct := Session.World.distinct_of_wiredFor wiredFor names
  have hrun : run clock disk arguments text.toUTF8 =
      ⟨(pipe clock s id level text.toUTF8).2.1, (pipe clock s id level text.toUTF8).2.2.stdout,
        (pipe clock s id level text.toUTF8).1.host.disk⟩ := by
    unfold run
    rw [prepare_eq asked accepted built]
    rfl
  intro said news outcome
  refine ⟨_, batches, here, ?_, ?_, hbatches, ?_, ?_⟩
  · exact wiredFor.names
  · change (run clock disk arguments text.toUTF8).code = 0
    rw [hrun]
    exact hcode
  · intro x hx
    have once : sinks.Nodup := names.of_map _
    rw [handedTo, came.deeds, batchTo_rounds hx once]
  · intro name target path format place file hmem hfile hplace alone took
    have hsound : w'.disk.Sound := wiredFor.extended.sound (hdisk ▸ sound)
    rw [hdisk'] at hplace alone
    obtain ⟨x, hx, rfl, owns⟩ := Session.World.owns_of_wiredFor hnone wiredFor names hsound hmem
      hfile hplace alone
    have owns' : s.host.Owns x.sink format file := owns.of_eq hsinks' hdisk'
    have grown : disk.Grown s.host.disk := by
      rw [hdisk', ← hdisk]
      exact wiredFor.extended.disk
    have hnot : ∀ f ∈ failuresOf id news, f.sink ≠ x.name := by
      rcases took with hfaults | took
      · exact came.takes distinct hx owns' (grown.faults.trans hfaults)
      · exact took
    obtain ⟨-, hcontent⟩ := came.written distinct hx owns' hnot
    have hsaid : (batches.flatMap (·.2)).map Entry.said = said := by
      rw [List.map_flatMap, List.flatMap_def, hbatches, flatten_groups]
    refine ⟨_, rfl, hsaid, ?_, ?_, ?_⟩
    · change (run clock disk arguments text.toUTF8).disk.resolve path = _
      rw [hrun]
      dsimp only
      rw [Disk.resolve_eq_of_nodes came.steady.nodes came.steady.workingDirectory, hdisk', hplace]
    · change (run clock disk arguments text.toUTF8).disk.content file = _
      rw [hrun, ← grown.content]
      exact hcontent
    · refine format.split_render fun e he => format.not_mem_body fun _ => ?_
      have hmem : Entry.said e ∈ said := hsaid ▸ List.mem_map_of_mem he
      obtain ⟨line, hline, heq⟩ := List.mem_map.1 hmem
      have hmessage : e.message = String.ofList line := (congrArg Prod.fst heq).symm
      rw [hmessage, String.toList_ofList]
      exact not_mem_textLines hline

/-- What the configuration of that disk comes to. -/
theorem exists_configured : ∃ config target s id place,
    configAt configured (some "config.toml") = .ok config ∧ config.interval = 2 ∧
      config.targets = [("a", target)] ∧ target.file? = some (⟨"x.log"⟩, .text) ∧
      connect (Session.start configured) config = (s, .ok id) ∧
      s.host.disk.resolve ⟨"x.log"⟩ = .ok (place, .file 1) := by
  have evaluated : (configAt configured (some "config.toml")).toOption.any (fun config =>
      config.interval = 2 ∧
      (config.targets.map fun named => (named.1, named.2.file?)) =
        [("a", some (⟨"x.log"⟩, .text))] ∧
      (connect (Session.start configured) config).2.toOption = some 0 ∧
      ((connect (Session.start configured) config).1.host.disk.resolve ⟨"x.log"⟩).toOption =
        some (["tmp", "run", "x.log"], .file 1)) = true := by decide +kernel
  obtain ⟨config, hconfig, hall⟩ := (Option.any_eq_true _ _).1 evaluated
  obtain ⟨hinterval, htargets, hlogger, hplace⟩ := of_decide_eq_true hall
  rcases hconnect : connect (Session.start configured) config with ⟨s, result⟩
  rw [hconnect] at hlogger hplace
  obtain ⟨⟨name, target⟩, rest, hsplit, hhead, hrest⟩ := List.map_eq_cons_iff.1 htargets
  obtain ⟨rfl, hfile⟩ := Prod.mk.inj hhead
  rw [List.map_eq_nil_iff.1 hrest] at hsplit
  refine ⟨config, target, s, 0, _, toOption_eq_some.1 hconfig, hinterval, hsplit, hfile, ?_,
    toOption_eq_some.1 hplace⟩
  obtain rfl : result = .ok 0 := toOption_eq_some.1 hlogger
  exact hconnect

/-- Three lines, one ended by a carriage return too and one not ended, in groups of two. -/
theorem pipe_end_to_end_three_lines :
    (run (fun n => ⟨n⟩) configured ["-c", "config.toml", "pipe"] "a\r\nb\nc".toUTF8).code = 0 ∧
    ∃ s id l batches, s.loggers[id]? = some l ∧ l.sinks.map (·.name) = ["a"] ∧
      batches.map (fun batch => batch.2.map Entry.said) =
        [[("a", .info), ("b", .info)], [("c", .info)]] ∧
      (∀ x ∈ l.sinks, handedTo id x (newsOfAll (fun n => ⟨n⟩) id s
        (callsOf .info "a\r\nb\nc".toUTF8)) = batches) ∧
      (run (fun n => ⟨n⟩) configured ["-c", "config.toml", "pipe"]
        "a\r\nb\nc".toUTF8).disk.content 1 =
          (LineFormat.text.render (batches.flatMap (·.2))).toUTF8 := by
  obtain ⟨config, target, s, id, place, accepted, hinterval, htargets, hfile, built, hplace⟩ :=
    exists_configured
  have sound : configured.Sound := (Disk.sound_bare _).addText _ _
  have asked : Request.ofArguments ["-c", "config.toml", "pipe"] =
      .ok (.run (some "config.toml") (.pipe .info)) := by decide +kernel
  have hlines : (textLines "a\r\nb\nc".toList).map (fun line => (String.ofList line, Level.info)) =
      [("a", .info), ("b", .info), ("c", .info)] := by decide +kernel
  have hfaults : configured.faults = [] := by decide +kernel
  have hcontent : configured.content 1 = .empty := by decide +kernel
  obtain ⟨l, batches, here, names, code, hbatches, handed, files⟩ :=
    pipe_end_to_end (fun n => ⟨n⟩) "a\r\nb\nc" sound asked accepted built
  have hbuiltin : target.isBuiltin = true := Session.World.isBuiltin_of_file? hfile
  rw [htargets] at names files
  rw [hlines, hinterval] at hbatches
  obtain ⟨entries, rfl, -, -, htail, -⟩ := files "a" target ⟨"x.log"⟩ .text place 1
    List.mem_cons_self hfile hplace (fun other hother _ _ _ _ _ => by
      rw [List.mem_singleton.1 hother]) (.inl hfaults)
  rw [hcontent, ByteArray.empty_append] at htail
  refine ⟨code, s, id, l, batches, here, ?_, ?_, handed, htail⟩
  · simpa [hbuiltin] using names
  · rw [hbatches]
    simp [groups]

end CommandLine

end BatchedLog
