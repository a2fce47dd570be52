import BatchedLog.Proofs.CommandLine.Connect
import BatchedLog.Proofs.Session.Plain

/-!
# What a piped input leaves behind

The lines of an input are logged one by one through a logger with plain sinks, so its batches are
those of the reference, and what is pending after the last line is what is left over once whole
batches are taken away. Only at the end of the input is this flushed: after a line that is not UTF-8
it stays in the buffer.
-/

namespace BatchedLog

variable {α : Type}

/-- What is left of a list once all its whole parts of length `n` are gone. With `n` zero there are
no parts. -/
def leftover (n : Nat) (xs : List α) : List α := xs.drop (n * (xs.length / n))

theorem leftover_of_short {n : Nat} {xs : List α} (h : 0 < n → xs.length < n) :
    leftover n xs = xs := by
  rcases Nat.eq_zero_or_pos n with rfl | hpos
  · simp [leftover]
  · simp [leftover, Nat.div_eq_of_lt (h hpos)]

theorem leftover_append {n : Nat} {xs : List α} (hpos : 0 < n) (h : xs.length = n) (ys : List α) :
    leftover n (xs ++ ys) = leftover n ys := by
  have hparts : n * ((xs ++ ys).length / n) = xs.length + n * (ys.length / n) := by
    rw [List.length_append, h, Nat.add_div_left _ hpos, Nat.mul_succ, Nat.add_comm]
  rw [leftover, hparts, List.drop_append]
  simp [leftover]

theorem leftover_eq_nil {n : Nat} {xs : List α} : leftover n xs = [] ↔ n ∣ xs.length := by
  have hle : n * (xs.length / n) ≤ xs.length := Nat.mul_div_le xs.length n
  rw [leftover, List.drop_eq_nil_iff]
  constructor
  · intro hge
    exact ⟨xs.length / n, Nat.le_antisymm hge hle⟩
  · intro hdvd
    exact Nat.le_of_eq (Nat.mul_div_cancel' hdvd).symm

namespace Chunks

/-- Log calls alone leave open what is left over. -/
theorem segment_log (n : Nat) (xs : List α) : ∀ {c : Chunks α}, (0 < n → c.segment.length < n) →
    ((xs.map Op.log).foldl (step n) c).segment = leftover n (c.segment ++ xs) := by
  induction xs with
  | nil =>
    intro c short
    rw [List.append_nil, leftover_of_short short]
    rfl
  | cons x xs ih =>
    intro c short
    have hsplit : c.segment ++ x :: xs = (c.segment ++ [x]) ++ xs := by simp
    rw [List.map_cons, List.foldl_cons, hsplit]
    by_cases h : 0 < n ∧ n ≤ c.segment.length + 1
    · have hlen : (c.segment ++ [x]).length = n := by
        have hlt := short h.1
        rw [List.length_append, List.length_singleton]
        omega
      rw [step, if_pos h, leftover_append h.1 hlen, ih]
      · rfl
      · exact fun hpos => hpos
    · rw [step, if_neg h, ih]
      · rfl
      · intro hpos
        have hlen : (c.append x).segment.length = c.segment.length + 1 := by simp [append]
        omega

end Chunks

namespace CommandLine

open Session (State carryOut mapState turnPage AtRest)

variable {clock : Nat → Instant} {s : State} {id : LoggerId} {l : Logger}

/-! ## Lines -/

theorem mapState_cons {α β : Type} (f : State → α → State × β) (s : State) (a : α) (as : List α) :
    (mapState f s (a :: as)).1 = (mapState f (f s a).1 as).1 := rfl

/-- The lines of an input, logged one by one, do to the buffer what they do to the reference. -/
theorem chunks_logInput (clock : Nat → Instant) (level : Level) (lines : List String) :
    ∀ {s : State} {l : Logger} (cuts : List (Nat × List Entry)), AtRest s id l →
    ∃ l' cuts',
      AtRest (mapState (fun s line => carryOut clock s (.log id line level)) s lines).1 id l' ∧
      l'.interval = l.interval ∧
      (l'.chunks cuts').map Entry.said =
        ((lines.map fun line => (line, level)).map Op.log).foldl (Chunks.step l.interval)
          ((l.chunks cuts).map Entry.said) := by
  induction lines with
  | nil => exact fun _ rest => ⟨_, _, rest, rfl, rfl⟩
  | cons line lines ih =>
    intro s l cuts rest
    obtain ⟨e, he⟩ : ∃ e, e = Plant.entry (Session.host clock) (turnPage s) line level := ⟨_, rfl⟩
    obtain ⟨l₁, rest₁, -, hbuffer⟩ := rest.turnPage.log clock line level
    rw [← he] at hbuffer
    rw [← rest.carryOut_log clock] at rest₁
    have hinterval : l₁.interval = l.interval := by
      have hpolicy := congrArg (·.policy.interval) hbuffer
      exact hpolicy.trans (Logger.interval_cutDue (l.push e))
    have hstep : l₁.chunks (cuts ++ (l.push e).cutDue.1.toList) =
        (l.chunks cuts).step l.interval (.log e) := by
      rw [← Logger.chunks_push_cutDue, Logger.chunks, hbuffer]
      rfl
    have hsaid : Op.map Entry.said (.log e) = .log (line, level) := by
      rw [he]
      rfl
    obtain ⟨l', cuts', rest', hinterval', hchunks⟩ := ih _ rest₁
    rw [mapState_cons]
    refine ⟨l', cuts', rest', hinterval'.trans hinterval, ?_⟩
    rw [hchunks, hinterval, hstep, Chunks.step_map, hsaid]
    rfl

/-- An input that can be read to its end is flushed after its last line. -/
theorem pipe_of_read {lines : List String} {s₁ s₂ : State} {reports : List Session.Report}
    {r : Session.Report} {level : Level} {input : ByteArray}
    (hread : linesOf input = (lines, true))
    (hlogged : mapState (fun s line => carryOut clock s (.log id line level)) s lines =
      (s₁, reports)) (hflush : carryOut clock s₁ (.flush id) = (s₂, r)) :
    (pipe clock s id level input).1 = s₂ := by
  have hinput : logInput clock s id level input = (s₁, consoleOf reports, true) := by
    unfold logInput
    rw [hread]
    dsimp only
    rw [hlogged]
  have hrest : flush clock s₁ id = (s₂, r.console) := by
    unfold flush
    rw [hflush]
  unfold pipe
  rw [hinput]
  dsimp only
  rw [hrest]

/-- An input that cannot is left where the reading ended. -/
theorem pipe_of_unread {lines : List String} {s₁ : State} {reports : List Session.Report}
    {level : Level} {input : ByteArray} (hread : linesOf input = (lines, false))
    (hlogged : mapState (fun s line => carryOut clock s (.log id line level)) s lines =
      (s₁, reports)) :
    pipe clock s id level input = (s₁, 1, consoleOf reports) := by
  have hinput : logInput clock s id level input = (s₁, consoleOf reports, false) := by
    unfold logInput
    rw [hread]
    dsimp only
    rw [hlogged]
  unfold pipe
  rw [hinput]

theorem code_of_unread {level : Level} {input : ByteArray} (hunread : (linesOf input).2 = false) :
    (pipe clock s id level input).2.1 = 1 := by
  rcases hread : linesOf input with ⟨lines, all⟩
  rcases hlogged : mapState (fun s line => carryOut clock s (.log id line level)) s lines with
    ⟨s₁, reports⟩
  rw [hread] at hunread
  obtain rfl : all = false := hunread
  rw [pipe_of_unread hread hlogged]

/-- What a pipe leaves in a buffer that was empty: nothing at the end of the input, and otherwise
what is left over of the lines that were read. -/
theorem pending_pipe (clock : Nat → Instant) (rest : AtRest s id l)
    (hempty : l.buffer.pending = []) (level : Level) (input : ByteArray) :
    ∃ l', AtRest (pipe clock s id level input).1 id l' ∧
      l'.buffer.pending.map Entry.said =
        if (linesOf input).2 then []
        else leftover l.interval ((linesOf input).1.map fun line => (line, level)) := by
  rcases hread : linesOf input with ⟨lines, all⟩
  rcases hlogged : mapState (fun s line => carryOut clock s (.log id line level)) s lines with
    ⟨s₁, reports⟩
  obtain ⟨l₁, cuts, rest₁, -, hchunks⟩ :=
    chunks_logInput clock level lines [] rest
  rw [hlogged] at rest₁
  cases all with
  | true =>
    rcases hflush : carryOut clock s₁ (.flush id) with ⟨s₂, r⟩
    obtain ⟨l₂, rest₂, -, hbuffer⟩ := rest₁.turnPage.flush
    rw [← rest₁.carryOut_flush clock, hflush] at rest₂
    rw [pipe_of_read hread hlogged hflush]
    have hnone : l₂.buffer.pending = [] := by
      rw [hbuffer]
      exact List.length_eq_zero_iff.1 (Logger.pendingCount_cutAll l₁)
    refine ⟨l₂, rest₂, ?_⟩
    rw [hnone]
    rfl
  | false =>
    rw [pipe_of_unread hread hlogged]
    refine ⟨l₁, rest₁, ?_⟩
    have hsegment := congrArg Chunks.segment hchunks
    rw [Chunks.segment_log] at hsegment
    · simpa [Chunks.map, Logger.chunks, hempty] using hsegment
    · intro hpos
      simpa [Chunks.map, Logger.chunks, hempty] using hpos

/-! ## The program up to its input -/

/-- A process that has just begun opens one logger when it is connected. -/
theorem atRest_of_connect {disk : Disk} {config : AppConfig}
    (h : connect (Session.start disk) config = (s, .ok id)) :
    ∃ policy sinks, AtRest s id (.start policy sinks) := by
  obtain ⟨w, wiring, hwire, rfl, rfl⟩ := of_connect h
  have settled_plain : (settled disk config).Plain :=
    (Session.World.plain_start disk).of_sinks rfl rfl
  have plain := settled_plain.ofConfig Session.isPlain_builtins config
  rw [hwire] at plain
  exact ⟨wiring.policy, wiring.sinks, plain.of_sinks rfl rfl, rfl, rfl, fun hpos => hpos⟩

/-- A program that is ready has its logger at rest, with nothing in it. -/
theorem atRest_of_prepare {disk : Disk} {arguments : List String} {p : Prepared}
    (prepared : prepare disk arguments = .ok p) :
    ∃ l, AtRest p.state p.logger l ∧ l.buffer.pending = [] := by
  unfold prepare at prepared
  split at prepared
  · cases prepared
  · cases prepared
  · cases prepared
  · split at prepared
    · cases prepared
    · split at prepared
      · cases prepared
      · rename_i hconnect
        cases prepared
        obtain ⟨policy, sinks, rest⟩ := atRest_of_connect hconnect
        exact ⟨_, rest, rfl⟩

/-- Whatever the arguments, the configuration and the input: a pipe that comes to the end of its
input leaves nothing pending. One that comes to a line it cannot read ends with exit code 1 and
leaves what is left over of the lines before it once whole batches are gone, which is nothing just
if the interval divides their number. -/
theorem pending_after_pipe {disk : Disk} {arguments : List String} {p : Prepared}
    (clock : Nat → Instant) (level : Level) (input : ByteArray)
    (prepared : prepare disk arguments = .ok p) :
    ∃ l₀ l, p.state.loggers[p.logger]? = some l₀ ∧
      (pipe clock p.state p.logger level input).1.loggers[p.logger]? = some l ∧
      ((linesOf input).2 = true → l.buffer.pending = []) ∧
      ((linesOf input).2 = false →
        (pipe clock p.state p.logger level input).2.1 = 1 ∧
        l.buffer.pending.map Entry.said =
          leftover l₀.interval ((linesOf input).1.map fun line => (line, level)) ∧
        (l.buffer.pending = [] ↔ l₀.interval ∣ (linesOf input).1.length)) := by
  obtain ⟨l₀, rest₀, hempty⟩ := atRest_of_prepare prepared
  obtain ⟨l, rest, hpending⟩ := pending_pipe clock rest₀ hempty level input
  refine ⟨l₀, l, rest₀.here, rest.here, ?_, ?_⟩
  · intro hread
    rw [if_pos hread] at hpending
    exact List.map_eq_nil_iff.1 hpending
  · intro hunread
    rw [hunread, if_neg Bool.false_ne_true] at hpending
    refine ⟨code_of_unread hunread, hpending, ?_⟩
    rw [← List.map_eq_nil_iff (f := Entry.said), hpending, leftover_eq_nil, List.length_map]

/-- A disk with a configuration of one file target and interval 2. -/
def configured : Disk :=
  Disk.empty.addText ⟨"config.toml"⟩
    "[log]\nflush_interval=2\n[log.targets.a]\ntype='file'\npath='x.log'\n".toUTF8

theorem exists_prepared : ∃ p l, prepare configured ["-c", "config.toml", "pipe"] = .ok p ∧
    p.command = .pipe .info ∧ p.state.loggers[p.logger]? = some l ∧ l.interval = 2 := by
  have evaluated : (prepare configured ["-c", "config.toml", "pipe"]).toOption.bind
      (fun p => (p.state.loggers[p.logger]?).map fun l => (p.command, l.interval)) =
      some (.pipe .info, 2) := by decide +kernel
  obtain ⟨p, hp, hl⟩ := Option.bind_eq_some_iff.1 evaluated
  obtain ⟨l, hl, heq⟩ := Option.map_eq_some_iff.1 hl
  obtain ⟨hcommand, hinterval⟩ := Prod.mk.inj heq
  refine ⟨p, l, ?_, hcommand, hl, hinterval⟩
  cases hprepare : prepare configured ["-c", "config.toml", "pipe"] with
  | error e =>
    rw [hprepare] at hp
    cases hp
  | ok q =>
    rw [hprepare] at hp
    cases hp
    rfl

/-- Three lines in batches of two, and then one that is not UTF-8: the third is left. -/
theorem pending_after_pipe_three_lines : ∃ p l,
    prepare configured ["-c", "config.toml", "pipe"] = .ok p ∧
    (pipe (fun n => ⟨n⟩) p.state p.logger .info
      ⟨#[97, 10, 98, 10, 99, 10, 255]⟩).1.loggers[p.logger]? = some l ∧
    l.buffer.pending.map Entry.said = [("c", .info)] := by
  obtain ⟨p, l₁, prepared, -, here, hinterval⟩ := exists_prepared
  have hlines : linesOf ⟨#[97, 10, 98, 10, 99, 10, 255]⟩ = (["a", "b", "c"], false) := by
    decide +kernel
  obtain ⟨l₀, l, here₀, hl, -, hunread⟩ := pending_after_pipe (fun n => ⟨n⟩) .info
    ⟨#[97, 10, 98, 10, 99, 10, 255]⟩ prepared
  rw [hlines] at hunread
  obtain ⟨-, hpending, -⟩ := hunread rfl
  rw [here] at here₀
  cases here₀
  rw [hinterval] at hpending
  exact ⟨p, l, prepared, hl, hpending⟩

/-- One line, and then one that is not UTF-8: the first was read and logged, but it is still pending
when the program ends, and its file is empty. -/
theorem pipe_keeps_line_back :
    linesOf ⟨#[97, 10, 255, 10]⟩ = (["a"], false) ∧
    (∃ p l, prepare configured ["-c", "config.toml", "pipe"] = .ok p ∧ p.command = .pipe .info ∧
      (pipe (fun n => ⟨n⟩) p.state p.logger .info ⟨#[97, 10, 255, 10]⟩).1.loggers[p.logger]? =
        some l ∧ l.buffer.pending.map Entry.said = [("a", .info)]) ∧
    ((run (fun n => ⟨n⟩) configured ["-c", "config.toml", "pipe"]
      ⟨#[97, 10, 255, 10]⟩).disk.readText ⟨"x.log"⟩).toOption = some "" := by
  have hlines : linesOf ⟨#[97, 10, 255, 10]⟩ = (["a"], false) := by decide +kernel
  refine ⟨hlines, ?_, by decide +kernel⟩
  obtain ⟨p, l₁, prepared, hcommand, here, hinterval⟩ := exists_prepared
  obtain ⟨l₀, rest₀, hempty⟩ := atRest_of_prepare prepared
  obtain ⟨l, rest, hpending⟩ := pending_pipe (fun n => ⟨n⟩) rest₀ hempty .info
    ⟨#[97, 10, 255, 10]⟩
  have here₀ := rest₀.here
  rw [here] at here₀
  cases here₀
  rw [hlines, hinterval] at hpending
  exact ⟨p, l, prepared, hcommand, rest.here, hpending⟩

end CommandLine

end BatchedLog
