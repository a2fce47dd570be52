import BatchedLog.Proofs.Session.Endings
import BatchedLog.Proofs.Session.Files
import BatchedLog.Proofs.Sink.Lines

/-!
# A series of calls

Log and flush calls on a logger with plain sinks, one after the other, cut the batches of the
reference. Each batch has its round before the next call, so all sinks are handed the same; and a
file with one writer grows by the batches that this sink took.
-/

namespace BatchedLog.Session

def frameOf (id : LoggerId) : Op (String × Level) → Frame Step
  | .log (message, level) => .log id message level
  | .flush => .flush id

/-- Calls on a logger, one after the other. -/
def carryOutAll (clock : Nat → Instant) (id : LoggerId) (s : State)
    (ops : List (Op (String × Level))) : State :=
  ops.foldl (fun s op => (carryOut clock s (frameOf id op)).1) s

/-- What happens while they are carried out. -/
def newsOfAll (clock : Nat → Instant) (id : LoggerId) :
    State → List (Op (String × Level)) → List Happening
  | _, [] => []
  | s, op :: ops =>
    news clock (turnPage s) (frameOf id op) ++
      newsOfAll clock id (carryOut clock s (frameOf id op)).1 ops

/-- What calls on a logger have come to. The logger is at rest again, and each batch that was cut
has had its round. A file that one of its sinks has for itself has grown by all of them, unless this
sink has failed; and where writes go through it has not. -/
structure Came (id : LoggerId) (s s' : State) (l l' : Logger) (now : List Happening)
    (batches : List (Nat × List Entry)) : Prop where
  rest : AtRest s' id l'
  sinks : l'.sinks = l.sinks
  interval : l'.interval = l.interval
  cuts : cutsOf id now = batches
  deeds : deedsOf id now = batches.flatMap (round l.sinks)
  steady : s.host.Steady s'.host
  written : ∀ {x format file}, Distinct l.sinks → x ∈ l.sinks → s.host.Owns x.sink format file →
    (∀ f ∈ failuresOf id now, f.sink ≠ x.name) →
    s'.host.Owns x.sink format file ∧
      s'.host.disk.content file =
        s.host.disk.content file ++ (format.render (batches.flatMap (·.2))).toUTF8
  takes : ∀ {x format file}, Distinct l.sinks → x ∈ l.sinks → s.host.Owns x.sink format file →
    s.host.disk.faults = [] → ∀ f ∈ failuresOf id now, f.sink ≠ x.name

variable {clock : Nat → Instant} {s s' s'' : State} {id : LoggerId} {l l' l'' : Logger}

theorem Came.refl (rest : AtRest s id l) : Came id s s l l [] [] where
  rest := rest
  sinks := rfl
  interval := rfl
  cuts := rfl
  deeds := rfl
  steady := .of_eq rfl
  written _ _ owns _ := ⟨owns, ByteArray.append_empty.symm⟩
  takes _ _ _ _ := nofun

theorem Came.trans {now later : List Happening} {cuts cuts' : List (Nat × List Entry)}
    (first : Came id s s' l l' now cuts) (second : Came id s' s'' l' l'' later cuts') :
    Came id s s'' l l'' (now ++ later) (cuts ++ cuts') where
  rest := second.rest
  sinks := second.sinks.trans first.sinks
  interval := second.interval.trans first.interval
  cuts := by rw [cutsOf_append, first.cuts, second.cuts]
  deeds := by rw [deedsOf_append, first.deeds, second.deeds, first.sinks, List.flatMap_append]
  steady := first.steady.trans second.steady
  written := by
    intro x format file distinct hx owns took
    rw [failuresOf_append] at took
    obtain ⟨owns', hcontent⟩ :=
      first.written distinct hx owns fun f hf => took f (List.mem_append_left _ hf)
    rw [← first.sinks] at distinct hx
    obtain ⟨owns'', hmore⟩ :=
      second.written distinct hx owns' fun f hf => took f (List.mem_append_right _ hf)
    refine ⟨owns'', ?_⟩
    rw [hmore, hcontent, List.flatMap_append, LineFormat.render_append, ByteArray.append_assoc]
    simp only [String.toUTF8_eq_toByteArray, String.toByteArray_append]
  takes := by
    intro x format file distinct hx owns hd f hf
    have before := first.takes distinct hx owns hd
    obtain ⟨owns', -⟩ := first.written distinct hx owns before
    rw [failuresOf_append] at hf
    rw [← first.sinks] at distinct hx
    rcases List.mem_append.1 hf with hf | hf
    · exact before f hf
    · exact second.takes distinct hx owns' (first.steady.faults hd) f hf

/-- A call of which this is seen, and after which the world is as the sinks have left it. -/
theorem came_of_shows {begun : State} {now : List Happening}
    {cut : Option (Nat × List Entry) × Logger} (rest : AtRest s' id l')
    (hsinks : l'.sinks = l.sinks) (hinterval : l'.interval = l.interval)
    (hcut : cut.2.sinks = l.sinks)
    (shows : Shows id now cut.1.toList (cut.1.toList.flatMap (round l.sinks))
      (State.fanOut begun id cut).2)
    (hhost : s'.host = (State.fanOut begun id cut).1)
    (hworld : begun.host.sinks = s.host.sinks) (hdisk : begun.host.disk = s.host.disk) :
    Came id s s' l l' now cut.1.toList where
  rest := rest
  sinks := hsinks
  interval := hinterval
  cuts := shows.cuts
  deeds := shows.deeds
  steady := by
    rw [hhost]
    exact (World.Steady.of_eq hdisk).trans (State.steady_fanOut begun id cut)
  written := by
    intro x format file distinct hx owns took
    rw [← hcut] at distinct hx
    rw [shows.failures] at took
    have written := State.owns_fanOut (owns.of_eq hworld hdisk) hx distinct took
    rw [hdisk] at written
    rwa [hhost]
  takes := by
    intro x format file distinct hx owns hd
    rw [← hcut] at distinct hx
    rw [shows.failures]
    exact State.fanOut_takes (owns.of_eq hworld hdisk) hx distinct (hdisk ▸ hd)

/-- A call does to the buffer what its operation does to the reference. -/
theorem AtRest.carryOut_op (rest : AtRest s id l) (clock : Nat → Instant)
    (op : Op (String × Level)) :
    ∃ l' cuts, Came id s (carryOut clock s (frameOf id op)).1 l l'
        (news clock (Session.turnPage s) (frameOf id op)) cuts ∧
      ∀ before, (l'.chunks (before ++ cuts)).map Entry.said =
        ((l.chunks before).map Entry.said).step l.interval op := by
  have rest₁ := rest.turnPage
  cases op with
  | log saying =>
    obtain ⟨message, level⟩ := saying
    obtain ⟨e, he⟩ : ∃ e, e = Plant.entry (host clock) (Session.turnPage s) message level :=
      ⟨_, rfl⟩
    obtain ⟨l', rest', hsinks, hbuffer⟩ := rest₁.log clock message level
    have shows := rest₁.shows_log clock message level
    rw [← he] at hbuffer shows
    rw [frameOf, rest.carryOut_log clock]
    refine ⟨l', (l.push e).cutDue.1.toList, ?_, ?_⟩
    · have hinterval : l'.interval = l.interval := by
        have hpolicy := congrArg (·.policy.interval) hbuffer
        exact hpolicy.trans (Logger.interval_cutDue (l.push e))
      have hhost : (State.log clock (Session.turnPage s) id l message level).1.host =
          (State.fanOut (State.accept (Session.turnPage s) id e) id (l.push e).cutDue).1 := by
        rw [he]
        exact State.host_conclude ..
      exact came_of_shows rest' hsinks hinterval (l.push e).cutDue_cuts.sinks_eq shows hhost rfl
        rfl
    · intro before
      have hsaid : Op.map Entry.said (.log e) = .log (message, level) := by
        rw [he]
        rfl
      have hchunks : l'.chunks (before ++ (l.push e).cutDue.1.toList) =
          (l.chunks before).step l.interval (.log e) := by
        rw [← Logger.chunks_push_cutDue, Logger.chunks, hbuffer]
        rfl
      rw [hchunks, Chunks.step_map, hsaid]
  | flush =>
    obtain ⟨l', rest', hsinks, hbuffer⟩ := rest₁.flush
    rw [frameOf, rest.carryOut_flush clock]
    refine ⟨l', l.cutAll.1.toList, ?_, ?_⟩
    · have hinterval : l'.interval = l.interval := by
        have hpolicy := congrArg (·.policy.interval) hbuffer
        exact hpolicy.trans (Logger.interval_cutAll l)
      exact came_of_shows rest' hsinks hinterval l.cutAll_cuts.sinks_eq (rest₁.shows_flush clock)
        (State.host_conclude ..) rfl rfl
    · intro before
      have hchunks : l'.chunks (before ++ l.cutAll.1.toList) =
          (l.chunks before).step l.interval .flush := by
        rw [← Logger.chunks_cutAll, Logger.chunks, hbuffer]
        rfl
      rw [hchunks, Chunks.step_map]
      rfl

/-- Calls do to the buffer what their operations do to the reference. -/
theorem AtRest.carryOutAll (clock : Nat → Instant) (ops : List (Op (String × Level))) :
    ∀ {s : State} {l : Logger}, AtRest s id l →
    ∃ l' cuts, Came id s (Session.carryOutAll clock id s ops) l l' (newsOfAll clock id s ops)
        cuts ∧
      ∀ before, (l'.chunks (before ++ cuts)).map Entry.said =
        ops.foldl (Chunks.step l.interval) ((l.chunks before).map Entry.said) := by
  induction ops with
  | nil =>
    intro s l rest
    refine ⟨l, [], .refl rest, ?_⟩
    intro before
    rw [List.append_nil]
    rfl
  | cons op ops ih =>
    intro s l rest
    obtain ⟨l₁, cuts, first, hfirst⟩ := rest.carryOut_op clock op
    obtain ⟨l₂, later, others, hothers⟩ := ih first.rest
    refine ⟨l₂, cuts ++ later, first.trans others, ?_⟩
    intro before
    rw [← List.append_assoc, hothers, first.interval, hfirst]
    rfl

end BatchedLog.Session
