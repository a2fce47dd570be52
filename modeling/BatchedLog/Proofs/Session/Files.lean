import BatchedLog.Proofs.Session.Plain
import BatchedLog.Proofs.Sink.File

/-!
# A file with one writer

A file that one sink has for itself grows by the rendering of each batch which that sink takes,
whatever other sinks do with the batch and whether they fail. Paths lead where they led before.
-/

namespace BatchedLog

/-! ## Names -/

namespace Disk

section

variable {d d' : Disk}

theorem walk_eq_of_nodes (hn : d'.nodes = d.nodes) (names : List String) (place : Place) :
    d'.walk place names = d.walk place names := by
  induction names generalizing place with
  | nil => rfl
  | cons name names ih =>
    have henter : d'.enter place name = d.enter place name := by
      unfold enter node?
      rw [hn]
    unfold walk
    rw [henter]
    cases d.enter place name with
    | error e => rfl
    | ok next => exact ih next

/-- Where a path leads to does not depend on what is in the files. -/
theorem resolve_eq_of_nodes (hn : d'.nodes = d.nodes)
    (hw : d'.workingDirectory = d.workingDirectory) (p : Path) : d'.resolve p = d.resolve p := by
  have hstart : d'.start p = d.start p := by
    unfold start
    rw [hw]
  have hnode : ∀ place, d'.node? place = d.node? place := by
    intro place
    unfold node?
    rw [hn]
  unfold resolve
  simp only [hstart, walk_eq_of_nodes hn, hnode]

end

end Disk

namespace Session

namespace World

/-! ## Sinks at work -/

/-- A sink has a file to which no other sink writes, and holds nothing back. -/
structure Owns (w : World) (sink : SinkId) (format : LineFormat) (file : Nat) : Prop where
  own : w.sinks[sink]? = some (.file ⟨format, .start (.file file)⟩)
  others : ∀ {other s}, w.sinks[other]? = some (.file s) → s.writer.handle = .file file →
    other = sink
  there : file < w.disk.contents.length

/-- Names stay, and if writes went through they still do. -/
structure Steady (w w' : World) : Prop where
  nodes : w'.disk.nodes = w.disk.nodes
  workingDirectory : w'.disk.workingDirectory = w.disk.workingDirectory
  faults : w.disk.faults = [] → w'.disk.faults = []

theorem Steady.of_eq {w w' : World} (h : w'.disk = w.disk) : w.Steady w' :=
  ⟨by rw [h], by rw [h], fun hd => by rw [h, hd]⟩

theorem Steady.trans {w w' w'' : World} (first : w.Steady w') (second : w'.Steady w'') :
    w.Steady w'' where
  nodes := second.nodes.trans first.nodes
  workingDirectory := second.workingDirectory.trans first.workingDirectory
  faults hd := second.faults (first.faults hd)

section

variable {w w' : World} {sink other : SinkId} {format : LineFormat} {file : Nat} {batch : Batch}
  {id : LoggerId} {ticket : Nat}

theorem Owns.of_eq (owns : w.Owns sink format file) (hs : w'.sinks = w.sinks)
    (hd : w'.disk = w.disk) : w'.Owns sink format file := by
  refine ⟨?_, ?_, ?_⟩
  · rw [hs]
    exact owns.own
  · rw [hs]
    exact owns.others
  · rw [hd]
    exact owns.there

/-- Another sink may become anything that does not write to the file. -/
theorem Owns.setSink (owns : w.Owns sink format file) (hother : other ≠ sink) {s : SinkState}
    (hs : ∀ f, s = .file f → f.writer.handle ≠ .file file) :
    (w.setSink other s).Owns sink format file := by
  refine ⟨?_, ?_, owns.there⟩
  · exact (List.getElem?_set_ne hother).trans owns.own
  · intro k f hk hfile
    by_cases hk' : other = k
    · subst hk'
      have hset : (w.setSink other s).sinks[other]? = some s ∨
          (w.setSink other s).sinks[other]? = none := by
        by_cases hlt : other < w.sinks.length
        · exact .inl (by simp [World.setSink, hlt])
        · exact .inr (by simp [World.setSink, hlt])
      rcases hset with hset | hset
      · exact absurd hfile (hs f (Option.some.inj (hset.symm.trans hk)))
      · rw [hset] at hk
        cases hk
    · exact owns.others ((List.getElem?_set_ne hk').symm.trans hk) hfile

theorem notes_keep {α : Type} (f : α → Diagnostic) (xs : List α) (w : World) :
    (xs.foldl (fun w x => w.note (f x)) w).sinks = w.sinks ∧
      (xs.foldl (fun w x => w.note (f x)) w).disk = w.disk := by
  induction xs generalizing w with
  | nil => exact ⟨rfl, rfl⟩
  | cons x xs ih => exact ih (w.note (f x))

theorem steady_receive (w : World) (k : SinkId) (batch : Batch) :
    w.Steady (w.receive k batch).1 := by
  unfold World.receive
  split
  · exact .of_eq rfl
  · exact .of_eq rfl
  · rename_i s _
    obtain ⟨-, -, framed⟩ := s.stays_receive w.disk batch.entries
    exact ⟨framed.nodes, framed.workingDirectory, framed.faults⟩
  · exact .of_eq rfl
  · exact .of_eq (notes_keep ..).2
  · dsimp only
    split
    · exact .of_eq rfl
    · exact .of_eq rfl

/-- Another sink at work leaves the file alone. -/
theorem Owns.receive_other (owns : w.Owns sink format file) (hother : other ≠ sink)
    (batch : Batch) :
    (w.receive other batch).1.Owns sink format file ∧
      (w.receive other batch).1.disk.content file = w.disk.content file := by
  unfold World.receive
  split
  · exact ⟨owns, rfl⟩
  · exact ⟨owns.setSink hother nofun, rfl⟩
  · rename_i s hs
    obtain ⟨-, hhandle, framed⟩ := s.stays_receive w.disk batch.entries
    have helse : s.writer.handle ≠ .file file := fun hfile => hother (owns.others hs hfile)
    have written : World.Owns { w with disk := (s.receive w.disk batch.entries).2.1 } sink format
        file := ⟨owns.own, owns.others, framed.length ▸ owns.there⟩
    refine ⟨written.setSink hother ?_, framed.others helse⟩
    rintro _ ⟨⟩
    rwa [hhandle]
  · exact ⟨owns.of_eq rfl rfl, rfl⟩
  · obtain ⟨hsinks, hdisk⟩ :=
      notes_keep (fun e => .forwarded batch.number e) batch.entries w
    exact ⟨owns.of_eq hsinks hdisk, by rw [hdisk]⟩
  · dsimp only
    split
    · exact ⟨owns.of_eq rfl rfl, rfl⟩
    · rename_i label _ _ _ _
      have written : (w.write (.received label batch)).Owns sink format file := owns.of_eq rfl rfl
      exact ⟨written.setSink hother nofun, rfl⟩

theorem Owns.receive_eq (owns : w.Owns sink format file) (batch : Batch) :
    w.receive sink batch =
      let r := FileSink.receive ⟨format, .start (.file file)⟩ w.disk batch.entries
      (World.setSink { w with disk := r.2.1 } sink (.file r.1), [], .returned r.2.2) := by
  unfold World.receive
  rw [owns.own]

/-- A batch that the sink has taken is behind the file. -/
theorem Owns.receive_own (owns : w.Owns sink format file) {todo : List Step} {ending : Ending}
    (h : w.receive sink batch = (w', todo, ending)) (htook : ending.caught = .ok ()) :
    w'.Owns sink format file ∧
      w'.disk.content file = w.disk.content file ++ (format.render batch.entries).toUTF8 := by
  rw [owns.receive_eq batch] at h
  obtain ⟨-, -, framed⟩ :=
    FileSink.stays_receive ⟨format, .start (.file file)⟩ w.disk batch.entries
  rcases hreceive : FileSink.receive ⟨format, .start (.file file)⟩ w.disk batch.entries with
    ⟨s, d, result⟩
  rw [hreceive] at h framed
  cases h
  obtain rfl : result = .ok () := htook
  obtain ⟨hcontent, rfl⟩ := FileSink.content_receive rfl owns.there hreceive
  have hset : w.sinks.set sink (.file ⟨format, .start (.file file)⟩) = w.sinks := by
    obtain ⟨hlt, hget⟩ := List.getElem?_eq_some_iff.1 owns.own
    rw [← hget, List.set_getElem_self]
  refine ⟨⟨?_, ?_, framed.length ▸ owns.there⟩, hcontent⟩
  · exact (congrArg (·[sink]?) hset).trans owns.own
  · intro k f hk
    exact owns.others ((congrArg (·[k]?) hset).symm.trans hk)

/-- Where all writes go through, it takes every batch. -/
theorem Owns.receive_of_faults_eq_nil (owns : w.Owns sink format file) (hd : w.disk.faults = [])
    (batch : Batch) : (w.receive sink batch).2.2 = .returned (.ok ()) := by
  obtain ⟨s, d, hreceive⟩ := FileSink.receive_of_faults_eq_nil
    (s := ⟨format, .start (.file file)⟩) rfl hd batch.entries
  rw [owns.receive_eq batch, hreceive]

/-! ## All sinks of a logger -/

theorem serveAll_cons (w : World) (id : LoggerId) (ticket : Nat) (batch : Batch) (x : Wired)
    (left : List Wired) :
    w.serveAll id ticket batch (x :: left) =
      (((w.serve id ticket batch x).1.serveAll id ticket batch left).1,
        (w.serve id ticket batch x).2 ++
          ((w.serve id ticket batch x).1.serveAll id ticket batch left).2) := rfl

theorem steady_serve (w : World) (id : LoggerId) (ticket : Nat) (batch : Batch) (x : Wired) :
    w.Steady (w.serve id ticket batch x).1 := by
  have steady := w.steady_receive x.sink batch
  obtain ⟨w', todo, ending, hreceive, ⟨-, hserve⟩ | ⟨e, -, hserve⟩⟩ :=
    w.serve_cases id ticket batch x
  all_goals rw [hreceive] at steady
  · rwa [hserve]
  · rw [hserve]
    exact steady.trans (.of_eq rfl)

theorem steady_serveAll (id : LoggerId) (ticket : Nat) (batch : Batch) (left : List Wired)
    (w : World) : w.Steady (w.serveAll id ticket batch left).1 := by
  induction left generalizing w with
  | nil => exact .of_eq rfl
  | cons x left ih => exact (w.steady_serve ..).trans (ih _)

theorem Owns.serve_other (owns : w.Owns sink format file) (id : LoggerId) (ticket : Nat)
    (batch : Batch) {x : Wired} (hother : x.sink ≠ sink) :
    (w.serve id ticket batch x).1.Owns sink format file ∧
      (w.serve id ticket batch x).1.disk.content file = w.disk.content file := by
  have received := owns.receive_other hother batch
  obtain ⟨w', todo, ending, hreceive, ⟨-, hserve⟩ | ⟨e, -, hserve⟩⟩ :=
    w.serve_cases id ticket batch x
  all_goals rw [hreceive] at received
  · rwa [hserve]
  · rw [hserve]
    exact ⟨received.1.of_eq rfl rfl, received.2⟩

theorem Owns.serveAll_others (left : List Wired) {w : World} (owns : w.Owns sink format file)
    (id : LoggerId) (ticket : Nat) (batch : Batch) (hothers : ∀ x ∈ left, x.sink ≠ sink) :
    (w.serveAll id ticket batch left).1.Owns sink format file ∧
      (w.serveAll id ticket batch left).1.disk.content file = w.disk.content file := by
  induction left generalizing w with
  | nil => exact ⟨owns, rfl⟩
  | cons x left ih =>
    obtain ⟨served, hcontent⟩ := owns.serve_other id ticket batch (hothers x List.mem_cons_self)
    obtain ⟨all, hall⟩ := ih served fun y hy => hothers y (List.mem_cons_of_mem _ hy)
    exact ⟨all, hall.trans hcontent⟩

/-- A sink that has not failed has put the batch behind its file, once. -/
theorem Owns.serveAll (left : List Wired) {w : World} {x : Wired}
    (owns : w.Owns x.sink format file) (hx : x ∈ left) (once : (left.map (·.sink)).Nodup)
    (took : ∀ f ∈ (w.serveAll id ticket batch left).2, f.sink ≠ x.name) :
    (w.serveAll id ticket batch left).1.Owns x.sink format file ∧
      (w.serveAll id ticket batch left).1.disk.content file =
        w.disk.content file ++ (format.render batch.entries).toUTF8 := by
  induction left generalizing w with
  | nil => cases hx
  | cons y left ih =>
    obtain ⟨hy, once⟩ := List.nodup_cons.1 once
    rw [serveAll_cons] at took ⊢
    rcases List.mem_cons.1 hx with rfl | hx
    · have hothers : ∀ z ∈ left, z.sink ≠ x.sink := by
        intro z hz heq
        exact hy (List.mem_map.2 ⟨z, hz, heq⟩)
      obtain ⟨w', todo, ending, hreceive, ⟨hcaught, hserve⟩ | ⟨e, -, hserve⟩⟩ :=
        w.serve_cases id ticket batch x
      · obtain ⟨received, hcontent⟩ := owns.receive_own hreceive hcaught
        rw [hserve]
        obtain ⟨all, hall⟩ := received.serveAll_others left id ticket batch hothers
        exact ⟨all, hall.trans hcontent⟩
      · rw [hserve] at took
        exact absurd rfl (took ⟨x.name, e⟩ (List.mem_append_left _ List.mem_cons_self))
    · have hother : y.sink ≠ x.sink := fun heq => hy (List.mem_map.2 ⟨x, hx, heq.symm⟩)
      obtain ⟨served, hcontent⟩ := owns.serve_other id ticket batch hother
      obtain ⟨all, hall⟩ := ih served hx once fun f hf => took f (List.mem_append_right _ hf)
      exact ⟨all, hall.trans (by rw [hcontent])⟩

/-- Only sinks that were handed the batch fail. -/
theorem mem_names_of_serve {x : Wired} {f : SinkFailure}
    (hf : f ∈ (w.serve id ticket batch x).2) : f.sink = x.name := by
  obtain ⟨w', todo, ending, -, ⟨-, hserve⟩ | ⟨e, -, hserve⟩⟩ := w.serve_cases id ticket batch x
  all_goals rw [hserve] at hf
  · cases hf
  · rw [List.mem_singleton.1 hf]

theorem mem_names_of_serveAll (left : List Wired) {w : World} {f : SinkFailure}
    (hf : f ∈ (w.serveAll id ticket batch left).2) : f.sink ∈ left.map (·.name) := by
  induction left generalizing w with
  | nil => cases hf
  | cons x left ih =>
    rw [serveAll_cons] at hf
    rcases List.mem_append.1 hf with hf | hf
    · exact List.mem_cons.2 (.inl (mem_names_of_serve hf))
    · exact List.mem_cons.2 (.inr (ih hf))

/-- Where all writes go through, a sink with a file does not fail. -/
theorem Owns.serveAll_takes (left : List Wired) {w : World} {x : Wired}
    (owns : w.Owns x.sink format file) (hd : w.disk.faults = []) (hx : x ∈ left)
    (once : (left.map (·.sink)).Nodup) (names : (left.map (·.name)).Nodup) :
    ∀ f ∈ (w.serveAll id ticket batch left).2, f.sink ≠ x.name := by
  induction left generalizing w with
  | nil => cases hx
  | cons y left ih =>
    obtain ⟨hy, once⟩ := List.nodup_cons.1 once
    obtain ⟨hyname, names⟩ := List.nodup_cons.1 names
    rw [serveAll_cons]
    intro f hf
    rcases List.mem_cons.1 hx with rfl | hx
    · have hreceived := owns.receive_of_faults_eq_nil hd batch
      obtain ⟨w', todo, ending, hreceive, ⟨-, hserve⟩ | ⟨e, hcaught, -⟩⟩ :=
        w.serve_cases id ticket batch x
      all_goals rw [hreceive] at hreceived
      · rw [hserve, List.nil_append] at hf
        have hmem := mem_names_of_serveAll left hf
        exact fun heq => hyname (by rwa [heq] at hmem)
      · obtain rfl : ending = .returned (.ok ()) := hreceived
        cases hcaught
    · rcases List.mem_append.1 hf with hf | hf
      · rw [mem_names_of_serve hf]
        exact fun heq => hyname (List.mem_map.2 ⟨x, hx, heq.symm⟩)
      · have hother : y.sink ≠ x.sink := fun heq => hy (List.mem_map.2 ⟨x, hx, heq.symm⟩)
        exact ih (owns.serve_other id ticket batch hother).1 ((w.steady_serve ..).faults hd) hx once
          names f hf

end

end World

/-! ## What was cut -/

/-- The sinks of a logger differ, and so do their names. -/
structure Distinct (wired : List Wired) : Prop where
  sinks : (wired.map (·.sink)).Nodup
  names : (wired.map (·.name)).Nodup

namespace State

variable {s : State} {id : LoggerId} {cut : Option (Nat × List Entry) × Logger}

theorem steady_fanOut (s : State) (id : LoggerId) (cut : Option (Nat × List Entry) × Logger) :
    s.host.Steady (fanOut s id cut).1 := by
  obtain ⟨_ | ⟨ticket, entries⟩, l⟩ := cut
  · exact .of_eq rfl
  · have begun : s.host.Steady (begin s id ticket ⟨s.dispatched, entries⟩ l.sinks.length).host :=
      .of_eq rfl
    exact begun.trans (World.steady_serveAll ..)

theorem owns_begin {sink : SinkId} {format : LineFormat} {file : Nat}
    (owns : s.host.Owns sink format file) (id : LoggerId) (ticket : Nat) (batch : Batch)
    (sinks : Nat) : (begin s id ticket batch sinks).host.Owns sink format file :=
  owns.of_eq rfl rfl

variable {x : Wired} {format : LineFormat} {file : Nat}

/-- A sink that has not failed has put what was cut behind its file. -/
theorem owns_fanOut (owns : s.host.Owns x.sink format file) (hx : x ∈ cut.2.sinks)
    (distinct : Distinct cut.2.sinks) (took : ∀ f ∈ (fanOut s id cut).2, f.sink ≠ x.name) :
    (fanOut s id cut).1.Owns x.sink format file ∧
      (fanOut s id cut).1.disk.content file = s.host.disk.content file ++
        (format.render (cut.1.toList.flatMap (·.2))).toUTF8 := by
  obtain ⟨_ | ⟨ticket, entries⟩, l⟩ := cut
  · exact ⟨owns, ByteArray.append_empty.symm⟩
  · rw [Option.toList_some, List.flatMap_singleton]
    exact (owns_begin owns ..).serveAll l.sinks hx distinct.sinks took

theorem fanOut_takes (owns : s.host.Owns x.sink format file) (hx : x ∈ cut.2.sinks)
    (distinct : Distinct cut.2.sinks) (hd : s.host.disk.faults = []) :
    ∀ f ∈ (fanOut s id cut).2, f.sink ≠ x.name := by
  obtain ⟨_ | ⟨ticket, entries⟩, l⟩ := cut
  · exact nofun
  · exact (owns_begin owns ..).serveAll_takes l.sinks hd hx distinct.sinks distinct.names

end State

end Session

end BatchedLog
