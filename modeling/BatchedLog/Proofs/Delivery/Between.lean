import BatchedLog.Proofs.Delivery.Alone
import BatchedLog.Proofs.Delivery.Conservation
import BatchedLog.Proofs.Delivery.Course

/-!
# From one point of a run to another

The balance of a logger and the course of its deliveries are told of runs from where the logger is
unused. Here they are told of what happens between two points of such a run: what was pending and
what was logged meanwhile is what was cut meanwhile and what is pending then, and from where no call
on the logger is under way all that is done is about batches cut later.
-/

namespace BatchedLog

variable {σ κ ρ : Type}

/-- The number of the batch that something is done about. -/
def Deed.ticket : Deed → Nat
  | .began ticket _ => ticket
  | .handed ticket _ _ => ticket
  | .ended ticket _ => ticket
  | .released ticket => ticket

theorem ticket_of_mem_round {sinks : List Wired} {c : Nat × List Entry} {d : Deed}
    (hd : d ∈ round sinks c) : d.ticket = c.1 := by
  rcases List.mem_cons.1 hd with rfl | hd
  · rfl
  rcases List.mem_append.1 hd with hd | hd
  · obtain ⟨w, -, hd⟩ := List.mem_flatMap.1 hd
    rcases List.mem_cons.1 hd with rfl | hd
    · rfl
    · rw [List.mem_singleton.1 hd]
      rfl
  · rw [List.mem_singleton.1 hd]
    rfl

variable {host : Host σ κ ρ} {id : LoggerId} {s₀ s u : System σ κ ρ} {before hs : List Happening}
  {l : Logger}

theorem Steps.pending_between (run : Steps host s₀ before s) (later : Steps host s hs u)
    (unused : s₀.Unused id) :
    (cutsOf id hs).flatMap (·.2) ++ u.pending id = s.pending id ++ entriesOf id hs := by
  obtain ⟨_, lane, fresh, runs, views⟩ := run.lane_of_unused unused
  obtain ⟨_, lane', fresh', runs', views'⟩ := (run.trans later).lane_of_unused unused
  have hfirst := (runs.balanced fresh).pending_eq views
  have hall := (runs'.balanced fresh').pending_eq views'
  rw [cutsOf_append, entriesOf_append, ← hfirst, List.flatMap_append, List.append_assoc,
    List.append_assoc] at hall
  exact List.append_cancel_left hall

theorem Steps.sinks_between (later : Steps host s hs u) (run : Steps host s₀ before s)
    (unused : s₀.Unused id) (hl : s.plant.loggers[id]? = some l) :
    ∃ l', u.plant.loggers[id]? = some l' ∧ l'.sinks = l.sinks := by
  obtain ⟨_, lane, -, -, views⟩ := run.lane_of_unused unused
  obtain ⟨last, runs, viewsu⟩ := later.lane views
  obtain ⟨l', hl', hsinks⟩ := runs.sinks_eq (views.logger.symm.trans hl)
  exact ⟨l', viewsu.logger.trans hl', hsinks⟩

/-- Where no call on the logger is under way all batches are done with. -/
theorem Steps.deeds_of_idle (run : Steps host s₀ before s) (unused : s₀.Unused id)
    (idle : s.Idle id) (hl : s.plant.loggers[id]? = some l) :
    deedsOf id before = (cutsOf id before).flatMap (round l.sinks) := by
  obtain ⟨_, lane, fresh, runs, views⟩ := run.lane_of_unused unused
  have hl' : lane.logger = some l := views.logger.symm.trans hl
  exact (runs.onCourse fresh).deeds_eq hl' ((runs.orderly fresh).owned hl')
    ((runs.balanced fresh).ledger hl').cut_eq (idle.station_eq views)

/-- Between two such points all that is cut is delivered. -/
theorem Steps.deeds_between (run : Steps host s₀ before s) (later : Steps host s hs u)
    (unused : s₀.Unused id) (idle : s.Idle id) (idle' : u.Idle id)
    (hl : s.plant.loggers[id]? = some l) :
    deedsOf id hs = (cutsOf id hs).flatMap (round l.sinks) := by
  obtain ⟨l', hl', hsinks⟩ := later.sinks_between run unused hl
  have hfirst := run.deeds_of_idle unused idle hl
  have hall := (run.trans later).deeds_of_idle unused idle' hl'
  rw [deedsOf_append, cutsOf_append, hfirst, hsinks, List.flatMap_append] at hall
  exact List.append_cancel_left hall

/-- From such a point on nothing is done about batches that were cut before. -/
theorem Steps.ticket_lt (run : Steps host s₀ before s) (later : Steps host s hs u)
    (unused : s₀.Unused id) (idle : s.Idle id) (hl : s.plant.loggers[id]? = some l)
    {c : Nat × List Entry} {d : Deed} (hc : c ∈ cutsOf id before) (hd : d ∈ deedsOf id hs) :
    c.1 < d.ticket := by
  obtain ⟨l', hl', hsinks⟩ := later.sinks_between run unused hl
  obtain ⟨_, lane, fresh, runs, views⟩ := (run.trans later).lane_of_unused unused
  have hlane : lane.logger = some l' := views.logger.symm.trans hl'
  have hinitial := Lane.OnCourse.deeds_prefix (runs.onCourse fresh) hlane
  rw [deedsOf_append, cutsOf_append, run.deeds_of_idle unused idle hl, hsinks,
    List.flatMap_append, List.prefix_append_right_inj] at hinitial
  obtain ⟨c', hc', hd'⟩ := List.mem_flatMap.1 (hinitial.subset hd)
  rw [ticket_of_mem_round hd']
  -- Batches are numbered in the order in which they are cut.
  have htickets := ((runs.balanced fresh).ledger hlane).tickets
  have hpairwise : ((cutsOf id before).map (·.1) ++ (cutsOf id hs).map (·.1)).Pairwise (· < ·) := by
    rw [← List.map_append, ← cutsOf_append, htickets]
    exact List.pairwise_lt_range
  exact (List.pairwise_append.1 hpairwise).2.2 _ (List.mem_map_of_mem hc) _
    (List.mem_map_of_mem hc')

theorem Steps.alone (run : Steps host s hs u) (alone : u.threads.length = 1) :
    s.threads.length = 1 := by
  induction run with
  | refl => exact alone
  | tail _ _ hstep ih => exact ih (System.alone_of_step hstep alone).2

/-- A thread that is alone and in no call on a logger leaves the logger alone. -/
theorem System.idle_of_held (alone : s.threads.length = 1) (held : Held id (s.stack 0) none) :
    s.Idle id := by
  intro th hth f hf
  obtain ⟨t, ht⟩ := List.mem_iff_getElem?.1 hth
  obtain rfl : t = 0 := Nat.lt_one_iff.1 (alone ▸ (List.getElem?_eq_some_iff.1 ht).1)
  refine held_none_iff.1 held f ?_
  simpa [stack, ht] using hf

end BatchedLog
