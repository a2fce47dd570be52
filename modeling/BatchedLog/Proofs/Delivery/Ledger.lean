import BatchedLog.Proofs.Delivery.Turns

/-!
# Nothing is lost, doubled or reordered

What happens at a logger is read off a run: the entries accepted by it, in the order in which they
got into the buffer, and the batches cut from it. `Ledger` is the balance of the two: the batches in
the order of their numbers, followed by what is pending, are the entries. Each move keeps it, so it
holds of all runs.
-/

namespace BatchedLog

variable {σ κ ρ : Type}

/-! ## What happens at a logger -/

def Happening.entry? : Happening → Option Entry
  | .accepted _ e => some e
  | _ => none

def Happening.cut? : Happening → Option (Nat × List Entry)
  | .cut _ ticket entries => some (ticket, entries)
  | _ => none

/-- Of all that happens, what happens at one logger. -/
def about (id : LoggerId) (hs : List Happening) : List Happening :=
  hs.filter fun h => h.logger = id

/-- The entries that got into the buffer, in this order. -/
def entriesOf (id : LoggerId) (hs : List Happening) : List Entry :=
  (about id hs).filterMap Happening.entry?

/-- The batches cut, with their numbers, in this order. -/
def cutsOf (id : LoggerId) (hs : List Happening) : List (Nat × List Entry) :=
  (about id hs).filterMap Happening.cut?

section

variable {id : LoggerId} {hs : List Happening}

theorem about_append (id : LoggerId) (hs now : List Happening) :
    about id (hs ++ now) = about id hs ++ about id now :=
  List.filter_append ..

theorem about_of_ne (h : ∀ x ∈ hs, x.logger ≠ id) : about id hs = [] := by
  simpa [about] using h

theorem entriesOf_append (id : LoggerId) (hs now : List Happening) :
    entriesOf id (hs ++ now) = entriesOf id hs ++ entriesOf id now := by
  simp [entriesOf, about_append]

theorem cutsOf_append (id : LoggerId) (hs now : List Happening) :
    cutsOf id (hs ++ now) = cutsOf id hs ++ cutsOf id now := by
  simp [cutsOf, about_append]

theorem mem_of_mem_about {x : Happening} (h : x ∈ about id hs) : x ∈ hs :=
  (List.mem_filter.1 h).1

theorem cutsOf_single {x : Happening} (h : x.cut? = none) : cutsOf id [x] = [] := by
  apply List.filterMap_eq_nil_iff.2
  intro y hy
  rwa [List.mem_singleton.1 (mem_of_mem_about hy)]

/-- Nothing gets into or out of the buffer. -/
def Silent (id : LoggerId) (hs : List Happening) : Prop :=
  ∀ x ∈ about id hs, x.entry? = none ∧ x.cut? = none

theorem silent_of_ne (h : ∀ x ∈ hs, x.logger ≠ id) : Silent id hs := by
  simp [Silent, about_of_ne h]

theorem silent_single {x : Happening} (he : x.entry? = none) (hc : x.cut? = none) :
    Silent id [x] := by
  intro y hy
  obtain rfl := List.mem_singleton.1 (mem_of_mem_about hy)
  exact ⟨he, hc⟩

theorem Silent.entriesOf_eq (h : Silent id hs) : entriesOf id hs = [] :=
  List.filterMap_eq_nil_iff.2 fun x hx => (h x hx).1

theorem Silent.cutsOf_eq (h : Silent id hs) : cutsOf id hs = [] :=
  List.filterMap_eq_nil_iff.2 fun x hx => (h x hx).2

@[simp] theorem entriesOf_cutNews (id other : LoggerId)
    (r : Option (Nat × List Entry) × Logger) : entriesOf id (cutNews other r) = [] := by
  apply List.filterMap_eq_nil_iff.2
  intro x hx
  have hx := mem_of_mem_about hx
  obtain ⟨c, -, rfl⟩ : ∃ c, r.1 = some c ∧ .cut other c.1 c.2 = x := by simpa [cutNews] using hx
  rfl

@[simp] theorem cutsOf_cutNews (id : LoggerId) (r : Option (Nat × List Entry) × Logger) :
    cutsOf id (cutNews id r) = r.1.toList := by
  obtain ⟨c, l⟩ := r
  cases c with
  | none => rfl
  | some c => simp [cutsOf, cutNews, about, Happening.logger, Happening.cut?]

end

/-! ## The balance -/

/-- The batches cut are numbered from zero on and not empty, and with what is pending they are what
was accepted. -/
structure Ledger (id : LoggerId) (hs : List Happening) (l : Logger) : Prop where
  tickets : (cutsOf id hs).map (·.1) = List.range l.cut
  filled : ∀ c ∈ cutsOf id hs, c.2 ≠ []
  balance : (cutsOf id hs).flatMap (·.2) ++ l.buffer.pending = entriesOf id hs

namespace Ledger

variable {id : LoggerId} {hs now : List Happening} {l l' : Logger}

theorem start (policy : FlushPolicy) (sinks : List Wired) (h : about id hs = []) :
    Ledger id hs (.start policy sinks) := by
  refine ⟨?_, ?_, ?_⟩
  · simp [cutsOf, h, Logger.start]
  · simp [cutsOf, h]
  · simp [cutsOf, entriesOf, h, Logger.start, Buffer.empty]

theorem cut_eq (h : Ledger id hs l) : (cutsOf id hs).length = l.cut := by
  simpa using congrArg List.length h.tickets

theorem push (h : Ledger id hs l) (e : Entry) (hnew : about id now = [.accepted id e]) :
    Ledger id (hs ++ now) (l.push e) := by
  have hcuts : cutsOf id now = [] := by simp [cutsOf, hnew, Happening.cut?]
  have hentries : entriesOf id now = [e] := by simp [entriesOf, hnew, Happening.entry?]
  refine ⟨?_, ?_, ?_⟩
  · simpa [cutsOf_append, hcuts, Logger.push] using h.tickets
  · simpa [cutsOf_append, hcuts] using h.filled
  · rw [cutsOf_append, entriesOf_append, hcuts, hentries, ← h.balance]
    simp [Logger.push]

theorem cut (h : Ledger id hs l) {r : Option (Nat × List Entry) × Logger} (cuts : l.Cuts r) :
    Ledger id (hs ++ cutNews id r) r.2 := by
  rcases cuts with rfl | ⟨hne, rfl⟩
  · simpa [cutNews] using h
  · refine ⟨?_, ?_, ?_⟩
    · simp [cutsOf_append, Logger.emptied, h.tickets, List.range_succ]
    · intro c hc
      rw [cutsOf_append, cutsOf_cutNews] at hc
      rcases List.mem_append.1 hc with hc | hc
      · exact h.filled c hc
      · have : c = (l.cut, l.buffer.pending) := by simpa using hc
        rw [this]
        exact hne
    · simp [cutsOf_append, entriesOf_append, Logger.emptied, ← h.balance]

/-- What touches neither the buffer nor the count of batches does not show. -/
theorem keep (h : Ledger id hs l) (hbuffer : l'.buffer = l.buffer) (hcut : l'.cut = l.cut)
    (silent : Silent id now) : Ledger id (hs ++ now) l' := by
  have hc := silent.cutsOf_eq
  have he := silent.entriesOf_eq
  refine ⟨?_, ?_, ?_⟩
  · simpa [cutsOf_append, hc, hcut] using h.tickets
  · simpa [cutsOf_append, hc] using h.filled
  · simpa [cutsOf_append, entriesOf_append, hc, he, hbuffer] using h.balance

end Ledger

/-- The balance of a lane; before there is a logger nothing has happened at it. -/
structure Lane.Balanced (lane : Lane κ) (id : LoggerId) (hs : List Happening) : Prop where
  absent : lane.logger = none → about id hs = []
  ledger : ∀ {l}, lane.logger = some l → Ledger id hs l

namespace Lane

variable {id : LoggerId} {hs now : List Happening} {lane first : Lane κ} {t : ThreadId}
  {l : Logger} {o : Option Logger} {st : Option (Station κ)}

theorem Balanced.of_ledger (hl : lane.logger = some l) (h : Ledger id hs l) :
    lane.Balanced id hs := by
  refine ⟨fun hn => ?_, fun {l₂} hl₂ => ?_⟩
  · rw [hl] at hn
    cases hn
  · rw [hl] at hl₂
    cases hl₂
    exact h

theorem Fresh.balanced (h : lane.Fresh) (id : LoggerId) : lane.Balanced id [] := by
  refine ⟨fun _ => rfl, ?_⟩
  intro l hl
  obtain ⟨policy, sinks, rfl⟩ := h.logger hl
  exact Ledger.start policy sinks rfl

/-- A thread that is in a call on the logger goes on without touching the buffer. -/
theorem Balanced.keep {s : Station κ} (h : lane.Balanced id hs) (orderly : lane.Orderly)
    (hst : lane.station t = some s) (silent : Silent id now) :
    (lane.put t lane.logger st).Balanced id (hs ++ now) := by
  obtain ⟨l, hl, -⟩ := orderly.exists_logger hst
  exact .of_ledger hl ((h.ledger hl).keep rfl rfl silent)

theorem Balanced.step (h : lane.Balanced id hs) (orderly : lane.Orderly)
    (move : Move id lane.logger (lane.station t) now o st) :
    (lane.put t o st).Balanced id (hs ++ now) := by
  generalize hl : lane.logger = before at move
  generalize hst : lane.station t = s at move
  cases move with
  | elsewhere hne =>
    refine ⟨fun hn => ?_, fun hn => ?_⟩
    · rw [about_append, h.absent (hl.trans hn), about_of_ne hne]
      rfl
    · exact (h.ledger (hl.trans hn)).keep rfl rfl (silent_of_ne hne)
  | @opened _ policy sinks =>
    exact .of_ledger rfl (Ledger.start policy sinks (by simpa using h.absent hl))
  | @log l e below =>
    have pushed : Ledger id (hs ++ [.accepted id e]) (l.push e) :=
      (h.ledger hl).push e (by simp [about, Happening.logger])
    have := pushed.cut (l.push e).cutDue_cuts
    exact .of_ledger rfl (by simpa using this)
  | @hold l e =>
    exact .of_ledger rfl ((h.ledger hl).push e (by simp [about, Happening.logger]))
  | @flush l below =>
    have looked : Ledger id (hs ++ [.flushed id]) l :=
      (h.ledger hl).keep rfl rfl (silent_single rfl rfl)
    have := looked.cut l.cutAll_cuts
    exact .of_ledger rfl (by simpa using this)
  | turn => exact hl ▸ h.keep orderly hst (silent_single rfl rfl)
  | hand => exact hl ▸ h.keep orderly hst (silent_single rfl rfl)
  | took => exact hl ▸ h.keep orderly hst (silent_single rfl rfl)
  | failed => exact hl ▸ h.keep orderly hst (silent_single rfl rfl)
  | release => exact .of_ledger rfl ((h.ledger hl).keep rfl rfl (silent_single rfl rfl))
  | @drain l => exact .of_ledger rfl ((h.ledger hl).cut l.cutDue_cuts)

theorem Runs.balanced (runs : Runs id first hs lane) (fresh : first.Fresh) :
    lane.Balanced id hs := by
  induction runs with
  | refl => exact fresh.balanced id
  | tail t before move ih => exact ih.step (before.orderly fresh) move

end Lane

end BatchedLog
