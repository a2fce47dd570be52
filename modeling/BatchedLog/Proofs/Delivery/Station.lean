import BatchedLog.Proofs.Delivery.Rules

/-!
# Where a thread stands with a logger

A thread is in at most one call that has cut a batch of a given logger: while it delivers for the
logger its calls on it cut nothing, and while it waits or looks at the buffer it does nothing else.
`Stands` reads off a stack where that call is, if there is one. `Machine.Rule.move` says how one
step changes this, together with the logger: by a `Move`, or not at all.
-/

namespace BatchedLog

variable {σ κ ρ : Type}

/-- Whether a frame belongs to a call that has cut a batch of a logger. -/
def Frame.serves (id : LoggerId) : Frame κ → Bool
  | .waiting call .. => call.logger == id
  | .delivering call .. => call.logger == id
  | .draining call => call.logger == id
  | _ => false

/-- The number of the batch that a frame is at. -/
def Frame.ticket? : Frame κ → Option Nat
  | .waiting _ t _ => some t
  | .delivering _ t .. => some t
  | _ => none

/-- How far a call has come with the batch it has cut. -/
inductive Phase
  | waiting (ticket : Nat) (entries : List Entry)
  | delivering (ticket : Nat) (batch : Batch) (left : List Wired) (failures : List SinkFailure)
  /-- A sink is at work on the batch, and will end in this way. -/
  | receiving (ticket : Nat) (batch : Batch) (sink : Wired) (left : List Wired)
      (failures : List SinkFailure) (ending : Except SinkError Unit)
  | draining

/-- The number of a batch that is not done with. -/
def Phase.ticket? : Phase → Option Nat
  | .waiting t _ => some t
  | .delivering t .. => some t
  | .receiving t .. => some t
  | .draining => none

/-- Whether the thread has the turn. -/
def Phase.inTurn : Phase → Bool
  | .delivering .. => true
  | .receiving .. => true
  | _ => false

/-- A call that has cut a batch, with the stack of those it will return to. -/
structure Station (κ : Type) where
  call : Call
  below : List (Frame κ)
  phase : Phase

/-- A call cuts a batch, or finds nothing to cut. -/
def Station.afterCut (call : Call) (below : List (Frame κ))
    (cut : Option (Nat × List Entry) × Logger) : Option (Station κ) :=
  cut.1.map fun (ticket, entries) => ⟨call, below, .waiting ticket entries⟩

/-- What a look at the buffer makes known. -/
def cutNews (id : LoggerId) (cut : Option (Nat × List Entry) × Logger) : List Happening :=
  (cut.1.map fun (ticket, entries) => Happening.cut id ticket entries).toList

def Happening.logger : Happening → LoggerId
  | .accepted l _ => l
  | .flushed l => l
  | .cut l .. => l
  | .began l .. => l
  | .handed l .. => l
  | .took l .. => l
  | .failed l .. => l
  | .released l _ => l

/-- All that a step of one thread can do to a logger, and to the thread's call on it. -/
inductive Move (id : LoggerId) : Option Logger → Option (Station κ) → List Happening →
    Option Logger → Option (Station κ) → Prop
  | elsewhere {l st now} : (∀ h ∈ now, h.logger ≠ id) → Move id l st now l st
  | opened {st policy sinks} : Move id none st [] (some (.start policy sinks)) st
  | log {l e below} :
      Move id (some l) none (.accepted id e :: cutNews id (l.push e).cutDue)
        (some (l.push e).cutDue.2) (Station.afterCut (.start id .log) below (l.push e).cutDue)
  | hold {l e call below t b w left failures ending} :
      Move id (some l) (some ⟨call, below, .receiving t b w left failures ending⟩) [.accepted id e]
        (some (l.push e)) (some ⟨call, below, .receiving t b w left failures ending⟩)
  | flush {l below} :
      Move id (some l) none (.flushed id :: cutNews id l.cutAll) (some l.cutAll.2)
        (Station.afterCut (.start id .flush) below l.cutAll)
  | turn {l call below t n es} : l.turn = t →
      Move id (some l) (some ⟨call, below, .waiting t es⟩) [.began id t ⟨n, es⟩ l.sinks.length]
        (some l) (some ⟨call, below, .delivering t ⟨n, es⟩ l.sinks []⟩)
  | hand {l call below t b w left failures ending} :
      Move id l (some ⟨call, below, .delivering t b (w :: left) failures⟩) [.handed id t b w]
        l (some ⟨call, below, .receiving t b w left failures ending⟩)
  | took {l call below t b w left failures} :
      Move id l (some ⟨call, below, .receiving t b w left failures (.ok ())⟩) [.took id t w]
        l (some ⟨call, below, .delivering t b left failures⟩)
  | failed {l call below t b w left failures e} :
      Move id l (some ⟨call, below, .receiving t b w left failures (.error e)⟩)
        [.failed id t ⟨w.name, e⟩]
        l (some ⟨call, below, .delivering t b left (failures ++ [⟨w.name, e⟩])⟩)
  | release {l call below t b failures} :
      Move id (some l) (some ⟨call, below, .delivering t b [] failures⟩) [.released id t]
        (some l.passTurn)
        (some ⟨call.conclude b l.sinks.length failures, below, .draining⟩)
  | drain {l call below} :
      Move id (some l) (some ⟨call, below, .draining⟩) (cutNews id l.cutDue) (some l.cutDue.2)
        (Station.afterCut call below l.cutDue)

/-- Who cuts a batch waits with it. -/
theorem Move.exists_waiting {id : LoggerId} {l l' : Option Logger} {st st' : Option (Station κ)}
    {now : List Happening} {k : Nat} {es : List Entry} (move : Move id l st now l' st')
    (h : .cut id k es ∈ now) : ∃ call below, st' = some ⟨call, below, .waiting k es⟩ := by
  have hnews : ∀ {call below} {r : Option (Nat × List Entry) × Logger},
      .cut id k es ∈ cutNews id r →
      Station.afterCut call below r = some (⟨call, below, .waiting k es⟩ : Station κ) := by
    intro call below r h
    obtain ⟨c, hc, heq⟩ : ∃ c, r.1 = some c ∧ Happening.cut id c.1 c.2 = .cut id k es := by
      simpa [cutNews] using h
    cases heq
    simp [Station.afterCut, hc]
  cases move with
  | elsewhere hne => exact absurd rfl (hne _ h)
  | log => exact ⟨_, _, hnews (by simpa using h)⟩
  | flush => exact ⟨_, _, hnews (by simpa using h)⟩
  | drain => exact ⟨_, _, hnews h⟩
  | _ => simp at h

/-- A stack on which no call on the logger is at its top: there is none, or a sink is at work. -/
inductive Held (id : LoggerId) : List (Frame κ) → Option (Station κ) → Prop
  | nil : Held id [] none
  | above {f stack st} : f.serves id = false → Held id stack st → Held id (f :: stack) st
  | receiving {call t b w left failures todo ending below} : call.logger = id →
      Held id below none →
      Held id (.receiving w.sink todo ending :: .delivering call t b (w :: left) failures :: below)
        (some ⟨call, below, .receiving t b w left failures ending⟩)

/-- Where the thread with this stack stands with a logger. -/
inductive Stands (id : LoggerId) : List (Frame κ) → Option (Station κ) → Prop
  | held {stack st} : Held id stack st → Stands id stack st
  | waiting {call t es below} : call.logger = id → Held id below none →
      Stands id (.waiting call t es :: below) (some ⟨call, below, .waiting t es⟩)
  | delivering {call t b left failures below} : call.logger = id → Held id below none →
      Stands id (.delivering call t b left failures :: below)
        (some ⟨call, below, .delivering t b left failures⟩)
  | draining {call below} : call.logger = id → Held id below none →
      Stands id (.draining call :: below) (some ⟨call, below, .draining⟩)

section

variable {id : LoggerId} {f : Frame κ} {stack rest : List (Frame κ)} {st : Option (Station κ)}

theorem held_none_iff : Held id stack none ↔ ∀ f ∈ stack, f.serves id = false := by
  induction stack with
  | nil => simp [Held.nil]
  | cons f rest ih =>
    constructor
    · intro h
      cases h with
      | above hf hrest =>
        intro g hg
        rcases List.mem_cons.1 hg with rfl | hg
        · exact hf
        · exact ih.1 hrest g hg
    · intro h
      exact .above (h f (by simp)) (ih.2 fun g hg => h g (by simp [hg]))

/-- A frame that is no sink at work and of no call on the logger is beside the point. -/
theorem Stands.tail (h : Stands id (f :: rest) st) (hf : f.serves id = false)
    (hr : ∀ sink todo ending, f ≠ .receiving sink todo ending) : Held id rest st := by
  cases h with
  | held h =>
    cases h with
    | above _ h => exact h
    | receiving => exact absurd rfl (hr _ _ _)
  | waiting hc => simp [Frame.serves, hc] at hf
  | delivering hc => simp [Frame.serves, hc] at hf
  | draining hc => simp [Frame.serves, hc] at hf

/-- A call on the logger that is at the top, waits for its turn. -/
theorem Stands.inv_waiting {call : Call} {k : Nat} {es : List Entry}
    (h : Stands id (.waiting call k es :: rest) st) (hc : call.logger = id) :
    st = some ⟨call, rest, .waiting k es⟩ ∧ Held id rest none := by
  cases h with
  | held h =>
    cases h with
    | above hf => simp [Frame.serves, hc] at hf
  | waiting _ hbelow => exact ⟨rfl, hbelow⟩

theorem Stands.inv_delivering {call : Call} {k : Nat} {b : Batch} {left : List Wired}
    {failures : List SinkFailure} (h : Stands id (.delivering call k b left failures :: rest) st)
    (hc : call.logger = id) :
    st = some ⟨call, rest, .delivering k b left failures⟩ ∧ Held id rest none := by
  cases h with
  | held h =>
    cases h with
    | above hf => simp [Frame.serves, hc] at hf
  | delivering _ hbelow => exact ⟨rfl, hbelow⟩

theorem Stands.inv_draining {call : Call} (h : Stands id (.draining call :: rest) st)
    (hc : call.logger = id) : st = some ⟨call, rest, .draining⟩ ∧ Held id rest none := by
  cases h with
  | held h =>
    cases h with
    | above hf => simp [Frame.serves, hc] at hf
  | draining _ hbelow => exact ⟨rfl, hbelow⟩

/-- Held stacks are those on which the thread is delivering, or in no call on the logger. -/
theorem Held.isDelivering_eq (h : Held id stack st) : isDelivering stack id = st.isSome := by
  induction h with
  | nil => rfl
  | @above f stack st hf _ ih =>
    have hd : f.delivers id = false := by
      cases f <;> simp_all [Frame.serves, Frame.delivers]
    simpa [isDelivering, hd] using ih
  | receiving hc _ => simp [isDelivering, Frame.delivers, hc]

theorem Held.eq_none (h : Held id stack st) (hd : isDelivering stack id = false) : st = none := by
  rw [h.isDelivering_eq] at hd
  simpa using hd

theorem Held.exists_receiving (h : Held id stack st) (hd : isDelivering stack id = true) :
    ∃ call below t b w left failures ending,
      st = some ⟨call, below, .receiving t b w left failures ending⟩ := by
  induction h with
  | nil => simp [isDelivering] at hd
  | @above f stack st hf _ ih =>
    apply ih
    have hn : f.delivers id = false := by
      cases f <;> simp_all [Frame.serves, Frame.delivers]
    simpa [isDelivering, hn] using hd
  | receiving => exact ⟨_, _, _, _, _, _, _, _, rfl⟩

/-- Below other frames a call can only be delivering. -/
theorem Held.inTurn {s : Station κ} (h : Held id stack (some s)) : s.phase.inTurn = true := by
  generalize hst : some s = st at h
  induction h with
  | nil => cases hst
  | above _ _ ih => exact ih hst
  | receiving =>
    cases hst
    rfl

/-- A call that waits for its turn is at the top. -/
theorem Stands.of_waiting {call : Call} {below : List (Frame κ)} {k : Nat} {es : List Entry}
    (h : Stands id stack (some ⟨call, below, .waiting k es⟩)) :
    stack = .waiting call k es :: below ∧ call.logger = id := by
  cases h with
  | held h => cases h.inTurn
  | waiting hc => exact ⟨rfl, hc⟩

/-- A frame of a call on the logger is that of the thread's place. -/
theorem Held.of_serves {g : Frame κ} (h : Held id stack st) (hg : g ∈ stack)
    (hs : g.serves id = true) :
    ∃ s, st = some s ∧ g.ticket? = s.phase.ticket? ∧ g.delivers id = s.phase.inTurn := by
  induction h with
  | nil => cases hg
  | above hf _ ih =>
    rcases List.mem_cons.1 hg with rfl | hg
    · rw [hf] at hs
      cases hs
    · exact ih hg
  | receiving hc hbelow =>
    rcases List.mem_cons.1 hg with rfl | hg
    · cases hs
    · rcases List.mem_cons.1 hg with rfl | hg
      · exact ⟨_, rfl, rfl, by simp [Frame.delivers, Phase.inTurn, hc]⟩
      · rw [held_none_iff.1 hbelow g hg] at hs
        cases hs

theorem Stands.of_serves {g : Frame κ} (h : Stands id stack st) (hg : g ∈ stack)
    (hs : g.serves id = true) :
    ∃ s, st = some s ∧ g.ticket? = s.phase.ticket? ∧ g.delivers id = s.phase.inTurn := by
  have hbelow : ∀ {below : List (Frame κ)}, Held id below none → g ∉ below := by
    intro below hb hmem
    rw [held_none_iff.1 hb g hmem] at hs
    cases hs
  cases h with
  | held h => exact h.of_serves hg hs
  | waiting hc hb =>
    obtain rfl := (List.mem_cons.1 hg).resolve_right (hbelow hb)
    exact ⟨_, rfl, rfl, rfl⟩
  | delivering hc hb =>
    obtain rfl := (List.mem_cons.1 hg).resolve_right (hbelow hb)
    exact ⟨_, rfl, rfl, by simp [Frame.delivers, Phase.inTurn, hc]⟩
  | draining hc hb =>
    obtain rfl := (List.mem_cons.1 hg).resolve_right (hbelow hb)
    exact ⟨_, rfl, rfl, rfl⟩

/-- The thread's place is shown by a frame, with those the call returns to right below it. -/
theorem Held.exists_frame {s : Station κ} (h : Held id stack (some s)) :
    ∃ above f, stack = above ++ f :: s.below ∧ f.serves id = true ∧
      f.ticket? = s.phase.ticket? ∧ f.delivers id = s.phase.inTurn := by
  generalize hst : some s = st at h
  induction h with
  | nil => cases hst
  | @above g _ _ _ _ ih =>
    obtain ⟨above, f, rfl, hf⟩ := ih hst
    exact ⟨g :: above, f, rfl, hf⟩
  | receiving hc _ =>
    cases hst
    exact ⟨[_], _, rfl, by simp [Frame.serves, hc], rfl,
      by simp [Frame.delivers, Phase.inTurn, hc]⟩

theorem Stands.exists_frame {s : Station κ} (h : Stands id stack (some s)) :
    ∃ above f, stack = above ++ f :: s.below ∧ f.serves id = true ∧
      f.ticket? = s.phase.ticket? ∧ f.delivers id = s.phase.inTurn := by
  cases h with
  | held h => exact h.exists_frame
  | waiting hc _ => exact ⟨[], _, rfl, by simp [Frame.serves, hc], rfl, rfl⟩
  | delivering hc _ =>
    exact ⟨[], _, rfl, by simp [Frame.serves, hc], rfl, by simp [Frame.delivers, Phase.inTurn, hc]⟩
  | draining hc _ => exact ⟨[], _, rfl, by simp [Frame.serves, hc], rfl, rfl⟩

end

namespace Plant

@[simp] theorem loggers_setLogger_self {p : Plant σ} {id : LoggerId} {l₀ l : Logger}
    (h : p.loggers[id]? = some l₀) : (p.setLogger id l).loggers[id]? = some l := by
  have hlt : id < p.loggers.length := (List.getElem?_eq_some_iff.1 h).1
  simp [setLogger, hlt]

theorem loggers_setLogger_of_ne {p : Plant σ} {id other : LoggerId} {l : Logger}
    (h : other ≠ id) : (p.setLogger other l).loggers[id]? = p.loggers[id]? :=
  List.getElem?_set_ne h

end Plant

namespace Machine

variable {host : Host σ κ ρ} {id : LoggerId}

theorem loggers_grown (loggers : List Logger) (opened : List (FlushPolicy × List Wired))
    (id : LoggerId) :
    (grown loggers opened)[id]? = loggers[id]? ∨
      loggers[id]? = none ∧ ∃ policy sinks,
        (grown loggers opened)[id]? = some (.start policy sinks) := by
  unfold grown
  by_cases hlt : id < loggers.length
  · exact Or.inl (List.getElem?_append_left hlt)
  · have hle : loggers.length ≤ id := Nat.not_lt.1 hlt
    have hnone : loggers[id]? = none := List.getElem?_eq_none hle
    rw [List.getElem?_append_right hle, List.getElem?_map]
    cases opened[id - loggers.length]? with
    | none => simp [hnone]
    | some o => exact Or.inr ⟨hnone, o.1, o.2, rfl⟩

theorem loggers_reply (p : Plant σ) (a : Answer ρ) (stack : List (Frame κ)) :
    (reply host p a stack).1.loggers = p.loggers := by
  unfold reply
  split <;> rfl

theorem held_reply {p : Plant σ} {a : Answer ρ} {stack : List (Frame κ)}
    {st : Option (Station κ)} (h : Held id stack st) :
    Held id (reply host p a stack).2.stack st := by
  unfold reply
  split
  · exact h
  · exact h
  · cases h with
    | above _ h => exact .above rfl h
  · exact h

theorem loggers_finish (p : Plant σ) (a : Answer ρ) (stack : List (Frame κ))
    (hs : List Happening) : (finish host p a stack hs).plant.loggers = p.loggers :=
  loggers_reply p a stack

theorem held_finish {p : Plant σ} {a : Answer ρ} {stack : List (Frame κ)} {hs : List Happening}
    {st : Option (Station κ)} (h : Held id stack st) :
    Held id (finish host p a stack hs).thread.stack st :=
  held_reply h

section

variable (p : Plant σ) (call : Call) (cut : Option (Nat × List Entry) × Logger)
  (stack : List (Frame κ)) (hs : List Happening)

theorem loggers_afterCut :
    (afterCut host p call cut stack hs).plant.loggers = p.loggers.set call.logger cut.2 := by
  unfold afterCut
  split
  · exact loggers_finish ..
  · rfl

theorem happenings_afterCut :
    (afterCut host p call cut stack hs).happenings = hs ++ cutNews call.logger cut := by
  obtain ⟨c, l⟩ := cut
  cases c <;> simp [afterCut, cutNews, finish, proceed]

theorem started_afterCut : (afterCut host p call cut stack hs).started = [] := by
  unfold afterCut
  split <;> rfl

variable {p call cut stack hs}

/-- A thread that was started has one call before it: to log, or to log many times. -/
theorem Rule.eq_of_started {done : List Bool} {out : Turnout σ κ ρ} {th : Thread κ ρ}
    (rule : Rule host p done stack out) (hth : th ∈ out.started) :
    (∃ id message level, th = .run (.log id message level)) ∨
      ∃ id text level count, th = .run (.burst id text level 0 count []) := by
  cases rule with
  | askSpawn => exact Or.inl ⟨_, _, _, List.mem_singleton.1 hth⟩
  | askCrowd =>
    obtain ⟨i, -, rfl⟩ := List.mem_map.1 hth
    exact Or.inr ⟨_, _, _, _, rfl⟩
  | log => simp [started_afterCut] at hth
  | flush => simp [started_afterCut] at hth
  | drain => simp [started_afterCut] at hth
  | _ => cases hth

/-- After a look at the buffer of the logger itself, a cut batch waits for its turn. -/
theorem stands_afterCut (h : Held id stack none) (hc : call.logger = id) :
    Stands id (afterCut host p call cut stack hs).thread.stack
      (Station.afterCut call stack cut) := by
  obtain ⟨c, l⟩ := cut
  cases c with
  | none => exact .held (held_finish h)
  | some c => exact .waiting hc h

theorem held_afterCut {st : Option (Station κ)} (h : Held id stack st) (hc : call.logger ≠ id) :
    Held id (afterCut host p call cut stack hs).thread.stack st := by
  obtain ⟨c, l⟩ := cut
  cases c with
  | none => exact held_finish h
  | some c => exact .above (by simpa [Frame.serves] using hc) h

end

end Machine

end BatchedLog
