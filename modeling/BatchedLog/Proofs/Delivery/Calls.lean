import BatchedLog.Proofs.Delivery.Alone
import BatchedLog.Proofs.Delivery.Drain

/-!
# Calls from beginning to end

A log or flush call of a thread that is alone begins when it is at the top of the stack and is over
when no more frames are left than were below it. Either it comes back at once, or it cuts a batch at
its first step, delivers it, looks at the buffer again and goes on so until there is nothing to cut.
What the thread does in between for other loggers, and for this one from inside the deliveries, is
no move of the call's own. `Stage.Goes` are the moves that are.
-/

namespace BatchedLog

variable {σ κ ρ : Type}

/-- A frame that is about to log or flush through a logger. -/
inductive Frame.Calls (id : LoggerId) : Purpose → Frame κ → Prop
  | log {message level} : Calls id .log (.log id message level)
  | flush : Calls id .flush (.flush id)

namespace System

/-- Thread 0 goes on from `s`, and has more than `depth` frames all the way. -/
inductive Within (host : Host σ κ ρ) (depth : Nat) (s : System σ κ ρ) :
    List Happening → System σ κ ρ → Prop
  | refl : depth < (s.stack 0).length → Within host depth s [] s
  | tail {hs now v u} : Within host depth s hs v → v.step host 0 = some (u, now) →
      depth < (u.stack 0).length → Within host depth s (hs ++ now) u

/-- The call at the top of thread 0, over `depth` frames, is over with the step from `v` to `u`. -/
structure Spans (host : Host σ κ ρ) (depth : Nat) (s : System σ κ ρ) (hs : List Happening)
    (v : System σ κ ρ) (now : List Happening) (u : System σ κ ρ) : Prop where
  within : s.Within host depth hs v
  last : v.step host 0 = some (u, now)
  back : (u.stack 0).length ≤ depth

variable {host : Host σ κ ρ} {depth : Nat} {s s₁ v u : System σ κ ρ}
  {first hs now : List Happening}

theorem Within.steps (h : s.Within host depth hs v) : Steps host s hs v := by
  induction h with
  | refl => exact .refl s
  | tail _ hstep _ ih => exact ih.tail 0 hstep

theorem Within.lt (h : s.Within host depth hs v) : depth < (s.stack 0).length := by
  induction h with
  | refl hlt => exact hlt
  | tail _ _ _ ih => exact ih

theorem Within.head (h : s.Within host depth hs v) :
    (v = s ∧ hs = []) ∨ ∃ s₁ first later, s.step host 0 = some (s₁, first) ∧ hs = first ++ later ∧
      s₁.Within host depth later v := by
  induction h with
  | refl => exact .inl ⟨rfl, rfl⟩
  | @tail hs now v u _ hstep hlt ih =>
    right
    rcases ih with ⟨rfl, rfl⟩ | ⟨s₁, first, later, hfirst, rfl, within⟩
    · exact ⟨u, now, [], hstep, by simp, .refl hlt⟩
    · exact ⟨s₁, first, later ++ now, hfirst, by simp, within.tail hstep hlt⟩

theorem Within.cons (hlt : depth < (s.stack 0).length) (hfirst : s.step host 0 = some (s₁, now))
    (h : s₁.Within host depth hs v) : s.Within host depth (now ++ hs) v := by
  induction h with
  | refl hlt' =>
    rw [List.append_nil]
    exact (Within.refl hlt).tail hfirst hlt'
  | tail _ hstep hlt' ih =>
    rw [← List.append_assoc]
    exact ih.tail hstep hlt'

theorem Spans.cons (hlt : depth < (s.stack 0).length) (hfirst : s.step host 0 = some (s₁, first))
    (h : s₁.Spans host depth hs v now u) : s.Spans host depth (first ++ hs) v now u :=
  ⟨h.within.cons hlt hfirst, h.last, h.back⟩

/-- Let thread 0 go on until its call is over, but for `fuel` steps at most. -/
def carry (host : Host σ κ ρ) (depth : Nat) : Nat → System σ κ ρ →
    Option (List Happening × System σ κ ρ × List Happening × System σ κ ρ)
  | 0, _ => none
  | fuel + 1, s =>
    match s.step host 0 with
    | none => none
    | some (u, now) =>
      if (u.stack 0).length ≤ depth then some ([], s, now, u)
      else
        match carry host depth fuel u with
        | none => none
        | some (hs, v, last, w) => some (now ++ hs, v, last, w)

theorem spans_of_carry {fuel : Nat} (hlt : depth < (s.stack 0).length)
    (h : carry host depth fuel s = some (hs, v, now, u)) : s.Spans host depth hs v now u := by
  induction fuel generalizing s hs with
  | zero => cases h
  | succ fuel ih =>
    unfold carry at h
    split at h
    · cases h
    · rename_i next first hstep
      split at h
      · rename_i hle
        cases h
        exact ⟨.refl hlt, hstep, hle⟩
      · rename_i hlt'
        split at h
        · cases h
        · rename_i later v' last w hcarry
          cases h
          exact (ih (Nat.lt_of_not_le hlt') hcarry).cons hlt hstep

theorem Spans.steps (h : s.Spans host depth hs v now u) : Steps host s (hs ++ now) u :=
  h.within.steps.tail 0 h.last

/-- A call is over with its first step, or goes on from there. -/
theorem Spans.head (h : s.Spans host depth hs v now u) :
    (v = s ∧ hs = []) ∨ ∃ s₁ first later, s.step host 0 = some (s₁, first) ∧ hs = first ++ later ∧
      s₁.Spans host depth later v now u := by
  rcases h.within.head with hrefl | ⟨s₁, first, later, hfirst, hsplit, within⟩
  · exact .inl hrefl
  · exact .inr ⟨s₁, first, later, hfirst, hsplit, within, h.last, h.back⟩

end System

/-! ## Steps and returns -/

namespace System

variable {host : Host σ κ ρ} {s u : System σ κ ρ} {t : ThreadId} {now : List Happening}

/-- What a step leaves is what its stack comes to. -/
theorem leaves_of_step {out : Turnout σ κ ρ} (hstep : s.step host t = some (u, now))
    (hout : Machine.stepStack host s.plant s.done (s.stack t) = some out) :
    now = out.happenings ∧ u.stack t = out.thread.stack ∧ u.plant.loggers = out.plant.loggers := by
  have live := (stepped hstep).choose_spec.1.live
  have ht : s.threads[t]? = some s.threads[t] := List.getElem?_eq_getElem live
  have hstack : s.stack t = s.threads[t].stack := by simp [stack, ht]
  have hdone : Machine.stepStack host s.plant (s.threads.map (·.stack.isEmpty)) s.threads[t].stack =
      some out := by
    rw [← hstack]
    exact hout
  unfold step at hstep
  rw [ht] at hstep
  dsimp only at hstep
  rw [hdone] at hstep
  cases hstep
  exact ⟨rfl, by simp [stack, List.getElem?_append_left, live], rfl⟩

theorem length_reply (p : Plant σ) (a : Answer ρ) (rest : List (Frame κ)) :
    (Machine.reply host p a rest).2.stack.length = rest.length := by
  unfold Machine.reply
  split
  · rfl
  · rfl
  · rfl
  · rfl

/-- A step that ends a call is its return. -/
theorem returns_of_stepStack {f : Frame κ} {rest : List (Frame κ)} {p : Plant σ} {a : Answer ρ}
    {news : List Happening} (hstep : s.step host t = some (u, now)) (hstack : s.stack t = f :: rest)
    (hout : Machine.stepStack host s.plant s.done (s.stack t) =
      some (Machine.finish host p a rest news)) :
    s.Returns host t a news u ∧ now = news := by
  obtain ⟨hnow, -, -⟩ := leaves_of_step hstep hout
  have hnews : now = news := hnow
  subst hnews
  exact ⟨⟨hstep, f, rest, p, hstack, hout⟩, rfl⟩

/-- A return leaves the frames that were below the call. -/
theorem Returns.length_stack {a : Answer ρ} (h : s.Returns host t a now u) :
    (u.stack t).length + 1 = (s.stack t).length := by
  obtain ⟨hstep, f, rest, p, hstack, hout⟩ := h
  obtain ⟨-, hself, -⟩ := leaves_of_step hstep hout
  have hlength : (u.stack t).length = rest.length := by
    rw [hself]
    exact length_reply p a rest
  rw [hlength, hstack, List.length_cons]

/-- A look at the buffer is the return of the call, or cuts a batch to wait with. -/
theorem step_of_afterCut {id : LoggerId} {f : Frame κ} {rest : List (Frame κ)} {p : Plant σ}
    {call : Call} {r : Option (Nat × List Entry) × Logger} {news : List Happening}
    (hstep : s.step host t = some (u, now)) (hstack : s.stack t = f :: rest)
    (hout : Machine.stepStack host s.plant s.done (s.stack t) =
      some (Machine.afterCut host p call r rest news))
    (hid : call.logger = id) (hlt : id < p.loggers.length) :
    u.plant.loggers[id]? = some r.2 ∧
      ((r.1 = none ∧ s.Returns host t call.answer news u ∧ now = news) ∨
        ∃ k es, r.1 = some (k, es) ∧ now = news ++ [.cut id k es] ∧
          u.stack t = .waiting call k es :: rest) := by
  obtain ⟨hnow, hself, hloggers⟩ := leaves_of_step hstep hout
  constructor
  · rw [hloggers, Machine.loggers_afterCut, hid, List.getElem?_set_self hlt]
  · obtain ⟨c, l⟩ := r
    cases c with
    | none =>
      obtain ⟨returns, hnow⟩ := returns_of_stepStack hstep hstack hout
      exact .inl ⟨rfl, returns, hnow⟩
    | some c =>
      subst hid
      exact .inr ⟨c.1, c.2, rfl, hnow, hself⟩

end System

/-! ## The moves of a call -/

/-- A logger in the middle of a call that has cut a batch, and how far the call has come. -/
structure Stage where
  logger : Logger
  call : Call
  phase : Phase

def Stage.station (a : Stage) (below : List (Frame κ)) : Station κ := ⟨a.call, below, a.phase⟩

/-- The moves of a call that returns to the frames `below`. -/
inductive Stage.Goes (id : LoggerId) (below : List (Frame κ)) (first : Stage) :
    List Happening → Stage → Prop
  | refl : Goes id below first [] first
  | tail {hs now a b} : Goes id below first hs a →
      Move id (some a.logger) (some (a.station below)) now
        (some b.logger) (some (b.station below)) →
      Goes id below first (hs ++ now) b

/-- A call always returns to the same frames. -/
theorem Move.below_eq {id : LoggerId} {l o : Option Logger} {st st' : Station κ}
    {now : List Happening} (move : Move id l (some st) now o (some st')) :
    st'.below = st.below := by
  generalize hst : some st = before at move
  generalize hst' : some st' = after at move
  cases move with
  | drain =>
    obtain ⟨c, -, hc⟩ := Option.map_eq_some_iff.1 hst'.symm
    cases hst
    rw [← hc]
  | log => cases hst
  | flush => cases hst
  | _ =>
    cases hst
    cases hst'
    rfl

/-- A call is over when it looks at the buffer and there is nothing to cut. -/
theorem Move.of_none {id : LoggerId} {l : Logger} {o : Option Logger} {st : Station κ}
    {now : List Happening} (move : Move id (some l) (some st) now o none) :
    st.phase = .draining ∧ l.cutDue.1 = none ∧ now = [] ∧ o = some l.cutDue.2 := by
  generalize hst : some st = before at move
  generalize hst' : none = after at move
  cases move with
  | drain =>
    cases hst
    have hnone : l.cutDue.1 = none := Option.map_eq_none_iff.1 hst'.symm
    exact ⟨rfl, hnone, by simp [cutNews, hnone], rfl⟩
  | log => cases hst
  | flush => cases hst
  | elsewhere =>
    cases hst
    cases hst'
  | _ => cases hst'

theorem Stands.held_of_none {id : LoggerId} {stack : List (Frame κ)} (h : Stands id stack none) :
    Held id stack none := by
  cases h with
  | held h => exact h

/-- Below other frames a call is not at the end. -/
theorem Stands.of_draining {id : LoggerId} {stack below : List (Frame κ)} {call : Call}
    (h : Stands id stack (some ⟨call, below, .draining⟩)) :
    stack = .draining call :: below ∧ call.logger = id := by
  cases h with
  | held h => cases h.inTurn
  | draining hc => exact ⟨rfl, hc⟩

/-- A call cuts a batch with its first step: an entry that it logs is in the buffer by then. -/
inductive Call.Opens (id : LoggerId) : Purpose → Logger → List Happening → Logger → Nat →
    List Entry → Prop
  | log {l e l' k es} : (l.push e).cutDue = (some (k, es), l') →
      Opens id .log l [.accepted id e, .cut id k es] l' k es
  | flush {l l' k es} : l.cutAll = (some (k, es), l') →
      Opens id .flush l [.flushed id, .cut id k es] l' k es

/-- A call that comes back at once has cut nothing: its thread delivers for the logger, or there is
nothing to be cut. -/
inductive Call.Passes (id : LoggerId) : Purpose → List Happening → Prop
  | log {e} : Passes id .log [.accepted id e]
  | held : Passes id .flush []
  | flush : Passes id .flush [.flushed id]

namespace System

variable {host : Host σ κ ρ} {id : LoggerId} {purpose : Purpose} {f : Frame κ}
  {rest : List (Frame κ)} {l : Logger} {st : Option (Station κ)} {s u : System σ κ ρ}
  {now : List Happening}

/-- What the first step of a call does. -/
theorem step_of_calls (calls : f.Calls id purpose) (hl : s.plant.loggers[id]? = some l)
    (hstack : s.stack 0 = f :: rest) (hstep : s.step host 0 = some (u, now)) :
    (s.Returns host 0 (Call.start id purpose).answer now u ∧ Call.Passes id purpose now) ∨
      isDelivering rest id = false ∧ ∃ l' k es, Call.Opens id purpose l now l' k es ∧
        u.plant.loggers[id]? = some l' ∧
        u.stack 0 = .waiting (.start id purpose) k es :: rest := by
  have hlt : id < s.plant.loggers.length := (List.getElem?_eq_some_iff.1 hl).1
  cases hd : isDelivering rest id with
  | true =>
    left
    cases calls with
    | @log message level =>
      have hout : Machine.stepStack host s.plant s.done (s.stack 0) =
          some (Machine.finish host
            (s.plant.read.setLogger id (l.push (s.plant.entry host message level)))
            (.logged (.ok ())) rest [.accepted id (s.plant.entry host message level)]) := by
        simp only [hstack, Machine.stepStack, hl, hd, if_true]
        rfl
      obtain ⟨returns, rfl⟩ := returns_of_stepStack hstep hstack hout
      exact ⟨returns, .log⟩
    | flush =>
      have hout : Machine.stepStack host s.plant s.done (s.stack 0) =
          some (Machine.finish host s.plant (.flushed (.ok 0)) rest []) := by
        simp only [hstack, Machine.stepStack, hl, hd, if_true]
      obtain ⟨returns, rfl⟩ := returns_of_stepStack hstep hstack hout
      exact ⟨returns, .held⟩
  | false =>
    cases calls with
    | @log message level =>
      have hout : Machine.stepStack host s.plant s.done (s.stack 0) =
          some (Machine.afterCut host s.plant.read (.start id .log)
            (l.push (s.plant.entry host message level)).cutDue rest
            [.accepted id (s.plant.entry host message level)]) := by
        simp only [hstack, Machine.stepStack, hl, hd]
        rfl
      obtain ⟨hl', ⟨-, returns, rfl⟩ | ⟨k, es, hcut, rfl, hself⟩⟩ :=
        step_of_afterCut hstep hstack hout rfl hlt
      · exact .inl ⟨returns, .log⟩
      · exact .inr ⟨rfl, _, k, es, .log (Prod.ext hcut rfl), hl', hself⟩
    | flush =>
      have hout : Machine.stepStack host s.plant s.done (s.stack 0) =
          some (Machine.afterCut host s.plant (.start id .flush) l.cutAll rest [.flushed id]) := by
        simp only [hstack, Machine.stepStack, hl, hd]
        rfl
      obtain ⟨hl', ⟨-, returns, rfl⟩ | ⟨k, es, hcut, rfl, hself⟩⟩ :=
        step_of_afterCut hstep hstack hout rfl hlt
      · exact .inl ⟨returns, .flush⟩
      · exact .inr ⟨rfl, _, k, es, .flush (Prod.ext hcut rfl), hl', hself⟩

/-- Thread 0 is at this stage of a call on the logger. -/
structure At (s : System σ κ ρ) (id : LoggerId) (below : List (Frame κ)) (a : Stage) : Prop where
  logger : s.plant.loggers[id]? = some a.logger
  stands : Stands id (s.stack 0) (some (a.station below))

/-- A call that has cut nothing more returns with its step at the end. -/
theorem At.returns {a : Stage} (h : s.At id rest a) (hphase : a.phase = .draining)
    (hcut : a.logger.cutDue.1 = none) (hstep : s.step host 0 = some (u, now)) :
    s.stack 0 = .draining a.call :: rest ∧ s.Returns host 0 a.call.answer [] u := by
  obtain ⟨l, call, phase⟩ := a
  obtain rfl : phase = .draining := hphase
  have hl : s.plant.loggers[id]? = some l := h.logger
  have hlt : id < s.plant.loggers.length := (List.getElem?_eq_some_iff.1 hl).1
  obtain ⟨hstack, hid⟩ : s.stack 0 = .draining call :: rest ∧ call.logger = id :=
    h.stands.of_draining
  have hout : Machine.stepStack host s.plant s.done (s.stack 0) =
      some (Machine.afterCut host s.plant call l.cutDue rest []) := by
    rw [hstack]
    simp only [Machine.stepStack, hid, hl]
  obtain ⟨-, ⟨-, returns, -⟩ | ⟨k, es, hsome, -⟩⟩ :=
    step_of_afterCut hstep hstack hout hid hlt
  · exact ⟨hstack, returns⟩
  · rw [hcut] at hsome
    cases hsome

theorem At.lt {a : Stage} (h : s.At id rest a) : rest.length < (s.stack 0).length := by
  obtain ⟨above, f, hstack, -⟩ := h.stands.exists_frame
  rw [hstack, List.length_append, List.length_cons]
  dsimp only [Stage.station]
  omega

/-- A call is over with the step from `s` to `u`: it has looked at the buffer and cut nothing. -/
structure Closes (host : Host σ κ ρ) (s : System σ κ ρ) (id : LoggerId) (rest : List (Frame κ))
    (a : Stage) (now : List Happening) (u : System σ κ ρ) : Prop where
  phase : a.phase = .draining
  cut : a.logger.cutDue = (none, a.logger)
  news : now = []
  returns : s.Returns host 0 a.call.answer [] u
  logger : u.plant.loggers[id]? = some a.logger
  held : Held id (u.stack 0) none
  length : (u.stack 0).length = rest.length

/-- A step of a thread that is in a call is a move of the call, or its return. -/
theorem At.step {a : Stage} (h : s.At id rest a) (hstep : s.step host 0 = some (u, now)) :
    (∃ b : Stage, Move id (some a.logger) (some (a.station rest)) now (some b.logger)
      (some (b.station rest)) ∧ u.At id rest b) ∨ s.Closes host id rest a now u := by
  obtain ⟨out, stepped, hnow⟩ := stepped hstep
  obtain ⟨st, moved⟩ := stepped.rule.move h.stands
  have move := moved.move
  have stands := moved.stands
  rw [h.logger, ← hnow, ← stepped.loggers] at move
  rw [← stepped.self] at stands
  obtain ⟨l', hl', -⟩ := move.keeps
  cases st with
  | some st =>
    obtain ⟨call, below, phase⟩ := st
    obtain rfl : below = rest := move.below_eq
    rw [hl'] at move
    exact .inl ⟨⟨l', call, phase⟩, move, hl', stands⟩
  | none =>
    obtain ⟨hphase, hnone, hnow', ho⟩ := move.of_none
    have hcut : a.logger.cutDue = (none, a.logger) := by
      rcases a.logger.cutDue_cuts with hsame | ⟨-, hsome⟩
      · exact hsame
      · rw [hsome] at hnone
        cases hnone
    obtain ⟨hstack, returns⟩ := h.returns hphase hnone hstep
    have hlength := returns.length_stack
    rw [hstack, List.length_cons] at hlength
    rw [hcut] at ho
    exact .inr ⟨hphase, hcut, hnow', returns, ho, stands.held_of_none, Nat.succ.inj hlength⟩

variable {v s₁ : System σ κ ρ} {hs : List Happening} {a : Stage}

theorem At.within (h : s₁.At id rest a) (within : s₁.Within host rest.length hs v) :
    ∃ b, Stage.Goes id rest a hs b ∧ v.At id rest b := by
  induction within with
  | refl => exact ⟨a, .refl, h⟩
  | tail _ hstep hlt ih =>
    obtain ⟨b, goes, hb⟩ := ih
    rcases hb.step hstep with ⟨c, move, hc⟩ | closes
    · exact ⟨c, goes.tail move, hc⟩
    · rw [closes.length] at hlt
      exact absurd hlt (Nat.lt_irrefl _)

/-- A call that has cut a batch goes on by its own moves until it is over. -/
theorem At.spans (h : s₁.At id rest a) (spans : s₁.Spans host rest.length hs v now u) :
    ∃ b, Stage.Goes id rest a hs b ∧ v.Closes host id rest b now u := by
  obtain ⟨b, goes, hb⟩ := h.within spans.within
  rcases hb.step spans.last with ⟨c, -, hc⟩ | closes
  · exact absurd hc.lt (Nat.not_lt.2 spans.back)
  · exact ⟨b, goes, closes⟩

/-- A call comes back with its first step, or has then cut a batch and goes on until it is over. -/
theorem Spans.cases (spans : s.Spans host rest.length hs v now u) (calls : f.Calls id purpose)
    (hl : s.plant.loggers[id]? = some l) (hstack : s.stack 0 = f :: rest)
    (stands : Stands id (s.stack 0) st) :
    (hs = [] ∧ v.Returns host 0 (Call.start id purpose).answer now u ∧
      Call.Passes id purpose now) ∨
    ∃ s₁ first later l' k es b, s.step host 0 = some (s₁, first) ∧ hs = first ++ later ∧
      s₁.Spans host rest.length later v now u ∧ Call.Opens id purpose l first l' k es ∧
      Held id rest none ∧ s₁.At id rest ⟨l', .start id purpose, .waiting k es⟩ ∧
      Stage.Goes id rest ⟨l', .start id purpose, .waiting k es⟩ later b ∧
      v.Closes host id rest b now u := by
  have hheld : Held id rest st := by
    rw [hstack] at stands
    cases calls with
    | log => exact stands.tail rfl (by simp)
    | flush => exact stands.tail rfl (by simp)
  rcases spans.head with ⟨rfl, rfl⟩ | ⟨s₁, first, later, hfirst, rfl, spans'⟩
  · rcases step_of_calls calls hl hstack spans.last with
      ⟨returns, passes⟩ | ⟨-, _, _, _, -, -, hself⟩
    · exact .inl ⟨rfl, returns, passes⟩
    · have hback := spans.back
      rw [hself, List.length_cons] at hback
      exact absurd hback (Nat.not_succ_le_self _)
  · rcases step_of_calls calls hl hstack hfirst with
      ⟨returns, -⟩ | ⟨hd, l', k, es, opens, hl', hself⟩
    · have hlength := returns.length_stack
      have hlt := spans'.within.lt
      rw [hstack, List.length_cons] at hlength
      omega
    · obtain rfl := hheld.eq_none hd
      have hat : s₁.At id rest ⟨l', .start id purpose, .waiting k es⟩ :=
        ⟨hl', hself ▸ .waiting rfl hheld⟩
      obtain ⟨b, goes, closes⟩ := hat.spans spans'
      exact .inr ⟨s₁, first, later, l', k, es, b, hfirst, rfl, spans', opens, hheld, hat, goes,
        closes⟩

end System

end BatchedLog
