import BatchedLog.Proofs.Delivery.Course

/-!
# What goes in comes out

Over all loggers and threads together three accounts balance, and every step keeps them balanced.
Entries that got into a buffer are pending or were cut; batches that were cut wait for their turn or
were dispatched; sinks that were going to fail are still at work or have failed. What there is of a
kind is spread over the loggers, or over the stacks of the threads, so a step is weighed by the one
logger and the one stack that it changes.
-/

namespace BatchedLog

variable {σ κ ρ : Type}

/-! ## Flows -/

/-- What is there in the end and what went out are what was there before and what came in, if not
in this order. -/
def Flows {α : Type} (before inflow after outflow : List α) : Prop :=
  (after ++ outflow).Perm (before ++ inflow)

namespace Flows

variable {α β : Type} {before inflow mid after outflow : List α}

theorem iff_count [DecidableEq α] : Flows before inflow after outflow ↔
    ∀ a, after.count a + outflow.count a = before.count a + inflow.count a := by
  simp only [Flows, List.perm_iff_count, List.count_append]

theorem still (xs : List α) : Flows xs [] xs [] := .refl _

theorem of_eq (h : after = before) : Flows before [] after [] := h ▸ still before

theorem enter (xs inflow : List α) : Flows xs inflow (inflow ++ xs) [] := by
  simpa [Flows] using List.perm_append_comm

theorem leave (xs outflow : List α) : Flows (outflow ++ xs) [] xs outflow := by
  simpa [Flows] using List.perm_append_comm

/-- Where nothing is there before or after, all that came in went out. -/
theorem perm (h : Flows [] inflow [] outflow) : outflow.Perm inflow := h

theorem trans {inflow' outflow' : List α} (first : Flows before inflow mid outflow)
    (second : Flows mid inflow' after outflow') :
    Flows before (inflow ++ inflow') after (outflow ++ outflow') := by
  classical
  rw [iff_count] at first second ⊢
  intro a
  have hfirst := first a
  have hsecond := second a
  simp only [List.count_append]
  omega

/-- What is behind stays there. -/
theorem append_right (h : Flows before inflow after outflow) (rest : List α) :
    Flows (before ++ rest) inflow (after ++ rest) outflow := by
  classical
  rw [iff_count] at h ⊢
  intro a
  have ha := h a
  simp only [List.count_append]
  omega

theorem append_left (h : Flows before inflow after outflow) (rest : List α) :
    Flows (rest ++ before) inflow (rest ++ after) outflow := by
  classical
  rw [iff_count] at h ⊢
  intro a
  have ha := h a
  simp only [List.count_append]
  omega

/-- Of many places one has changed. -/
theorem set {f : β → List α} {xs : List β} {i : Nat} {x y : β} (hx : xs[i]? = some x)
    (h : Flows (f x) inflow (f y) outflow) :
    Flows (xs.flatMap f) inflow ((xs.set i y).flatMap f) outflow := by
  induction xs generalizing i with
  | nil => cases hx
  | cons z xs ih =>
    cases i with
    | zero =>
      obtain rfl : z = x := Option.some.inj hx
      exact h.append_right (xs.flatMap f)
    | succ i => exact (ih hx).append_left (f z)

end Flows

/-! ## What happens anywhere -/

def Happening.batch? : Happening → Option Batch
  | .began _ _ batch _ => some batch
  | _ => none

/-- The entries that got into a buffer. -/
def acceptedIn (hs : List Happening) : List Entry := hs.filterMap Happening.entry?

/-- The batches that were cut from a buffer. -/
def cutIn (hs : List Happening) : List (List Entry) := (hs.filterMap Happening.cut?).map (·.2)

/-- The batches that were dispatched. -/
def begunIn (hs : List Happening) : List (List Entry) :=
  (hs.filterMap Happening.batch?).map (·.entries)

/-- The names of the sinks that failed. -/
def failedIn (hs : List Happening) : List String :=
  (hs.filterMap Happening.failure?).map (·.sink)

section

variable (hs now : List Happening) (id : LoggerId) (cut : Option (Nat × List Entry) × Logger)

theorem acceptedIn_append : acceptedIn (hs ++ now) = acceptedIn hs ++ acceptedIn now :=
  List.filterMap_append ..

theorem cutIn_append : cutIn (hs ++ now) = cutIn hs ++ cutIn now := by
  simp [cutIn]

theorem begunIn_append : begunIn (hs ++ now) = begunIn hs ++ begunIn now := by
  simp [begunIn]

theorem failedIn_append : failedIn (hs ++ now) = failedIn hs ++ failedIn now := by
  simp [failedIn]

@[simp] theorem acceptedIn_cutNews : acceptedIn (cutNews id cut) = [] := by
  obtain ⟨_ | c, l⟩ := cut
  · rfl
  · rfl

@[simp] theorem cutIn_cutNews : cutIn (cutNews id cut) = (cut.1.map (·.2)).toList := by
  obtain ⟨_ | c, l⟩ := cut
  · rfl
  · rfl

@[simp] theorem begunIn_cutNews : begunIn (cutNews id cut) = [] := by
  obtain ⟨_ | c, l⟩ := cut
  · rfl
  · rfl

@[simp] theorem failedIn_cutNews : failedIn (cutNews id cut) = [] := by
  obtain ⟨_ | c, l⟩ := cut
  · rfl
  · rfl

end

/-! ## What is under way -/

/-- The entries pending in all buffers. -/
def pendingIn (loggers : List Logger) : List Entry := loggers.flatMap (·.buffer.pending)

/-- The batch that waits for its turn, if the frame is one that waits. -/
def Frame.waits : Frame κ → List (List Entry)
  | .waiting _ _ entries => [entries]
  | _ => []

def waits (stack : List (Frame κ)) : List (List Entry) := stack.flatMap Frame.waits

/-- Whether a sink is at work that is going to fail. -/
def Frame.fails : Frame κ → Bool
  | .receiving _ _ (.error _) => true
  | _ => false

/-- The name of the sink that takes the batch of the top frame, or is the next to. -/
def nextSink : List (Frame κ) → List String
  | .delivering _ _ _ (w :: _) _ :: _ => [w.name]
  | _ => []

/-- The sinks at work that are going to fail. -/
def owes : List (Frame κ) → List String
  | [] => []
  | f :: rest => (if f.fails then nextSink rest else []) ++ owes rest

namespace Machine

/-- The sink that a thread with this stack hands a batch next, if it is going to fail with it. -/
def refused (host : Host σ κ ρ) (p : Plant σ) : List (Frame κ) → List String
  | .delivering _ _ batch (w :: _) _ :: _ =>
    match (host.receive p.host w.sink batch).2.2.caught with
    | .ok _ => []
    | .error _ => [w.name]
  | _ => []

end Machine

theorem Logger.Cuts.flows {l : Logger} {r : Option (Nat × List Entry) × Logger} (cuts : l.Cuts r) :
    Flows l.buffer.pending [] r.2.buffer.pending (r.1.map (·.2)).toList.flatten := by
  rcases cuts with rfl | ⟨-, rfl⟩
  · exact .still _
  · simp [Flows, emptied]

theorem Logger.flows_push (l : Logger) (e : Entry) :
    Flows l.buffer.pending [e] (l.push e).buffer.pending [] := by
  simp [Flows, push]

namespace Machine

variable {host : Host σ κ ρ} {p : Plant σ} {done : List Bool} {stack : List (Frame κ)}
  {out : Turnout σ κ ρ}

/-! ## Entries -/

/-- A look at the buffer of a logger that may have got entries just before. -/
theorem pendingIn_afterCut {q : Plant σ} {call : Call} {l l' : Logger}
    {cut : Option (Nat × List Entry) × Logger} {hs : List Happening}
    (hl : p.loggers[call.logger]? = some l) (hq : q.loggers = p.loggers)
    (hl' : Flows l.buffer.pending (acceptedIn hs) l'.buffer.pending []) (cuts : l'.Cuts cut)
    (hcut : cutIn hs = []) :
    Flows (pendingIn p.loggers) (acceptedIn (afterCut host q call cut stack hs).happenings)
      (pendingIn (afterCut host q call cut stack hs).plant.loggers)
      (cutIn (afterCut host q call cut stack hs).happenings).flatten := by
  rw [loggers_afterCut, happenings_afterCut, hq, acceptedIn_append, cutIn_append, hcut,
    acceptedIn_cutNews, cutIn_cutNews]
  exact (hl'.trans cuts.flows).set hl

/-- Every step keeps the account of entries. -/
theorem Rule.pendingIn (rule : Rule host p done stack out) :
    Flows (pendingIn p.loggers) (acceptedIn out.happenings) (pendingIn out.plant.loggers)
      (cutIn out.happenings).flatten := by
  cases rule with
  | perform =>
    rw [loggers_finish]
    apply Flows.of_eq
    simp [BatchedLog.pendingIn, grown, Logger.start, Buffer.empty, List.flatMap_map]
  | logHeld hl =>
    rw [loggers_finish]
    exact (Logger.flows_push _ _).set hl
  | log hl =>
    exact pendingIn_afterCut hl rfl (Logger.flows_push _ _) (Logger.cutDue_cuts _) rfl
  | flush hl => exact pendingIn_afterCut hl rfl (.still _) (Logger.cutAll_cuts _) rfl
  | drain hl => exact pendingIn_afterCut hl rfl (.still _) (Logger.cutDue_cuts _) rfl
  | release hl => exact (Flows.still _).set hl
  | askSpawn | logNowhere | flushNowhere | flushHeld | burstEnd | join =>
    exact .of_eq (by rw [loggers_finish])
  | _ => exact .still _

/-! ## Batches -/

theorem waits_reply (p : Plant σ) (a : Answer ρ) (stack : List (Frame κ)) :
    waits (reply host p a stack).2.stack = waits stack :=
  flatMap_reply rfl

/-- What is cut from a buffer waits. -/
theorem waits_afterCut (p : Plant σ) (call : Call) (cut : Option (Nat × List Entry) × Logger)
    (stack : List (Frame κ)) {hs : List Happening} (hcut : cutIn hs = [])
    (hbegun : begunIn hs = []) :
    Flows (waits stack) (cutIn (afterCut host p call cut stack hs).happenings)
      (waits (afterCut host p call cut stack hs).thread.stack)
      (begunIn (afterCut host p call cut stack hs).happenings) := by
  rw [happenings_afterCut, cutIn_append, begunIn_append, hcut, hbegun, cutIn_cutNews,
    begunIn_cutNews]
  obtain ⟨_ | c, l⟩ := cut
  · exact .of_eq (waits_reply ..)
  · exact .enter (waits stack) [c.2]

/-- Every step keeps the account of batches. -/
theorem Rule.waits (rule : Rule host p done stack out) :
    Flows (waits stack) (cutIn out.happenings) (waits out.thread.stack)
      (begunIn out.happenings) := by
  cases rule with
  | log | flush | drain => exact waits_afterCut _ _ _ _ rfl rfl
  | @turn _ _ entries rest => exact .leave (BatchedLog.waits rest) [entries]
  | perform | logHeld | askSpawn | logNowhere | flushNowhere | flushHeld | burstEnd | join =>
    exact .of_eq (waits_reply ..)
  | _ => exact .still _

/-! ## Failures -/

theorem owes_reply (p : Plant σ) (a : Answer ρ) (stack : List (Frame κ)) :
    owes (reply host p a stack).2.stack = owes stack := by
  unfold reply
  split <;> rfl

theorem owes_afterCut (p : Plant σ) (call : Call) (cut : Option (Nat × List Entry) × Logger)
    (stack : List (Frame κ)) {hs : List Happening} (hfailed : failedIn hs = []) :
    Flows (owes stack) [] (owes (afterCut host p call cut stack hs).thread.stack)
      (failedIn (afterCut host p call cut stack hs).happenings) := by
  rw [happenings_afterCut, failedIn_append, hfailed, failedIn_cutNews]
  obtain ⟨_ | c, l⟩ := cut
  · exact .of_eq (owes_reply ..)
  · exact .still _

/-- Every step keeps the account of failures. -/
theorem Rule.owes (rule : Rule host p done stack out) :
    Flows (owes stack) (refused host p stack) (owes out.thread.stack)
      (failedIn out.happenings) := by
  cases rule with
  | log | flush | drain => exact owes_afterCut _ _ _ _ rfl
  | @hand call ticket batch w left failures rest h todo ending heq =>
    have href : refused host p (.delivering call ticket batch (w :: left) failures :: rest) =
        if Frame.fails (.receiving w.sink todo ending.caught) then [w.name] else [] := by
      cases hcaught : ending.caught with
      | ok => simp [refused, heq, hcaught, Frame.fails]
      | error e => simp [refused, heq, hcaught, Frame.fails]
    rw [href]
    exact .enter ..
  | @order sink c todo ending rest =>
    cases ending with
    | ok => exact .still _
    | error e => exact .still _
  | @failed _ _ _ _ _ w left _ rest => exact .leave (BatchedLog.owes rest) [w.name]
  | @astray sink ending rest hne =>
    have hnone : nextSink rest = [] := by
      unfold nextSink
      split
      · exact absurd rfl (hne _ _ _ _ _ _ _)
      · rfl
    exact .of_eq (by simp [BatchedLog.owes, hnone, proceed])
  | perform | logHeld | askSpawn | logNowhere | flushNowhere | flushHeld | burstEnd | join =>
    exact .of_eq (owes_reply ..)
  | _ => exact .still _

/-- A thread that was started neither waits nor fails. -/
theorem Rule.idle_of_started {th : Thread κ ρ} (rule : Rule host p done stack out)
    (hth : th ∈ out.started) : BatchedLog.waits th.stack = [] ∧ BatchedLog.owes th.stack = [] := by
  obtain ⟨_, _, _, rfl⟩ | ⟨_, _, _, _, rfl⟩ := rule.eq_of_started hth
  · exact ⟨rfl, rfl⟩
  · exact ⟨rfl, rfl⟩

end Machine

/-! ## The system -/

namespace System

/-- The batches that wait for their turn. -/
def waits (s : System σ κ ρ) : List (List Entry) :=
  s.threads.flatMap fun th => BatchedLog.waits th.stack

/-- The sinks at work that are going to fail. -/
def owes (s : System σ κ ρ) : List String := s.threads.flatMap fun th => BatchedLog.owes th.stack

/-- The sink that a thread hands a batch in its next step, if it is going to fail with it. -/
def refused (host : Host σ κ ρ) (s : System σ κ ρ) (t : ThreadId) : List String :=
  Machine.refused host s.plant (s.stack t)

variable {host : Host σ κ ρ} {s u : System σ κ ρ} {t : ThreadId} {now : List Happening}

theorem exists_turnout (h : s.step host t = some (u, now)) :
    ∃ (th : Thread κ ρ) (out : Turnout σ κ ρ), s.threads[t]? = some th ∧
      Machine.Rule host s.plant s.done th.stack out ∧
      u.plant = { out.plant with host := out.happenings.foldl host.observe out.plant.host } ∧
      u.threads = s.threads.set t out.thread ++ out.started ∧ now = out.happenings := by
  unfold step at h
  split at h
  · cases h
  · rename_i th hth
    split at h
    · cases h
    · rename_i out hout
      cases h
      exact ⟨th, out, hth, Machine.rule_of_stepStack host hout, rfl, rfl, rfl⟩

theorem stack_of_getElem {th : Thread κ ρ} (h : s.threads[t]? = some th) :
    s.stack t = th.stack := by
  simp [stack, h]

/-- What is spread over the stacks flows as it does on the stack of the thread that takes a step, if
threads that were started have none of it. -/
theorem flows_threads {α : Type} {f : List (Frame κ) → List α} {th th' : Thread κ ρ}
    {started : List (Thread κ ρ)} {inflow outflow : List α} (hth : s.threads[t]? = some th)
    (hthreads : u.threads = s.threads.set t th' ++ started)
    (hstarted : ∀ v ∈ started, f v.stack = [])
    (h : Flows (f th.stack) inflow (f th'.stack) outflow) :
    Flows (s.threads.flatMap fun v => f v.stack) inflow (u.threads.flatMap fun v => f v.stack)
      outflow := by
  have hnone : started.flatMap (fun v => f v.stack) = [] := List.flatMap_eq_nil_iff.2 hstarted
  rw [hthreads, List.flatMap_append, hnone, List.append_nil]
  exact h.set hth

/-- The three accounts over some steps, in which these things happened and these sinks refused. -/
structure Flow (s : System σ κ ρ) (now : List Happening) (refusals : List String)
    (u : System σ κ ρ) : Prop where
  entries : Flows (pendingIn s.plant.loggers) (acceptedIn now) (pendingIn u.plant.loggers)
    (cutIn now).flatten
  batches : Flows s.waits (cutIn now) u.waits (begunIn now)
  failures : Flows s.owes refusals u.owes (failedIn now)

theorem Flow.refl (s : System σ κ ρ) : s.Flow [] [] s := ⟨.still _, .still _, .still _⟩

theorem Flow.trans {v : System σ κ ρ} {later : List Happening} {refusals refusals' : List String}
    (first : s.Flow now refusals u) (second : u.Flow later refusals' v) :
    s.Flow (now ++ later) (refusals ++ refusals') v where
  entries := by
    rw [acceptedIn_append, cutIn_append, List.flatten_append]
    exact first.entries.trans second.entries
  batches := by
    rw [cutIn_append, begunIn_append]
    exact first.batches.trans second.batches
  failures := by
    rw [failedIn_append]
    exact first.failures.trans second.failures

/-- Every step keeps the three accounts. -/
theorem flow_of_step (h : s.step host t = some (u, now)) : s.Flow now (s.refused host t) u := by
  obtain ⟨th, out, hth, rule, hplant, hthreads, rfl⟩ := exists_turnout h
  refine ⟨?_, ?_, ?_⟩
  · rw [hplant]
    exact rule.pendingIn
  · exact flows_threads hth hthreads (fun v hv => (rule.idle_of_started hv).1) rule.waits
  · rw [refused, stack_of_getElem hth]
    exact flows_threads hth hthreads (fun v hv => (rule.idle_of_started hv).2) rule.owes

theorem waits_of_idle (idle : ∀ id, s.Idle id) : s.waits = [] := by
  apply List.flatMap_eq_nil_iff.2
  intro th hth
  apply List.flatMap_eq_nil_iff.2
  intro f hf
  cases f with
  | waiting call => simpa [Frame.serves] using idle call.logger th hth _ hf
  | _ => rfl

/-- Nothing fails where no batch is being delivered. -/
theorem owes_eq_nil {stack : List (Frame κ)} (h : ∀ f ∈ stack, ∀ id, f.serves id = false) :
    BatchedLog.owes stack = [] := by
  induction stack with
  | nil => rfl
  | cons f rest ih =>
    have hnext : nextSink rest = [] := by
      unfold nextSink
      split
      · rename_i call _ _ _ _ _ _
        simpa [Frame.serves] using h _ (List.mem_cons_of_mem _ List.mem_cons_self) call.logger
      · rfl
    have hrest := ih fun g hg => h g (List.mem_cons_of_mem _ hg)
    simp [BatchedLog.owes, hnext, hrest]

theorem owes_of_idle (idle : ∀ id, s.Idle id) : s.owes = [] := by
  apply List.flatMap_eq_nil_iff.2
  intro th hth
  exact owes_eq_nil fun f hf id => idle id th hth f hf

/-- From where nothing is pending and no call is under way to where none is again: all batches cut
were dispatched, the entries accepted are in them or pending, and all sinks that refused failed. -/
theorem Flow.of_idle {refusals : List String} (flow : s.Flow now refusals u)
    (hpending : pendingIn s.plant.loggers = []) (idle : ∀ id, s.Idle id)
    (idle' : ∀ id, u.Idle id) :
    (begunIn now).Perm (cutIn now) ∧
      (pendingIn u.plant.loggers ++ (begunIn now).flatten).Perm (acceptedIn now) ∧
      (failedIn now).Perm refusals := by
  have hbatches := flow.batches
  have hentries := flow.entries
  have hfailures := flow.failures
  rw [waits_of_idle idle, waits_of_idle idle'] at hbatches
  rw [hpending] at hentries
  rw [owes_of_idle idle, owes_of_idle idle'] at hfailures
  have hperm := hbatches.perm
  exact ⟨hperm, (hperm.flatten.append_left _).trans hentries, hfailures.perm⟩

end System

end BatchedLog
