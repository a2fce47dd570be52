import BatchedLog.Proofs.Delivery.Lane

/-!
# Sinks that call down

A relation says which loggers may be used from inside a delivery of which, directly or through
others. If sinks stay within it, then all that a thread does from inside deliveries does so, and the
thread waits for other threads to end only outside of all deliveries. `Stacked` says so of a stack,
and `System.Ready.stacked_inside` that it holds of all stacks at all times. One such relation is
given by ranks: the sinks of a logger log and flush only through it or through loggers of lower
rank.
-/

namespace BatchedLog

variable {σ κ ρ : Type}

/-- Logger `m` may be used from inside a delivery of logger `l`. -/
def LoggerId.Under (rank : LoggerId → Nat) (m l : LoggerId) : Prop := m = l ∨ rank m < rank l

/-- What a sink of logger `l` may demand: to log and flush through loggers that `R` allows from
inside its deliveries, and what waits for nobody. -/
def Demand.Inside (R : LoggerId → LoggerId → Prop) (l : LoggerId) : Demand → Prop
  | .log m .. => R m l
  | .flush m => R m l
  | .burst m .. => R m l
  | .spawn .. => True
  | .crowd .. => False
  | .nothing => True

/-- A frame that threads have before their calls begin. -/
def Frame.isCall : Frame κ → Bool
  | .command _ => true
  | .log .. => true
  | .flush _ => true
  | .burst .. => true
  | _ => false

namespace System

/-- All loggers are new, and the threads are before their calls. -/
structure Ready (s : System σ κ ρ) : Prop where
  loggers : ∀ l ∈ s.plant.loggers, ∃ policy sinks, l = .start policy sinks
  calls : ∀ th ∈ s.threads, ∀ f ∈ th.stack, f.isCall = true

/-- Whenever a sink of a logger gives a command, it is within what `R` allows. -/
def SinksInside (host : Host σ κ ρ) (R : LoggerId → LoggerId → Prop) (s₀ : System σ κ ρ) : Prop :=
  ∀ {hs s t c sink todo ending call k b left failures below}, Steps host s₀ hs s →
    s.stack t = .command c :: .receiving sink todo ending ::
      .delivering call k b left failures :: below →
    (host.ask s.plant.host c).Inside R call.logger

/-- The sinks of a logger log and flush through it and through loggers of lower rank. -/
def SinksCallDown (host : Host σ κ ρ) (rank : LoggerId → Nat) (s₀ : System σ κ ρ) : Prop :=
  s₀.SinksInside host (LoggerId.Under rank)

end System

/-! ## Stacks -/

section

variable (R : LoggerId → LoggerId → Prop) (t : ThreadId)

/-- Logger `m` may be used on top of this stack. -/
def Clears (m : LoggerId) (stack : List (Frame κ)) : Prop :=
  ∀ f ∈ stack, ∀ l, f.delivers l = true → R m l

/-- No delivery is under way. -/
def Outside (stack : List (Frame κ)) : Prop := ∀ f ∈ stack, ∀ l, f.delivers l = false

/-- What a frame of thread `t` says of those below it. -/
def Frame.Sits : Frame κ → List (Frame κ) → Prop
  | .command _, rest => Outside rest ∨ ∃ sink todo ending call k b left failures below,
      rest = .receiving sink todo ending :: .delivering call k b left failures :: below
  | .log m .., rest => Clears R m rest
  | .flush m, rest => Clears R m rest
  | .burst m .., rest => Clears R m rest
  | .joining threads, rest => Outside rest ∧ ∀ u ∈ threads, t < u
  | .waiting call .., rest => Clears R call.logger rest
  | .delivering call .., rest => Clears R call.logger rest
  | .receiving .., rest => ∃ call k b left failures below,
      rest = .delivering call k b left failures :: below
  | .draining call, rest => Clears R call.logger rest

/-- Every frame of the stack is where it may be. -/
def Stacked : List (Frame κ) → Prop
  | [] => True
  | f :: rest => f.Sits R t rest ∧ Stacked rest

end

section

variable {R : LoggerId → LoggerId → Prop} {t : ThreadId} {stack rest : List (Frame κ)}
  {m l : LoggerId}

theorem LoggerId.Under.trans {rank : LoggerId → Nat} {i : LoggerId} (h : Under rank i m)
    (h' : Under rank m l) : Under rank i l := by
  rcases h with rfl | h
  · exact h'
  · rcases h' with rfl | h'
    · exact Or.inr h
    · exact Or.inr (Nat.lt_trans h h')

theorem Clears.cons {f : Frame κ} (hf : ∀ l, f.delivers l = false) (h : Clears R m rest) :
    Clears R m (f :: rest) := by
  intro g hg l hl
  rcases List.mem_cons.1 hg with rfl | hg
  · rw [hf l] at hl
    cases hl
  · exact h g hg l hl

theorem Outside.clears (h : Outside stack) (m : LoggerId) : Clears R m stack := by
  intro f hf l hl
  rw [h f hf l] at hl
  cases hl

theorem outside_of_isCall (h : ∀ f ∈ stack, f.isCall = true) : Outside stack := by
  intro f hf l
  have hcall := h f hf
  cases f with
  | delivering => cases hcall
  | _ => rfl

/-- Calls outside of all deliveries may be anywhere. -/
theorem stacked_of_isCall (h : ∀ f ∈ stack, f.isCall = true) : Stacked R t stack := by
  induction stack with
  | nil => trivial
  | cons f rest ih =>
    have hrest : ∀ g ∈ rest, g.isCall = true := fun g hg => h g (.tail _ hg)
    have outside := outside_of_isCall hrest
    refine ⟨?_, ih hrest⟩
    have hcall := h f (.head _)
    cases f with
    | command => exact Or.inl outside
    | log => exact outside.clears _
    | flush => exact outside.clears _
    | burst => exact outside.clears _
    | _ => cases hcall

/-- What the logger of a sink may use, may be used on top of the sink. -/
theorem Stacked.clears {sink : SinkId} {todo : List κ} {ending : Except SinkError Unit}
    {call : Call} {k : Nat} {b : Batch} {left : List Wired} {failures : List SinkFailure}
    {below : List (Frame κ)}
    (trans : ∀ {i m l}, R i m → R m l → R i l)
    (h : Stacked R t
      (.receiving sink todo ending :: .delivering call k b left failures :: below))
    (hm : R m call.logger) :
    Clears R m (.receiving sink todo ending :: .delivering call k b left failures :: below) := by
  obtain ⟨-, hdelivering, -⟩ := h
  intro f hf l hl
  rcases List.mem_cons.1 hf with rfl | hf
  · cases hl
  rcases List.mem_cons.1 hf with rfl | hf
  · have hcall : call.logger = l := by simpa [Frame.delivers] using hl
    exact hcall ▸ hm
  · exact trans hm (hdelivering f hf l hl)

end

namespace Machine

variable {host : Host σ κ ρ} {R : LoggerId → LoggerId → Prop} {t : ThreadId} {p : Plant σ}
  {done : List Bool} {stack rest : List (Frame κ)} {out : Turnout σ κ ρ}

theorem stacked_reply {q : Plant σ} {a : Answer ρ} (h : Stacked R t stack) :
    Stacked R t (reply host q a stack).2.stack := by
  unfold reply
  split
  · exact h
  · exact h
  · exact h
  · exact h

theorem stacked_afterCut {q : Plant σ} {call : Call} {cut : Option (Nat × List Entry) × Logger}
    {hs : List Happening} (h : Stacked R t stack) (hclears : Clears R call.logger stack) :
    Stacked R t (afterCut host q call cut stack hs).thread.stack := by
  obtain ⟨c, l⟩ := cut
  cases c with
  | none => exact stacked_reply h
  | some c => exact ⟨hclears, h⟩

/-- A command makes way for a call that its demand allows. -/
theorem clears_of_ask {c : κ} {m : LoggerId} (trans : ∀ {i m l}, R i m → R m l → R i l)
    (h : Stacked R t (.command c :: rest))
    (within : ∀ {sink todo ending call k b left failures below},
      rest = .receiving sink todo ending :: .delivering call k b left failures :: below →
      (host.ask p.host c).Inside R call.logger)
    (hm : ∀ l, (host.ask p.host c).Inside R l → R m l) :
    Clears R m rest := by
  rcases h.1 with outside | ⟨sink, todo, ending, call, k, b, left, failures, below, rfl⟩
  · exact outside.clears m
  · exact h.2.clears trans (hm _ (within rfl))

/-- A step leaves every frame of its thread where it may be, if sinks stay within their bounds. -/
theorem Rule.stacked (trans : ∀ {i m l}, R i m → R m l → R i l)
    (rule : Rule host p done stack out) (h : Stacked R t stack) (live : t < done.length)
    (within : ∀ {c sink todo ending call k b left failures below},
      stack = .command c :: .receiving sink todo ending ::
        .delivering call k b left failures :: below →
      (host.ask p.host c).Inside R call.logger) :
    Stacked R t out.thread.stack := by
  cases rule with
  | askLog hask =>
    refine ⟨clears_of_ask trans h (fun hrest => within (congrArg _ hrest)) ?_, h.2⟩
    intro l hl
    rw [hask] at hl
    exact hl
  | askFlush hask =>
    refine ⟨clears_of_ask trans h (fun hrest => within (congrArg _ hrest)) ?_, h.2⟩
    intro l hl
    rw [hask] at hl
    exact hl
  | askBurst hask =>
    refine ⟨clears_of_ask trans h (fun hrest => within (congrArg _ hrest)) ?_, h.2⟩
    intro l hl
    rw [hask] at hl
    exact hl
  | askSpawn => exact stacked_reply h.2
  | askCrowd hask =>
    rcases h.1 with outside | ⟨sink, todo, ending, call, k, b, left, failures, below, rfl⟩
    · refine ⟨⟨outside, ?_⟩, h.2⟩
      intro u hu
      obtain ⟨i, -, rfl⟩ := List.mem_map.1 hu
      exact Nat.lt_of_lt_of_le live (Nat.le_add_right _ _)
    · have := within rfl
      rw [hask] at this
      cases this
  | perform => exact stacked_reply h.2
  | logNowhere => exact stacked_reply h.2
  | logHeld => exact stacked_reply h.2
  | log => exact stacked_afterCut h.2 h.1
  | flushNowhere => exact stacked_reply h.2
  | flushHeld => exact stacked_reply h.2
  | flush => exact stacked_afterCut h.2 h.1
  | burstNext => exact ⟨Clears.cons (fun _ => rfl) h.1, h⟩
  | burstEnd => exact stacked_reply h.2
  | join => exact stacked_reply h.2
  | turn => exact h
  | hand => exact ⟨⟨_, _, _, _, _, _, rfl⟩, h⟩
  | release => exact h
  | order =>
    obtain ⟨call, k, b, left, failures, below, rfl⟩ := h.1
    exact ⟨Or.inr ⟨_, _, _, _, _, _, _, _, _, rfl⟩, ⟨_, _, _, _, _, _, rfl⟩, h.2⟩
  | took => exact h.2
  | failed => exact h.2
  | astray => exact h.2
  | drain => exact stacked_afterCut h.2 h.1

/-- A thread that was started is outside of all deliveries. -/
theorem Rule.stacked_started (rule : Rule host p done stack out) {th : Thread κ ρ}
    (hth : th ∈ out.started) : Stacked R t th.stack := by
  apply stacked_of_isCall
  rcases rule.eq_of_started hth with ⟨id, message, level, rfl⟩ | ⟨id, text, level, count, rfl⟩
  · intro f hf
    obtain rfl := List.mem_singleton.1 hf
    rfl
  · intro f hf
    obtain rfl := List.mem_singleton.1 hf
    rfl

end Machine

namespace System

variable {host : Host σ κ ρ} {R : LoggerId → LoggerId → Prop} {s₀ s : System σ κ ρ}
  {hs : List Happening}

theorem Ready.isCall (h : s.Ready) (t : ThreadId) : ∀ f ∈ s.stack t, f.isCall = true := by
  intro f hf
  unfold stack at hf
  cases ht : s.threads[t]? with
  | none => simp [ht] at hf
  | some th =>
    simp only [ht, Option.map_some, Option.getD_some] at hf
    exact h.calls th (List.mem_of_getElem? ht) f hf

theorem Ready.stacked (h : s.Ready) (t : ThreadId) : Stacked R t (s.stack t) :=
  stacked_of_isCall (h.isCall t)

/-- While sinks stay within their bounds, every frame of every thread is where it may be. -/
theorem Ready.stacked_inside (ready : s₀.Ready) (trans : ∀ {i m l}, R i m → R m l → R i l)
    (inside : SinksInside host R s₀) (run : Steps host s₀ hs s) : ∀ t, Stacked R t (s.stack t) := by
  induction run with
  | refl => exact ready.stacked
  | @tail s u _ _ t before hstep ih =>
    obtain ⟨out, stepped, -⟩ := stepped hstep
    have live : t < s.done.length := by simpa [done] using stepped.live
    intro v
    by_cases hv : v = t
    · subst hv
      rw [stepped.self]
      exact stepped.rule.stacked trans (ih v) live fun hstack => inside before hstack
    · rcases stepped.other v hv with hsame | ⟨-, th, hth, hnew⟩
      · rw [hsame]
        exact ih v
      · rw [hnew]
        exact stepped.rule.stacked_started hth

theorem Ready.stacked_run {rank : LoggerId → Nat} (ready : s₀.Ready)
    (down : SinksCallDown host rank s₀) (run : Steps host s₀ hs s) :
    ∀ t, Stacked (LoggerId.Under rank) t (s.stack t) :=
  ready.stacked_inside LoggerId.Under.trans down run

end System

end BatchedLog
