import BatchedLog.Proofs.Delivery.Calls
import BatchedLog.Proofs.Delivery.Flow
import Mathlib.Algebra.GroupWithZero.Nat
import Mathlib.Algebra.Order.BigOperators.Group.List
import Mathlib.Algebra.Order.Group.Nat

/-!
# Sinks that fall silent

If sinks command nothing but to log and to flush, and there is an end to what they command, then
every call comes to its end, however the loggers are wired to each other. What a call may still have
to do is priced. A pending entry is priced so that it pays for the delivery of a batch, for it may
come to be all that there is in one. A command that sinks may still give is priced above the entry
that it may log. Then each step costs something.
-/

namespace BatchedLog

variable {σ κ ρ : Type}

/-! ## Prices -/

/-- To log, to flush or nothing. -/
def Demand.talks : Demand → Bool
  | .log .. => true
  | .flush _ => true
  | .nothing => true
  | _ => false

/-- While `fits` holds of a host its sinks give commands that are `allowed`, which log, flush or do
nothing, and no more of them than are in the purse. -/
structure Host.Thrifty (host : Host σ κ ρ) (fits : σ → Prop) (allowed : κ → Prop)
    (purse : σ → Nat) : Prop where
  ask : ∀ {h c}, fits h → allowed c → (host.ask h c).talks = true
  perform : ∀ {h c} loggers, fits h → allowed c → host.ask h c = .nothing →
    fits (host.perform h loggers c).1 ∧ purse (host.perform h loggers c).1 ≤ purse h ∧
      (host.perform h loggers c).2.1 = []
  receive : ∀ {h} sink batch, fits h → fits (host.receive h sink batch).1 ∧
    (∀ c ∈ (host.receive h sink batch).2.1, allowed c) ∧
      (host.receive h sink batch).2.1.length + purse (host.receive h sink batch).1 ≤ purse h
  answered : ∀ {h} sink a, fits h →
    fits (host.answered h sink a) ∧ purse (host.answered h sink a) ≤ purse h
  observe : ∀ {h} x, fits h → fits (host.observe h x) ∧ purse (host.observe h x) ≤ purse h

/-- A frame of a call that sinks with allowed commands may have begun. -/
def Frame.Talks (allowed : κ → Prop) : Frame κ → Prop
  | .command c => allowed c
  | .receiving _ todo _ => ∀ c ∈ todo, allowed c
  | .burst .. => False
  | .joining _ => False
  | _ => True

def Frame.receives : Frame κ → Bool
  | .receiving .. => true
  | _ => false

/-- What a frame has to pay for, where `price` is that of a batch. A delivery has two steps for each
sink; if it is `busy` with a sink then that one is paid for. -/
def Frame.cost (price : Nat) (busy : Bool) : Frame κ → Nat
  | .command _ => price + 2
  | .log .. => price + 1
  | .flush _ => 1
  | .burst .. => 0
  | .joining _ => 0
  | .waiting .. => price
  | .delivering _ _ _ left _ => 2 * (if busy then left.tail else left).length + 2
  | .receiving _ todo _ => (price + 3) * todo.length + 1
  | .draining _ => 1

def weigh (price : Nat) : Bool → List (Frame κ) → Nat
  | _, [] => 0
  | busy, f :: up => f.cost price busy + weigh price f.receives up

/-- The entries pending at all loggers. -/
def stock (loggers : List Logger) : Nat := (loggers.map Logger.pendingCount).sum

/-- All that is still to be paid for, with these frames above those that a call returns to. -/
def worth (price : Nat) (purse : σ → Nat) (p : Plant σ) (up : List (Frame κ)) : Nat :=
  weigh price false up + price * stock p.loggers + (price + 3) * purse p.host

theorem stock_set {loggers : List Logger} {id : LoggerId} {l : Logger} (l' : Logger)
    (hl : loggers[id]? = some l) :
    stock (loggers.set id l') + l.pendingCount = stock loggers + l'.pendingCount := by
  induction loggers generalizing id with
  | nil => cases hl
  | cons first rest ih =>
    cases id with
    | zero =>
      cases hl
      simp only [stock, List.set_cons_zero, List.map_cons, List.sum_cons]
      omega
    | succ id =>
      have hrest := ih hl
      simp only [stock, List.set_cons_succ, List.map_cons, List.sum_cons] at hrest ⊢
      omega

/-- A sink at work with nothing below that it could be at work for pays for nothing else. -/
theorem weigh_busy {price : Nat} {up : List (Frame κ)}
    (h : ∀ call ticket batch w left failures below,
      up ≠ .delivering call ticket batch (w :: left) failures :: below) :
    weigh price true up = weigh price false up := by
  cases up with
  | nil => rfl
  | cons f up =>
    cases f with
    | delivering call ticket batch left failures =>
      cases left with
      | nil => rfl
      | cons w left => exact (h _ _ _ _ _ _ _ rfl).elim
    | _ => rfl

/-- What holds of a call under way: its frames are of commands that are allowed, and the price is
high enough for the sinks of all loggers. -/
structure Sound (fits : σ → Prop) (allowed : κ → Prop) (price : Nat) (p : Plant σ)
    (up : List (Frame κ)) : Prop where
  talks : ∀ f ∈ up, f.Talks allowed
  fits : fits p.host
  sinks : ∀ l ∈ p.loggers, 2 * l.sinks.length + 3 ≤ price

variable {host : Host σ κ ρ} {fits : σ → Prop} {allowed : κ → Prop} {purse : σ → Nat} {price : Nat}
  {p q : Plant σ} {f : Frame κ} {up below : List (Frame κ)} {l l' : Logger} {id : LoggerId}

theorem Sound.tail (h : Sound fits allowed price p (f :: up)) : Sound fits allowed price p up :=
  { h with talks := fun g hg => h.talks g (List.mem_cons_of_mem _ hg) }

theorem Sound.cons (h : Sound fits allowed price p up) (hf : f.Talks allowed) :
    Sound fits allowed price p (f :: up) :=
  { h with talks := List.forall_mem_cons.2 ⟨hf, h.talks⟩ }

theorem Sound.setLogger (h : Sound fits allowed price p up) (hl : p.loggers[id]? = some l)
    (hsinks : l'.sinks = l.sinks) : Sound fits allowed price (p.setLogger id l') up := by
  refine { h with sinks := fun k hk => ?_ }
  rcases List.mem_or_eq_of_mem_set hk with hk | rfl
  · exact h.sinks k hk
  · rw [hsinks]
    exact h.sinks l (List.mem_of_getElem? hl)

theorem Sound.push (h : Sound fits allowed price p up) (hl : p.loggers[id]? = some l) (e : Entry) :
    Sound fits allowed price (p.read.setLogger id (l.push e)) up :=
  Sound.setLogger (p := p.read) ⟨h.talks, h.fits, h.sinks⟩ hl rfl

theorem Sound.setHost (h : Sound fits allowed price p up) {state : σ} (hstate : fits state) :
    Sound fits allowed price { p with host := state } up :=
  { h with fits := hstate }

/-- A frame that is done with costs what it had to pay for. -/
theorem worth_pop (hf : f.receives = false) :
    worth price purse p (f :: up) = f.cost price false + worth price purse p up := by
  simp only [worth, weigh, hf]
  omega

theorem worth_swap {g : Frame κ} (hg : g.receives = false) (hf : f.receives = false)
    (hcost : g.cost price false < f.cost price false) :
    worth price purse p (g :: up) < worth price purse p (f :: up) := by
  rw [worth_pop hg, worth_pop hf]
  exact Nat.add_lt_add_right hcost _

theorem worth_setLogger (hl : p.loggers[id]? = some l) :
    worth price purse (p.setLogger id l') up + price * l.pendingCount =
      worth price purse p up + price * l'.pendingCount := by
  have hstock : price * (stock (p.loggers.set id l') + l.pendingCount) =
      price * (stock p.loggers + l'.pendingCount) := congrArg (price * ·) (stock_set l' hl)
  rw [Nat.mul_add, Nat.mul_add] at hstock
  dsimp only [worth, Plant.setLogger]
  omega

/-- An entry that is logged raises the worth by the price of a batch. -/
theorem worth_push (hl : p.loggers[id]? = some l) (e : Entry) :
    worth price purse (p.read.setLogger id (l.push e)) up = worth price purse p up + price := by
  have hset : worth price purse (p.read.setLogger id (l.push e)) up + price * l.pendingCount =
      worth price purse p up + price * (l.push e).pendingCount :=
    worth_setLogger (p := p.read) hl
  have hcount : (l.push e).pendingCount = l.pendingCount + 1 := by
    simp [Logger.pendingCount, Logger.push]
  rw [hcount, Nat.mul_add, Nat.mul_one] at hset
  omega

theorem worth_host_le {state : σ} (h : purse state ≤ purse p.host) :
    worth price purse { p with host := state } up ≤ worth price purse p up :=
  Nat.add_le_add_left (Nat.mul_le_mul_left _ h) _

/-- What the host observes costs nothing. -/
theorem Sound.observed (thrifty : host.Thrifty fits allowed purse) (hs : List Happening)
    (sound : Sound fits allowed price p up) :
    Sound fits allowed price { p with host := hs.foldl host.observe p.host } up ∧
      worth price purse { p with host := hs.foldl host.observe p.host } up ≤
        worth price purse p up := by
  have observed : ∀ {state : σ}, fits state →
      fits (hs.foldl host.observe state) ∧ purse (hs.foldl host.observe state) ≤ purse state := by
    induction hs with
    | nil => exact fun hfits => ⟨hfits, Nat.le_refl _⟩
    | cons x hs ih =>
      intro state hfits
      obtain ⟨hfirst, hle⟩ := thrifty.observe x hfits
      obtain ⟨hrest, hle'⟩ := ih hfirst
      exact ⟨hrest, Nat.le_trans hle' hle⟩
  obtain ⟨hfits, hpurse⟩ := observed sound.fits
  exact ⟨sound.setHost hfits, worth_host_le hpurse⟩

/-! ## Steps -/

namespace Machine

/-- A step starts no threads, and the call is over with it or has less than `budget` to pay for. -/
def Pays (fits : σ → Prop) (allowed : κ → Prop) (purse : σ → Nat) (price budget : Nat)
    (below : List (Frame κ)) (out : Turnout σ κ ρ) : Prop :=
  out.started = [] ∧ (out.thread.stack.length ≤ below.length ∨
    ∃ up, out.thread.stack = up ++ below ∧ Sound fits allowed price out.plant up ∧
      worth price purse out.plant up < budget)

variable {budget : Nat} {a : Answer ρ} {news : List Happening}

theorem pays_proceed (sound : Sound fits allowed price q up)
    (less : worth price purse q up < budget) :
    Pays fits allowed purse price budget below
      (proceed q (up ++ below) news : Turnout σ κ ρ) :=
  ⟨rfl, .inr ⟨up, rfl, sound, less⟩⟩

theorem pays_finish (thrifty : host.Thrifty fits allowed purse)
    (sound : Sound fits allowed price q up) (less : worth price purse q up < budget) :
    Pays fits allowed purse price budget below (finish host q a (up ++ below) news) := by
  refine ⟨rfl, ?_⟩
  cases up with
  | nil => exact .inl (Nat.le_of_eq (System.length_reply q a below))
  | cons f up =>
    right
    cases f with
    | receiving sink todo ending =>
      obtain ⟨fits', hpurse⟩ := thrifty.answered sink a sound.fits
      exact ⟨_, rfl, sound.setHost fits', Nat.lt_of_le_of_lt (worth_host_le hpurse) less⟩
    | burst => exact (sound.talks _ List.mem_cons_self).elim
    | _ => exact ⟨_, rfl, sound, less⟩

theorem afterCut_setLogger {call : Call} {r : Option (Nat × List Entry) × Logger}
    {stack : List (Frame κ)} :
    afterCut host (q.setLogger call.logger l) call r stack news =
      afterCut host q call r stack news := by
  simp only [afterCut, Plant.setLogger, List.set_set]

/-- The entries that are cut pay for their batch. -/
theorem pays_afterCut {call : Call} {r : Option (Nat × List Entry) × Logger}
    (thrifty : host.Thrifty fits allowed purse) (sound : Sound fits allowed price q up)
    (hl : q.loggers[call.logger]? = some l) (cuts : l.Cuts r)
    (less : worth price purse q up < budget) :
    Pays fits allowed purse price budget below (afterCut host q call r (up ++ below) news) := by
  rcases cuts with rfl | ⟨hne, rfl⟩
  · have hsame : q.setLogger call.logger l = q := by
      obtain ⟨hlt, hget⟩ := List.getElem?_eq_some_iff.1 hl
      simp [Plant.setLogger, ← hget]
    have hfinish : afterCut host q call (none, l) (up ++ below) news =
        finish host q call.answer (up ++ below) news := by
      simp only [afterCut, hsame]
    rw [hfinish]
    exact pays_finish thrifty sound less
  · have hpays : Pays fits allowed purse price budget below
        (proceed (q.setLogger call.logger l.emptied)
          ((.waiting call l.cut l.buffer.pending :: up) ++ below)
          (news ++ [.cut call.logger l.cut l.buffer.pending]) : Turnout σ κ ρ) := by
      refine pays_proceed (Sound.cons (sound.setLogger hl rfl) trivial) ?_
      have hpos : 0 < l.pendingCount := List.length_pos_iff.2 hne
      have hprice : price ≤ price * l.pendingCount := Nat.le_mul_of_pos_right price hpos
      have hset : worth price purse (q.setLogger call.logger l.emptied) up +
          price * l.pendingCount = worth price purse q up + price * 0 := worth_setLogger hl
      rw [Nat.mul_zero, Nat.add_zero] at hset
      rw [worth_pop rfl]
      dsimp only [Frame.cost]
      omega
    exact hpays

/-- A sink at work is done. -/
theorem pays_ended {call : Call} {ticket : Nat} {batch : Batch} {w : Wired} {left : List Wired}
    {failures failures' : List SinkFailure} {sink : SinkId} {ending : Except SinkError Unit}
    {rest : List (Frame κ)}
    (sound : Sound fits allowed price p (.receiving sink [] ending :: up))
    (hrest : up ++ below = .delivering call ticket batch (w :: left) failures :: rest) :
    Pays fits allowed purse price (worth price purse p (.receiving sink [] ending :: up)) below
      (proceed p (.delivering call ticket batch left failures' :: rest) news : Turnout σ κ ρ) := by
  cases up with
  | nil =>
    have hbelow : below = .delivering call ticket batch (w :: left) failures :: rest := hrest
    rw [hbelow]
    exact ⟨rfl, .inl (Nat.le_refl _)⟩
  | cons g up =>
    obtain ⟨rfl, rfl⟩ := List.cons.inj hrest
    have ended : Sound fits allowed price p (.delivering call ticket batch left failures' :: up) :=
      sound.tail.tail.cons trivial
    refine pays_proceed ended ?_
    simp [worth, weigh, Frame.cost, Frame.receives]

theorem Rule.pays {done : List Bool} {out : Turnout σ κ ρ}
    (thrifty : host.Thrifty fits allowed purse) (sound : Sound fits allowed price p (f :: up))
    (rule : Rule host p done (f :: (up ++ below)) out) :
    Pays fits allowed purse price (worth price purse p (f :: up)) below out := by
  have talks : f.Talks allowed := sound.talks f List.mem_cons_self
  have pops : f.receives = false → 0 < f.cost price false →
      worth price purse p up < worth price purse p (f :: up) := by
    intro hf hcost
    rw [worth_pop hf]
    exact Nat.lt_add_of_pos_left hcost
  have talked : ∀ {c : κ} {d : Demand}, f = .command c → host.ask p.host c = d →
      d.talks = true := by
    intro c d hf hask
    subst hf
    exact hask ▸ thrifty.ask sound.fits talks
  generalize hrest : up ++ below = rest at rule
  cases rule with
  | @askLog _ id message level =>
    subst hrest
    have asked : Sound fits allowed price p (.log id message level :: up) := sound.tail.cons trivial
    exact pays_proceed asked (worth_swap rfl rfl (Nat.lt_succ_self (price + 1)))
  | @askFlush _ id =>
    subst hrest
    have asked : Sound fits allowed price p (.flush id :: up) := sound.tail.cons trivial
    exact pays_proceed asked (worth_swap rfl rfl (Nat.succ_lt_succ (Nat.succ_pos price)))
  | askBurst hask => cases talked rfl hask
  | askSpawn hask => cases talked rfl hask
  | askCrowd hask => cases talked rfl hask
  | @perform c _ h opened r hask hperform =>
    subst hrest
    obtain ⟨hfits, hpurse, hopened⟩ := thrifty.perform p.loggers sound.fits talks hask
    rw [hperform] at hfits hpurse hopened
    obtain rfl : opened = [] := hopened
    have hgrown : grown p.loggers [] = p.loggers := List.append_nil _
    rw [hgrown]
    refine pays_finish thrifty (sound.tail.setHost hfits) ?_
    exact Nat.lt_of_le_of_lt (worth_host_le hpurse) (pops rfl (Nat.succ_pos _))
  | logNowhere =>
    subst hrest
    exact pays_finish thrifty sound.tail (pops rfl (Nat.succ_pos _))
  | @logHeld id message level _ l hl =>
    subst hrest
    refine pays_finish thrifty (sound.tail.push hl _) ?_
    rw [worth_push hl, worth_pop rfl]
    dsimp only [Frame.cost]
    omega
  | @log id message level _ l hl =>
    subst hrest
    let e := p.entry host message level
    have hlt : id < p.loggers.length := (List.getElem?_eq_some_iff.1 hl).1
    have hpush : (p.read.setLogger id (l.push e)).loggers[id]? = some (l.push e) :=
      List.getElem?_set_self hlt
    rw [← afterCut_setLogger (l := l.push e)]
    refine pays_afterCut thrifty (sound.tail.push hl e) hpush (l.push e).cutDue_cuts ?_
    have hworth : worth price purse (p.read.setLogger id (l.push e)) up =
        worth price purse p up + price := worth_push hl e
    dsimp only [Call.start]
    rw [hworth, worth_pop rfl]
    dsimp only [Frame.cost]
    omega
  | flushNowhere =>
    subst hrest
    exact pays_finish thrifty sound.tail (pops rfl Nat.one_pos)
  | flushHeld =>
    subst hrest
    exact pays_finish thrifty sound.tail (pops rfl Nat.one_pos)
  | @flush id _ l hl =>
    subst hrest
    exact pays_afterCut thrifty sound.tail hl l.cutAll_cuts (pops rfl Nat.one_pos)
  | burstNext => exact talks.elim
  | burstEnd => exact talks.elim
  | join => exact talks.elim
  | @turn call ticket entries _ l hl =>
    subst hrest
    have hsinks := sound.sinks l (List.mem_of_getElem? hl)
    have began : Sound fits allowed price { p with dispatched := p.dispatched + 1 }
        (.delivering call ticket ⟨p.dispatched, entries⟩ l.sinks [] :: up) :=
      ⟨List.forall_mem_cons.2 ⟨trivial, sound.tail.talks⟩, sound.fits, sound.sinks⟩
    refine pays_proceed began (worth_swap (p := p) rfl rfl ?_)
    simp only [Frame.cost, Bool.false_eq_true, if_false]
    omega
  | @hand call ticket batch w left failures _ h todo ending hreceive =>
    subst hrest
    obtain ⟨hfits, htodo, hpurse⟩ := thrifty.receive w.sink batch sound.fits
    rw [hreceive] at hfits htodo hpurse
    have opened : Sound fits allowed price { p with host := h }
        (.receiving w.sink todo ending.caught ::
          .delivering call ticket batch (w :: left) failures :: up) :=
      (Sound.setHost sound hfits).cons htodo
    refine pays_proceed opened ?_
    have hpaid := Nat.mul_le_mul_left (price + 3) hpurse
    rw [Nat.mul_add] at hpaid
    simp only [worth, weigh, Frame.cost, Frame.receives, if_true, Bool.false_eq_true, if_false,
      List.tail_cons, List.length_cons] at hpaid ⊢
    omega
  | @release call ticket batch failures _ l hl =>
    subst hrest
    have released : Sound fits allowed price (p.setLogger call.logger l.passTurn)
        (.draining (call.conclude batch l.sinks.length failures) :: up) :=
      Sound.cons (sound.tail.setLogger hl rfl) trivial
    refine pays_proceed released ?_
    have hset : worth price purse (p.setLogger call.logger l.passTurn) up +
        price * l.pendingCount = worth price purse p up + price * l.pendingCount :=
      worth_setLogger hl
    rw [worth_pop rfl, worth_pop rfl]
    dsimp only [Frame.cost]
    omega
  | @order sink c todo ending =>
    subst hrest
    obtain ⟨hc, htodo⟩ := List.forall_mem_cons.1 talks
    have ordered : Sound fits allowed price p (.command c :: .receiving sink todo ending :: up) :=
      Sound.cons (Sound.cons sound.tail htodo) hc
    refine pays_proceed ordered ?_
    simp only [worth, weigh, Frame.cost, Frame.receives, List.length_cons, Nat.mul_add]
    omega
  | took => exact pays_ended sound hrest
  | failed => exact pays_ended sound hrest
  | astray hne =>
    subst hrest
    refine pays_proceed sound.tail ?_
    have hbusy : weigh price true up = weigh price false up := by
      refine weigh_busy fun call ticket batch w left failures lower heq => ?_
      exact hne call ticket batch w left failures (lower ++ below) (by rw [heq]; rfl)
    simp only [worth, weigh, Frame.cost, Frame.receives, hbusy]
    omega
  | @drain call _ l hl =>
    subst hrest
    exact pays_afterCut thrifty sound.tail hl l.cutDue_cuts (pops rfl Nat.one_pos)

end Machine

/-! ## Calls -/

namespace System

variable {s₀ s u : System σ κ ρ} {before now : List Happening}

/-- A step of a thread in a call costs something, or ends the call. -/
theorem step_pays (thrifty : host.Thrifty fits allowed purse)
    (sound : Sound fits allowed price s.plant (f :: up)) (hstack : s.stack 0 = f :: (up ++ below))
    (hstep : s.step host 0 = some (u, now)) :
    u.threads.length = s.threads.length ∧ ((u.stack 0).length ≤ below.length ∨
      ∃ up', u.stack 0 = up' ++ below ∧ Sound fits allowed price u.plant up' ∧
        worth price purse u.plant up' < worth price purse s.plant (f :: up)) := by
  obtain ⟨th, out, hth, rule, hplant, hthreads, -⟩ := exists_turnout hstep
  rw [← stack_of_getElem hth, hstack] at rule
  obtain ⟨hstarted, hpays⟩ := rule.pays thrifty sound
  have hself : u.stack 0 = out.thread.stack := by
    have hlt : 0 < s.threads.length := (List.getElem?_eq_some_iff.1 hth).1
    rw [hstarted, List.append_nil] at hthreads
    exact stack_of_getElem (by rw [hthreads, List.getElem?_set_self hlt])
  rw [hself, hplant]
  refine ⟨by rw [hthreads, hstarted, List.append_nil, List.length_set], ?_⟩
  rcases hpays with hle | ⟨up', heq, sound', less⟩
  · exact .inl hle
  · obtain ⟨observed, hle⟩ := Sound.observed thrifty out.happenings sound'
    exact .inr ⟨up', heq, observed, Nat.lt_of_le_of_lt hle less⟩

/-- So a call has an end, by induction on what it may still have to pay for. -/
theorem Ready.exists_spans (ready : s₀.Ready) (thrifty : host.Thrifty fits allowed purse)
    (run : Steps host s₀ before s) (alone : s.threads.length = 1)
    (sound : Sound fits allowed price s.plant (f :: up)) (hstack : s.stack 0 = f :: (up ++ below)) :
    ∃ hs v now u, s.Spans host below.length hs v now u ∧ u.threads.length = 1 := by
  generalize hworth : worth price purse s.plant (f :: up) = n
  induction n using Nat.strongRecOn generalizing s before f up with
  | ind n ih =>
    have hlt : below.length < (s.stack 0).length := by
      rw [hstack, List.length_cons, List.length_append]
      omega
    obtain ⟨⟨u, now⟩, hstep⟩ :=
      Option.isSome_iff_exists.1 (ready.canStep run alone (by simp [hstack]))
    obtain ⟨hthreads, hpays⟩ := step_pays thrifty sound hstack hstep
    have alone' : u.threads.length = 1 := hthreads.trans alone
    rcases hpays with hle | ⟨_ | ⟨g, up'⟩, heq, sound', less⟩
    · exact ⟨[], s, now, u, ⟨.refl hlt, hstep, hle⟩, alone'⟩
    · exact ⟨[], s, now, u, ⟨.refl hlt, hstep, by rw [heq]; exact Nat.le_refl _⟩, alone'⟩
    · obtain ⟨hs, v, last, w, spans, alone_w⟩ :=
        ih _ (hworth ▸ less) (run.tail 0 hstep) alone' sound' heq rfl
      exact ⟨now ++ hs, v, last, w, spans.cons hlt hstep, alone_w⟩

end System

/-- Every log or flush call comes to an end whose thread is alone and whose sinks fall silent. -/
theorem System.Ready.call_ends {id : LoggerId} {purpose : Purpose} {s₀ s : System σ κ ρ}
    {before : List Happening} {rest : List (Frame κ)} (ready : s₀.Ready)
    (thrifty : host.Thrifty fits allowed purse) (run : Steps host s₀ before s)
    (alone : s.threads.length = 1) (hfits : fits s.plant.host) (calls : f.Calls id purpose)
    (top : s.stack 0 = f :: rest) :
    ∃ hs v now u, s.Spans host rest.length hs v now u ∧ u.threads.length = 1 := by
  have talks : f.Talks allowed := by
    cases calls with
    | log => trivial
    | flush => trivial
  have sound : Sound fits allowed (s.plant.loggers.map fun l => 2 * l.sinks.length + 3).sum s.plant
      [f] := by
    refine ⟨fun g hg => List.mem_singleton.1 hg ▸ talks, hfits, fun l hl => ?_⟩
    exact List.le_sum_of_mem (List.mem_map_of_mem hl)
  exact ready.exists_spans thrifty run alone sound top

end BatchedLog
