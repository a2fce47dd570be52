import BatchedLog.Proofs.Delivery.Rules
import Mathlib.Data.List.Forall2

/-!
# How deliveries end makes no difference to delivery

Two systems side by side, each with the other's stacks, loggers and clock. Their sinks give commands
that are alike, but a delivery that comes to a good end in one may fail in the other. If the host
does not see endings, the two take the same steps: what is accepted, cut, begun and handed over is
the same, and only what calls come back with can differ.
-/

namespace BatchedLog

variable {σ κ ρ : Type}

/-! ## Lists side by side -/

section

variable {α β : Type} {P : α → β → Prop} {as : List α} {bs : List β}

theorem forall₂_getElem? (h : List.Forall₂ P as bs) (i : Nat) : Option.Rel P as[i]? bs[i]? := by
  induction h generalizing i with
  | nil => exact .none
  | cons hab _ ih =>
    cases i with
    | zero => exact .some hab
    | succ i => exact ih i

theorem isEmpty_eq (h : List.Forall₂ P as bs) : as.isEmpty = bs.isEmpty := by
  cases h with
  | nil => rfl
  | cons => rfl

theorem any_eq {p : α → Bool} {q : β → Bool} (h : List.Forall₂ P as bs)
    (hpq : ∀ {a b}, P a b → p a = q b) : as.any p = bs.any q := by
  induction h with
  | nil => rfl
  | cons hab _ ih => rw [List.any_cons, List.any_cons, ih, hpq hab]

theorem forall₂_set {a : α} {b : β} (h : List.Forall₂ P as bs) (hab : P a b) (i : Nat) :
    List.Forall₂ P (as.set i a) (bs.set i b) := by
  induction h generalizing i with
  | nil => exact .nil
  | cons first _ ih =>
    cases i with
    | zero => exact .cons hab ‹_›
    | succ i => exact .cons first (ih i)

end

/-! ## What may differ -/

/-- Two answers to one command: what log and flush calls come back with may differ. -/
inductive Answer.Alike : Answer ρ → Answer ρ → Prop
  | same (a : Answer ρ) : Alike a a
  | logged (r r' : Except DispatchError Unit) : Alike (.logged r) (.logged r')
  | flushed (r r' : Except DispatchError Nat) : Alike (.flushed r) (.flushed r')
  | burst (f f' : List (Nat × DispatchError)) : Alike (.burst f) (.burst f')

/-- A call may have met with other failures. -/
inductive Call.Alike : Call → Call → Prop
  | mk (logger : LoggerId) (purpose : Purpose) (delivered : Nat) (f f' : Option DispatchError) :
      Alike ⟨logger, purpose, delivered, f⟩ ⟨logger, purpose, delivered, f'⟩

/-- A sink at work may be about to end in another way, and failures so far may be others. -/
inductive Frame.Alike (R : κ → κ → Prop) : Frame κ → Frame κ → Prop
  | command {c c' : κ} : R c c' → Alike R (.command c) (.command c')
  | log (logger : LoggerId) (message : String) (level : Level) :
      Alike R (.log logger message level) (.log logger message level)
  | flush (logger : LoggerId) : Alike R (.flush logger) (.flush logger)
  | burst (logger : LoggerId) (text : String) (level : Level) (next count : Nat)
      (f f' : List (Nat × DispatchError)) :
      Alike R (.burst logger text level next count f) (.burst logger text level next count f')
  | joining (threads : List ThreadId) : Alike R (.joining threads) (.joining threads)
  | waiting {call call' : Call} (ticket : Nat) (entries : List Entry) : call.Alike call' →
      Alike R (.waiting call ticket entries) (.waiting call' ticket entries)
  | delivering {call call' : Call} (ticket : Nat) (batch : Batch) (left : List Wired)
      (f f' : List SinkFailure) : call.Alike call' →
      Alike R (.delivering call ticket batch left f) (.delivering call' ticket batch left f')
  | receiving (sink : SinkId) {todo todo' : List κ} (ending ending' : Except SinkError Unit) :
      List.Forall₂ R todo todo' →
      Alike R (.receiving sink todo ending) (.receiving sink todo' ending')
  | draining {call call' : Call} : call.Alike call' → Alike R (.draining call) (.draining call')

def Happening.isEnding : Happening → Bool
  | .took .. => true
  | .failed .. => true
  | _ => false

/-- The same, but that a delivery may end in another way. -/
inductive Happening.Alike : Happening → Happening → Prop
  | same (h : Happening) : Alike h h
  | ended {h h' : Happening} : h.isEnding = true → h'.isEnding = true → Alike h h'

/-- What happens besides the endings of deliveries. -/
def steady (hs : List Happening) : List Happening := hs.filter fun h => !h.isEnding

/-- A host that cannot tell runs that differ in endings: with `Q` between its states and `R` between
commands, it asks and answers the same, and its states stay so. -/
structure Host.Blind (host : Host σ κ ρ) (R : κ → κ → Prop) (Q : σ → σ → Prop) : Prop where
  ask : ∀ {w w' c c'}, Q w w' → R c c' → host.ask w c = host.ask w' c'
  perform : ∀ {w w' c c'} (loggers), Q w w' → R c c' →
    Q (host.perform w loggers c).1 (host.perform w' loggers c').1 ∧
      (host.perform w loggers c).2 = (host.perform w' loggers c').2
  receive : ∀ {w w'} (sink batch), Q w w' →
    Q (host.receive w sink batch).1 (host.receive w' sink batch).1 ∧
      List.Forall₂ R (host.receive w sink batch).2.1 (host.receive w' sink batch).2.1
  answered : ∀ {w w' a a'} (sink), Q w w' → a.Alike a' →
    Q (host.answered w sink a) (host.answered w' sink a')
  observe : ∀ {w w' h h'}, Q w w' → h.Alike h' → Q (host.observe w h) (host.observe w' h')

structure Thread.Alike (R : κ → κ → Prop) (t t' : Thread κ ρ) : Prop where
  stack : List.Forall₂ (Frame.Alike R) t.stack t'.stack
  answer : Option.Rel Answer.Alike t.answer t'.answer

structure Plant.Alike (Q : σ → σ → Prop) (p p' : Plant σ) : Prop where
  loggers : p.loggers = p'.loggers
  dispatched : p.dispatched = p'.dispatched
  readings : p.readings = p'.readings
  host : Q p.host p'.host

structure Turnout.Alike (R : κ → κ → Prop) (Q : σ → σ → Prop) (o o' : Turnout σ κ ρ) : Prop where
  plant : o.plant.Alike Q o'.plant
  thread : o.thread.Alike R o'.thread
  started : List.Forall₂ (Thread.Alike R) o.started o'.started
  happenings : List.Forall₂ Happening.Alike o.happenings o'.happenings

structure System.Alike (R : κ → κ → Prop) (Q : σ → σ → Prop) (s s' : System σ κ ρ) : Prop where
  plant : s.plant.Alike Q s'.plant
  threads : List.Forall₂ (Thread.Alike R) s.threads s'.threads

theorem steady_eq {hs hs' : List Happening} (h : List.Forall₂ Happening.Alike hs hs') :
    steady hs = steady hs' := by
  induction h with
  | nil => rfl
  | cons alike _ ih =>
    cases alike with
    | same =>
      unfold steady at ih ⊢
      rw [List.filter_cons, List.filter_cons, ih]
    | ended h h' =>
      unfold steady at ih ⊢
      rw [List.filter_cons, List.filter_cons, ih, h, h']
      rfl

theorem forall₂_same_happenings (hs : List Happening) : List.Forall₂ Happening.Alike hs hs :=
  List.forall₂_same.2 fun h _ => .same h

theorem Call.Alike.answer {c c' : Call} (h : c.Alike c') :
    (c.answer : Answer ρ).Alike c'.answer := by
  obtain ⟨logger, purpose, delivered, f, f'⟩ := h
  cases purpose with
  | log => cases f <;> cases f' <;> exact .logged _ _
  | flush => cases f <;> cases f' <;> exact .flushed _ _

theorem Call.Alike.logger_eq {c c' : Call} (h : c.Alike c') : c.logger = c'.logger := by
  cases h
  rfl

theorem Call.Alike.refl (c : Call) : c.Alike c := .mk ..

theorem Frame.Alike.delivers_eq {R : κ → κ → Prop} {f f' : Frame κ} (h : f.Alike R f')
    (id : LoggerId) : f.delivers id = f'.delivers id := by
  cases h with
  | delivering _ _ _ _ _ call =>
    cases call
    rfl
  | _ => rfl

theorem isDelivering_alike {R : κ → κ → Prop} {stack stack' : List (Frame κ)}
    (h : List.Forall₂ (Frame.Alike R) stack stack') (id : LoggerId) :
    isDelivering stack id = isDelivering stack' id :=
  any_eq h fun alike => alike.delivers_eq id

/-! ## One step -/

namespace Machine

variable {host : Host σ κ ρ} {R : κ → κ → Prop} {Q : σ → σ → Prop} {p p' : Plant σ}
  {stack stack' : List (Frame κ)} {hs hs' : List Happening} {a a' : Answer ρ}

theorem reply_alike (blind : host.Blind R Q) (plants : p.Alike Q p') (answers : a.Alike a')
    (frames : List.Forall₂ (Frame.Alike R) stack stack') :
    (reply host p a stack).1.Alike Q (reply host p' a' stack').1 ∧
      (reply host p a stack).2.Alike R (reply host p' a' stack').2 := by
  cases frames with
  | nil => exact ⟨plants, .nil, .some answers⟩
  | cons top rest =>
    have keep := List.Forall₂.cons top rest
    cases top with
    | receiving sink =>
      refine ⟨⟨plants.loggers, plants.dispatched, plants.readings, ?_⟩, keep, .none⟩
      exact blind.answered sink plants.host answers
    | burst => exact ⟨plants, .cons (.burst ..) rest, .none⟩
    | _ => exact ⟨plants, keep, .none⟩

theorem finish_alike (blind : host.Blind R Q) (plants : p.Alike Q p') (answers : a.Alike a')
    (frames : List.Forall₂ (Frame.Alike R) stack stack') (hs : List Happening) :
    (finish host p a stack hs).Alike R Q (finish host p' a' stack' hs) := by
  obtain ⟨plants', threads⟩ := reply_alike blind plants answers frames
  exact ⟨plants', threads, .nil, forall₂_same_happenings hs⟩

theorem proceed_alike (plants : p.Alike Q p')
    (frames : List.Forall₂ (Frame.Alike R) stack stack')
    (happenings : List.Forall₂ Happening.Alike hs hs') :
    (proceed p stack hs : Turnout σ κ ρ).Alike R Q (proceed p' stack' hs') :=
  ⟨plants, ⟨frames, .none⟩, .nil, happenings⟩

theorem setLogger_alike (plants : p.Alike Q p') (id : LoggerId) (l : Logger) :
    (p.setLogger id l).Alike Q (p'.setLogger id l) :=
  ⟨congrArg (·.set id l) plants.loggers, plants.dispatched, plants.readings, plants.host⟩

theorem afterCut_alike {call call' : Call} (blind : host.Blind R Q) (plants : p.Alike Q p')
    (calls : call.Alike call') (cut : Option (Nat × List Entry) × Logger)
    (frames : List.Forall₂ (Frame.Alike R) stack stack') (hs : List Happening) :
    (afterCut host p call cut stack hs).Alike R Q (afterCut host p' call' cut stack' hs) := by
  have answers : (call.answer : Answer ρ).Alike call'.answer := calls.answer
  have hlogger := calls.logger_eq
  have set := setLogger_alike plants call.logger cut.2
  unfold afterCut
  rw [← hlogger]
  obtain ⟨cut, l⟩ := cut
  cases cut with
  | none => exact finish_alike blind set answers frames hs
  | some c =>
    exact proceed_alike set (.cons (.waiting c.1 c.2 calls) frames) (forall₂_same_happenings _)

theorem begin_alike {c c' : κ} (blind : host.Blind R Q) (plants : p.Alike Q p')
    (commands : R c c') (threads : Nat) (frames : List.Forall₂ (Frame.Alike R) stack stack') :
    (begin host p c threads stack).Alike R Q (begin host p' c' threads stack') := by
  unfold begin
  rw [← blind.ask plants.host commands]
  cases host.ask p.host c with
  | log => exact proceed_alike plants (.cons (.log ..) frames) .nil
  | flush => exact proceed_alike plants (.cons (.flush _) frames) .nil
  | burst => exact proceed_alike plants (.cons (.burst ..) frames) .nil
  | spawn id message level =>
    obtain ⟨plants', threads', -, news⟩ := finish_alike blind plants (.same .spawned) frames []
    refine ⟨plants', threads', ?_, news⟩
    exact .cons ⟨.cons (.log ..) .nil, .none⟩ .nil
  | crowd id n count =>
    refine ⟨plants, ⟨.cons (.joining _) frames, .none⟩, ?_, .nil⟩
    apply List.forall₂_map_left_iff.2
    apply List.forall₂_map_right_iff.2
    exact List.forall₂_same.2 fun t _ => ⟨.cons (.burst ..) .nil, .none⟩
  | nothing =>
    obtain ⟨hosts, hsame⟩ := blind.perform p.loggers plants.host commands
    rcases hp : host.perform p.host p.loggers c with ⟨w, opened, r⟩
    rcases hp' : host.perform p'.host p.loggers c' with ⟨w', opened', r'⟩
    rw [hp, hp'] at hosts hsame
    obtain ⟨rfl, rfl⟩ := Prod.mk.inj hsame
    rw [← plants.loggers, hp']
    have opening : Plant.Alike Q { p with loggers := grown p.loggers opened, host := w }
        { p' with loggers := grown p.loggers opened, host := w' } :=
      ⟨rfl, plants.dispatched, plants.readings, hosts⟩
    exact finish_alike blind opening (.same (.other r)) frames []

/-- A delivery that ends goes on to the next sink, however it ends. -/
theorem stepStack_end_alike (plants : p.Alike Q p')
    (rests : List.Forall₂ (Frame.Alike R) stack stack') (sink : SinkId)
    (ending ending' : Except SinkError Unit) (done : List Bool) :
    Option.Rel (Turnout.Alike (ρ := ρ) R Q)
      (stepStack host p done (.receiving sink [] ending :: stack))
      (stepStack host p' done (.receiving sink [] ending' :: stack')) := by
  cases rests with
  | nil => exact .some (proceed_alike plants .nil .nil)
  | cons top rests =>
    have keep := List.Forall₂.cons top rests
    cases top with
    | delivering ticket batch left f f' calls =>
      have goes : ∀ g g', List.Forall₂ (Frame.Alike R) _ _ :=
        fun g g' => .cons (.delivering ticket batch left.tail g g' calls) rests
      cases left with
      | nil => exact .some (proceed_alike plants (goes f f') .nil)
      | cons x left =>
        cases ending <;> cases ending' <;>
          exact .some (proceed_alike plants (goes _ _) (.cons (.ended rfl rfl) .nil))
    | _ => exact .some (proceed_alike plants keep .nil)

theorem stepStack_alike (blind : host.Blind R Q) (plants : p.Alike Q p')
    (frames : List.Forall₂ (Frame.Alike R) stack stack') (done : List Bool) :
    Option.Rel (Turnout.Alike R Q) (stepStack host p done stack)
      (stepStack host p' done stack') := by
  obtain ⟨loggers, dispatched, readings, w⟩ := p
  obtain ⟨loggers', dispatched', readings', w'⟩ := p'
  obtain ⟨hloggers, hdispatched, hreadings, hosts⟩ := plants
  dsimp only at hloggers hdispatched hreadings hosts
  subst hloggers hdispatched hreadings
  have plants : ∀ (loggers : List Logger) (dispatched readings : Nat) {w w' : σ}, Q w w' →
      Plant.Alike Q ⟨loggers, dispatched, readings, w⟩ ⟨loggers, dispatched, readings, w'⟩ :=
    fun _ _ _ _ _ hosts => ⟨rfl, rfl, rfl, hosts⟩
  cases frames with
  | nil => exact .none
  | @cons top top' rest rest' tops rests =>
    cases tops with
    | command commands => exact .some (begin_alike blind (plants _ _ _ hosts) commands _ rests)
    | log id message level =>
      simp only [stepStack, isDelivering_alike rests id]
      cases loggers[id]? with
      | none => exact .some (finish_alike blind (plants _ _ _ hosts) (.same _) rests _)
      | some l =>
        dsimp only
        split
        · exact .some (finish_alike blind (plants _ _ _ hosts) (.same _) rests _)
        · exact .some (afterCut_alike blind (plants _ _ _ hosts) (.refl _) _ rests _)
    | flush id =>
      simp only [stepStack, isDelivering_alike rests id]
      cases loggers[id]? with
      | none => exact .some (finish_alike blind (plants _ _ _ hosts) (.same _) rests _)
      | some l =>
        dsimp only
        split
        · exact .some (finish_alike blind (plants _ _ _ hosts) (.same _) rests _)
        · exact .some (afterCut_alike blind (plants _ _ _ hosts) (.refl _) _ rests _)
    | burst id text level next count f f' =>
      unfold stepStack
      dsimp only
      split
      · exact .some (proceed_alike (plants _ _ _ hosts)
          (.cons (.log ..) (.cons (.burst ..) rests)) .nil)
      · exact .some (finish_alike blind (plants _ _ _ hosts) (.burst f f') rests [])
    | joining threads =>
      unfold stepStack
      dsimp only
      split
      · exact .some (finish_alike blind (plants _ _ _ hosts) (.same _) rests [])
      · exact .none
    | waiting ticket entries calls =>
      obtain ⟨id, purpose, delivered, f, f'⟩ := calls
      unfold stepStack
      dsimp only
      cases loggers[id]? with
      | none => exact .none
      | some l =>
        dsimp only
        split
        · exact .some (proceed_alike (plants _ _ _ hosts)
            (.cons (.delivering _ _ _ _ _ (.mk ..)) rests) (forall₂_same_happenings _))
        · exact .none
    | delivering ticket batch left f f' calls =>
      cases left with
      | nil =>
        obtain ⟨id, purpose, delivered, g, g'⟩ := calls
        unfold stepStack
        dsimp only
        cases loggers[id]? with
        | none => exact .none
        | some l =>
          exact .some (proceed_alike (setLogger_alike (plants _ _ _ hosts) id l.passTurn)
            (.cons (.draining (.mk ..)) rests) (.cons (.same _) .nil))
      | cons x left =>
        have hlogger := calls.logger_eq
        obtain ⟨hosts', todos⟩ := blind.receive x.sink batch hosts
        simp only [stepStack, hlogger]
        exact .some (proceed_alike (plants _ _ _ hosts')
          (.cons (.receiving _ _ _ todos) (.cons (.delivering _ _ _ _ _ calls) rests))
          (forall₂_same_happenings _))
    | receiving sink ending ending' todos =>
      cases todos with
      | cons commands todos =>
        exact .some (proceed_alike (plants _ _ _ hosts)
          (.cons (.command commands) (.cons (.receiving sink ending ending' todos) rests)) .nil)
      | nil => exact stepStack_end_alike (plants _ _ _ hosts) rests sink ending ending' done
    | draining calls =>
      obtain ⟨id, purpose, delivered, f, f'⟩ := calls
      unfold stepStack
      dsimp only
      cases loggers[id]? with
      | none => exact .none
      | some l => exact .some (afterCut_alike blind (plants _ _ _ hosts) (.mk ..) _ rests [])

end Machine

/-! ## Whole runs -/

namespace System

variable {host : Host σ κ ρ} {R : κ → κ → Prop} {Q : σ → σ → Prop} {s s' u : System σ κ ρ}

/-- What comes of a step or a run: alike systems, to which the same has happened but for endings. -/
def Outcome.Alike (R : κ → κ → Prop) (Q : σ → σ → Prop)
    (o o' : System σ κ ρ × List Happening) : Prop :=
  o.1.Alike R Q o'.1 ∧ List.Forall₂ Happening.Alike o.2 o'.2

theorem Alike.done_eq (alike : s.Alike R Q s') :
    s.threads.map (·.stack.isEmpty) = s'.threads.map (·.stack.isEmpty) := by
  rw [← List.forall₂_eq_eq_eq]
  exact List.rel_map (fun _ _ threads => isEmpty_eq threads.stack) alike.threads

theorem observe_alike (blind : host.Blind R Q) {hs hs' : List Happening}
    (happenings : List.Forall₂ Happening.Alike hs hs') :
    ∀ {w w' : σ}, Q w w' → Q (hs.foldl host.observe w) (hs'.foldl host.observe w') := by
  induction happenings with
  | nil => exact fun hosts => hosts
  | cons first _ ih => exact fun hosts => ih (blind.observe hosts first)

theorem step_alike (blind : host.Blind R Q) (alike : s.Alike R Q s') (t : ThreadId) :
    Option.Rel (Outcome.Alike R Q) (s.step host t) (s'.step host t) := by
  have threads := forall₂_getElem? alike.threads t
  unfold step
  generalize s.threads[t]? = thread at threads ⊢
  generalize s'.threads[t]? = thread' at threads ⊢
  cases threads with
  | none => exact .none
  | some threads =>
    dsimp only
    have stepped := Machine.stepStack_alike blind alike.plant threads.stack
      (s.threads.map (·.stack.isEmpty))
    rw [← alike.done_eq]
    generalize Machine.stepStack host s.plant _ _ = out at stepped ⊢
    generalize Machine.stepStack host s'.plant _ _ = out' at stepped ⊢
    cases stepped with
    | none => exact .none
    | some turned =>
      refine .some ⟨⟨⟨turned.plant.loggers, turned.plant.dispatched, turned.plant.readings, ?_⟩,
        ?_⟩, turned.happenings⟩
      · exact observe_alike blind turned.happenings turned.plant.host
      · exact List.rel_append (forall₂_set alike.threads turned.thread t) turned.started

/-- What happens while a thread and the others are driven, with nothing left out. -/
def news (host : Host σ κ ρ) (settle : System σ κ ρ → System σ κ ρ) :
    Nat → ThreadId → System σ κ ρ → List Happening
  | 0, _, _ => []
  | fuel + 1, t, s =>
    match s.step host t with
    | some (next, now) =>
      let t := if s.threads.length < next.threads.length then s.threads.length else t
      now ++ news host settle fuel t (settle next)
    | none =>
      match nextThread host s with
      | some t => news host settle fuel t s
      | none => []

/-- While there is nothing to settle, a drive is one of the runs of the machine. -/
theorem follow_of_drive {settle : System σ κ ρ → System σ κ ρ} (quiet : ∀ s, settle s = s)
    (fuel : Nat) : ∀ {t : ThreadId} {s : System σ κ ρ},
      ∃ schedule, s.follow host schedule =
        some (drive host settle fuel t s, news host settle fuel t s) := by
  induction fuel with
  | zero => exact ⟨[], rfl⟩
  | succ fuel ih =>
    intro t s
    unfold drive news
    cases hstep : s.step host t with
    | none =>
      cases nextThread host s with
      | none => exact ⟨[], rfl⟩
      | some t => exact ih
    | some next =>
      obtain ⟨u, now⟩ := next
      dsimp only
      rw [quiet]
      obtain ⟨schedule, later⟩ := ih
        (t := if s.threads.length < u.threads.length then s.threads.length else t) (s := u)
      exact ⟨t :: schedule, by simp only [follow, hstep, later]⟩

theorem nextThread_alike (blind : host.Blind R Q) (alike : s.Alike R Q s') :
    nextThread host s = nextThread host s' := by
  have hcan : (fun t => canStep host s t) = fun t => canStep host s' t := by
    funext t
    have stepped := step_alike blind alike t
    unfold canStep
    generalize s.step host t = o at stepped ⊢
    generalize s'.step host t = o' at stepped ⊢
    cases stepped with
    | none => rfl
    | some => rfl
  unfold nextThread
  rw [hcan, alike.threads.length_eq]

theorem drive_alike (blind : host.Blind R Q) {settle : System σ κ ρ → System σ κ ρ}
    (settled : ∀ {s s'}, s.Alike R Q s' → (settle s).Alike R Q (settle s')) (fuel : Nat) :
    ∀ {t : ThreadId} {s s' : System σ κ ρ}, s.Alike R Q s' →
      (drive host settle fuel t s).Alike R Q (drive host settle fuel t s') ∧
        List.Forall₂ Happening.Alike (news host settle fuel t s) (news host settle fuel t s') := by
  induction fuel with
  | zero => exact fun alike => ⟨alike, .nil⟩
  | succ fuel ih =>
    intro t s s' alike
    have stepped := step_alike blind alike t
    have hnext := nextThread_alike blind alike
    have hlength := alike.threads.length_eq
    unfold drive news
    generalize s.step host t = o at stepped ⊢
    generalize s'.step host t = o' at stepped ⊢
    cases stepped with
    | none =>
      dsimp only
      rw [← hnext]
      cases nextThread host s with
      | none => exact ⟨alike, .nil⟩
      | some t => exact ih alike
    | some next =>
      obtain ⟨systems, happenings⟩ := next
      dsimp only
      rw [← hlength, ← systems.threads.length_eq]
      obtain ⟨driven, later⟩ := ih (settled systems)
      exact ⟨driven, List.rel_append happenings later⟩

end System

end BatchedLog
