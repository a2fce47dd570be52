import BatchedLog.Proofs.Delivery.Chunks
import BatchedLog.Proofs.Delivery.Course
import BatchedLog.Proofs.Delivery.Endings
import BatchedLog.Proofs.Wiring.Supply
import BatchedLog.Session.Run

/-!
# Calls on loggers with plain sinks

A sink that follows no script gives no commands of its own, so a call on a logger in a world of such
sinks runs straight through: the entries that were cut go to one sink after the other, the turn
passes on, and the look at the buffer after it finds nothing. `State.log` and `State.flush` compute
what becomes of the session, and `drive_log` and `drive_flush` say that this is where the call ends
when it is driven. What happens on the way is the round of the batch that was cut, if there is one.
-/

namespace BatchedLog.Session

def SinkState.isPlain : SinkState → Bool
  | .scripted .. => false
  | _ => true

namespace World

/-- No sink follows a script, and no logger waits to be forgotten. -/
structure Plain (w : World) : Prop where
  sinks : ∀ s ∈ w.sinks, s.isPlain = true
  orphans : w.orphans = []

/-- One sink takes a batch: the world after it, and the failure if there is one. -/
def serve (w : World) (id : LoggerId) (ticket : Nat) (batch : Batch) (x : Wired) :
    World × List SinkFailure :=
  let (w, _, ending) := w.receive x.sink batch
  match ending.caught with
  | .ok () => (w, [])
  | .error e => (w.observe (.failed id ticket ⟨x.name, e⟩), [⟨x.name, e⟩])

def serveAll (w : World) (id : LoggerId) (ticket : Nat) (batch : Batch) :
    List Wired → World × List SinkFailure
  | [] => (w, [])
  | x :: left =>
    let (w, failures) := w.serve id ticket batch x
    let (w, more) := w.serveAll id ticket batch left
    (w, failures ++ more)

variable {w : World}

/-- A sink has taken the batch, or it has failed and this is noted. -/
theorem serve_cases (w : World) (id : LoggerId) (ticket : Nat) (batch : Batch) (x : Wired) :
    ∃ w' todo ending, w.receive x.sink batch = (w', todo, ending) ∧
      (ending.caught = .ok () ∧ w.serve id ticket batch x = (w', []) ∨
        ∃ e, ending.caught = .error e ∧ w.serve id ticket batch x =
          (w'.observe (.failed id ticket ⟨x.name, e⟩), [⟨x.name, e⟩])) := by
  rcases hreceive : w.receive x.sink batch with ⟨w', todo, ending⟩
  refine ⟨w', todo, ending, rfl, ?_⟩
  unfold World.serve
  rw [hreceive]
  dsimp only
  cases hcaught : ending.caught with
  | ok => exact .inl ⟨rfl, rfl⟩
  | error e => exact .inr ⟨e, rfl, rfl⟩

theorem Plain.of_sinks {w' : World} (plain : w.Plain) (hs : w'.sinks = w.sinks)
    (ho : w'.orphans = w.orphans) : w'.Plain :=
  ⟨hs ▸ plain.sinks, ho ▸ plain.orphans⟩

theorem Plain.note (plain : w.Plain) (d : Diagnostic) : (w.note d).Plain :=
  plain.of_sinks rfl rfl

theorem Plain.notes {α : Type} (f : α → Diagnostic) (xs : List α) :
    ∀ {w : World}, w.Plain → (xs.foldl (fun w x => w.note (f x)) w).Plain := by
  induction xs with
  | nil => exact fun plain => plain
  | cons x xs ih => exact fun plain => ih (plain.note _)

theorem Plain.observe (plain : w.Plain) (h : Happening) : (w.observe h).Plain := by
  cases h with
  | began => exact plain.of_sinks rfl rfl
  | failed => exact plain.of_sinks rfl rfl
  | _ => exact plain.of_sinks rfl rfl

theorem Plain.observeAll (hs : List Happening) :
    ∀ {w : World}, w.Plain → (hs.foldl World.observe w).Plain := by
  induction hs with
  | nil => exact fun plain => plain
  | cons h hs ih => exact fun plain => ih (plain.observe h)

theorem Plain.setSink (plain : w.Plain) {s : SinkState} (hs : s.isPlain = true) (id : SinkId) :
    (w.setSink id s).Plain := by
  refine ⟨?_, plain.orphans⟩
  intro s' hs'
  rcases List.mem_or_eq_of_mem_set hs' with hold | rfl
  · exact plain.sinks s' hold
  · exact hs

/-- A plain sink gives no commands, and stays plain. -/
theorem Plain.receive (plain : w.Plain) (id : SinkId) (batch : Batch) :
    (w.receive id batch).1.Plain ∧ (w.receive id batch).2.1 = [] := by
  unfold World.receive
  cases hs : w.sinks[id]? with
  | none => exact ⟨plain, rfl⟩
  | some s =>
    have hplain := plain.sinks s (List.mem_of_getElem? hs)
    cases s with
    | memory name batches => exact ⟨plain.setSink rfl id, rfl⟩
    | file sink =>
      have disk : ∀ d, World.Plain { w with disk := d } := fun d => plain.of_sinks rfl rfl
      exact ⟨(disk _).setSink rfl id, rfl⟩
    | console sink => exact ⟨plain.of_sinks rfl rfl, rfl⟩
    | forward => exact ⟨.notes _ _ plain, rfl⟩
    | scripted => cases hplain

theorem Plain.serve (plain : w.Plain) (id : LoggerId) (ticket : Nat) (batch : Batch) (x : Wired) :
    (w.serve id ticket batch x).1.Plain := by
  have received := (plain.receive x.sink batch).1
  obtain ⟨w', todo, ending, hreceive, ⟨-, hserve⟩ | ⟨e, -, hserve⟩⟩ :=
    w.serve_cases id ticket batch x
  all_goals rw [hreceive] at received
  · rwa [hserve]
  · rw [hserve]
    exact received.of_sinks rfl rfl

theorem Plain.serveAll (id : LoggerId) (ticket : Nat) (batch : Batch) (left : List Wired) :
    ∀ {w : World}, w.Plain → (w.serveAll id ticket batch left).1.Plain := by
  induction left with
  | nil => exact fun plain => plain
  | cons x left ih => exact fun plain => ih (plain.serve ..)

end World

/-! ## Building loggers of plain sinks -/

/-- Whether the sinks of a factory follow no script. -/
def Factory.isPlain : Factory Step → Bool
  | .planned _ plan => plan.kind != .scripted
  | _ => true

theorem isPlain_builtins : ∀ f ∈ (builtins : List (String × Factory Step)), f.2.isPlain = true := by
  decide

namespace World

variable {w : World}

theorem plain_start (disk : Disk) : (World.start disk).Plain :=
  ⟨by simp [World.start], rfl⟩

theorem Plain.addSink (plain : w.Plain) {s : SinkState} (hs : s.isPlain = true) :
    (w.addSink s).1.Plain := by
  refine ⟨?_, plain.orphans⟩
  intro s' hs'
  rcases List.mem_append.1 hs' with hold | hnew
  · exact plain.sinks s' hold
  · rwa [List.mem_singleton.1 hnew]

theorem Plain.makeConsole (plain : w.Plain) (params : Fields) : (w.makeConsole params).1.Plain := by
  unfold World.makeConsole
  split
  · exact plain
  · exact plain.addSink rfl

theorem Plain.makeFile (plain : w.Plain) (params : Fields) : (w.makeFile params).1.Plain := by
  have opened : ∀ disk, World.Plain { w with disk } := fun _ => plain.of_sinks rfl rfl
  unfold World.makeFile
  split
  · exact plain
  · split
    · exact opened _
    · exact Plain.addSink (s := .file _) ((opened _).note _) rfl

theorem Plain.makeSink (plain : w.Plain) {plan : SinkPlan Step} (h : plan.kind ≠ .scripted) :
    (w.makeSink plan).1.Plain := by
  unfold World.makeSink
  cases hkind : plan.kind with
  | memory => exact plain.addSink rfl
  | file => exact plain.makeFile _
  | console => exact plain.makeConsole _
  | forward => exact plain.addSink rfl
  | scripted => exact absurd hkind h

theorem Plain.make (plain : w.Plain) {factory : Factory Step} (h : factory.isPlain = true)
    (type : String) (params : Fields) : (w.make factory type params).1.Plain := by
  cases factory with
  | console => exact plain.makeConsole params
  | file => exact plain.makeFile params
  | forward => exact plain.addSink rfl
  | reject => exact plain
  | refuse => exact plain
  | planned required plan =>
    have hkind : plan.kind ≠ .scripted := by simpa [Factory.isPlain] using h
    unfold World.make
    dsimp only
    split
    · exact plain
    · exact plain.makeSink hkind

theorem Plain.ofConfig {registry : Registry (Factory Step)} (plain : w.Plain)
    (factories : ∀ f ∈ registry, f.2.isPlain = true) (config : AppConfig) :
    (Wiring.ofConfig workshop registry w config).1.Plain := by
  refine Wiring.keeps_ofConfig (fun _ plain => plain.note _) ?_ plain
  intro u named type factory _ _ hfactory plain
  have hplain : factory.isPlain = true := by
    obtain ⟨entry, hentry, rfl⟩ := Option.map_eq_some_iff.1 hfactory
    exact factories entry (List.mem_of_find?_eq_some hentry)
  exact plain.make hplain type named.2.params

end World

/-! ## What a call comes to -/

namespace State

variable (clock : Nat → Instant)

def begin (s : State) (id : LoggerId) (ticket : Nat) (batch : Batch) (sinks : Nat) : State :=
  { s with dispatched := s.dispatched + 1, host := s.host.observe (.began id ticket batch sinks) }

/-- What was cut goes to the sinks of the logger, and the turn passes on. -/
def deliver (s : State) (call : Call) (l : Logger) (ticket : Nat) (entries : List Entry) :
    State × Call :=
  let batch : Batch := ⟨s.dispatched, entries⟩
  let s := begin s call.logger ticket batch l.sinks.length
  let (w, failures) := s.host.serveAll call.logger ticket batch l.sinks
  (Plant.setLogger { s with host := w } call.logger l.passTurn,
    call.conclude batch l.sinks.length failures)

/-- A call that has looked at the buffer comes to its end. -/
def conclude (s : State) (call : Call) (cut : Option (Nat × List Entry) × Logger) : State × Call :=
  let s := Plant.setLogger s call.logger cut.2
  match cut.1 with
  | none => (s, call)
  | some (ticket, entries) => deliver s call cut.2 ticket entries

/-- The session once an entry is in the buffer. -/
def accept (s : State) (id : LoggerId) (entry : Entry) : State :=
  { Plant.read s with host := s.host.observe (.accepted id entry) }

/-- The sinks at work on what was cut, if anything was. -/
def fanOut (s : State) (id : LoggerId) :
    Option (Nat × List Entry) × Logger → World × List SinkFailure
  | (none, _) => (s.host, [])
  | (some (ticket, entries), l) =>
    let batch : Batch := ⟨s.dispatched, entries⟩
    (begin s id ticket batch l.sinks.length).host.serveAll id ticket batch l.sinks

theorem host_conclude (s : State) (call : Call) (cut : Option (Nat × List Entry) × Logger) :
    (conclude s call cut).1.host = (fanOut s call.logger cut).1 := by
  obtain ⟨cut, l⟩ := cut
  cases cut with
  | none => rfl
  | some c => rfl

def log (s : State) (id : LoggerId) (l : Logger) (message : String) (level : Level) :
    State × Call :=
  let entry := Plant.entry (host clock) s message level
  conclude (accept s id entry) (.start id .log) (l.push entry).cutDue

def flush (s : State) (id : LoggerId) (l : Logger) : State × Call :=
  conclude s (.start id .flush) l.cutAll

theorem plain_begin {s : State} (plain : s.host.Plain) (id : LoggerId) (ticket : Nat)
    (batch : Batch) (sinks : Nat) : (begin s id ticket batch sinks).host.Plain :=
  plain.observe (.began id ticket batch sinks)

end State

/-! ## Driving a call -/

/-- A session whose only thread has this stack. -/
def lone (s : State) (stack : List (Frame Step)) : Machine := ⟨s, [⟨stack, none⟩]⟩

/-- The session after a step of its only thread. -/
def turned (out : Turnout World Step Reply) : Machine :=
  ⟨{ out.plant with host := out.happenings.foldl World.observe out.plant.host }, [out.thread]⟩

/-- A session whose only thread has come to its end. -/
def ended (s : State) (answer : Answer Reply) : Machine := ⟨s, [⟨[], some answer⟩]⟩

/-- After so many steps of its own, in which this has happened, the driver of one machine stands at
the other. -/
def Leads (clock : Nat → Instant) (steps : Nat) (m : Machine) (now : List Happening)
    (m' : Machine) : Prop :=
  ∀ fuel, System.drive (host clock) settle (fuel + steps) 0 m =
      System.drive (host clock) settle fuel 0 m' ∧
    System.news (host clock) settle (fuel + steps) 0 m =
      now ++ System.news (host clock) settle fuel 0 m'

variable {clock : Nat → Instant}

theorem Leads.trans {j k : Nat} {m₁ m₂ m₃ : Machine} {now later : List Happening}
    (first : Leads clock j m₁ now m₂) (second : Leads clock k m₂ later m₃) :
    Leads clock (k + j) m₁ (now ++ later) m₃ := by
  intro fuel
  rw [← Nat.add_assoc, (first _).1, (second _).1, (first _).2, (second _).2, List.append_assoc]
  exact ⟨rfl, rfl⟩

theorem settle_of_no_orphans {m : Machine} (h : m.plant.host.orphans = []) : settle m = m := by
  simp [settle, h]

theorem orphans_observe (w : World) (h : Happening) : (w.observe h).orphans = w.orphans := by
  cases h <;> rfl

theorem orphans_observeAll (hs : List Happening) :
    ∀ w : World, (hs.foldl World.observe w).orphans = w.orphans := by
  induction hs with
  | nil => exact fun _ => rfl
  | cons h hs ih =>
    intro w
    rw [List.foldl_cons, ih, orphans_observe]

/-- A step of the only thread is one of the driver's. -/
theorem leads_of_stepStack {s : State} {frame : Frame Step} {below : List (Frame Step)}
    {out : Turnout World Step Reply}
    (h : Machine.stepStack (host clock) s [false] (frame :: below) = some out)
    (hstarted : out.started = []) (horphans : out.plant.host.orphans = []) :
    Leads clock 1 (lone s (frame :: below)) out.happenings (turned out) := by
  intro fuel
  have hstep : (lone s (frame :: below)).step (host clock) 0 =
      some (turned out, out.happenings) := by
    have h' : Machine.stepStack (host clock) (lone s (frame :: below)).plant
      ((lone s (frame :: below)).threads.map (·.stack.isEmpty)) (frame :: below) = some out := h
    unfold System.step
    simp only [lone, List.getElem?_cons_zero] at h' ⊢
    rw [h']
    simp [hstarted, host, turned]
  have hsettle : settle (turned out) = turned out := by
    apply settle_of_no_orphans
    exact (orphans_observeAll ..).trans horphans
  constructor
  · rw [System.drive, hstep]
    simp only [hsettle]
    rfl
  · rw [System.news, hstep]
    simp only [hsettle]
    rfl

theorem leads_of_proceed {s : State} {frame : Frame Step} {below stack : List (Frame Step)}
    (p : State) (hs : List Happening)
    (h : Machine.stepStack (host clock) s [false] (frame :: below) =
      some (Machine.proceed p stack hs))
    (horphans : p.host.orphans = []) :
    Leads clock 1 (lone s (frame :: below)) hs
      (lone { p with host := hs.foldl World.observe p.host } stack) :=
  leads_of_stepStack h rfl horphans

theorem leads_of_finish {s : State} {frame : Frame Step} {below : List (Frame Step)}
    {answer : Answer Reply} (p : State) (hs : List Happening)
    (h : Machine.stepStack (host clock) s [false] (frame :: below) =
      some (Machine.finish (host clock) p answer [] hs))
    (horphans : p.host.orphans = []) :
    Leads clock 1 (lone s (frame :: below)) hs
      (ended { p with host := hs.foldl World.observe p.host } answer) :=
  leads_of_stepStack h rfl horphans

theorem step_of_done {m : Machine} (h : ∀ t ∈ m.threads, t.stack = []) (t : ThreadId) :
    m.step (host clock) t = none := by
  unfold System.step
  cases ht : m.threads[t]? with
  | none => rfl
  | some thread => simp [h thread (List.mem_of_getElem? ht), Machine.stepStack]

theorem nextThread_of_done {m : Machine} (h : ∀ t ∈ m.threads, t.stack = []) :
    System.nextThread (host clock) m = none := by
  simp [System.nextThread, System.canStep, step_of_done h]

/-- A machine whose threads are all done stays as it is. -/
theorem drive_of_done {m : Machine} (h : ∀ t ∈ m.threads, t.stack = []) (fuel : Nat)
    (t : ThreadId) : System.drive (host clock) settle fuel t m = m := by
  cases fuel with
  | zero => rfl
  | succ fuel => simp [System.drive, step_of_done h, nextThread_of_done h]

theorem news_of_done {m : Machine} (h : ∀ t ∈ m.threads, t.stack = []) (fuel : Nat)
    (t : ThreadId) : System.news (host clock) settle fuel t m = [] := by
  cases fuel with
  | zero => rfl
  | succ fuel => simp [System.news, step_of_done h, nextThread_of_done h]

/-- What is seen of a logger in what happens: batches cut, what is done about them, and what of it
failed. -/
structure Shows (id : LoggerId) (now : List Happening) (cuts : List (Nat × List Entry))
    (deeds : List Deed) (failures : List SinkFailure) : Prop where
  cuts : cutsOf id now = cuts
  deeds : deedsOf id now = deeds
  failures : failuresOf id now = failures

theorem Shows.append {id : LoggerId} {now later : List Happening}
    {cuts cuts' : List (Nat × List Entry)} {deeds deeds' : List Deed}
    {failures failures' : List SinkFailure} (first : Shows id now cuts deeds failures)
    (second : Shows id later cuts' deeds' failures') :
    Shows id (now ++ later) (cuts ++ cuts') (deeds ++ deeds') (failures ++ failures') := by
  refine ⟨?_, ?_, ?_⟩
  · rw [cutsOf_append, first.cuts, second.cuts]
  · rw [deedsOf_append, first.deeds, second.deeds]
  · rw [failuresOf_append, first.failures, second.failures]

theorem shows_single {id : LoggerId} {x : Happening} (hid : x.logger = id) (hcut : x.cut? = none) :
    Shows id [x] [] x.deed?.toList x.failure?.toList :=
  ⟨cutsOf_single hcut, deedsOf_single hid, failuresOf_single hid⟩

theorem shows_cutNews (id : LoggerId) (cut : Option (Nat × List Entry) × Logger) :
    Shows id (cutNews id cut) cut.1.toList [] [] :=
  ⟨cutsOf_cutNews id cut, deedsOf_cutNews id id cut, failuresOf_cutNews id id cut⟩

section

variable {s : State} {call : Call} {ticket : Nat} {batch : Batch} {rest : List (Frame Step)}

/-- A plain sink takes two steps with a batch: it is handed it, and it ends. -/
theorem leads_serve {x : Wired} {left : List Wired} {failures : List SinkFailure}
    (plain : s.host.Plain) :
    ∃ now, Leads clock 2 (lone s (.delivering call ticket batch (x :: left) failures :: rest)) now
        (lone { s with host := (s.host.serve call.logger ticket batch x).1 }
          (.delivering call ticket batch left
            (failures ++ (s.host.serve call.logger ticket batch x).2) :: rest)) ∧
      Shows call.logger now [] [.handed ticket batch.entries x, .ended ticket x.name]
        (s.host.serve call.logger ticket batch x).2 := by
  obtain ⟨hplain, htodo⟩ := plain.receive x.sink batch
  obtain ⟨w, todo, ending, hreceive, served⟩ := s.host.serve_cases call.logger ticket batch x
  rw [hreceive] at hplain htodo
  obtain rfl : todo = [] := htodo
  have orphans : w.orphans = [] := hplain.orphans
  have hand : Leads clock 1 (lone s (.delivering call ticket batch (x :: left) failures :: rest))
      [.handed call.logger ticket batch x]
      (lone { s with host := w }
        (.receiving x.sink [] ending.caught ::
          .delivering call ticket batch (x :: left) failures :: rest)) := by
    refine leads_of_proceed { s with host := w } [.handed call.logger ticket batch x] ?_ orphans
    simp [Machine.stepStack, host, hreceive]
  have handed : Shows call.logger [.handed call.logger ticket batch x] []
      [.handed ticket batch.entries x] [] := shows_single rfl rfl
  obtain ⟨hcaught, hserve⟩ | ⟨e, hcaught, hserve⟩ := served
  · rw [hcaught] at hand
    rw [hserve, List.append_nil]
    exact ⟨_, hand.trans (leads_of_proceed { s with host := w } [.took call.logger ticket x] rfl
      orphans), handed.append (shows_single rfl rfl)⟩
  · rw [hcaught] at hand
    rw [hserve]
    exact ⟨_, hand.trans (leads_of_proceed { s with host := w }
      [.failed call.logger ticket ⟨x.name, e⟩] rfl orphans), handed.append (shows_single rfl rfl)⟩

theorem leads_serveAll (left : List Wired) :
    ∀ {s : State} {w : World} (failures : List SinkFailure) {more : List SinkFailure},
    s.host.Plain → s.host.serveAll call.logger ticket batch left = (w, more) →
    ∃ now, Leads clock (2 * left.length)
        (lone s (.delivering call ticket batch left failures :: rest)) now
        (lone { s with host := w } (.delivering call ticket batch [] (failures ++ more) :: rest)) ∧
      Shows call.logger now [] (attempts ticket batch.entries left) more := by
  induction left with
  | nil =>
    intro s w failures more plain served
    cases served
    rw [List.append_nil]
    exact ⟨[], fun fuel => ⟨rfl, rfl⟩, rfl, rfl, rfl⟩
  | cons x left ih =>
    intro s w failures more plain served
    obtain ⟨rfl, rfl⟩ := Prod.mk.inj served
    rw [List.length_cons, Nat.mul_succ, ← List.append_assoc]
    obtain ⟨now, leads, shows⟩ := leads_serve plain
    obtain ⟨later, leads', shows'⟩ :=
      ih (s := { s with host := (s.host.serve call.logger ticket batch x).1 })
        (failures ++ (s.host.serve call.logger ticket batch x).2) (plain.serve ..) rfl
    exact ⟨_, leads.trans leads', shows.append shows'⟩

/-- After the last sink the turn passes on, and the look at the buffer finds nothing. -/
theorem leads_pass {l : Logger} {failures : List SinkFailure} (plain : s.host.Plain)
    (hl : s.loggers[call.logger]? = some l) (small : l.Small) :
    Leads clock 2 (lone s [.delivering call ticket batch [] failures])
      [.released call.logger ticket]
      (ended (Plant.setLogger s call.logger l.passTurn)
        (call.conclude batch l.sinks.length failures).answer) := by
  have release : Leads clock 1 (lone s [.delivering call ticket batch [] failures])
      [.released call.logger ticket]
      (lone (Plant.setLogger s call.logger l.passTurn)
        [.draining (call.conclude batch l.sinks.length failures)]) := by
    refine leads_of_proceed (Plant.setLogger s call.logger l.passTurn)
      [.released call.logger ticket] ?_ plain.orphans
    simp [Machine.stepStack, hl]
  rw [← List.append_nil [Happening.released call.logger ticket]]
  refine release.trans ?_
  refine leads_of_finish (Plant.setLogger s call.logger l.passTurn) [] ?_ plain.orphans
  have hlt : call.logger < s.loggers.length := (List.getElem?_eq_some_iff.1 hl).1
  have hdue : l.passTurn.cutDue = (none, l.passTurn) := Logger.cutDue_of_small small
  simp [Machine.stepStack, Machine.afterCut, Call.conclude, hlt, hdue, Plant.setLogger]

/-- A batch that has its turn comes to its sinks, and the buffer has nothing more for them. -/
theorem leads_deliver {l : Logger} (clock : Nat → Instant) (ticket : Nat) (entries : List Entry)
    (plain : s.host.Plain) (hl : s.loggers[call.logger]? = some l) (hturn : l.turn = ticket)
    (small : l.Small) :
    ∃ now, Leads clock (2 * l.sinks.length + 3) (lone s [.waiting call ticket entries]) now
        (ended (State.deliver s call l ticket entries).1
          (State.deliver s call l ticket entries).2.answer) ∧
      Shows call.logger now [] (round l.sinks (ticket, entries))
        (State.fanOut s call.logger (some (ticket, entries), l)).2 := by
  obtain ⟨batch, hbatch⟩ : ∃ batch : Batch, batch = ⟨s.dispatched, entries⟩ := ⟨_, rfl⟩
  obtain ⟨begun, hbegun⟩ : ∃ begun, begun = State.begin s call.logger ticket batch l.sinks.length :=
    ⟨_, rfl⟩
  have begun_plain : begun.host.Plain := by
    rw [hbegun]
    exact State.plain_begin plain ..
  obtain ⟨⟨w, failures⟩, hserved⟩ :
    ∃ served, begun.host.serveAll call.logger ticket batch l.sinks = served := ⟨_, rfl⟩
  have served_plain : w.Plain := by
    have kept := begun_plain.serveAll call.logger ticket batch l.sinks
    rwa [hserved] at kept
  have hdeliver : State.deliver s call l ticket entries =
      (Plant.setLogger { begun with host := w } call.logger l.passTurn,
        call.conclude batch l.sinks.length failures) := by
    subst hbatch hbegun
    simp [State.deliver, hserved]
  have hentries : batch.entries = entries := by rw [hbatch]
  have turn : Leads clock 1 (lone s [.waiting call ticket entries])
      [.began call.logger ticket batch l.sinks.length]
      (lone begun [.delivering call ticket batch l.sinks []]) := by
    subst hbatch hbegun
    refine leads_of_proceed { s with dispatched := s.dispatched + 1 }
      [.began call.logger ticket ⟨s.dispatched, entries⟩ l.sinks.length] ?_ plain.orphans
    simp [Machine.stepStack, hl, hturn]
  have turned : Shows call.logger [.began call.logger ticket batch l.sinks.length] []
      [.began ticket entries] [] := by
    rw [← hentries]
    exact shows_single rfl rfl
  obtain ⟨now, serve, served⟩ : ∃ now, Leads clock (2 * l.sinks.length)
      (lone begun [.delivering call ticket batch l.sinks []]) now
      (lone { begun with host := w } [.delivering call ticket batch [] failures]) ∧
      Shows call.logger now [] (attempts ticket batch.entries l.sinks) failures :=
    leads_serveAll l.sinks [] begun_plain hserved
  have hl' : begun.loggers[call.logger]? = some l := hbegun ▸ hl
  have pass : Leads clock 2
      (lone { begun with host := w } [.delivering call ticket batch [] failures])
      [.released call.logger ticket]
      (ended (Plant.setLogger { begun with host := w } call.logger l.passTurn)
        (call.conclude batch l.sinks.length failures).answer) :=
    leads_pass (s := { begun with host := w }) served_plain hl' small
  have passed : Shows call.logger [.released call.logger ticket] [] [.released ticket] [] :=
    shows_single rfl rfl
  rw [hdeliver]
  have all := (turn.trans serve).trans pass
  have hsteps : 2 + (2 * l.sinks.length + 1) = 2 * l.sinks.length + 3 := by omega
  rw [hsteps] at all
  have shown := (turned.append served).append passed
  rw [hentries, List.append_nil ([] ++ failures)] at shown
  have hfailures : (State.fanOut s call.logger (some (ticket, entries), l)).2 = failures := by
    subst hbatch hbegun
    exact congrArg Prod.snd hserved
  rw [hfailures]
  exact ⟨_, all, shown⟩

/-- A call that has looked at the buffer of a logger at rest runs on to its end. -/
theorem leads_conclude {p : State} {frame : Frame Step} {l : Logger}
    {cut : Option (Nat × List Entry) × Logger} {hs : List Happening}
    (h : Machine.stepStack (host clock) s [false] [frame] =
      some (Machine.afterCut (host clock) p call cut [] hs))
    (hshows : Shows call.logger hs [] [] [])
    (plain : p.host.Plain) (hlt : call.logger < p.loggers.length) (cuts : l.Cuts cut)
    (resting : l.turn = l.cut) (small : cut.2.Small) :
    ∃ steps ≤ 2 * l.sinks.length + 4, ∃ now, Leads clock steps (lone s [frame]) now
        (ended (State.conclude { p with host := hs.foldl World.observe p.host } call cut).1
          (State.conclude { p with host := hs.foldl World.observe p.host } call cut).2.answer) ∧
      Shows call.logger now cut.1.toList (cut.1.toList.flatMap (round l.sinks))
        (State.fanOut { p with host := hs.foldl World.observe p.host } call.logger cut).2 := by
  have observed := plain.observeAll hs
  rcases cuts with rfl | ⟨-, rfl⟩
  · refine ⟨1, by omega, hs, ?_, hshows⟩
    exact leads_of_finish (Plant.setLogger p call.logger l) hs h plain.orphans
  · obtain ⟨q, hq⟩ : ∃ q : State, q = Plant.setLogger
        { p with host := hs.foldl World.observe p.host } call.logger l.emptied := ⟨_, rfl⟩
    have cut_first : Leads clock 1 (lone s [frame])
        (hs ++ [.cut call.logger l.cut l.buffer.pending])
        (lone q [.waiting call l.cut l.buffer.pending]) := by
      have first := leads_of_proceed (Plant.setLogger p call.logger l.emptied) _ h plain.orphans
      rw [List.foldl_append] at first
      rw [hq]
      exact first
    have hl : q.loggers[call.logger]? = some l.emptied := by
      rw [hq]
      simp [Plant.setLogger, hlt]
    have hplain : q.host.Plain := by
      rw [hq]
      exact observed
    obtain ⟨now, delivered, shown⟩ :=
      leads_deliver clock l.cut l.buffer.pending hplain hl resting small
    have shown_cut : Shows call.logger [.cut call.logger l.cut l.buffer.pending]
        [(l.cut, l.buffer.pending)] [] [] :=
      shows_cutNews call.logger (some (l.cut, l.buffer.pending), l.emptied)
    rw [hq] at cut_first delivered
    have shown_all := (hshows.append shown_cut).append shown
    rw [List.append_nil] at shown_all
    have hfanOut : q.fanOut call.logger (some (l.cut, l.buffer.pending), l.emptied) =
        State.fanOut { p with host := hs.foldl World.observe p.host } call.logger
          (some (l.cut, l.buffer.pending), l.emptied) := by
      rw [hq]
      rfl
    rw [hfanOut] at shown_all
    refine ⟨2 * l.sinks.length + 3 + 1, by omega, _, cut_first.trans delivered, ?_⟩
    simpa [Logger.emptied] using shown_all

end

/-! ## A call driven to its end -/

theorem sinks_le_wiredCount {s : State} {l : Logger} (h : l ∈ s.loggers) :
    l.sinks.length ≤ wiredCount s := by
  have grows : ∀ (ls : List Logger) (n : Nat), n ≤ ls.foldl (fun n l => n + l.sinks.length) n := by
    intro ls
    induction ls with
    | nil => exact fun _ => Nat.le_refl _
    | cons l ls ih => exact fun n => Nat.le_trans (Nat.le_add_right n _) (ih _)
  have counted : ∀ (ls : List Logger) (n : Nat), l ∈ ls →
      l.sinks.length ≤ ls.foldl (fun n l => n + l.sinks.length) n := by
    intro ls
    induction ls with
    | nil => exact fun _ hmem => nomatch hmem
    | cons l' ls ih =>
      intro n hmem
      rcases List.mem_cons.1 hmem with rfl | hmem
      · exact Nat.le_trans (Nat.le_add_left _ n) (grows ls _)
      · exact ih _ hmem
  exact counted s.loggers 0 h

/-- The driver has the patience for a call on a logger with plain sinks. -/
theorem le_patience {s : State} {l : Logger} (h : l ∈ s.loggers) :
    2 * l.sinks.length + 4 ≤ patience s := by
  have hsinks := sinks_le_wiredCount h
  have hpow : 4 ≤ Nat.pow 2 40 := by decide
  unfold patience
  omega

theorem drive_of_leads {s s' : State} {frame : Frame Step} {steps : Nat} {now : List Happening}
    {answer : Answer Reply} (leads : Leads clock steps (lone s [frame]) now (ended s' answer))
    (h : steps ≤ patience s) : drive clock s frame = (s', [⟨[], some answer⟩]) := by
  obtain ⟨fuel, hfuel⟩ := Nat.exists_eq_add_of_le' h
  have hdone : System.drive (host clock) settle fuel 0 (ended s' answer) = ended s' answer :=
    drive_of_done (by simp [ended]) fuel 0
  have hdrive : System.drive (host clock) settle (patience s) 0 (lone s [frame]) =
      ended s' answer := by
    rw [hfuel, (leads fuel).1, hdone]
  unfold drive
  change ((System.drive (host clock) settle (patience s) 0 (lone s [frame])).plant,
    (System.drive (host clock) settle (patience s) 0 (lone s [frame])).threads) = _
  rw [hdrive]
  rfl

/-- What happens while a call is driven is what has happened when it has come to its end. -/
theorem news_of_leads {s s' : State} {frame : Frame Step} {steps : Nat} {now : List Happening}
    {answer : Answer Reply} (leads : Leads clock steps (lone s [frame]) now (ended s' answer))
    (h : steps ≤ patience s) :
    System.news (host clock) settle (patience s) 0 (lone s [frame]) = now := by
  obtain ⟨fuel, hfuel⟩ := Nat.exists_eq_add_of_le' h
  rw [hfuel, (leads fuel).2, news_of_done (by simp [ended]) fuel 0, List.append_nil]

/-- What a step leaves behind is what driving it does, after the page is turned. -/
theorem carryOut_of_drive {s s' : State} {frame : Frame Step} {threads : List (Thread Step Reply)}
    (h : drive clock (turnPage s) frame = (s', threads)) : (carryOut clock s frame).1 = s' := by
  unfold carryOut
  rw [h]

/-- A logger between calls, in a world of plain sinks: what was cut from it has had its turn, and
nothing in it is due. -/
structure AtRest (s : State) (id : LoggerId) (l : Logger) : Prop where
  plain : s.host.Plain
  here : s.loggers[id]? = some l
  turn : l.turn = l.cut
  small : l.Small

section

variable {s : State} {id : LoggerId} {l : Logger} {message : String} {level : Level}

theorem AtRest.leads_log (clock : Nat → Instant) (rest : AtRest s id l) (message : String)
    (level : Level) :
    ∃ steps ≤ patience s, ∃ now, Leads clock steps (lone s [.log id message level]) now
        (ended (State.log clock s id l message level).1
          (State.log clock s id l message level).2.answer) ∧
      Shows id now (l.push (Plant.entry (host clock) s message level)).cutDue.1.toList
        ((l.push (Plant.entry (host clock) s message level)).cutDue.1.toList.flatMap
          (round l.sinks))
        (State.fanOut (State.accept s id (Plant.entry (host clock) s message level)) id
          (l.push (Plant.entry (host clock) s message level)).cutDue).2 := by
  have looked : Machine.stepStack (host clock) s [false] [.log id message level] =
      some (Machine.afterCut (host clock) (Plant.read s) (.start id .log)
        (l.push (Plant.entry (host clock) s message level)).cutDue []
        [.accepted id (Plant.entry (host clock) s message level)]) := by
    simp [Machine.stepStack, rest.here, isDelivering, Plant.read, Plant.entry]
  obtain ⟨steps, hsteps, leads⟩ := leads_conclude looked (shows_single rfl rfl) rest.plain
    (List.getElem?_eq_some_iff.1 rest.here).1 (Logger.cutDue_cuts _) rest.turn
    (Logger.small_cutDue _)
  have patient := le_patience (List.mem_of_getElem? rest.here)
  exact ⟨steps, Nat.le_trans hsteps patient, leads⟩

theorem AtRest.leads_flush (clock : Nat → Instant) (rest : AtRest s id l) :
    ∃ steps ≤ patience s, ∃ now, Leads clock steps (lone s [.flush id]) now
        (ended (State.flush s id l).1 (State.flush s id l).2.answer) ∧
      Shows id now l.cutAll.1.toList (l.cutAll.1.toList.flatMap (round l.sinks))
        (State.fanOut s id l.cutAll).2 := by
  have looked : Machine.stepStack (host clock) s [false] [.flush id] =
      some (Machine.afterCut (host clock) s (.start id .flush) l.cutAll [] [.flushed id]) := by
    simp [Machine.stepStack, rest.here, isDelivering]
  obtain ⟨steps, hsteps, leads⟩ := leads_conclude looked (shows_single rfl rfl) rest.plain
    (List.getElem?_eq_some_iff.1 rest.here).1 (Logger.cutAll_cuts _) rest.turn
    (Logger.small_cutAll _)
  have patient := le_patience (List.mem_of_getElem? rest.here)
  exact ⟨steps, Nat.le_trans hsteps patient, leads⟩

theorem AtRest.drive_log (rest : AtRest s id l) :
    drive clock s (.log id message level) =
      ((State.log clock s id l message level).1,
        [⟨[], some (State.log clock s id l message level).2.answer⟩]) := by
  obtain ⟨steps, hsteps, now, leads, -⟩ := rest.leads_log clock message level
  exact drive_of_leads leads hsteps

theorem AtRest.drive_flush (rest : AtRest s id l) :
    drive clock s (.flush id) =
      ((State.flush s id l).1, [⟨[], some (State.flush s id l).2.answer⟩]) := by
  obtain ⟨steps, hsteps, now, leads, -⟩ := rest.leads_flush clock
  exact drive_of_leads leads hsteps

/-- A log call that cuts a batch has it delivered whole, and nothing else. -/
theorem AtRest.shows_log (clock : Nat → Instant) (rest : AtRest s id l) (message : String)
    (level : Level) :
    Shows id (System.news (host clock) settle (patience s) 0 (lone s [.log id message level]))
      (l.push (Plant.entry (host clock) s message level)).cutDue.1.toList
      ((l.push (Plant.entry (host clock) s message level)).cutDue.1.toList.flatMap
        (round l.sinks))
      (State.fanOut (State.accept s id (Plant.entry (host clock) s message level)) id
        (l.push (Plant.entry (host clock) s message level)).cutDue).2 := by
  obtain ⟨steps, hsteps, now, leads, shows⟩ := rest.leads_log clock message level
  rwa [news_of_leads leads hsteps]

theorem AtRest.shows_flush (clock : Nat → Instant) (rest : AtRest s id l) :
    Shows id (System.news (host clock) settle (patience s) 0 (lone s [.flush id]))
      l.cutAll.1.toList (l.cutAll.1.toList.flatMap (round l.sinks))
      (State.fanOut s id l.cutAll).2 := by
  obtain ⟨steps, hsteps, now, leads, shows⟩ := rest.leads_flush clock
  rwa [news_of_leads leads hsteps]

theorem AtRest.turnPage (rest : AtRest s id l) : AtRest (turnPage s) id l :=
  ⟨rest.plain.of_sinks rfl rfl, rest.here, rest.turn, rest.small⟩

theorem AtRest.carryOut_log (clock : Nat → Instant) (rest : AtRest s id l) :
    (carryOut clock s (.log id message level)).1 =
      (State.log clock (Session.turnPage s) id l message level).1 :=
  carryOut_of_drive rest.turnPage.drive_log

theorem AtRest.carryOut_flush (clock : Nat → Instant) (rest : AtRest s id l) :
    (carryOut clock s (.flush id)).1 = (State.flush (Session.turnPage s) id l).1 :=
  carryOut_of_drive rest.turnPage.drive_flush

/-- A call leaves the logger at rest, with the buffer as it was left by the look at it. -/
theorem atRest_conclude (call : Call) {cut : Option (Nat × List Entry) × Logger}
    (plain : s.host.Plain) (hlt : call.logger < s.loggers.length) (cuts : l.Cuts cut)
    (turn : l.turn = l.cut) (small : cut.2.Small) :
    ∃ l', AtRest (State.conclude s call cut).1 call.logger l' ∧ l'.sinks = l.sinks ∧
      l'.buffer = cut.2.buffer := by
  rcases cuts with rfl | ⟨-, rfl⟩
  · refine ⟨l, ⟨plain, ?_, turn, small⟩, rfl, rfl⟩
    simp [State.conclude, Plant.setLogger, hlt]
  · refine ⟨l.emptied.passTurn, ⟨?_, ?_, ?_, small⟩, rfl, rfl⟩
    · exact World.Plain.serveAll _ _ _ _ (State.plain_begin plain ..)
    · simp [State.conclude, State.deliver, State.begin, Plant.setLogger, hlt]
    · exact congrArg (· + 1) turn

theorem AtRest.log (clock : Nat → Instant) (rest : AtRest s id l) (message : String)
    (level : Level) :
    ∃ l', AtRest (State.log clock s id l message level).1 id l' ∧ l'.sinks = l.sinks ∧
      l'.buffer = (l.push (Plant.entry (host clock) s message level)).cutDue.2.buffer := by
  have accepted : (State.accept s id (Plant.entry (host clock) s message level)).host.Plain :=
    rest.plain.observe (.accepted id (Plant.entry (host clock) s message level))
  exact atRest_conclude (.start id .log)
    (l := l.push (Plant.entry (host clock) s message level)) accepted
    (List.getElem?_eq_some_iff.1 rest.here).1 (Logger.cutDue_cuts _) rest.turn
    (Logger.small_cutDue _)

theorem AtRest.flush (rest : AtRest s id l) :
    ∃ l', AtRest (State.flush s id l).1 id l' ∧ l'.sinks = l.sinks ∧
      l'.buffer = l.cutAll.2.buffer :=
  atRest_conclude (.start id .flush) rest.plain (List.getElem?_eq_some_iff.1 rest.here).1
    (Logger.cutAll_cuts _) rest.turn (Logger.small_cutAll _)

end

end BatchedLog.Session
