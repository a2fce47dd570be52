import BatchedLog.Session.World

/-!
# Steps of a session

What a step asks of the pipeline, and how the world carries out the steps that ask nothing of it.
-/

namespace BatchedLog.Session

namespace World

/-- To log a message through the logger in a slot, if there is one. -/
def askLog (w : World) (i : Nat) (text : String) (level : Level) : Demand :=
  ((w.slot i).map fun l => Demand.log l text level).getD .nothing

def ask (w : World) : Step → Demand
  | .log i text level => w.askLog i text level
  | .error i text => w.askLog i text .error
  | .warning i text => w.askLog i text .warning
  | .info i text => w.askLog i text .info
  | .trace i text => if w.context.debug then w.askLog i text .trace else .nothing
  | .flush i => ((w.slot i).map Demand.flush).getD .nothing
  | .logMany i n text level => ((w.slot i).map fun l => Demand.burst l text level n).getD .nothing
  | .spawn i text level => ((w.slot i).map fun l => Demand.spawn l text level).getD .nothing
  | .threads i threads n => ((w.slot i).map fun l => Demand.crowd l threads n).getD .nothing
  | _ => .nothing

/-- What a step comes to: the world, loggers it opened, and its reply. -/
abbrev Outcome := World × List (FlushPolicy × List Wired) × Reply

def plainly (w : World) (r : Reply) : Outcome := (w, [], r)

def ofLogger (w : World) (loggers : List Logger) (i : Nat) (reply : Logger → Reply) : Reply :=
  match (w.slot i).bind (loggers[·]?) with
  | none => .noLogger
  | some l => reply l

/-- The slot of a logger; one that has none gets a new one. -/
def slotOf (w : World) (l : LoggerId) : World × Nat :=
  match w.slots.findIdx? (· = some l) with
  | some i => (w, i)
  | none => ({ w with slots := w.slots ++ [some l] }, w.slots.length)

/-- A logger that no slot and not the process keeps is an orphan. -/
def release (w : World) (l : LoggerId) : World :=
  if w.slots.contains (some l) ∨ w.shared.logger = some l then w
  else { w with orphans := w.orphans ++ [l] }

def build (w : World) (loggers : List Logger) (plan : LoggerPlan Step) : Outcome :=
  match w.wire plan with
  | (w, .error e) => w.plainly (.notBuilt e)
  | (w, .ok wiring) =>
    let (w, i) := w.slotOf loggers.length
    (w, [(wiring.policy, wiring.sinks)], .built i (describe (.start wiring.policy wiring.sinks)))

def drop (w : World) (i : Nat) : Outcome :=
  match w.slot i with
  | none => w.plainly (.flag false)
  | some l => ({ w with slots := w.slots.set i none }.release l).plainly (.flag true)

/-! ## Memory sinks -/

def memories (w : World) : List (String × List Batch) :=
  w.sinks.filterMap fun
    | .memory name batches => some (name, batches)
    | _ => none

/-- Whether the messages of thread `t` are its numbers from zero on, in order. -/
def inOrder (messages : List String) (n t : Nat) : Bool :=
  let head := toString t ++ ":"
  messages.filter (·.startsWith head) == (List.range n).map fun i => head ++ toString i

def auditOf (batches : List Batch) (threads n : Nat) : Audit :=
  let messages := batches.flatMap fun b => b.entries.map (·.message)
  { sizes := batches.map (·.entries.length)
    total := messages.length
    unique := messages.eraseDups.length
    ordered := (List.range threads).all (inOrder messages n) }

/-! ## The process -/

/-- Make the shared logger from the configuration of the process. -/
def makeShared (loggers : List Logger) (w : World × List Wiring) :
    (World × List Wiring) × Except LoggerError LoggerId :=
  let (w, opened) := w
  let (context, config) := w.context.read
  match Wiring.ofConfig workshop w.registry { w with context } config with
  | (w, .error e) => ((w, opened), .error e)
  | (w, .ok wiring) =>
    let w := w.note (.sharedCreated (wiring.sinks.map (·.name)) wiring.policy.interval)
    ((w, opened ++ [wiring]), .ok (loggers.length + opened.length))

/-- One call for the shared logger. -/
def acquire (loggers : List Logger) (w : World × List Wiring) :
    (World × List Wiring) × Except LoggerError LoggerId :=
  match Shared.acquire (makeShared loggers) w.1.shared w with
  | (shared, (w, opened), result) =>
    (({ w with shared }, opened), result)

def opening (opened : List Wiring) : List (FlushPolicy × List Wired) :=
  opened.map fun wiring => (wiring.policy, wiring.sinks)

def get (w : World) (loggers : List Logger) : Outcome :=
  match acquire loggers (w, []) with
  | ((w, opened), .error e) => (w, opening opened, .notBuilt (.logger e))
  | ((w, opened), .ok l) =>
    let (w, i) := w.slotOf l
    let all := loggers ++ (opening opened).map fun (policy, sinks) => Logger.start policy sinks
    (w, opening opened, ofLogger w all i fun l => .built i (describe l))

/-- Several calls; the slots of those that succeed. -/
def getMany (loggers : List Logger) :
    Nat → World × List Wiring → (World × List Wiring) × List LoggerId
  | 0, w => (w, [])
  | n + 1, w =>
    let (w, result) := acquire loggers w
    let (w, ls) := getMany loggers n w
    (w, result.toOption.toList ++ ls)

def getThreads (w : World) (loggers : List Logger) (n : Nat) : Outcome :=
  let ((w, opened), ls) := getMany loggers n (w, [])
  let (w, is) := ls.foldl (fun (w, is) l => let (w, i) := slotOf w l; (w, is ++ [i])) (w, [])
  (w, opening opened, .slots is)

/-- Put another logger, or none, in the place of the shared one. -/
def replace (w : World) (slot : Option Nat) : Outcome :=
  let previous := w.shared.logger
  let w := { w with shared := { w.shared with logger := slot.bind w.slot } }
  match previous with
  | none => w.plainly (.previous none)
  | some l =>
    let (w, i) := w.slotOf l
    w.plainly (.previous (some i))

def install (w : World) : Source → Outcome
  | .toml text =>
    match AppConfig.parse text with
    | .error e => w.plainly (.notInstalled e)
    | .ok config => installed config
  | .config config => installed config
where
  installed (config : AppConfig) : Outcome :=
    match w.context.install config with
    | (context, true) => { w with context }.plainly .installed
    | (_, false) => w.plainly (.refused config)

def perform (w : World) (loggers : List Logger) : Step → Outcome
  | .log .. | .error .. | .warning .. | .info .. | .flush .. | .logMany .. | .spawn ..
  | .threads .. => w.plainly .noLogger
  | .trace i _ => w.plainly (w.ofLogger loggers i fun _ => .done)
  | .pending i => w.plainly (w.ofLogger loggers i fun l => .count l.pendingCount)
  | .describe i => w.plainly (w.ofLogger loggers i fun l => .description (Session.describe l))
  | .audit threads n =>
    w.plainly (.audit (auditOf ((w.memories.head?.map (·.2)).getD []) threads n))
  | .setDebug on => { w with context := { w.context with debug := on } }.plainly (.flag on)
  | .isDebug => w.plainly (.flag w.context.debug)
  | .build plan => w.build loggers plan
  | .drop i => w.drop i
  | .memory name =>
    w.plainly (.memories ((w.memories.filter fun (n, _) => n = name).map (·.2)))
  | .same =>
    let all := w.memories.map (·.2)
    w.plainly (.flag (all.all fun batches => all.head? = some batches))
  | .read path => w.plainly (.text (w.disk.readText ⟨path⟩).toOption)
  | .tree => w.plainly (.names w.disk.tree)
  | .write path content =>
    { w with disk := w.disk.addText ⟨path⟩ content.toUTF8 }.plainly .done
  | .makeDirectory path =>
    let (disk, made) := w.disk.makeDirectories ⟨path⟩
    { w with disk }.plainly (.flag made.isOk)
  | .remove path =>
    match w.disk.remove ⟨path⟩ with
    | .ok disk => { w with disk }.plainly (.flag true)
    | .error _ => w.plainly (.flag false)
  | .install source => w.install source
  | .config =>
    let (context, config) := w.context.read
    { w with context }.plainly (.config config)
  | .register type factory =>
    let replaced := w.registry.contains type
    { w.note (.typeRegistered type) with registry := w.registry.register type factory }.plainly
      (.replaced replaced)
  | .types => w.plainly (.names w.registry.types)
  | .get => w.get loggers
  | .getThreads n => w.getThreads loggers n
  | .replace slot => w.replace slot

end World

/-- A session in which the n-th reading of the clock gives `clock n`. -/
def host (clock : Nat → Instant) : Host World Step Reply :=
  { clock
    ask := World.ask
    perform := World.perform
    receive := World.receive
    answered := World.answered
    observe := World.observe }

end BatchedLog.Session
