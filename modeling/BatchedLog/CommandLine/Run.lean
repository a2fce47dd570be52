import BatchedLog.CommandLine.Help
import BatchedLog.CommandLine.Input
import BatchedLog.CommandLine.Report
import BatchedLog.Session.Run

/-!
# Running the program

`prepare` does all that comes before the input: it reads the arguments, loads the configuration,
installs it and makes the shared logger from it. Then either the configuration is reported on, or
the lines of the input are logged one by one and what is pending at its end is flushed. An input
that cannot be read to its end is not flushed.

The exit code is 0, 1 if the program could not do its work, or 2 if the arguments make no sense.
-/

namespace BatchedLog.CommandLine

open Session (State carryOut mapState)

/-- How a run ends, what it has written to standard output, and the disk it leaves. Standard error,
where diagnostics and complaints go, is no part of it. -/
structure Outcome where
  code : Nat
  stdout : String
  disk : Disk

namespace Outcome

def say (disk : Disk) (text : String) : Outcome := ⟨0, text, disk⟩

/-- The program could not do its work, and says so on standard error only. -/
def fail (code : Nat) (disk : Disk) : Outcome := ⟨code, "", disk⟩

end Outcome

/-- Without a path the default configuration is taken. -/
def configAt (disk : Disk) : Option String → Except ConfigError AppConfig
  | none => .ok .default
  | some path => AppConfig.load disk ⟨path⟩

/-- Install a configuration and make the shared logger. -/
def connect (s : State) (config : AppConfig) : State × Except LoggerError LoggerId :=
  let w := { s.host with context := (s.host.context.install config).1 }
  let ((w, opened), result) := Session.World.acquire s.loggers (w, [])
  let made := (Session.World.opening opened).map fun (policy, sinks) => Logger.start policy sinks
  ({ s with host := w, loggers := s.loggers ++ made }, result)

/-- The program with its logger at hand. -/
structure Prepared where
  state : State
  logger : LoggerId
  command : Command

def prepare (disk : Disk) (arguments : List String) : Except Outcome Prepared :=
  match Request.ofArguments arguments with
  | .error _ => .error (.fail 2 disk)
  | .ok (.help topic) => .error (.say disk (help topic))
  | .ok .version => .error (.say disk version)
  | .ok (.run path command) =>
    match configAt disk path with
    | .error _ => .error (.fail 1 disk)
    | .ok config =>
      match connect (Session.start disk) config with
      | (s, .error _) => .error (.fail 1 s.host.disk)
      | (s, .ok logger) => .ok ⟨s, logger, command⟩

/-- The report on what was installed and made. -/
def report (s : State) (logger : LoggerId) : CheckReport :=
  .of s.host.registry s.host.context.read.2 (((s.loggers[logger]?).map Logger.interval).getD 0)
    s.host.context.debug

def consoleOf (reports : List Session.Report) : Console :=
  reports.foldl (fun c r => c.append r.console) .empty

variable (clock : Nat → Instant)

/-- Log the lines of an input, and say whether it could be read to its end. -/
def logInput (s : State) (logger : LoggerId) (level : Level) (input : ByteArray) :
    State × Console × Bool :=
  let (lines, all) := linesOf input
  let (s, reports) := mapState (fun s line => carryOut clock s (.log logger line level)) s lines
  (s, consoleOf reports, all)

def flush (s : State) (logger : LoggerId) : State × Console :=
  let (s, r) := carryOut clock s (.flush logger)
  (s, r.console)

/-- Log an input to its end, or as far as it can be read: what is left behind, the exit code, and
what was written to the console. -/
def pipe (s : State) (logger : LoggerId) (level : Level) (input : ByteArray) :
    State × Nat × Console :=
  match logInput clock s logger level input with
  | (s, console, false) => (s, 1, console)
  | (s, console, true) =>
    let (s, rest) := flush clock s logger
    (s, 0, console.append rest)

def Prepared.finish (p : Prepared) (input : ByteArray) : Outcome :=
  match p.command with
  | .check => .say p.state.host.disk (report p.state p.logger).text
  | .pipe level =>
    let (s, code, console) := pipe clock p.state p.logger level input
    ⟨code, console.stdout, s.host.disk⟩

def run (disk : Disk) (arguments : List String) (input : ByteArray) : Outcome :=
  match prepare disk arguments with
  | .error outcome => outcome
  | .ok p => p.finish clock input

end BatchedLog.CommandLine
