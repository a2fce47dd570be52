import BatchedLog.Level

/-!
# Arguments of the command line

The program takes options, a command, and the command's own options. A value follows its option as
the next argument, or in the same one: `-c PATH`, `-cPATH`, `-c=PATH`, `--config PATH`,
`--config=PATH`. After `--` there are no more options.

Arguments are read from left to right. The first that asks for help or for the version ends the
reading, unless something before it is wrong. An option's value is judged when the next option
comes, or at the end.
-/

namespace BatchedLog.CommandLine

/-- What an option can set. -/
inductive Setting
  | config
  | level
  deriving DecidableEq, Repr

namespace Setting

def accepts (value : String) : Setting → Bool
  | config => !value.isEmpty
  | level => (Level.parse value).isOk

end Setting

inductive Switch
  | set (setting : Setting)
  | help
  | version
  deriving DecidableEq, Repr

inductive UsageError
  | unexpected (argument : String)
  | unneededValue (option : String)
  | missingValue (setting : Setting)
  | badValue (setting : Setting) (value : String)
  | repeated (setting : Setting)
  | unknownCommand (name : String)
  | noCommand
  deriving DecidableEq, Repr

/-- The words that stand for a command. -/
inductive CommandName
  | check
  | pipe
  | help
  deriving DecidableEq, Repr

def CommandName.ofWord? (word : String) : Option CommandName :=
  if word = "check" then some .check
  else if word = "pipe" then some .pipe
  else if word = "help" then some .help
  else none

/-- What may stand in one part of the command line. -/
structure Grammar where
  options : List (Char × String × Switch)
  takesCommand : Bool

namespace Grammar

def helpOption : Char × String × Switch := ('h', "help", .help)

def program : Grammar :=
  ⟨[('c', "config", .set .config), helpOption, ('V', "version", .version)], true⟩

def check : Grammar := ⟨[helpOption], false⟩

def pipe : Grammar := ⟨[('l', "level", .set .level), helpOption], false⟩

def command? (g : Grammar) (word : String) : Option CommandName :=
  if g.takesCommand then CommandName.ofWord? word else none

/-- An option with the value attached to it. -/
abbrev Occurrence := Switch × Option String

/-- `name` or `name=value`. -/
def long (g : Grammar) (argument : String) (body : List Char) : Except UsageError Occurrence :=
  let name := String.ofList (body.takeWhile (· ≠ '='))
  let value := (body.dropWhile (· ≠ '=')).tail?.map String.ofList
  match g.options.find? (·.2.1 = name) with
  | none => .error (.unexpected argument)
  | some (_, _, .set setting) => .ok (.set setting, value)
  | some (_, _, switch) =>
    if value.isSome then .error (.unneededValue argument) else .ok (switch, none)

/-- A letter with the value right behind it, or behind an equals sign. -/
def short (g : Grammar) (argument : String) (letter : Char) (rest : List Char) :
    Except UsageError Occurrence :=
  match g.options.find? (·.1 = letter) with
  | none => .error (.unexpected argument)
  | some (_, _, switch) =>
    .ok (switch,
      match rest with
      | [] => none
      | '=' :: value => some (String.ofList value)
      | value => some (String.ofList value))

/-- A single dash is no option, nor is what starts with none. -/
def option? (g : Grammar) (argument : String) : Option (Except UsageError Occurrence) :=
  match argument.toList with
  | '-' :: '-' :: body => some (g.long argument body)
  | '-' :: letter :: rest => some (g.short argument letter rest)
  | _ => none

end Grammar

/-- The values taken so far, and an option that is not settled yet, whose value may be missing. -/
structure Reading where
  taken : List (Setting × String)
  pending : Option (Setting × Option String)
  deriving DecidableEq, Repr

namespace Reading

def empty : Reading := ⟨[], none⟩

def value? (r : Reading) (setting : Setting) : Option String :=
  (r.taken.find? (·.1 = setting)).map (·.2)

def take (r : Reading) (setting : Setting) (value : String) : Except UsageError Reading :=
  if (r.value? setting).isSome then .error (.repeated setting)
  else if setting.accepts value then .ok ⟨r.taken ++ [(setting, value)], none⟩
  else .error (.badValue setting value)

def settle (r : Reading) : Except UsageError Reading :=
  match r.pending with
  | none => .ok r
  | some (setting, none) => .error (.missingValue setting)
  | some (setting, some value) => r.take setting value

def awaitsValue (r : Reading) : Bool :=
  match r.pending with
  | some (_, none) => true
  | _ => false

end Reading

/-- Where the reading of one part ended. -/
inductive Stop
  | help
  | version
  | command (name : CommandName) (rest : List String)
  | finished
  deriving DecidableEq, Repr

/-- Read one part; after `--`, with `closed`, nothing more is allowed. -/
def Grammar.read (g : Grammar) (r : Reading) (closed : Bool) :
    List String → Except UsageError (Reading × Stop)
  | [] => .ok (r, .finished)
  | argument :: rest =>
    if closed then .error (.unexpected argument)
    else
      match (g.command? argument).filter fun _ => !r.awaitsValue with
      | some name => .ok (r, .command name rest)
      | none =>
        if argument = "--" then g.read r true rest
        else
          match g.option? argument, r.pending with
          | some (.error e), _ => .error e
          | some (.ok (switch, attached)), _ =>
            match r.settle with
            | .error e => .error e
            | .ok r =>
              match switch, attached with
              | .help, _ => .ok (r, .help)
              | .version, _ => .ok (r, .version)
              | .set setting, none => g.read { r with pending := some (setting, none) } false rest
              | .set setting, some value =>
                match r.take setting value with
                | .error e => .error e
                | .ok r => g.read r false rest
          | none, some (setting, none) =>
            g.read { r with pending := some (setting, some argument) } false rest
          | none, _ => .error (.unexpected argument)

inductive Command
  | check
  /-- The level goes with every line. -/
  | pipe (level : Level)
  deriving DecidableEq, Repr

/-- What the arguments ask for. -/
inductive Request
  /-- On the program, or on one of its commands. -/
  | help (topic : Option CommandName)
  | version
  | run (config : Option String) (command : Command)
  deriving DecidableEq, Repr

namespace Request

/-- Help on the command that is named, if one is. -/
def onTopic : List String → Except UsageError Request
  | [] => .ok (.help none)
  | word :: rest =>
    match CommandName.ofWord? word, rest with
    | none, _ => .error (.unknownCommand word)
    | some topic, [] => .ok (.help (some topic))
    | some _, word :: _ => .error (.unknownCommand word)

/-- Lines are logged at level `info` unless another is asked for. -/
def levelOf (r : Reading) : Level :=
  ((r.value? .level).bind fun s => (Level.parse s).toOption).getD .info

/-- The command's own part is settled before the program's. -/
def ofParts (outer : Reading) (name : CommandName) (g : Grammar) (command : Reading → Command)
    (arguments : List String) : Except UsageError Request := do
  match ← g.read .empty false arguments with
  | (inner, .finished) =>
    let inner ← inner.settle
    let outer ← outer.settle
    return .run (outer.value? .config) (command inner)
  | _ => return .help (some name)

def ofArguments (arguments : List String) : Except UsageError Request := do
  match ← Grammar.program.read .empty false arguments with
  | (_, .help) => return .help none
  | (_, .version) => return .version
  | (_, .command .help rest) => onTopic rest
  | (r, .command .check rest) => ofParts r .check .check (fun _ => .check) rest
  | (r, .command .pipe rest) => ofParts r .pipe .pipe (fun inner => .pipe (levelOf inner)) rest
  | (r, .finished) =>
    let _ ← r.settle
    .error .noCommand

end Request

end BatchedLog.CommandLine
