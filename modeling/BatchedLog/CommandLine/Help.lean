import BatchedLog.CommandLine.Arguments

/-!
# Help texts
-/

namespace BatchedLog.CommandLine

def unlines (lines : List String) : String := String.join (lines.map (· ++ "\n"))

def version : String := unlines ["logpipe 0.1.0"]

def programHelp : List String :=
  ["Batch log lines into the sinks of a log configuration",
    "",
    "Usage: logpipe [OPTIONS] <COMMAND>",
    "",
    "Commands:",
    "  check  Validate the configuration and show the sinks it produces",
    "  pipe   Log every line read from stdin, flushing on EOF or Ctrl-C",
    "  help   Print this message or the help of the given subcommand(s)",
    "",
    "Options:",
    "  -c, --config <CONFIG>  Application configuration file (TOML)",
    "  -h, --help             Print help",
    "  -V, --version          Print version"]

def checkHelp : List String :=
  ["Validate the configuration and show the sinks it produces",
    "",
    "Usage: logpipe check",
    "",
    "Options:",
    "  -h, --help  Print help"]

def pipeHelp : List String :=
  ["Log every line read from stdin, flushing on EOF or Ctrl-C",
    "",
    "Usage: logpipe pipe [OPTIONS]",
    "",
    "Options:",
    "  -l, --level <LEVEL>  Level attached to every line [default: info]",
    "  -h, --help           Print help"]

def helpHelp : List String :=
  ["Print this message or the help of the given subcommand(s)",
    "",
    "Usage: logpipe help [COMMAND]...",
    "",
    "Arguments:",
    "  [COMMAND]...  Print help for the subcommand(s)"]

/-- Help on the program, or on one of its commands. -/
def help : Option CommandName → String
  | none => unlines programHelp
  | some .check => unlines checkHelp
  | some .pipe => unlines pipeHelp
  | some .help => unlines helpHelp

end BatchedLog.CommandLine
