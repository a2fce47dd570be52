import BatchedLog.CommandLine.Run

/-!
# The files a run can touch

The configuration file is read, and the files its targets name are appended to; nothing else on the
disk matters to a run.
-/

namespace BatchedLog.CommandLine

def configPath? (arguments : List String) : Option String :=
  match Request.ofArguments arguments with
  | .ok (.run path _) => path
  | _ => none

/-- The path a target asks for, whatever its type. -/
def targetPath? (target : Target) : Option String :=
  match target.params.get? "path" with
  | some (.string path) => some path
  | _ => none

def targetPaths (config : AppConfig) : List String :=
  ((config.log.bind (·.targets)).getD []).filterMap fun (_, target) => targetPath? target

/-- The places on the way to a path, from the top down, the last one included. -/
def placesTo (d : Disk) (path : Path) : List Place :=
  (path.names.foldl
    (fun ((place, seen) : Place × List Place) name =>
      if name = "." then (place, seen)
      else if name = ".." then (place.dropLast, seen)
      else (place ++ [name], seen ++ [place ++ [name]]))
    (d.start path, [])).2

end BatchedLog.CommandLine
