import BatchedLog.CommandLine.Reach
import BatchedLog.Disk.Changes
import Std.Time.DateTime.Timestamp

/-!
# The program

The outer layer looks at the part of the file system that a run can touch, hands the input over line
by line with the time it came in, and puts what the run writes where it belongs.
-/

namespace BatchedLog.CommandLine

/-- What stands at a place: only a directory can be read but not written. -/
def lookAt (place : Place) : IO (Option Node) := do
  let path := Disk.pathOf place
  try
    let _ ← IO.FS.Handle.mk path .readWrite
    return some (.file 0)
  catch _ =>
    try
      let _ ← IO.FS.Handle.mk path .read
      return some .directory
    catch _ => return none

/-- Take note of what there is on the way to a path. -/
def survey (d : Disk) (path : String) : IO Disk :=
  (placesTo d ⟨path⟩).foldlM
    (fun d place => do
      if (d.node? place).isSome then return d
      match ← lookAt place with
      | none => return d
      | some .directory => return d.addNode place .directory
      | some _ => return d.addFile place)
    d

/-- The configuration file with its content, and the targets' files. -/
def surveyAll (arguments : List String) : IO Disk := do
  let directory ← IO.currentDir
  let d := Disk.bare (Path.names ⟨toString directory⟩)
  let some path := configPath? arguments | return d
  let d ← survey d path
  try
    let bytes ← IO.FS.readBinFile path
    let d := (d.replace ⟨path⟩ bytes).toOption.getD d
    let .ok config := configAt d (some path) | return d
    (targetPaths config).foldlM survey d
  catch _ => return d

def apply : Disk.Change → IO Unit
  | .makeDirectory path => IO.FS.createDirAll path
  | .append path bytes => do
    let h ← IO.FS.Handle.mk path .append
    h.write bytes

def print (console : Console) : IO Unit := do
  let out ← IO.getStdout
  let err ← IO.getStderr
  out.putStr console.stdout
  out.flush
  err.putStr console.stderr
  err.flush

/-- Put into effect what has been written since the disk was as `old`. -/
def settle (old new : Disk) (console : Console) : IO Unit := do
  (Disk.changes old new).forM apply
  print console

def now : IO Instant := do
  let t ← Std.Time.Timestamp.now
  return ⟨t.toNanosecondsSinceUnixEpoch.val⟩

/-- The next line of the input with its line feed; at the end of the input, nothing. -/
partial def nextLine (input : IO.FS.Stream) (line : ByteArray) : IO ByteArray := do
  let byte ← input.read 1
  if byte.isEmpty then return line
  if byte[0]? = some lineFeed then return line ++ byte
  nextLine input (line ++ byte)

partial def pump (input : IO.FS.Stream) (p : Prepared) (level : Level) : IO Nat := do
  let line ← nextLine input .empty
  let time ← now
  let old := p.state.host.disk
  if line.isEmpty then
    let (s, console) := flush (fun _ => time) p.state p.logger
    settle old s.host.disk console
    return 0
  let (s, console, whole) := logInput (fun _ => time) p.state p.logger level line
  settle old s.host.disk console
  if whole then pump input { p with state := s } level else return 1

/-- Run the program and give its exit code. -/
def execute (arguments : List String) : IO Nat := do
  let disk ← surveyAll arguments
  match prepare disk arguments with
  | .error o =>
    settle disk o.disk ⟨o.stdout, ""⟩
    return o.code
  | .ok p =>
    settle disk p.state.host.disk .empty
    match p.command with
    | .check =>
      print ⟨(report p.state p.logger).text, ""⟩
      return 0
    | .pipe level => pump (← IO.getStdin) p level

end BatchedLog.CommandLine

def main (arguments : List String) : IO UInt32 := do
  return (← BatchedLog.CommandLine.execute arguments).toUInt32
