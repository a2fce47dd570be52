import BatchedLog.Disk.Path
import BatchedLog.Disk.Error

/-!
# The file tree

A tree of directories and files, with two devices: one that takes everything that is written to it
and one that is always full. Files are numbered and named separately, so a file that was opened can
still be written after its name is gone. Relative paths start at a working directory.

`faults` are what befalls the next writes to files, in order; without any, every write goes
through.
-/

namespace BatchedLog

inductive Node
  | directory
  | file (id : Nat)
  | discard
  | full
  deriving DecidableEq, Repr

/-- What happens to one write: so many bytes are taken, or it is refused. -/
inductive Fault
  | through
  | short (bytes : Nat)
  | refused (error : IoError)
  deriving DecidableEq, Repr

/-- A place in the tree: the names from the root down. -/
abbrev Place := List String

structure Disk where
  nodes : List (Place × Node)
  contents : List ByteArray
  workingDirectory : Place
  faults : List Fault

namespace Disk

/-- The devices, and directories down to an empty working directory. -/
def bare (workingDirectory : Place) : Disk :=
  { nodes := [(["dev"], .directory), (["dev", "null"], .discard), (["dev", "full"], .full)] ++
      (List.range workingDirectory.length).map fun n =>
        (workingDirectory.take (n + 1), .directory)
    contents := []
    workingDirectory
    faults := [] }

def empty : Disk := bare ["tmp", "run"]

/-- The root is always a directory. -/
def node? (d : Disk) (place : Place) : Option Node :=
  if place.isEmpty then some .directory
  else (d.nodes.find? fun (p, _) => p = place).map (·.2)

def content (d : Disk) (id : Nat) : ByteArray := d.contents.getD id .empty

/-- The longest name, in bytes. -/
def maxName : Nat := 255

/-- The longest path, in bytes. -/
def maxPath : Nat := 4095

/-- One name further from a directory. -/
def enter (d : Disk) (place : Place) (name : String) : Except IoError Place :=
  match d.node? place with
  | none => .error .notFound
  | some .directory =>
    if name = "." then .ok place
    else if name = ".." then .ok place.dropLast
    else if name.utf8ByteSize > maxName then .error .nameTooLong
    else .ok (place ++ [name])
  | some _ => .error .notDirectory

/-- Where a walk along `names` ends; the last place need not exist. -/
def walk (d : Disk) (place : Place) : List String → Except IoError Place
  | [] => .ok place
  | name :: rest =>
    match d.enter place name with
    | .ok place => d.walk place rest
    | .error e => .error e

def start (d : Disk) (p : Path) : Place := if p.isAbsolute then [] else d.workingDirectory

/-- A path is refused before the walk if it holds a NUL, is empty or is too long. -/
def check (p : Path) : Except IoError Unit :=
  if p.hasNul then .error .nulInPath
  else if p.text.isEmpty then .error .notFound
  else if p.text.utf8ByteSize > maxPath then .error .nameTooLong
  else .ok ()

/-- The directory in which the last name of a path stands, and that name. -/
def locate (d : Disk) (p : Path) : Except IoError (Place × Option String) :=
  match check p with
  | .error e => .error e
  | .ok () =>
    match d.walk (d.start p) p.names.dropLast with
    | .error e => .error e
    | .ok parent =>
      match d.node? parent with
      | none => .error .notFound
      | some .directory => .ok (parent, p.names.getLast?)
      | some _ => .error .notDirectory

/-- What a path leads to. -/
def resolve (d : Disk) (p : Path) : Except IoError (Place × Node) :=
  match check p with
  | .error e => .error e
  | .ok () =>
    match d.walk (d.start p) p.names with
    | .error e => .error e
    | .ok place =>
      match d.node? place with
      | none => .error .notFound
      | some .directory => .ok (place, .directory)
      | some node => if p.wantsDirectory then .error .notDirectory else .ok (place, node)

def isDirectory (d : Disk) (p : Path) : Bool :=
  match d.resolve p with
  | .ok (_, .directory) => true
  | _ => false

def addNode (d : Disk) (place : Place) (node : Node) : Disk :=
  { d with nodes := d.nodes ++ [(place, node)] }

/-- A new empty file. -/
def addFile (d : Disk) (place : Place) : Disk :=
  { d with
    nodes := d.nodes ++ [(place, .file d.contents.length)]
    contents := d.contents ++ [.empty] }

/-- Whether a name can only mean a directory that is there. -/
def isDots (name : Option String) : Bool :=
  match name with
  | none => true
  | some name => name == "." || name == ".."

def makeDirectory (d : Disk) (p : Path) : Except IoError Disk :=
  match d.locate p with
  | .error e => .error e
  | .ok (_, none) => .error .exists
  | .ok (parent, some name) =>
    if isDots name then .error .exists
    else
      match d.enter parent name with
      | .error e => .error e
      | .ok place =>
        match d.node? place with
        | some _ => .error .exists
        | none => .ok (d.addNode place .directory)

/-- Make the directory that the path names up to the first of these lengths of its text, and before
it those up to the later ones as far as they are missing. -/
def makeUpTo (d : Disk) (p : Path) : List Nat → Disk × Except IoError Unit
  | [] => (d, .ok ())
  | n :: above =>
    let q := p.upTo n
    match d.makeDirectory q with
    | .ok d => (d, .ok ())
    | .error .notFound =>
      match d.makeUpTo p above with
      | (d, .error e) => (d, .error e)
      | (d, .ok ()) =>
        match d.makeDirectory q with
        | .ok d => (d, .ok ())
        | .error e => if d.isDirectory q then (d, .ok ()) else (d, .error e)
    | .error e => if d.isDirectory q then (d, .ok ()) else (d, .error e)

/-- Make the directories above a path. -/
def makeAbove (d : Disk) (p : Path) : Disk × Except IoError Unit := d.makeUpTo p (p.ends.drop 1)

/-- Make a directory and those above it. A path without parts names the root or nothing, and leaves
nothing to do. -/
def makeDirectories (d : Disk) (p : Path) : Disk × Except IoError Unit :=
  match p.ends with
  | [] => (d, .ok ())
  | _ :: above => d.makeUpTo p (p.text.length :: above)

/-- Something that can be written to. -/
inductive Handle
  | file (id : Nat)
  | discard
  | full
  deriving DecidableEq, Repr

/-- Open for writing; a missing file is made. Nothing is cut off. -/
def openFile (d : Disk) (p : Path) : Except IoError (Disk × Handle) :=
  match d.locate p with
  | .error e => .error e
  | .ok (_, none) => .error .isDirectory
  | .ok (parent, some name) =>
    if isDots name || p.wantsDirectory then .error .isDirectory
    else
      match d.enter parent name with
      | .error e => .error e
      | .ok place =>
        match d.node? place with
        | some .directory => .error .isDirectory
        | some (.file id) => .ok (d, .file id)
        | some .discard => .ok (d, .discard)
        | some .full => .ok (d, .full)
        | none => .ok (d.addFile place, .file d.contents.length)

/-- Open for appending, once the directory above is there. -/
def openAppend (d : Disk) (p : Path) : Disk × Except IoError Handle :=
  match d.makeAbove p with
  | (d, .error e) => (d, .error e)
  | (d, .ok ()) =>
    match d.openFile p with
    | .error e => (d, .error e)
    | .ok (d, handle) => (d, .ok handle)

/-- The text of a file. -/
def readText (d : Disk) (p : Path) : Except IoError String :=
  match d.resolve p with
  | .error e => .error e
  | .ok (_, .directory) => .error .isDirectory
  | .ok (_, .file id) =>
    match String.fromUTF8? (d.content id) with
    | some text => .ok text
    | none => .error .notUtf8
  | .ok (_, _) => .ok ""

def setContent (d : Disk) (id : Nat) (bytes : ByteArray) : Disk :=
  { d with contents := d.contents.set id bytes }

/-- Replace a file's content, making it if it is missing. -/
def replace (d : Disk) (p : Path) (bytes : ByteArray) : Except IoError Disk :=
  match d.openFile p with
  | .error e => .error e
  | .ok (d, .file id) => .ok (d.setContent id bytes)
  | .ok (d, .discard) => .ok d
  | .ok (_, .full) => .error .noSpace

/-- A file and the directories above it. -/
def addText (d : Disk) (p : Path) (bytes : ByteArray) : Disk :=
  let (d, _) := d.makeAbove p
  (d.replace p bytes).toOption.getD d

/-- Take a file away, or a directory with all that is in it. -/
def remove (d : Disk) (p : Path) : Except IoError Disk :=
  match d.resolve p with
  | .error e => .error e
  | .ok (place, _) =>
    .ok { d with nodes := d.nodes.filter fun (q, _) => !place.isPrefixOf q }

/-- Every path below the working directory, in order; directories end in a slash. -/
def tree (d : Disk) : List String :=
  let below := d.nodes.filterMap fun (place, node) =>
    if d.workingDirectory.isPrefixOf place ∧ place ≠ d.workingDirectory then
      let path := String.intercalate "/" (place.drop d.workingDirectory.length)
      some (if node = .directory then path ++ "/" else path)
    else none
  below.mergeSort fun a b => decide (a ≤ b)

end Disk

end BatchedLog
