import BatchedLog.Disk.Basic

/-!
# What has been written

The difference between two states of the disk, when files have only been made and appended to.
-/

namespace BatchedLog

namespace Disk

inductive Change
  | makeDirectory (path : String)
  /-- The file is made if it is missing. -/
  | append (path : String) (bytes : ByteArray)

def pathOf (place : Place) : String := "/" ++ String.intercalate "/" place

/-- How much of a place's file was there already. -/
def sizeAt (d : Disk) (place : Place) : Nat :=
  match d.node? place with
  | some (.file id) => (d.content id).size
  | _ => 0

def change? (old new : Disk) (place : Place) (node : Node) : Option Change :=
  match node with
  | .directory =>
    if (old.node? place).isSome then none else some (.makeDirectory (pathOf place))
  | .file id =>
    let bytes := (new.content id).extract (old.sizeAt place) (new.content id).size
    if bytes.isEmpty ∧ (old.node? place).isSome then none else some (.append (pathOf place) bytes)
  | .discard | .full => none

/-- Directories come before what is in them. -/
def changes (old new : Disk) : List Change :=
  new.nodes.filterMap fun (place, node) => change? old new place node

end Disk

end BatchedLog
