import BatchedLog.Disk.Basic

/-!
# Buffered writing

A writer holds bytes back until its buffer of fixed size cannot take the next piece, or until it is
told to flush. Bytes that could not be written stay in the buffer.
-/

namespace BatchedLog

namespace Disk

/-- One write: how many of the bytes were taken. -/
def write (d : Disk) (h : Handle) (bytes : ByteArray) : Disk × Except IoError Nat :=
  match h with
  | .discard => (d, .ok bytes.size)
  | .full => (d, .error .noSpace)
  | .file id =>
    let fault := d.faults.headD .through
    let d := { d with faults := d.faults.drop 1 }
    match fault with
    | .refused e => (d, .error e)
    | .through => (d.setContent id (d.content id ++ bytes), .ok bytes.size)
    | .short n =>
      let n := min n bytes.size
      (d.setContent id (d.content id ++ bytes.extract 0 n), .ok n)

/-- Write until all is taken or a write fails; what is left comes back. -/
def writeAll (d : Disk) (h : Handle) (bytes : ByteArray) :
    Disk × ByteArray × Except IoError Unit :=
  if bytes.size = 0 then (d, bytes, .ok ())
  else
    match d.write h bytes with
    | (d, .error e) => (d, bytes, .error e)
    | (d, .ok 0) => (d, bytes, .error .wroteNothing)
    | (d, .ok (n + 1)) => d.writeAll h (bytes.extract (n + 1) bytes.size)
termination_by bytes.size
decreasing_by
  rw [ByteArray.size_extract]
  omega

end Disk

structure Writer where
  handle : Disk.Handle
  held : ByteArray

namespace Writer

def capacity : Nat := 8192

def start (handle : Disk.Handle) : Writer := ⟨handle, .empty⟩

def flush (w : Writer) (d : Disk) : Writer × Disk × Except IoError Unit :=
  let (d, left, result) := d.writeAll w.handle w.held
  ({ w with held := left }, d, result)

/-- A piece that does not fit makes room first; one as large as the buffer passes it by. -/
def write (w : Writer) (d : Disk) (piece : ByteArray) : Writer × Disk × Except IoError Unit :=
  if piece.size < capacity - w.held.size then ({ w with held := w.held ++ piece }, d, .ok ())
  else
    let (w, d, room) :=
      if piece.size > capacity - w.held.size then w.flush d else (w, d, .ok ())
    match room with
    | .error e => (w, d, .error e)
    | .ok () =>
      if piece.size ≥ capacity then
        let (d, _, result) := d.writeAll w.handle piece
        (w, d, result)
      else ({ w with held := w.held ++ piece }, d, .ok ())

end Writer

end BatchedLog
