import BatchedLog.Disk.Writer
import BatchedLog.Sink.LineFormat
import BatchedLog.Text.WhiteSpace

/-!
# The file sink

A file is opened once, for appending, after the directories above it are made. Each batch is
written line by line and then flushed; the first failure ends it.
-/

namespace BatchedLog

structure FileSink where
  format : LineFormat
  writer : Writer

namespace FileSink

/-- The path and the format a target asks for. -/
def settings (params : Fields) : Except SinkError (Path × LineFormat) :=
  match stringParameter params "path" with
  | .error e => .error e
  | .ok path =>
    match path.filter fun p => !Text.isBlank p with
    | none => .error (.invalidParameter "path" .noPath)
    | some path =>
      match LineFormat.ofParameters params with
      | .error e => .error e
      | .ok format => .ok (⟨path⟩, format)

def openAt (d : Disk) (path : Path) (format : LineFormat) : Disk × Except SinkError FileSink :=
  match d.openAppend path with
  | (d, .error e) => (d, .error (.io e))
  | (d, .ok handle) => (d, .ok ⟨format, .start handle⟩)

def writePieces (w : Writer) (d : Disk) : List Piece → Writer × Disk × Except SinkError Unit
  | [] => (w, d, .ok ())
  | p :: rest =>
    match w.write d p.text.toUTF8 with
    | (w, d, .ok ()) => writePieces w d rest
    | (w, d, .error e) => (w, d, .error (if p.ofRecord then .serialize (.io e) else .io e))

def receive (s : FileSink) (d : Disk) (entries : List Entry) :
    FileSink × Disk × Except SinkError Unit :=
  match writePieces s.writer d (entries.flatMap s.format.pieces) with
  | (w, d, .error e) => ({ s with writer := w }, d, .error e)
  | (w, d, .ok ()) =>
    match w.flush d with
    | (w, d, .ok ()) => ({ s with writer := w }, d, .ok ())
    | (w, d, .error e) => ({ s with writer := w }, d, .error (.io e))

end FileSink

end BatchedLog
