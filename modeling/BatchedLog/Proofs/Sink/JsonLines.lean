import BatchedLog.Proofs.Disk.Opening
import BatchedLog.Proofs.Sink.File
import BatchedLog.Proofs.Sink.Lines
import Mathlib.Data.List.Forall2

/-!
# JSON lines

A file sink that takes batch after batch appends one line for each entry. With JSON records these
lines can be told apart again and read back, so that nothing of the entries is lost.
-/

namespace BatchedLog

namespace FileSink

/-- Batches one after the other, up to the first that fails. -/
def receiveAll (s : FileSink) (d : Disk) :
    List (List Entry) → FileSink × Disk × Except SinkError Unit
  | [] => (s, d, .ok ())
  | batch :: batches =>
    match s.receive d batch with
    | (s, d, .error e) => (s, d, .error e)
    | (s, d, .ok ()) => receiveAll s d batches

/-- Opening leaves the content of files alone; the path then leads to the file of the sink. -/
theorem of_openAt {d d' : Disk} {path : Path} {format : LineFormat} {s : FileSink}
    (h : openAt d path format = (d', .ok s)) :
    d.Grown d' ∧ (d.Sound → d'.Sound) ∧ s = ⟨format, .start s.writer.handle⟩ ∧
      ∃ place, d'.resolve path = .ok (place, s.writer.handle.node) := by
  have opened := d.grown_openAppend path
  unfold openAt at h
  rcases hopen : d.openAppend path with ⟨d₁, e | handle⟩
  · rw [hopen] at h
    cases h
  · rw [hopen] at h opened
    cases h
    obtain ⟨grown, sound, leads⟩ := opened
    exact ⟨grown, sound, rfl, leads handle rfl⟩

/-- Batches that the sink has taken are behind the file. -/
theorem content_receiveAll {s s' : FileSink} {d d' : Disk} {id : Nat} {batches : List (List Entry)}
    (hwriter : s.writer = .start (.file id)) (hid : id < d.contents.length)
    (h : s.receiveAll d batches = (s', d', .ok ())) :
    d'.content id = d.content id ++ (s.format.render batches.flatten).toUTF8 ∧
      d.Framed (.file id) d' := by
  induction batches generalizing s d with
  | nil =>
    cases h
    exact ⟨ByteArray.append_empty.symm, .refl _ _⟩
  | cons batch batches ih =>
    obtain ⟨-, -, framed⟩ := s.stays_receive d batch
    rw [hwriter] at framed
    unfold receiveAll at h
    rcases hreceive : s.receive d batch with ⟨s₁, d₁, e | u⟩
    · rw [hreceive] at h
      cases h
    · rw [hreceive] at h framed
      obtain ⟨hcontent, rfl⟩ := content_receive hwriter hid hreceive
      obtain ⟨hmore, framed'⟩ := ih hwriter (by rwa [framed.length]) h
      refine ⟨?_, framed.trans framed'⟩
      rw [hmore, hcontent, List.flatten_cons, LineFormat.render_append, ByteArray.append_assoc]
      simp only [String.toUTF8_eq_toByteArray, String.toByteArray_append]

/-- Without faults a sink that leads to a file takes all batches. -/
theorem receiveAll_of_faults_eq_nil {s : FileSink} {d : Disk} {id : Nat}
    (hfile : s.writer.handle = .file id) (hd : d.faults = []) (batches : List (List Entry)) :
    ∃ s' d', s.receiveAll d batches = (s', d', .ok ()) := by
  induction batches generalizing s d with
  | nil => exact ⟨s, d, rfl⟩
  | cons batch batches ih =>
    obtain ⟨-, hhandle, framed⟩ := s.stays_receive d batch
    obtain ⟨s₁, d₁, hreceive⟩ := receive_of_faults_eq_nil hfile hd batch
    rw [hreceive] at hhandle framed
    rw [receiveAll, hreceive]
    exact ih (hhandle.trans hfile) (framed.faults hd)

end FileSink

/-- Batches, none of them empty, that a JSON file sink has taken since it was opened stand behind
what the file had: one line for each entry, in order, each ended by the only line break in it, and
each the record of its entry. -/
theorem json_lines_lossless {d d₁ d₂ : Disk} {path : Path} {s s' : FileSink} {id : Nat}
    {batches : List (List Entry)} (sound : d.Sound)
    (opened : FileSink.openAt d path .json = (d₁, .ok s)) (file : s.writer.handle = .file id)
    (some_batch : batches ≠ []) (not_empty : ∀ batch ∈ batches, batch ≠ [])
    (taken : s.receiveAll d₁ batches = (s', d₂, .ok ())) :
    (∃ place, d₁.resolve path = .ok (place, .file id) ∧ d₁.content id = d.content id) ∧
      ∃ tail : String, d₂.content id = d.content id ++ tail.toUTF8 ∧
        tail.toList.count '\n' = batches.flatten.length ∧
        tail.toList.getLast? = some '\n' ∧
        ∃ lines : List String, Text.split '\n' tail.toList = lines.map String.toList ++ [[]] ∧
          List.Forall₂
            (fun line e => Json.read line = .ok (.object [("ts_ms", .integer e.unixMillis),
              ("level", .string e.level.name), ("message", .string e.message)]))
            lines batches.flatten := by
  obtain ⟨grown, sound', hstart, place, hplace⟩ := FileSink.of_openAt opened
  rw [file] at hplace
  have hid : id < d₁.contents.length := Disk.id_lt_of_resolve (sound' sound) hplace
  have hwriter : s.writer = .start (.file id) := by
    rw [hstart, ← file]
  have hformat : s.format = .json := by rw [hstart]
  obtain ⟨hcontent, -⟩ := FileSink.content_receiveAll hwriter hid taken
  rw [hformat, grown.content] at hcontent
  have hlines : ∀ e ∈ batches.flatten, '\n' ∉ (LineFormat.json.body e).toList := fun e _ =>
    LineFormat.not_mem_body .json nofun
  have hentries : batches.flatten ≠ [] := by
    obtain ⟨batch, hbatch⟩ := List.exists_mem_of_ne_nil batches some_batch
    obtain ⟨e, he⟩ := List.exists_mem_of_ne_nil batch (not_empty batch hbatch)
    exact List.ne_nil_of_mem (List.mem_flatten_of_mem hbatch he)
  refine ⟨⟨place, hplace, grown.content id⟩, LineFormat.json.render batches.flatten, hcontent,
    LineFormat.count_render _ hlines, LineFormat.getLast?_render _ hentries,
    batches.flatten.map LineFormat.json.body, ?_, ?_⟩
  · rw [LineFormat.split_render _ hlines, List.map_map]
    rfl
  · rw [List.forall₂_map_left_iff, List.forall₂_same]
    exact fun e _ => e.read_record

/-- A disk with a file whose only line has not come to its end. -/
def begun : Disk := Disk.empty.addText ⟨"x.log"⟩ "begun".toUTF8

/-- Three entries in two batches, one message of two lines with a quote, a backslash, a bell and a
letter that is not ASCII. -/
theorem json_lines_lossless_begun : ∃ d₁ s d₂ s' tail,
    FileSink.openAt begun ⟨"x.log"⟩ .json = (d₁, .ok s) ∧
      s.receiveAll d₁ [[⟨"a \"b\"\n\\ \x07 é", .info, ⟨1500000⟩⟩, ⟨"", .error, ⟨-1⟩⟩],
        [⟨"c", .trace, ⟨0⟩⟩]] = (s', d₂, .ok ()) ∧
      d₂.content 0 = "begun".toUTF8 ++ String.toUTF8 tail ∧ tail.toList.count '\n' = 3 := by
  have evaluated : (FileSink.openAt begun ⟨"x.log"⟩ .json).2.toOption.map (·.writer.handle) =
      some (.file 0) := by decide +kernel
  have hfaults : begun.faults = [] := by decide +kernel
  have hcontent : begun.content 0 = "begun".toUTF8 := by decide +kernel
  rcases hopen : FileSink.openAt begun ⟨"x.log"⟩ .json with ⟨d₁, e | s⟩
  · rw [hopen] at evaluated
    cases evaluated
  · rw [hopen] at evaluated
    have hfile : s.writer.handle = .file 0 := Option.some.inj evaluated
    obtain ⟨grown, -⟩ := FileSink.of_openAt hopen
    obtain ⟨s', d₂, taken⟩ := FileSink.receiveAll_of_faults_eq_nil (d := d₁) hfile
      (grown.faults.trans hfaults)
      [[⟨"a \"b\"\n\\ \x07 é", .info, ⟨1500000⟩⟩, ⟨"", .error, ⟨-1⟩⟩], [⟨"c", .trace, ⟨0⟩⟩]]
    have sound : begun.Sound := (Disk.sound_bare _).addText _ _
    obtain ⟨-, tail, htail, hcount, -⟩ := json_lines_lossless sound hopen hfile
      (List.cons_ne_nil _ _) (by simp) taken
    rw [hcontent] at htail
    exact ⟨d₁, s, d₂, s', tail, rfl, taken, htail, hcount⟩

end BatchedLog
