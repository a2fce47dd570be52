import BatchedLog.Proofs.Sink.File
import Mathlib.Control.Monad.Basic

/-!
# What a failed delivery leaves behind

A file sink keeps one writer for all its batches. What a failed delivery has put into the writer and
not into the file stays there, and the next delivery that reaches the file writes it first.
-/

namespace BatchedLog

/-- What was taken of batches in turn, by how the delivery of each ended. -/
inductive Taken (f : LineFormat) :
    List (List Entry) → List (Except SinkError Unit) → ByteArray → Prop
  | nothing : Taken f [] [] .empty
  | next {batch : List Entry} {batches : List (List Entry)} {result : Except SinkError Unit}
      {results : List (Except SinkError Unit)} {part more : ByteArray} :
      Takes (f.render batch).toUTF8 part result → Taken f batches results more →
      Taken f (batch :: batches) (result :: results) (part ++ more)

namespace FileSink

/-- Batches given to a sink one after another, whatever comes of each. -/
def deliverAll (s : FileSink) (d : Disk) :
    List (List Entry) → FileSink × Disk × List (Except SinkError Unit)
  | [] => (s, d, [])
  | batch :: batches =>
    match s.receive d batch with
    | (s, d, result) =>
      match s.deliverAll d batches with
      | (s, d, results) => (s, d, result :: results)

/-- Whatever comes of batches, the sink leads where it did and the disk has the files it had. -/
theorem stays_deliverAll (s : FileSink) (d : Disk) (batches : List (List Entry)) :
    (s.deliverAll d batches).1.format = s.format ∧
      (s.deliverAll d batches).1.writer.handle = s.writer.handle ∧
      d.Framed s.writer.handle (s.deliverAll d batches).2.1 := by
  induction batches generalizing s d with
  | nil => exact ⟨rfl, rfl, .refl _ d⟩
  | cons batch batches ih =>
    obtain ⟨hformat, hhandle, framed⟩ := s.stays_receive d batch
    rcases hreceive : s.receive d batch with ⟨s₁, d₁, result⟩
    rw [hreceive] at hformat hhandle framed
    obtain ⟨hformat', hhandle', framed'⟩ := ih s₁ d₁
    simp only at hformat hhandle
    rw [hhandle] at framed'
    rw [deliverAll, hreceive]
    exact ⟨hformat'.trans hformat, hhandle'.trans hhandle, framed.trans framed'⟩

variable {s s' : FileSink} {d d' : Disk} {id : Nat} {batches : List (List Entry)}
  {results : List (Except SinkError Unit)}

/-- The first delivery, and the later ones from what it leaves. -/
theorem of_deliverAll_cons {batch : List Entry}
    (h : s.deliverAll d (batch :: batches) = (s', d', results)) :
    ∃ s₁ d₁ result rest, s.receive d batch = (s₁, d₁, result) ∧
      s₁.deliverAll d₁ batches = (s', d', rest) ∧ results = result :: rest := by
  rcases hreceive : s.receive d batch with ⟨s₁, d₁, result⟩
  rcases hrest : s₁.deliverAll d₁ batches with ⟨s₂, d₂, rest⟩
  rw [deliverAll, hreceive] at h
  dsimp only at h
  rw [hrest] at h
  cases h
  exact ⟨s₁, d₁, result, rest, rfl, hrest, rfl⟩

/-- Along deliveries the file and what is held back for it grow by what is taken of the batches. -/
theorem projected_deliverAll (hfile : s.writer.handle = .file id) (hid : id < d.contents.length)
    (h : s.deliverAll d batches = (s', d', results)) :
    ∃ taken, Taken s.format batches results taken ∧
      s'.writer.projected d' id = s.writer.projected d id ++ taken := by
  induction batches generalizing s d results with
  | nil =>
    cases h
    exact ⟨.empty, .nothing, ByteArray.append_empty.symm⟩
  | cons batch batches ih =>
    obtain ⟨s₁, d₁, result, rest, hreceive, hrest, rfl⟩ := of_deliverAll_cons h
    obtain ⟨hformat, hhandle, framed⟩ := s.stays_receive d batch
    obtain ⟨part, takes, hpart, -⟩ := projected_receive hfile hid hreceive
    rw [hreceive] at hformat hhandle framed
    obtain ⟨more, hmore, hprojected⟩ := ih (hhandle.trans hfile) (by rwa [framed.length]) hrest
    simp only at hformat
    rw [hformat] at hmore
    refine ⟨part ++ more, .next takes hmore, ?_⟩
    rw [hprojected, hpart, ByteArray.append_assoc]

/-- After a delivery that succeeds nothing is held back. -/
theorem held_of_last_ok (hfile : s.writer.handle = .file id) (hid : id < d.contents.length)
    (h : s.deliverAll d batches = (s', d', results)) (hlast : results.getLast? = some (.ok ())) :
    s'.writer.held = .empty := by
  induction batches generalizing s d results with
  | nil =>
    cases h
    cases hlast
  | cons batch batches ih =>
    obtain ⟨s₁, d₁, result, rest, hreceive, hrest, rfl⟩ := of_deliverAll_cons h
    cases batches with
    | nil =>
      cases hrest
      obtain ⟨-, -, -, hempty⟩ := projected_receive hfile hid hreceive
      exact hempty (Option.some.inj hlast)
    | cons next batches =>
      obtain ⟨-, hhandle, framed⟩ := s.stays_receive d batch
      rw [hreceive] at hhandle framed
      obtain ⟨_, _, _, _, -, -, rfl⟩ := of_deliverAll_cons hrest
      rw [List.getLast?_cons_cons] at hlast
      exact ih (hhandle.trans hfile) (by rwa [framed.length]) hrest hlast

/-- Whatever befalls the writes to the file of a new sink, and whatever comes of the batches that it
was given before: these have put into the file, and into the writer, what was taken of them, and
nothing is left in the writer if the last delivery succeeded. The next delivery writes that first.
If it succeeds, the file has been extended by what was left and by the rendering of the batch, so by
this rendering alone just if nothing was left; and if it fails, the file and what is held back for
it have been extended by a beginning of the rendering. -/
theorem residue_precedes_batch {s₁ s₂ : FileSink} {d₁ d₂ : Disk} {batch : List Entry}
    {result : Except SinkError Unit} (hwriter : s.writer = .start (.file id))
    (hid : id < d.contents.length) (before : s.deliverAll d batches = (s₁, d₁, results))
    (now : s₁.receive d₁ batch = (s₂, d₂, result)) :
    (∃ taken, Taken s.format batches results taken ∧
      d₁.content id ++ s₁.writer.held = d.content id ++ taken) ∧
    (results.getLast? = some (.ok ()) → s₁.writer.held = .empty) ∧
    (result = .ok () → s₂.writer.held = .empty ∧
      d₂.content id = d₁.content id ++ s₁.writer.held ++ (s.format.render batch).toUTF8 ∧
      (d₂.content id = d₁.content id ++ (s.format.render batch).toUTF8 ↔
        s₁.writer.held = .empty)) ∧
    (result ≠ .ok () → ∃ part rest, (s.format.render batch).toUTF8 = part ++ rest ∧
      d₂.content id ++ s₂.writer.held = d₁.content id ++ s₁.writer.held ++ part) := by
  have hfile : s.writer.handle = .file id := by rw [hwriter]; rfl
  have hheld : s.writer.held = .empty := by rw [hwriter]; rfl
  obtain ⟨hformat, hhandle, framed⟩ := s.stays_deliverAll d batches
  rw [before] at hformat hhandle framed
  simp only at hformat
  obtain ⟨taken, htaken, hprojected⟩ := projected_deliverAll hfile hid before
  rw [Writer.projected_of_held hheld] at hprojected
  obtain ⟨part, takes, hpart, hempty⟩ :=
    projected_receive (hhandle.trans hfile) (by rwa [framed.length]) now
  rw [hformat] at takes
  refine ⟨⟨taken, htaken, hprojected⟩, held_of_last_ok hfile hid before, ?_, ?_⟩
  · rintro rfl
    obtain rfl := takes.eq_of_ok
    rw [Writer.projected_of_held (hempty rfl)] at hpart
    refine ⟨hempty rfl, hpart, ?_⟩
    rw [hpart, Writer.projected, ByteArray.append_left_inj]
    constructor
    · intro h
      exact (ByteArray.append_right_inj _).1 (h.trans ByteArray.append_empty.symm)
    · intro h
      rw [h, ByteArray.append_empty]
  · intro _
    obtain ⟨rest, hrest, -⟩ := takes
    exact ⟨part, rest, hrest, hpart⟩

/-- A disk with an empty file: the next write finds no room, and the later ones do. -/
def stumbling : Disk := { Disk.empty with contents := [.empty], faults := [.refused .noSpace] }

def onStumbling : FileSink := ⟨.text, .start (.file 0)⟩

def failing : List Entry := [⟨"a", .info, ⟨1000000⟩⟩]

def following : List Entry := [⟨"b", .info, ⟨2000000⟩⟩]

/-- A batch of one short line fails and is left in the writer; the next goes behind it. -/
theorem residue_precedes_batch_stumbling : ∃ s₁ s₂ d₁ d₂,
    onStumbling.deliverAll stumbling [failing] = (s₁, d₁, [.error (.io .noSpace)]) ∧
    s₁.receive d₁ following = (s₂, d₂, .ok ()) ∧
    s₁.writer.held ≠ .empty ∧ s₂.writer.held = .empty ∧
    d₂.content 0 = d₁.content 0 ++ s₁.writer.held ++
      (LineFormat.text.render following).toUTF8 := by
  have hresults : (onStumbling.deliverAll stumbling [failing]).2.2 =
      [.error (.io .noSpace)] := by decide +kernel
  have hsize : (onStumbling.deliverAll stumbling [failing]).1.writer.held.size = 13 := by
    decide +kernel
  have hresult : ((onStumbling.deliverAll stumbling [failing]).1.receive
      (onStumbling.deliverAll stumbling [failing]).2.1 following).2.2 = .ok () := by decide +kernel
  rcases before : onStumbling.deliverAll stumbling [failing] with ⟨s₁, d₁, results⟩
  rw [before] at hresults hsize hresult
  rcases now : s₁.receive d₁ following with ⟨s₂, d₂, result⟩
  simp only [now] at hresult
  cases hresults
  cases hresult
  obtain ⟨-, -, taken, -⟩ := residue_precedes_batch rfl (by decide) before now
  obtain ⟨hempty, hcontent, -⟩ := taken rfl
  refine ⟨s₁, s₂, d₁, d₂, rfl, now, ?_, hempty, hcontent⟩
  intro hheld
  rw [hheld] at hsize
  cases hsize

/-- The delivery of `a` has failed and that of `b` has succeeded; but the file was not extended by
the line of `b` alone: the line of `a` stands before it. -/
theorem failed_batch_written_later :
    (onStumbling.deliverAll stumbling [failing, following]).2.2 =
      [.error (.io .noSpace), .ok ()] ∧
    (onStumbling.deliverAll stumbling [failing]).2.1.content 0 = .empty ∧
    (onStumbling.deliverAll stumbling [failing, following]).2.1.content 0 =
      "[info] 1 | a\n[info] 2 | b\n".toUTF8 ∧
    (onStumbling.deliverAll stumbling [failing, following]).2.1.content 0 ≠
      (onStumbling.deliverAll stumbling [failing]).2.1.content 0 ++
        (LineFormat.text.render following).toUTF8 := by
  have hresults : (onStumbling.deliverAll stumbling [failing, following]).2.2 =
      [.error (.io .noSpace), .ok ()] := by decide +kernel
  have hbefore : (onStumbling.deliverAll stumbling [failing]).2.1.content 0 = .empty := by
    decide +kernel
  have hafter : (onStumbling.deliverAll stumbling [failing, following]).2.1.content 0 =
      "[info] 1 | a\n[info] 2 | b\n".toUTF8 := by decide +kernel
  refine ⟨hresults, hbefore, hafter, ?_⟩
  rw [hbefore, hafter]
  decide +kernel

end FileSink

end BatchedLog
