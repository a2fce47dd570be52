import BatchedLog.Sink.File

/-!
# Appending to a file

A file sink only ever appends to the file it was opened on. What stands in the file and what the
writer holds back for it grow together by what is taken of a batch: a beginning of its rendering
when a write fails, and all of it when the sink has taken the batch. Then nothing is held back.
-/

namespace BatchedLog

/-! ## What a write takes -/

/-- `part` is what was taken of the bytes when writing them came to this end: a beginning, and all
of them at a good end. -/
def Takes {ε : Type} (bytes part : ByteArray) (ending : Except ε Unit) : Prop :=
  ∃ rest, bytes = part ++ rest ∧ (ending = .ok () → rest = .empty)

namespace Takes

variable {ε ε' : Type} {bytes part : ByteArray} {ending : Except ε Unit}

theorem all (bytes : ByteArray) (ending : Except ε Unit) : Takes bytes bytes ending :=
  ⟨.empty, ByteArray.append_empty.symm, fun _ => rfl⟩

theorem nothing (bytes : ByteArray) (e : ε) : Takes bytes .empty (.error e) := by
  refine ⟨bytes, ByteArray.empty_append.symm, ?_⟩
  intro h
  cases h

theorem eq_of_ok (h : Takes bytes part (.ok () : Except ε Unit)) : part = bytes := by
  obtain ⟨rest, rfl, hrest⟩ := h
  rw [hrest rfl, ByteArray.append_empty]

/-- What stopped within the first bytes stopped within all of them. -/
theorem append_right {e : ε} (h : Takes bytes part (.error e)) (more : ByteArray) (e' : ε') :
    Takes (bytes ++ more) part (.error e') := by
  obtain ⟨rest, rfl, -⟩ := h
  refine ⟨rest ++ more, ByteArray.append_assoc, ?_⟩
  intro h
  cases h

theorem append_left (h : Takes bytes part ending) (before : ByteArray) :
    Takes (before ++ bytes) (before ++ part) ending := by
  obtain ⟨rest, rfl, hrest⟩ := h
  exact ⟨rest, ByteArray.append_assoc.symm, hrest⟩

end Takes

/-! ## The disk -/

namespace Disk

/-- What writing to a handle leaves alone. -/
structure Framed (h : Handle) (d d' : Disk) : Prop where
  nodes : d'.nodes = d.nodes
  workingDirectory : d'.workingDirectory = d.workingDirectory
  length : d'.contents.length = d.contents.length
  others : ∀ {id}, h ≠ .file id → d'.content id = d.content id
  faults : d.faults = [] → d'.faults = []

theorem Framed.refl (h : Handle) (d : Disk) : d.Framed h d :=
  ⟨rfl, rfl, rfl, fun _ => rfl, id⟩

theorem Framed.trans {h : Handle} {d d' d'' : Disk} (first : Framed h d d')
    (second : Framed h d' d'') : Framed h d d'' where
  nodes := second.nodes.trans first.nodes
  workingDirectory := second.workingDirectory.trans first.workingDirectory
  length := second.length.trans first.length
  others hne := (second.others hne).trans (first.others hne)
  faults hd := second.faults (first.faults hd)

theorem content_setContent_self {d : Disk} {id : Nat} (h : id < d.contents.length)
    (bytes : ByteArray) : (d.setContent id bytes).content id = bytes := by
  simp [content, setContent, h]

theorem content_setContent_of_ne {d : Disk} {id other : Nat} (h : id ≠ other)
    (bytes : ByteArray) : (d.setContent id bytes).content other = d.content other := by
  simp [content, setContent, List.getElem?_set_ne h]

theorem framed_setContent (d : Disk) (id : Nat) (bytes : ByteArray) :
    d.Framed (.file id) (d.setContent id bytes) where
  nodes := rfl
  workingDirectory := rfl
  length := List.length_set ..
  others hne := content_setContent_of_ne (fun h => hne (by rw [h])) bytes
  faults := fun hd => hd

theorem framed_faults (h : Handle) (d : Disk) :
    d.Framed h { d with faults := d.faults.drop 1 } where
  nodes := rfl
  workingDirectory := rfl
  length := rfl
  others _ := rfl
  faults hd := by simp [hd]

theorem framed_write (d : Disk) (h : Handle) (bytes : ByteArray) :
    d.Framed h (d.write h bytes).1 := by
  cases h with
  | discard => exact .refl _ d
  | full => exact .refl _ d
  | file id =>
    unfold write
    dsimp only
    cases d.faults.headD .through with
    | through => exact (framed_faults _ d).trans (framed_setContent _ id _)
    | short n => exact (framed_faults _ d).trans (framed_setContent _ id _)
    | refused e => exact framed_faults _ d

/-- A write that takes `n` bytes puts just those behind the file. -/
theorem content_write {d d' : Disk} {id n : Nat} {bytes : ByteArray} (hid : id < d.contents.length)
    (h : d.write (.file id) bytes = (d', .ok n)) :
    d'.content id = d.content id ++ bytes.extract 0 n := by
  unfold write at h
  dsimp only at h
  split at h
  · cases h
  · cases h
    rw [ByteArray.extract_zero_size]
    exact content_setContent_self hid _
  · cases h
    exact content_setContent_self hid _

theorem content_write_of_error {d d' : Disk} {id : Nat} {bytes : ByteArray} {e : IoError}
    (h : d.write (.file id) bytes = (d', .error e)) : d'.content id = d.content id := by
  unfold write at h
  dsimp only at h
  split at h
  · cases h
    rfl
  · cases h
  · cases h

theorem framed_writeAll (d : Disk) (h : Handle) (bytes : ByteArray) :
    d.Framed h (d.writeAll h bytes).1 := by
  induction d, bytes using writeAll.induct h with
  | case1 d bytes hsize =>
    rw [writeAll, if_pos hsize]
    exact .refl h d
  | case2 d bytes hsize d' e hwrite =>
    have framed := framed_write d h bytes
    rw [hwrite] at framed
    rw [writeAll, if_neg hsize, hwrite]
    exact framed
  | case3 d bytes hsize d' hwrite =>
    have framed := framed_write d h bytes
    rw [hwrite] at framed
    rw [writeAll, if_neg hsize, hwrite]
    exact framed
  | case4 d bytes hsize d' n hwrite ih =>
    have framed := framed_write d h bytes
    rw [hwrite] at framed
    rw [writeAll, if_neg hsize, hwrite]
    exact framed.trans ih

/-- What was written stands behind the file, and the other bytes are left over. -/
theorem content_writeAll {d d' : Disk} {id : Nat} {bytes left : ByteArray}
    {ending : Except IoError Unit} (hid : id < d.contents.length)
    (h : d.writeAll (.file id) bytes = (d', left, ending)) :
    ∃ part, d'.content id = d.content id ++ part ∧ bytes = part ++ left ∧
      (ending = .ok () → left = .empty) := by
  induction d, bytes using writeAll.induct (.file id) with
  | case1 d bytes hsize =>
    have hempty : bytes = .empty := ByteArray.size_eq_zero_iff.1 hsize
    rw [writeAll, if_pos hsize] at h
    cases h
    exact ⟨.empty, ByteArray.append_empty.symm, ByteArray.empty_append.symm, fun _ => hempty⟩
  | case2 d bytes hsize d₁ e hwrite =>
    rw [writeAll, if_neg hsize, hwrite] at h
    cases h
    refine ⟨.empty, ?_, ByteArray.empty_append.symm, ?_⟩
    · rw [content_write_of_error hwrite, ByteArray.append_empty]
    · intro hok
      cases hok
  | case3 d bytes hsize d₁ hwrite =>
    rw [writeAll, if_neg hsize, hwrite] at h
    cases h
    have hcontent := content_write hid hwrite
    refine ⟨.empty, ?_, ByteArray.empty_append.symm, ?_⟩
    · rw [hcontent, ByteArray.extract_same]
    · intro hok
      cases hok
  | case4 d bytes hsize d₁ n hwrite ih =>
    have framed := framed_write d (.file id) bytes
    rw [hwrite] at framed
    have hcontent := content_write hid hwrite
    rw [writeAll, if_neg hsize, hwrite] at h
    obtain ⟨part, hmore, hpart, hleft⟩ := ih (by rwa [framed.length]) h
    refine ⟨bytes.extract 0 (n + 1) ++ part, ?_, ?_, hleft⟩
    · rw [hmore, hcontent, ByteArray.append_assoc]
    · rw [ByteArray.append_assoc, ← hpart, ByteArray.extract_append_extract, Nat.zero_min,
        ByteArray.extract_zero_max_size]

theorem write_of_faults_eq_nil {d : Disk} (hd : d.faults = []) (id : Nat) (bytes : ByteArray) :
    ∃ d', d.write (.file id) bytes = (d', .ok bytes.size) := by
  simp [write, hd]

/-- Without faults every write to a file goes through. -/
theorem writeAll_of_faults_eq_nil {d : Disk} (hd : d.faults = []) (id : Nat) (bytes : ByteArray) :
    ∃ d' left, d.writeAll (.file id) bytes = (d', left, .ok ()) := by
  obtain ⟨d', hwrite⟩ := write_of_faults_eq_nil hd id bytes
  rw [writeAll]
  split
  · exact ⟨_, _, rfl⟩
  · rename_i hsize
    obtain ⟨n, hn⟩ := Nat.exists_eq_add_one_of_ne_zero hsize
    have hleft : (bytes.extract (n + 1) bytes.size).size = 0 := by
      rw [ByteArray.size_extract]
      omega
    rw [hwrite, hn]
    dsimp only
    rw [writeAll, if_pos (by rwa [hn] at hleft)]
    exact ⟨_, _, rfl⟩

end Disk

/-! ## The buffered writer -/

namespace Writer

theorem flush_handle (w : Writer) (d : Disk) : (w.flush d).1.handle = w.handle := rfl

theorem framed_flush (w : Writer) (d : Disk) : d.Framed w.handle (w.flush d).2.1 :=
  d.framed_writeAll w.handle w.held

/-- What the file will have once all that is held back stands behind it. -/
def projected (w : Writer) (d : Disk) (id : Nat) : ByteArray := d.content id ++ w.held

theorem projected_of_held {w : Writer} (h : w.held = .empty) (d : Disk) (id : Nat) :
    w.projected d id = d.content id := by
  rw [projected, h, ByteArray.append_empty]

/-- A flush moves bytes that are held back behind the file, and all of them if it succeeds. -/
theorem projected_flush {w w' : Writer} {d d' : Disk} {id : Nat} {ending : Except IoError Unit}
    (hfile : w.handle = .file id) (hid : id < d.contents.length)
    (h : w.flush d = (w', d', ending)) :
    w'.projected d' id = w.projected d id ∧ (ending = .ok () → w'.held = .empty) := by
  rcases hwrite : d.writeAll w.handle w.held with ⟨d₁, left, result⟩
  simp only [flush, hwrite] at h
  cases h
  rw [hfile] at hwrite
  obtain ⟨part, hcontent, hheld, hleft⟩ := Disk.content_writeAll hid hwrite
  refine ⟨?_, hleft⟩
  simp only [projected, hcontent, hheld, ByteArray.append_assoc]

/-- A piece that does not fit has what is held back written out first. -/
def makeRoom (w : Writer) (d : Disk) (piece : ByteArray) : Writer × Disk × Except IoError Unit :=
  if piece.size > capacity - w.held.size then w.flush d else (w, d, .ok ())

/-- A piece as large as the buffer passes it by. -/
def place (w : Writer) (d : Disk) (piece : ByteArray) : Writer × Disk × Except IoError Unit :=
  if piece.size ≥ capacity then
    let (d, _, result) := d.writeAll w.handle piece
    (w, d, result)
  else ({ w with held := w.held ++ piece }, d, .ok ())

theorem write_eq (w : Writer) (d : Disk) (piece : ByteArray) :
    w.write d piece =
      if piece.size < capacity - w.held.size then ({ w with held := w.held ++ piece }, d, .ok ())
      else
        match w.makeRoom d piece with
        | (w, d, .error e) => (w, d, .error e)
        | (w, d, .ok ()) => w.place d piece := by
  unfold write makeRoom place
  by_cases hlarge : piece.size > capacity - w.held.size
  · simp only [if_pos hlarge]
    rcases w.flush d with ⟨w₁, d₁, e | u⟩
    · rfl
    · rfl
  · simp only [if_neg hlarge]

/-- The handle stays, and nothing is touched but the file it leads to. -/
def Stays (w : Writer) (d : Disk) (r : Writer × Disk × Except IoError Unit) : Prop :=
  r.1.handle = w.handle ∧ d.Framed w.handle r.2.1

theorem stays_makeRoom (w : Writer) (d : Disk) (piece : ByteArray) :
    w.Stays d (w.makeRoom d piece) := by
  unfold makeRoom
  split
  · exact ⟨rfl, d.framed_writeAll w.handle w.held⟩
  · exact ⟨rfl, .refl _ d⟩

theorem stays_place (w : Writer) (d : Disk) (piece : ByteArray) : w.Stays d (w.place d piece) := by
  unfold place
  split
  · exact ⟨rfl, d.framed_writeAll w.handle piece⟩
  · exact ⟨rfl, .refl _ d⟩

theorem stays_write (w : Writer) (d : Disk) (piece : ByteArray) : w.Stays d (w.write d piece) := by
  rw [write_eq]
  split
  · exact ⟨rfl, .refl _ d⟩
  · obtain ⟨hhandle, framed⟩ := w.stays_makeRoom d piece
    rcases hroom : w.makeRoom d piece with ⟨w₁, d₁, e | u⟩
    all_goals rw [hroom] at hhandle framed
    · exact ⟨hhandle, framed⟩
    · have placed := w₁.stays_place d₁ piece
      simp only at hhandle
      refine ⟨placed.1.trans hhandle, framed.trans ?_⟩
      rw [← hhandle]
      exact placed.2

section

variable {w w' : Writer} {d d' : Disk} {id : Nat} {piece : ByteArray}
  {ending : Except IoError Unit}

/-- A piece as large as the buffer always finds it empty when room was made. -/
theorem projected_makeRoom (hfile : w.handle = .file id) (hid : id < d.contents.length)
    (h : w.makeRoom d piece = (w', d', ending)) :
    w'.projected d' id = w.projected d id ∧
      (ending = .ok () → capacity ≤ piece.size → w'.held = .empty) := by
  unfold makeRoom at h
  split at h
  · obtain ⟨hprojected, hempty⟩ := projected_flush hfile hid h
    exact ⟨hprojected, fun hok _ => hempty hok⟩
  · cases h
    refine ⟨rfl, fun _ hlarge => ByteArray.size_eq_zero_iff.1 ?_⟩
    have hpositive : 0 < capacity := by decide
    omega

theorem projected_place (hfile : w.handle = .file id) (hid : id < d.contents.length)
    (hempty : capacity ≤ piece.size → w.held = .empty) (h : w.place d piece = (w', d', ending)) :
    ∃ part, Takes piece part ending ∧ w'.projected d' id = w.projected d id ++ part := by
  unfold place at h
  split at h
  · rename_i hlarge
    rcases hwrite : d.writeAll w.handle piece with ⟨d₁, left, result⟩
    rw [hwrite] at h
    cases h
    rw [hfile] at hwrite
    obtain ⟨part, hcontent, hpiece, hleft⟩ := Disk.content_writeAll hid hwrite
    -- the piece goes past the buffer, so it would overtake anything still held back
    refine ⟨part, ⟨left, hpiece, hleft⟩, ?_⟩
    rw [projected_of_held (hempty hlarge), projected_of_held (hempty hlarge), hcontent]
  · cases h
    exact ⟨piece, .all piece _, ByteArray.append_assoc.symm⟩

/-- What a file will have grows by what was taken of a piece. -/
theorem projected_write (hfile : w.handle = .file id) (hid : id < d.contents.length)
    (h : w.write d piece = (w', d', ending)) :
    ∃ part, Takes piece part ending ∧ w'.projected d' id = w.projected d id ++ part := by
  rw [write_eq] at h
  split at h
  · cases h
    exact ⟨piece, .all piece _, ByteArray.append_assoc.symm⟩
  · obtain ⟨hhandle, framed⟩ := w.stays_makeRoom d piece
    rcases hroom : w.makeRoom d piece with ⟨w₁, d₁, e | u⟩
    all_goals
      obtain ⟨hmoved, hempty⟩ := projected_makeRoom hfile hid hroom
      rw [hroom] at h hhandle framed
    · cases h
      exact ⟨.empty, .nothing piece e, by rw [hmoved, ByteArray.append_empty]⟩
    · rw [← hmoved]
      exact projected_place (hhandle.trans hfile) (by rwa [framed.length]) (hempty rfl) h

theorem flush_of_faults_eq_nil (hfile : w.handle = .file id) (hd : d.faults = []) :
    ∃ w' d', w.flush d = (w', d', .ok ()) := by
  obtain ⟨d', left, hwrite⟩ := Disk.writeAll_of_faults_eq_nil hd id w.held
  simp only [flush, hfile, hwrite]
  exact ⟨_, _, rfl⟩

theorem write_of_faults_eq_nil (hfile : w.handle = .file id) (hd : d.faults = []) :
    ∃ w' d', w.write d piece = (w', d', .ok ()) := by
  have room : ∃ w₁ d₁, w.makeRoom d piece = (w₁, d₁, .ok ()) := by
    unfold makeRoom
    split
    · exact flush_of_faults_eq_nil hfile hd
    · exact ⟨_, _, rfl⟩
  obtain ⟨w₁, d₁, hroom⟩ := room
  obtain ⟨hhandle, framed⟩ := w.stays_makeRoom d piece
  rw [hroom] at hhandle framed
  rw [write_eq, hroom]
  split
  · exact ⟨_, _, rfl⟩
  · dsimp only
    unfold place
    split
    · obtain ⟨d₂, left, hwrite⟩ := Disk.writeAll_of_faults_eq_nil (framed.faults hd) id piece
      rw [hhandle, hfile, hwrite]
      exact ⟨_, _, rfl⟩
    · exact ⟨_, _, rfl⟩

end

end Writer

/-! ## Batches -/

namespace FileSink

theorem stays_writePieces (w : Writer) (d : Disk) (ps : List Piece) :
    (writePieces w d ps).1.handle = w.handle ∧ d.Framed w.handle (writePieces w d ps).2.1 := by
  induction ps generalizing w d with
  | nil => exact ⟨rfl, .refl _ d⟩
  | cons p ps ih =>
    obtain ⟨hhandle, framed⟩ := w.stays_write d p.text.toUTF8
    unfold writePieces
    rcases hwrite : w.write d p.text.toUTF8 with ⟨w₁, d₁, e | u⟩
    all_goals rw [hwrite] at hhandle framed
    · exact ⟨hhandle, framed⟩
    · simp only at hhandle
      refine ⟨(ih w₁ d₁).1.trans hhandle, framed.trans ?_⟩
      rw [← hhandle]
      exact (ih w₁ d₁).2

theorem projected_writePieces {w w' : Writer} {d d' : Disk} {id : Nat} {ps : List Piece}
    {ending : Except SinkError Unit} (hfile : w.handle = .file id)
    (hid : id < d.contents.length) (h : writePieces w d ps = (w', d', ending)) :
    ∃ part, Takes (String.join (ps.map (·.text))).toUTF8 part ending ∧
      w'.projected d' id = w.projected d id ++ part := by
  induction ps generalizing w d with
  | nil =>
    cases h
    exact ⟨.empty, .all .empty _, ByteArray.append_empty.symm⟩
  | cons p ps ih =>
    have htext : (String.join ((p :: ps).map (·.text))).toUTF8 =
        p.text.toUTF8 ++ (String.join (ps.map (·.text))).toUTF8 := by
      rw [List.map_cons, String.join_cons]
      exact String.toByteArray_append
    obtain ⟨hhandle, framed⟩ := w.stays_write d p.text.toUTF8
    unfold writePieces at h
    rw [htext]
    rcases hwrite : w.write d p.text.toUTF8 with ⟨w₁, d₁, e | u⟩
    all_goals
      obtain ⟨part, takes, hprojected⟩ := Writer.projected_write hfile hid hwrite
      rw [hwrite] at h hhandle framed
    · cases h
      exact ⟨part, takes.append_right _ _, hprojected⟩
    · obtain ⟨more, takes', hprojected'⟩ := ih (hhandle.trans hfile) (by rwa [framed.length]) h
      refine ⟨p.text.toUTF8 ++ more, takes'.append_left _, ?_⟩
      rw [hprojected', hprojected, takes.eq_of_ok, ByteArray.append_assoc]

theorem writePieces_of_faults_eq_nil {w : Writer} {d : Disk} {id : Nat}
    (hfile : w.handle = .file id) (hd : d.faults = []) (ps : List Piece) :
    ∃ w' d', writePieces w d ps = (w', d', .ok ()) := by
  induction ps generalizing w d with
  | nil => exact ⟨w, d, rfl⟩
  | cons p ps ih =>
    obtain ⟨hhandle, framed⟩ := w.stays_write d p.text.toUTF8
    obtain ⟨w₁, d₁, hwrite⟩ : ∃ w₁ d₁, w.write d p.text.toUTF8 = (w₁, d₁, .ok ()) :=
      Writer.write_of_faults_eq_nil hfile hd
    rw [hwrite] at hhandle framed
    rw [writePieces, hwrite]
    exact ih (hhandle.trans hfile) (framed.faults hd)

/-- Whatever comes of a batch, the handle stays and no other file is touched. -/
theorem stays_receive (s : FileSink) (d : Disk) (entries : List Entry) :
    (s.receive d entries).1.format = s.format ∧
      (s.receive d entries).1.writer.handle = s.writer.handle ∧
      d.Framed s.writer.handle (s.receive d entries).2.1 := by
  obtain ⟨hhandle, framed⟩ := stays_writePieces s.writer d (entries.flatMap s.format.pieces)
  unfold receive
  rcases hwrite : writePieces s.writer d (entries.flatMap s.format.pieces) with ⟨w₁, d₁, e | u⟩
  all_goals rw [hwrite] at hhandle framed
  · exact ⟨rfl, hhandle, framed⟩
  · simp only at hhandle
    have flushed := w₁.framed_flush d₁
    rw [hhandle] at flushed
    rcases hflush : w₁.flush d₁ with ⟨w₂, d₂, e | u⟩
    all_goals
      have hhandle₂ : w₂.handle = w₁.handle := by rw [← w₁.flush_handle d₁, hflush]
      rw [hflush] at flushed
      dsimp only
      rw [hflush]
      exact ⟨rfl, hhandle₂.trans hhandle, framed.trans flushed⟩

theorem join_pieces (f : LineFormat) (entries : List Entry) :
    String.join ((entries.flatMap f.pieces).map (·.text)) = f.render entries := by
  induction entries with
  | nil => rfl
  | cons e entries ih =>
    rw [List.flatMap_cons, List.map_append, String.join_append, ih, LineFormat.render,
      LineFormat.render, List.map_cons, String.join_cons]
    rfl

/-- Whatever comes of a batch, the file and what is held back for it have grown by what was taken of
its rendering; and nothing is held back when the sink has taken it. -/
theorem projected_receive {s s' : FileSink} {d d' : Disk} {id : Nat} {entries : List Entry}
    {ending : Except SinkError Unit} (hfile : s.writer.handle = .file id)
    (hid : id < d.contents.length) (h : s.receive d entries = (s', d', ending)) :
    ∃ part, Takes (s.format.render entries).toUTF8 part ending ∧
      s'.writer.projected d' id = s.writer.projected d id ++ part ∧
      (ending = .ok () → s'.writer.held = .empty) := by
  obtain ⟨hhandle, framed⟩ := stays_writePieces s.writer d (entries.flatMap s.format.pieces)
  unfold receive at h
  rcases hwrite : writePieces s.writer d (entries.flatMap s.format.pieces) with ⟨w₁, d₁, e | u⟩
  all_goals
    obtain ⟨part, takes, hprojected⟩ := projected_writePieces hfile hid hwrite
    rw [join_pieces] at takes
    rw [hwrite] at h hhandle framed
  · cases h
    refine ⟨part, takes, hprojected, ?_⟩
    intro hok
    cases hok
  -- once all pieces are taken the flush moves bytes and takes none, however it ends
  · obtain rfl := takes.eq_of_ok
    dsimp only at h
    rcases hflush : w₁.flush d₁ with ⟨w₂, d₂, e | u⟩
    all_goals
      obtain ⟨hflushed, hempty⟩ :=
        Writer.projected_flush (hhandle.trans hfile) (by rwa [framed.length]) hflush
      rw [hflush] at h
      cases h
      refine ⟨_, .all _ _, hflushed.trans hprojected, ?_⟩
    · intro hok
      cases hok
    · exact fun _ => hempty rfl

/-- A batch that the sink has taken is behind the file, and nothing is held back. -/
theorem content_receive {s s' : FileSink} {d d' : Disk} {id : Nat} {entries : List Entry}
    (hwriter : s.writer = .start (.file id)) (hid : id < d.contents.length)
    (h : s.receive d entries = (s', d', .ok ())) :
    d'.content id = d.content id ++ (s.format.render entries).toUTF8 ∧ s' = s := by
  have hfile : s.writer.handle = .file id := by rw [hwriter]; rfl
  obtain ⟨hformat, hhandle, -⟩ := s.stays_receive d entries
  obtain ⟨part, takes, hprojected, hempty⟩ := projected_receive hfile hid h
  rw [h] at hformat hhandle
  obtain rfl := takes.eq_of_ok
  rw [Writer.projected_of_held (hempty rfl), hwriter, Writer.projected_of_held rfl] at hprojected
  refine ⟨hprojected, ?_⟩
  obtain ⟨format, handle, held⟩ := s'
  obtain ⟨format', writer⟩ := s
  cases hformat
  cases hwriter
  cases hhandle
  cases hempty rfl
  rfl

/-- Without faults a sink that leads to a file takes every batch. -/
theorem receive_of_faults_eq_nil {s : FileSink} {d : Disk} {id : Nat}
    (hfile : s.writer.handle = .file id) (hd : d.faults = []) (entries : List Entry) :
    ∃ s' d', s.receive d entries = (s', d', .ok ()) := by
  obtain ⟨hhandle, framed⟩ := stays_writePieces s.writer d (entries.flatMap s.format.pieces)
  obtain ⟨w₁, d₁, hwrite⟩ :=
    writePieces_of_faults_eq_nil hfile hd (entries.flatMap s.format.pieces)
  rw [hwrite] at hhandle framed
  obtain ⟨w₂, d₂, hflush⟩ := Writer.flush_of_faults_eq_nil (hhandle.trans hfile) (framed.faults hd)
  unfold receive
  rw [hwrite]
  dsimp only
  rw [hflush]
  exact ⟨_, _, rfl⟩

end FileSink

end BatchedLog
