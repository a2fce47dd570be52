import BatchedLog.Disk.Basic

/-!
# Opening files

Opening a file for appending may make directories above it, and the file if it is missing; nothing
that was there changes. Afterwards the path leads to the file that was opened.
-/

namespace BatchedLog

namespace Disk

/-- Every file that a name leads to is there. -/
def Sound (d : Disk) : Prop := ∀ place id, d.node? place = some (.file id) → id < d.contents.length

/-- All that was there still is, with what was in it, and every new file is empty. -/
structure Grown (d d' : Disk) : Prop where
  workingDirectory : d'.workingDirectory = d.workingDirectory
  faults : d'.faults = d.faults
  length : d.contents.length ≤ d'.contents.length
  content : ∀ id, d'.content id = d.content id
  node? : ∀ {place node}, d.node? place = some node → d'.node? place = some node

theorem Grown.refl (d : Disk) : d.Grown d := ⟨rfl, rfl, Nat.le_refl _, fun _ => rfl, id⟩

theorem Grown.trans {d d' d'' : Disk} (first : Grown d d') (second : Grown d' d'') :
    Grown d d'' where
  workingDirectory := second.workingDirectory.trans first.workingDirectory
  faults := second.faults.trans first.faults
  length := Nat.le_trans first.length second.length
  content id := (second.content id).trans (first.content id)
  node? h := second.node? (first.node? h)

/-! ## Paths -/

section

variable {d d' : Disk}

theorem Grown.enter (grown : Grown d d') {place q : Place} {name : String}
    (h : d.enter place name = .ok q) : d'.enter place name = .ok q := by
  unfold Disk.enter at h ⊢
  cases hnode : d.node? place with
  | none =>
    rw [hnode] at h
    cases h
  | some node =>
    rw [hnode] at h
    rw [grown.node? hnode]
    exact h

theorem Grown.walk (grown : Grown d d') {place q : Place} {names : List String}
    (h : d.walk place names = .ok q) : d'.walk place names = .ok q := by
  induction names generalizing place with
  | nil => exact h
  | cons name names ih =>
    unfold Disk.walk at h ⊢
    cases henter : d.enter place name with
    | error e =>
      rw [henter] at h
      cases h
    | ok next =>
      rw [henter] at h
      rw [grown.enter henter]
      exact ih h

theorem Grown.resolve (grown : Grown d d') {p : Path} {place : Place} {node : Node}
    (h : d.resolve p = .ok (place, node)) : d'.resolve p = .ok (place, node) := by
  have hstart : d'.start p = d.start p := by
    unfold start
    rw [grown.workingDirectory]
  unfold Disk.resolve at h ⊢
  rw [hstart]
  cases hcheck : check p with
  | error e =>
    rw [hcheck] at h
    cases h
  | ok u =>
    rw [hcheck] at h
    dsimp only at h ⊢
    cases hwalk : d.walk (d.start p) p.names with
    | error e =>
      rw [hwalk] at h
      cases h
    | ok q =>
      rw [hwalk] at h
      rw [grown.walk hwalk]
      dsimp only at h ⊢
      cases hnode : d.node? q with
      | none =>
        rw [hnode] at h
        cases h
      | some found =>
        rw [hnode] at h
        rw [grown.node? hnode]
        exact h

theorem walk_append (place : Place) (before after : List String) :
    d.walk place (before ++ after) =
      match d.walk place before with
      | .ok q => d.walk q after
      | .error e => .error e := by
  induction before generalizing place with
  | nil => rfl
  | cons name before ih =>
    rw [List.cons_append, walk, walk]
    cases d.enter place name with
    | error e => rfl
    | ok q => exact ih q

/-! ## New nodes -/

/-- A node at a place where nothing was. -/
theorem node?_of_nodes {place : Place} {node : Node} (hn : d'.nodes = d.nodes ++ [(place, node)])
    (hnone : d.node? place = none) (q : Place) :
    d'.node? q = if q = place then some node else d.node? q := by
  have hplace : place ≠ [] := by
    rintro rfl
    cases hnone
  cases q with
  | nil => simp [node?, Ne.symm hplace]
  | cons name q =>
    have hfind := hnone
    unfold node? at hfind
    rw [if_neg (by simpa using hplace), Option.map_eq_none_iff] at hfind
    simp only [node?, List.isEmpty_cons, Bool.false_eq_true, if_false, hn, List.find?_append]
    by_cases hq : name :: q = place
    · rw [if_pos hq, hq, hfind]
      simp
    · rw [if_neg hq]
      simp [Ne.symm hq]

theorem grown_of_nodes {place : Place} {node : Node} (hn : d'.nodes = d.nodes ++ [(place, node)])
    (hnone : d.node? place = none) {q : Place} {found : Node} (h : d.node? q = some found) :
    d'.node? q = some found := by
  rw [node?_of_nodes hn hnone, if_neg, h]
  rintro rfl
  rw [hnone] at h
  cases h

theorem grown_addNode {place : Place} (hnone : d.node? place = none) (node : Node) :
    d.Grown (d.addNode place node) where
  workingDirectory := rfl
  faults := rfl
  length := Nat.le_refl _
  content _ := rfl
  node? := grown_of_nodes rfl hnone

theorem Sound.addDirectory {place : Place} (sound : d.Sound) (hnone : d.node? place = none) :
    (d.addNode place .directory).Sound := by
  intro q id h
  rw [node?_of_nodes rfl hnone] at h
  split at h
  · cases h
  · exact sound _ _ h

theorem grown_addFile {place : Place} (hnone : d.node? place = none) :
    d.Grown (d.addFile place) where
  workingDirectory := rfl
  faults := rfl
  length := by simp [addFile]
  content id := by
    simp only [content, addFile, List.getD_eq_getElem?_getD, List.getElem?_append]
    split
    · rfl
    · rename_i hge
      rw [List.getElem?_eq_none (Nat.le_of_not_lt hge)]
      cases hnew : [ByteArray.empty][id - d.contents.length]? with
      | none => rfl
      | some bytes =>
        obtain rfl := List.mem_singleton.1 (List.mem_of_getElem? hnew)
        rfl
  node? := grown_of_nodes rfl hnone

theorem Sound.addFile {place : Place} (sound : d.Sound) (hnone : d.node? place = none) :
    (d.addFile place).Sound := by
  intro q id h
  rw [node?_of_nodes rfl hnone] at h
  have hlength : (d.addFile place).contents.length = d.contents.length + 1 := by simp [Disk.addFile]
  split at h
  · cases h
    omega
  · have hid := sound _ _ h
    omega

/-! ## Directories -/

theorem of_locate {p : Path} {parent : Place} {name : String}
    (h : d.locate p = .ok (parent, some name)) :
    check p = .ok () ∧ d.walk (d.start p) p.names.dropLast = .ok parent ∧
      p.names.getLast? = some name := by
  unfold locate at h
  split at h
  · cases h
  · rename_i hcheck
    split at h
    · cases h
    · rename_i hwalk
      split at h
      · cases h
      · obtain ⟨rfl, hname⟩ := Prod.mk.inj (Except.ok.inj h)
        exact ⟨hcheck, hwalk, hname⟩
      · cases h

/-- A directory is made where the names of its path lead, if nothing is there. -/
theorem of_makeDirectory {p : Path} (h : d.makeDirectory p = .ok d') :
    ∃ place, d.node? place = none ∧ d.walk (d.start p) p.names = .ok place ∧
      d' = d.addNode place .directory := by
  unfold makeDirectory at h
  split at h
  · cases h
  · cases h
  · rename_i hlocate
    split at h
    · cases h
    · split at h
      · cases h
      · rename_i place henter
        split at h
        · cases h
        · rename_i hnone
          cases h
          obtain ⟨-, hwalk, hname⟩ := of_locate hlocate
          obtain ⟨parents, hnames⟩ := List.getLast?_eq_some_iff.1 hname
          refine ⟨place, hnone, ?_, rfl⟩
          rw [hnames, List.dropLast_concat] at hwalk
          rw [hnames, walk_append, hwalk]
          simp only [walk, henter]

theorem grown_makeDirectory {p : Path} (h : d.makeDirectory p = .ok d') :
    d.Grown d' ∧ (d.Sound → d'.Sound) := by
  obtain ⟨place, hnone, -, rfl⟩ := of_makeDirectory h
  exact ⟨grown_addNode hnone _, fun sound => sound.addDirectory hnone⟩

theorem grown_makeUpTo (d : Disk) (p : Path) (ends : List Nat) :
    d.Grown (d.makeUpTo p ends).1 ∧ (d.Sound → (d.makeUpTo p ends).1.Sound) := by
  induction ends generalizing d with
  | nil => exact ⟨.refl d, id⟩
  | cons n above ih =>
    unfold makeUpTo
    dsimp only
    split
    · rename_i made
      exact grown_makeDirectory made
    · obtain ⟨grown, sound⟩ := ih d
      rcases habove : d.makeUpTo p above with ⟨d₁, e | u⟩
      all_goals rw [habove] at grown sound
      · exact ⟨grown, sound⟩
      · dsimp only
        split
        · rename_i made
          obtain ⟨grown', sound'⟩ := grown_makeDirectory made
          exact ⟨grown.trans grown', fun h => sound' (sound h)⟩
        · split
          · exact ⟨grown, sound⟩
          · exact ⟨grown, sound⟩
    · split
      · exact ⟨.refl d, id⟩
      · exact ⟨.refl d, id⟩

/-! ## Files -/

/-- A path leads to what stands under its last name. -/
theorem resolve_of_locate {p : Path} {parent place : Place} {name : String} {node : Node}
    (hlocate : d.locate p = .ok (parent, some name)) (grown : d.Grown d')
    (henter : d.enter parent name = .ok place) (hnode : d'.node? place = some node)
    (hslash : p.wantsDirectory = false) : d'.resolve p = .ok (place, node) := by
  obtain ⟨hcheck, hwalk, hname⟩ := of_locate hlocate
  obtain ⟨parents, hnames⟩ := List.getLast?_eq_some_iff.1 hname
  have hstart : d'.start p = d.start p := by
    unfold start
    rw [grown.workingDirectory]
  have hplace : d'.walk (d.start p) p.names = .ok place := by
    rw [hnames, List.dropLast_concat] at hwalk
    rw [hnames, walk_append, grown.walk hwalk]
    simp only [walk, grown.enter henter]
  cases node with
  | directory => simp only [resolve, hcheck, hstart, hplace, hnode]
  | _ => simp only [resolve, hcheck, hstart, hplace, hnode, hslash, Bool.false_eq_true, if_false]

/-- What a handle was opened on. -/
def Handle.node : Handle → Node
  | .file id => .file id
  | .discard => .discard
  | .full => .full

/-- What is opened is where the path leads to, either there already or a new file. -/
theorem of_openFile {p : Path} {handle : Handle} (h : d.openFile p = .ok (d', handle)) :
    ∃ place, d'.resolve p = .ok (place, handle.node) ∧
      (d' = d ∨ d.node? place = none ∧ d' = d.addFile place ∧
        handle = .file d.contents.length) := by
  unfold openFile at h
  split at h
  · cases h
  · cases h
  · rename_i parent name hlocate
    split at h
    · cases h
    · rename_i hnot
      have hslash : p.wantsDirectory = false := by
        rw [Bool.or_eq_true, not_or] at hnot
        exact Bool.eq_false_iff.2 hnot.2
      split at h
      · cases h
      · rename_i place henter
        have found : ∀ {node}, d.node? place = some node → d.resolve p = .ok (place, node) :=
          fun hnode => resolve_of_locate hlocate (.refl d) henter hnode hslash
        split at h
        · cases h
        · rename_i hfile
          cases h
          exact ⟨place, found hfile, .inl rfl⟩
        · rename_i hdiscard
          cases h
          exact ⟨place, found hdiscard, .inl rfl⟩
        · rename_i hfull
          cases h
          exact ⟨place, found hfull, .inl rfl⟩
        · rename_i hnone
          cases h
          have hnew : (d.addFile place).node? place = some (.file d.contents.length) := by
            rw [node?_of_nodes rfl hnone, if_pos rfl]
          exact ⟨place, resolve_of_locate hlocate (grown_addFile hnone) henter hnew hslash,
            .inr ⟨hnone, rfl, rfl⟩⟩

theorem grown_openFile {p : Path} {handle : Handle} (h : d.openFile p = .ok (d', handle)) :
    d.Grown d' ∧ (d.Sound → d'.Sound) ∧ ∃ place, d'.resolve p = .ok (place, handle.node) := by
  obtain ⟨place, leads, rfl | ⟨hnone, rfl, -⟩⟩ := of_openFile h
  · exact ⟨.refl _, id, place, leads⟩
  · exact ⟨grown_addFile hnone, fun sound => sound.addFile hnone, place, leads⟩

/-- Opening for appending, whatever comes of it. -/
theorem grown_openAppend (d : Disk) (p : Path) :
    d.Grown (d.openAppend p).1 ∧ (d.Sound → (d.openAppend p).1.Sound) ∧
      ∀ handle, (d.openAppend p).2 = .ok handle →
        ∃ place, (d.openAppend p).1.resolve p = .ok (place, handle.node) := by
  obtain ⟨grown, sound⟩ := grown_makeUpTo d p (p.ends.drop 1)
  unfold openAppend makeAbove
  rcases hmake : d.makeUpTo p (p.ends.drop 1) with ⟨d₁, e | u⟩
  all_goals rw [hmake] at grown sound
  · exact ⟨grown, sound, nofun⟩
  · dsimp only
    cases hopen : d₁.openFile p with
    | error e => exact ⟨grown, sound, nofun⟩
    | ok opened =>
      obtain ⟨d₂, handle⟩ := opened
      obtain ⟨grown', sound', leads⟩ := grown_openFile hopen
      refine ⟨grown.trans grown', fun h => sound' (sound h), ?_⟩
      rintro _ ⟨⟩
      exact leads

/-- A file that a path leads to is there. -/
theorem id_lt_of_resolve {p : Path} {place : Place} {id : Nat} (sound : d.Sound)
    (h : d.resolve p = .ok (place, .file id)) : id < d.contents.length := by
  unfold resolve at h
  split at h
  · cases h
  · split at h
    · cases h
    · split at h
      · cases h
      · cases h
      · rename_i hnode
        split at h
        · cases h
        · cases h
          exact sound _ _ hnode

/-! ## Disks to start from -/

theorem mem_nodes_of_node? {place : Place} {id : Nat} (h : d.node? place = some (.file id)) :
    (place, .file id) ∈ d.nodes := by
  unfold node? at h
  split at h
  · cases h
  · obtain ⟨⟨q, node⟩, hfind, hnode⟩ := Option.map_eq_some_iff.1 h
    obtain rfl : q = place := by simpa using List.find?_some hfind
    obtain rfl : node = .file id := hnode
    exact List.mem_of_find?_eq_some hfind

theorem sound_bare (workingDirectory : Place) : (bare workingDirectory).Sound := by
  intro place id h
  have hmem := mem_nodes_of_node? h
  simp [bare] at hmem

theorem Sound.setContent (sound : d.Sound) (id : Nat) (bytes : ByteArray) :
    (d.setContent id bytes).Sound := by
  intro place other h
  rw [Disk.setContent, List.length_set]
  exact sound place other h

theorem Sound.addText (sound : d.Sound) (p : Path) (bytes : ByteArray) :
    (d.addText p bytes).Sound := by
  have above : (d.makeAbove p).1.Sound := (grown_makeUpTo d p (p.ends.drop 1)).2 sound
  unfold Disk.addText Disk.replace
  rcases hmake : d.makeAbove p with ⟨d, made⟩
  rw [hmake] at above
  dsimp only at above ⊢
  cases hopen : d.openFile p with
  | error e => exact above
  | ok opened =>
    obtain ⟨d', handle⟩ := opened
    have sound' := (grown_openFile hopen).2.1 above
    cases handle with
    | file id => exact sound'.setContent id bytes
    | discard => exact sound'
    | full => exact above

end

end Disk

end BatchedLog
