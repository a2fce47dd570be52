import BatchedLog.Proofs.Disk.Opening
import Mathlib.Logic.Basic

/-!
# What opening adds

Opening a file for appending adds nothing but what its path asks for: the directories above it, each
where some of the path's names lead, and an empty file where the path itself leads. What lies above
a path is taken on its text, so it has to be said first that the text up to the end of a part names
the same places.
-/

namespace BatchedLog

namespace Text

variable {α : Type} {sep : α}

theorem join_cons (piece : List α) {pieces : List (List α)} (h : pieces ≠ []) :
    join sep (piece :: pieces) = piece ++ sep :: join sep pieces := by
  obtain ⟨next, pieces, rfl⟩ := List.exists_cons_of_ne_nil h
  rfl

theorem join_append {before after : List (List α)} (hbefore : before ≠ []) (hafter : after ≠ []) :
    join sep (before ++ after) = join sep before ++ sep :: join sep after := by
  induction before with
  | nil => exact absurd rfl hbefore
  | cons piece before ih =>
    rcases eq_or_ne before [] with rfl | hne
    · exact join_cons piece hafter
    · rw [List.cons_append, join_cons piece (List.append_ne_nil_of_left_ne_nil hne after), ih hne,
        join_cons piece hne, List.append_assoc, List.cons_append]

theorem join_prefix {before : List (List α)} (hbefore : before ≠ []) (after : List (List α)) :
    join sep before <+: join sep (before ++ after) := by
  cases after with
  | nil => exact (List.append_nil before).symm ▸ List.prefix_rfl
  | cons piece after =>
    rw [join_append hbefore (List.cons_ne_nil _ _)]
    exact List.prefix_append _ _

theorem join_ne_nil {before : List (List α)} {piece : List α} (h : piece ≠ []) :
    join sep (before ++ [piece]) ≠ [] := by
  cases before with
  | nil => exact h
  | cons first before =>
    rw [join_append (List.cons_ne_nil _ _) (List.cons_ne_nil _ _)]
    simp

variable [DecidableEq α]

/-- Pieces without the separator are found again. -/
theorem split_join {pieces : List (List α)} (hne : pieces ≠ [])
    (h : ∀ piece ∈ pieces, sep ∉ piece) : split sep (join sep pieces) = pieces := by
  induction pieces with
  | nil => exact absurd rfl hne
  | cons piece pieces ih =>
    obtain ⟨hpiece, hpieces⟩ := List.forall_mem_cons.1 h
    rcases eq_or_ne pieces [] with rfl | hsome
    · exact split_of_not_mem hpiece
    · rw [join_cons piece hsome, split_append_cons hpiece, ih hsome hpieces]

end Text

/-! ## Above a path -/

namespace Path

theorem exists_part {pieces : List (List Char)} {start : Nat} {first : Bool}
    (h : partEnds start first pieces ≠ []) : ∃ piece ∈ pieces, piece ≠ [] := by
  induction pieces generalizing start first with
  | nil => exact absurd rfl h
  | cons piece pieces ih =>
    unfold partEnds at h
    dsimp only at h
    split at h
    · rename_i hpart
      refine ⟨piece, List.mem_cons_self, ?_⟩
      rintro rfl
      cases hpart
    · obtain ⟨later, hlater, hne⟩ := ih h
      exact ⟨later, List.mem_cons_of_mem _ hlater, hne⟩

/-- Every end but the last is the end of a piece behind which another part stands. -/
theorem of_mem_dropLast_partEnds {n : Nat} (pieces : List (List Char)) :
    ∀ {start : Nat} {first : Bool}, n ∈ (partEnds start first pieces).dropLast →
    ∃ before piece after, pieces = before ++ piece :: after ∧ piece ≠ [] ∧
      (∃ later ∈ after, later ≠ []) ∧ n = start + (Text.join '/' (before ++ [piece])).length := by
  induction pieces with
  | nil => exact fun h => nomatch h
  | cons piece pieces ih =>
    intro start first h
    have further : n ∈ (partEnds (start + piece.length + 1) false pieces).dropLast →
        ∃ before name after, piece :: pieces = before ++ name :: after ∧ name ≠ [] ∧
          (∃ later ∈ after, later ≠ []) ∧
          n = start + (Text.join '/' (before ++ [name])).length := by
      intro hmem
      obtain ⟨before, name, after, rfl, hname, hlater, rfl⟩ := ih hmem
      refine ⟨piece :: before, name, after, rfl, hname, hlater, ?_⟩
      rw [List.cons_append, Text.join_cons piece (by simp), List.length_append, List.length_cons]
      omega
    unfold partEnds at h
    dsimp only at h
    split at h
    · rename_i hpart
      cases hends : partEnds (start + piece.length + 1) false pieces with
      | nil =>
        rw [hends] at h
        cases h
      | cons e ends =>
        rw [hends, List.dropLast_cons_of_ne_nil (List.cons_ne_nil _ _)] at h
        rcases List.mem_cons.1 h with rfl | hmem
        · refine ⟨[], piece, pieces, rfl, ?_, exists_part (by rw [hends]; simp), rfl⟩
          rintro rfl
          cases hpart
        · exact further (hends ▸ hmem)
    · exact further h

/-- A path above leads along the first names of the path, but not to the last one. -/
theorem of_mem_ends {p : Path} {n : Nat} (h : n ∈ p.ends.drop 1) :
    (p.upTo n).names <+: p.names.dropLast ∧ (p.upTo n).isAbsolute = p.isAbsolute := by
  rw [ends, List.drop_one, List.tail_reverse, List.mem_reverse] at h
  obtain ⟨before, piece, after, hsplit, hpiece, ⟨later, hlater, hne⟩, hn⟩ :=
    of_mem_dropLast_partEnds _ h
  rw [Nat.zero_add] at hn
  have hsome : before ++ [piece] ≠ [] := by simp
  have hpieces : Text.split '/' p.text.toList = (before ++ [piece]) ++ after := by
    rw [hsplit, List.append_assoc, List.singleton_append]
  have htake : p.text.toList.take n = Text.join '/' (before ++ [piece]) := by
    have hprefix :
        Text.join '/' (before ++ [piece]) <+: Text.join '/' (before ++ [piece] ++ after) :=
      Text.join_prefix hsome after
    rw [← hpieces, Text.join_split] at hprefix
    rw [hn]
    exact (List.prefix_iff_eq_take.1 hprefix).symm
  have hfree : ∀ q ∈ before ++ [piece], '/' ∉ q := fun q hq =>
    Text.not_mem_of_mem_split (hpieces ▸ List.mem_append_left _ hq)
  have hnames : (p.upTo n).names =
      ((before ++ [piece]).filter (! ·.isEmpty)).map String.ofList := by
    rw [names, upTo, String.toList_ofList, htake, Text.split_join hsome hfree]
  have hmore : (after.filter (! ·.isEmpty)).map String.ofList ≠ [] := by
    have hmem : later ∈ after.filter (! ·.isEmpty) :=
      List.mem_filter.2 ⟨hlater, by simpa using hne⟩
    exact List.ne_nil_of_mem (List.mem_map_of_mem hmem)
  constructor
  · rw [hnames, names, hpieces, List.filter_append _ after, List.map_append,
      List.dropLast_append_of_ne_nil hmore]
    exact List.prefix_append _ _
  · have hpos : n ≠ 0 := by
      rw [hn, ne_eq, List.length_eq_zero_iff]
      exact Text.join_ne_nil hpiece
    rw [isAbsolute, isAbsolute, upTo, String.toList_ofList, List.head?_take, if_neg hpos]

end Path

namespace Disk

/-- What may be made for a path: directories where names before its last one lead, and an empty file
where it leads itself. -/
inductive Along (d : Disk) (p : Path) : Place → Node → Prop
  | above {names place} : names <+: p.names.dropLast → d.walk (d.start p) names = .ok place →
      Along d p place .directory
  | here {place id} : d.resolve p = .ok (place, .file id) → d.content id = .empty →
      Along d p place (.file id)

/-- All that was there still is, and what is new was made for one of these paths. -/
structure GrownAlong (paths : Path → Prop) (d d' : Disk) : Prop where
  grown : d.Grown d'
  along : ∀ place node, d.node? place = none → d'.node? place = some node →
    ∃ p, paths p ∧ d'.Along p place node

section

variable {d d' d'' : Disk} {p : Path} {paths more : Path → Prop}

theorem Grown.start (grown : d.Grown d') (p : Path) : d'.start p = d.start p := by
  rw [Disk.start, Disk.start, grown.workingDirectory]

theorem Along.mono {place : Place} {node : Node} (grown : d.Grown d')
    (along : d.Along p place node) : d'.Along p place node := by
  cases along with
  | above hnames hwalk => exact .above hnames (grown.start p ▸ grown.walk hwalk)
  | here hplace hempty => exact .here (grown.resolve hplace) ((grown.content _).trans hempty)

theorem GrownAlong.refl (paths : Path → Prop) (d : Disk) : d.GrownAlong paths d where
  grown := .refl d
  along place node hnone hsome := by
    rw [hnone] at hsome
    cases hsome

theorem GrownAlong.trans (first : d.GrownAlong paths d') (second : d'.GrownAlong paths d'') :
    d.GrownAlong paths d'' where
  grown := first.grown.trans second.grown
  along place node hnone hsome := by
    cases hnode : d'.node? place with
    | none => exact second.along place node hnode hsome
    | some found =>
      rw [second.grown.node? hnode] at hsome
      cases hsome
      obtain ⟨p, hp, along⟩ := first.along place node hnone hnode
      exact ⟨p, hp, along.mono second.grown⟩

theorem GrownAlong.mono (h : d.GrownAlong paths d') (sub : ∀ p, paths p → more p) :
    d.GrownAlong more d' where
  grown := h.grown
  along place node hnone hsome := by
    obtain ⟨p, hp, along⟩ := h.along place node hnone hsome
    exact ⟨p, sub p hp, along⟩

/-- One new node. -/
theorem grownAlong_of_nodes {place : Place} {node : Node} (grown : d.Grown d')
    (hnodes : d'.nodes = d.nodes ++ [(place, node)]) (hnone : d.node? place = none)
    (along : d'.Along p place node) : d.GrownAlong (· = p) d' where
  grown
  along q found hnew hsome := by
    rw [node?_of_nodes hnodes hnone] at hsome
    split at hsome
    · rename_i hq
      cases hsome
      exact ⟨p, rfl, hq ▸ along⟩
    · rw [hnew] at hsome
      cases hsome

/-- Whatever lies above `p` may be made for it. -/
theorem grownAlong_makeDirectory {q : Path} (hnames : q.names <+: p.names.dropLast)
    (habsolute : q.isAbsolute = p.isAbsolute) (h : d.makeDirectory q = .ok d') :
    d.GrownAlong (· = p) d' := by
  obtain ⟨place, hnone, hwalk, rfl⟩ := of_makeDirectory h
  have hstart : d.start q = d.start p := by rw [start, start, habsolute]
  have grown := grown_addNode hnone .directory
  refine grownAlong_of_nodes grown rfl hnone (.above hnames ?_)
  rw [grown.start, ← hstart]
  exact grown.walk hwalk

theorem grownAlong_makeUpTo {ends : List Nat}
    (habove : ∀ n ∈ ends, (p.upTo n).names <+: p.names.dropLast ∧
      (p.upTo n).isAbsolute = p.isAbsolute) (d : Disk) :
    d.GrownAlong (· = p) (d.makeUpTo p ends).1 := by
  induction ends with
  | nil => exact .refl _ d
  | cons n above ih =>
    obtain ⟨⟨hnames, habsolute⟩, hrest⟩ := List.forall_mem_cons.1 habove
    unfold makeUpTo
    dsimp only
    split
    · rename_i made
      exact grownAlong_makeDirectory hnames habsolute made
    · have further := ih hrest
      rcases hmake : d.makeUpTo p above with ⟨d₁, e | u⟩
      all_goals rw [hmake] at further
      · exact further
      · dsimp only
        split
        · rename_i made
          exact further.trans (grownAlong_makeDirectory hnames habsolute made)
        · split
          · exact further
          · exact further
    · split
      · exact .refl _ d
      · exact .refl _ d

theorem content_addFile (d : Disk) (place : Place) :
    (d.addFile place).content d.contents.length = .empty := by
  simp [content, addFile]

theorem grownAlong_openFile {handle : Handle} (h : d.openFile p = .ok (d', handle)) :
    d.GrownAlong (· = p) d' := by
  obtain ⟨place, leads, rfl | ⟨hnone, rfl, rfl⟩⟩ := of_openFile h
  · exact .refl _ _
  · exact grownAlong_of_nodes (grown_addFile hnone) rfl hnone
      (.here leads (content_addFile d place))

/-- So opening a path makes nothing but what may be made for it. -/
theorem grownAlong_openAppend (d : Disk) (p : Path) :
    d.GrownAlong (· = p) (d.openAppend p).1 := by
  have above := grownAlong_makeUpTo (fun _ => Path.of_mem_ends (p := p)) d
  unfold openAppend makeAbove
  rcases hmake : d.makeUpTo p (p.ends.drop 1) with ⟨d₁, e | u⟩
  all_goals rw [hmake] at above
  · exact above
  · dsimp only
    cases hopen : d₁.openFile p with
    | error e => exact above
    | ok opened =>
      obtain ⟨d₂, handle⟩ := opened
      exact above.trans (grownAlong_openFile hopen)

end

end Disk

end BatchedLog
