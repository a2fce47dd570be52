import BatchedLog.Proofs.Disk.Opening
import BatchedLog.Proofs.Session.Files
import BatchedLog.Proofs.Sink.JsonLines
import BatchedLog.Proofs.Wiring.Supply

/-!
# From targets to sinks

A logger that is wired from targets with the types that are always there has one sink for each
target of such a type, in order and under the target's name, each a new one. The sinks of file
targets write to what their paths lead to.
-/

namespace BatchedLog

/-- Whether a target has a type that is always there. -/
def Target.isBuiltin (target : Target) : Bool :=
  (target.type.bind (Registry.find? (Session.builtins (κ := Session.Step)))).isSome

/-- The path and the format that a file target asks for. -/
def Target.file? (target : Target) : Option (Path × LineFormat) :=
  if target.type = some "file" then (FileSink.settings target.params).toOption else none

/-- Lists side by side: each element has its partner. -/
theorem exists_partner {α β : Type} {R : α → β → Prop} {as : List α} {bs : List β}
    (h : List.Forall₂ R as bs) :
    (∀ a ∈ as, ∃ b ∈ bs, R a b) ∧ ∀ b ∈ bs, ∃ a ∈ as, R a b := by
  induction h with
  | nil => exact ⟨nofun, nofun⟩
  | cons first _ ih =>
    refine ⟨List.forall_mem_cons.2 ⟨⟨_, List.mem_cons_self, first⟩, ?_⟩,
      List.forall_mem_cons.2 ⟨⟨_, List.mem_cons_self, first⟩, ?_⟩⟩
    · intro a ha
      obtain ⟨b, hb, hab⟩ := ih.1 a ha
      exact ⟨b, List.mem_cons_of_mem _ hb, hab⟩
    · intro b hb
      obtain ⟨a, ha, hab⟩ := ih.2 b hb
      exact ⟨a, List.mem_cons_of_mem _ ha, hab⟩

namespace Session

/-- The factories that are always there, each under its type. -/
theorem of_find?_builtins {type : String} {factory : Factory Step}
    (h : Registry.find? builtins type = some factory) :
    (factory = .console ∧ type ≠ "file") ∨ (factory = .file ∧ type = "file") ∨
      (factory = .forward ∧ type ≠ "file") := by
  obtain ⟨⟨t, f⟩, hfind, rfl⟩ := Option.map_eq_some_iff.1 h
  obtain rfl : t = type := by simpa using List.find?_some hfind
  have hmem := List.mem_of_find?_eq_some hfind
  simp only [builtins, List.mem_cons, Prod.mk.injEq, List.not_mem_nil, or_false] at hmem
  rcases hmem with ⟨rfl, rfl⟩ | ⟨rfl, rfl⟩ | ⟨rfl, rfl⟩
  · exact .inl ⟨rfl, by decide⟩
  · exact .inr (.inl ⟨rfl, rfl⟩)
  · exact .inr (.inr ⟨rfl, by decide⟩)

namespace World

/-- All sinks that were there still are, and so is all that was on the disk. -/
structure Extends (w w' : World) : Prop where
  sinks : w.sinks <+: w'.sinks
  disk : w.disk.Grown w'.disk
  sound : w.disk.Sound → w'.disk.Sound

/-- The sink of a target. One that asks for a file writes to what the path leads to, and no other
writes to files. -/
def MadeFor (w : World) (target : Target) (sink : SinkId) : Prop :=
  ∃ state, w.sinks[sink]? = some state ∧
    match target.file? with
    | some (path, format) => ∃ handle place, state = .file ⟨format, .start handle⟩ ∧
        w.disk.resolve path = .ok (place, handle.node)
    | none => ∀ f, state ≠ .file f

section

variable {w w' w'' : World} {target : Target} {sink : SinkId}

theorem Extends.refl (w : World) : w.Extends w := ⟨List.prefix_rfl, .refl _, id⟩

theorem Extends.trans (first : w.Extends w') (second : w'.Extends w'') : w.Extends w'' where
  sinks := first.sinks.trans second.sinks
  disk := first.disk.trans second.disk
  sound h := second.sound (first.sound h)

theorem Extends.of_eq (hs : w'.sinks = w.sinks) (hd : w'.disk = w.disk) : w.Extends w' := by
  refine ⟨?_, ?_, ?_⟩
  · rw [hs]
  · rw [hd]
    exact .refl _
  · rw [hd]
    exact id

/-- A sink stays the sink of its target. -/
theorem MadeFor.mono (made : w.MadeFor target sink) (ext : w.Extends w') :
    w'.MadeFor target sink := by
  obtain ⟨state, hstate, hmade⟩ := made
  obtain ⟨more, hsinks⟩ := ext.sinks
  refine ⟨state, ?_, ?_⟩
  · rw [← hsinks, List.getElem?_append_left (List.getElem?_eq_some_iff.1 hstate).1]
    exact hstate
  · cases hfile : target.file? with
    | none =>
      rw [hfile] at hmade
      exact hmade
    | some settings =>
      rw [hfile] at hmade
      obtain ⟨handle, place, rfl, hplace⟩ := hmade
      exact ⟨handle, place, rfl, ext.disk.resolve hplace⟩

theorem extends_addSink (w : World) (state : SinkState) : w.Extends (w.addSink state).1 :=
  ⟨List.prefix_append .., .refl _, id⟩

theorem getElem?_addSink (w : World) (state : SinkState) :
    (w.addSink state).1.sinks[w.sinks.length]? = some state :=
  List.getElem?_concat_length ..

/-- A factory that is always there adds the sink that a target of its type asks for. -/
theorem made_of_make {type : String} {factory : Factory Step}
    (hfactory : Registry.find? builtins type = some factory)
    (htype : target.type = some type) (h : w.make factory type target.params = (w', .ok sink)) :
    sink = w.sinks.length ∧ w'.sinks.length = w.sinks.length + 1 ∧ w.Extends w' ∧
      w'.MadeFor target sink := by
  have added : ∀ {u : World} {state : SinkState}, w.Extends u → u.sinks = w.sinks →
      u.addOk state = (w', .ok sink) →
      sink = w.sinks.length ∧ w'.sinks.length = w.sinks.length + 1 ∧ w.Extends w' ∧
        w'.disk = u.disk ∧ w'.sinks[sink]? = some state := by
    intro u state ext hu hadd
    cases hadd
    refine ⟨by rw [hu], ?_, ext.trans (u.extends_addSink state), rfl, u.getElem?_addSink state⟩
    rw [← hu]
    exact List.length_append
  rcases of_find?_builtins hfactory with ⟨rfl, hnot⟩ | ⟨rfl, rfl⟩ | ⟨rfl, hnot⟩
  · have hfile : target.file? = none := by simp [Target.file?, htype, hnot]
    change w.makeConsole target.params = _ at h
    unfold World.makeConsole at h
    split at h
    · cases h
    · obtain ⟨hsink, hlength, ext, -, hstate⟩ := added (.refl w) rfl h
      refine ⟨hsink, hlength, ext, _, hstate, ?_⟩
      rw [hfile]
      exact nofun
  · change w.makeFile target.params = _ at h
    unfold World.makeFile at h
    split at h
    · cases h
    · rename_i path format hsettings
      have hfile : target.file? = some (path, format) := by
        simp [Target.file?, htype, hsettings, Except.toOption]
      split at h
      · cases h
      · rename_i disk s hopen
        obtain ⟨grown, sound, hstart, place, hplace⟩ := FileSink.of_openAt hopen
        have ext : w.Extends ({ w with disk }.note (.fileOpened path.text format)) :=
          ⟨List.prefix_rfl, grown, sound⟩
        obtain ⟨hsink, hlength, ext', hdisk, hstate⟩ := added ext rfl h
        refine ⟨hsink, hlength, ext', _, hstate, ?_⟩
        rw [hfile]
        refine ⟨s.writer.handle, place, congrArg SinkState.file hstart, ?_⟩
        rw [hdisk]
        exact hplace
  · have hfile : target.file? = none := by simp [Target.file?, htype, hnot]
    change w.addOk .forward = _ at h
    obtain ⟨hsink, hlength, ext, -, hstate⟩ := added (.refl w) rfl h
    refine ⟨hsink, hlength, ext, _, hstate, ?_⟩
    rw [hfile]
    exact nofun

/-- Sinks for targets, each the next new one: what `more` holds once they are all made. -/
structure WiredFor (w w' : World) (targets : Targets) (more : List Wired) : Prop where
  extended : w.Extends w'
  length : w'.sinks.length = w.sinks.length + more.length
  numbers : more.map (·.sink) = List.range' w.sinks.length more.length
  made : List.Forall₂ (fun named x => x.name = named.1 ∧ w'.MadeFor named.2 x.sink)
    (targets.filter (·.2.isBuiltin)) more

theorem WiredFor.skip {targets : Targets} {more : List Wired} (wired : w.WiredFor w'' targets more)
    (name : String) (hnot : target.isBuiltin = false) (hs : w.sinks = w'.sinks)
    (hd : w.disk = w'.disk) : w'.WiredFor w'' ((name, target) :: targets) more where
  extended := (Extends.of_eq hs hd).trans wired.extended
  length := hs ▸ wired.length
  numbers := hs ▸ wired.numbers
  made := by
    rw [List.filter_cons_of_neg (by simp [hnot])]
    exact wired.made

theorem WiredFor.cons {targets : Targets} {more : List Wired} {name : String}
    (wired : w'.WiredFor w'' targets more) (hbuiltin : target.isBuiltin = true)
    (hlength : w'.sinks.length = w.sinks.length + 1) (ext : w.Extends w')
    (made : w'.MadeFor target w.sinks.length) :
    w.WiredFor w'' ((name, target) :: targets) (⟨name, w.sinks.length⟩ :: more) where
  extended := ext.trans wired.extended
  length := by
    rw [wired.length, hlength, List.length_cons]
    omega
  numbers := by
    rw [List.map_cons, wired.numbers, hlength, List.length_cons, List.range'_succ]
  made := by
    have hfilter : ((name, target) :: targets).filter (·.2.isBuiltin) =
        (name, target) :: targets.filter (·.2.isBuiltin) := List.filter_cons_of_pos hbuiltin
    rw [hfilter]
    exact .cons ⟨rfl, made.mono wired.extended⟩ wired.made

/-- The factories that are always there supply a sink for each target of their types. -/
theorem wiredFor_of_supplies {targets : Targets} {wired : List Wired}
    (h : workshop.Supplies builtins w targets w' wired) : w.WiredFor w' targets wired := by
  induction h with
  | nil => exact ⟨.refl _, rfl, rfl, .nil⟩
  | untyped htype _ ih => exact ih.skip _ (by simp [Target.isBuiltin, htype]) rfl rfl
  | unknown htype hnone _ ih =>
    exact ih.skip _ (by simp [Target.isBuiltin, htype, hnone]) rfl rfl
  | @made _ u name _ type _ _ _ _ _ htype hfactory hmake _ ih =>
    obtain ⟨rfl, hlength, ext, made⟩ := made_of_make hfactory htype hmake
    have noted : u.Extends (u.note (.targetRegistered name type)) := .of_eq rfl rfl
    exact ih.cons (by simp [Target.isBuiltin, htype, hfactory]) hlength (ext.trans noted)
      (made.mono noted)

/-- Wiring a configuration adds a sink for each target of such a type; one without a log section has
no sinks. -/
theorem wiredFor_ofConfig {config : AppConfig} {wiring : Wiring}
    (h : Wiring.ofConfig workshop builtins w config = (w', .ok wiring)) :
    w.WiredFor w' config.targets wiring.sinks ∧ wiring.policy = ⟨config.interval⟩ ∧
      (wiring.sinks.map (·.name)).Nodup := by
  obtain ⟨supplies, hpolicy, names⟩ := Wiring.supplies_of_ofConfig h
  exact ⟨wiredFor_of_supplies supplies, hpolicy, names⟩

/-! ## Files of targets -/

theorem isBuiltin_of_file? {settings : Path × LineFormat} (h : target.file? = some settings) :
    target.isBuiltin = true := by
  unfold Target.file? at h
  split at h
  · rename_i htype
    rw [Target.isBuiltin, htype]
    rfl
  · cases h

theorem file_of_node {handle : Disk.Handle} {file : Nat} (h : handle.node = .file file) :
    handle = .file file := by
  cases handle with
  | file id => rw [Node.file.inj h]
  | _ => cases h

theorem WiredFor.names {targets : Targets} {wired : List Wired} (h : w.WiredFor w' targets wired) :
    wired.map (·.name) = (targets.filter (·.2.isBuiltin)).map (·.1) := by
  have side : List.Forall₂ (· = ·) (wired.map (·.name))
      ((targets.filter (·.2.isBuiltin)).map (·.1)) := by
    refine List.forall₂_map_left_iff.2 (List.forall₂_map_right_iff.2 (List.Forall₂.flip ?_))
    exact h.made.imp fun _ _ made => made.1
  rwa [List.forall₂_eq_eq_eq] at side

theorem distinct_of_wiredFor {targets : Targets} {wired : List Wired}
    (h : w.WiredFor w' targets wired) (names : (wired.map (·.name)).Nodup) : Distinct wired := by
  refine ⟨?_, names⟩
  rw [h.numbers]
  exact List.nodup_range'

/-- A file to which the path of one target only leads belongs to the sink of that target. -/
theorem owns_of_wiredFor {targets : Targets} {wired : List Wired} {name : String} {path : Path}
    {format : LineFormat} {place : Place} {file : Nat} (hnone : w.sinks = [])
    (h : w.WiredFor w' targets wired) (names : (wired.map (·.name)).Nodup) (sound : w'.disk.Sound)
    (hmem : (name, target) ∈ targets) (hfile : target.file? = some (path, format))
    (hplace : w'.disk.resolve path = .ok (place, .file file))
    (alone : ∀ other ∈ targets, ∀ path format place, other.2.file? = some (path, format) →
      w'.disk.resolve path = .ok (place, .file file) → other.1 = name) :
    ∃ x ∈ wired, x.name = name ∧ w'.Owns x.sink format file := by
  have hbuiltin : (name, target) ∈ targets.filter (·.2.isBuiltin) :=
    List.mem_filter.2 ⟨hmem, isBuiltin_of_file? hfile⟩
  obtain ⟨ofTarget, ofSink⟩ := exists_partner h.made
  obtain ⟨x, hx, hname, state, hstate, hmade⟩ := ofTarget _ hbuiltin
  rw [hfile] at hmade
  obtain ⟨handle, place', rfl, hplace'⟩ := hmade
  rw [hplace] at hplace'
  obtain ⟨-, hnode⟩ := Prod.mk.inj (Except.ok.inj hplace')
  obtain rfl := file_of_node hnode.symm
  refine ⟨x, hx, hname, hstate, ?_, Disk.id_lt_of_resolve sound hplace⟩
  intro other f hother hhandle
  have hlt := (List.getElem?_eq_some_iff.1 hother).1
  rw [h.length, hnone, List.length_nil, Nat.zero_add] at hlt
  have hnumber : other ∈ wired.map (·.sink) := by
    rw [h.numbers, hnone, List.mem_range']
    exact ⟨other, hlt, by simp⟩
  obtain ⟨y, hy, rfl⟩ := List.mem_map.1 hnumber
  obtain ⟨⟨name', target'⟩, hmem', hname', state', hstate', hmade'⟩ := ofSink y hy
  rw [hother] at hstate'
  obtain rfl := Option.some.inj hstate'
  cases hfile' : target'.file? with
  | none =>
    rw [hfile'] at hmade'
    exact absurd rfl (hmade' f)
  | some settings =>
    obtain ⟨path', format'⟩ := settings
    rw [hfile'] at hmade'
    obtain ⟨handle', place'', hstart, hplace''⟩ := hmade'
    obtain rfl := SinkState.file.inj hstart
    obtain rfl : handle' = .file file := hhandle
    have hsame := alone _ (List.mem_filter.1 hmem').1 path' format' place'' hfile' hplace''
    have hxy : y.name = x.name := hname'.trans (hsame.trans hname.symm)
    rw [List.inj_on_of_nodup_map names hy hx hxy]

end

end World

end Session

end BatchedLog
