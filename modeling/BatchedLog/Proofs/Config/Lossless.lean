import BatchedLog.Proofs.Config.Accepted
import BatchedLog.Proofs.Json.Limit
import BatchedLog.Proofs.Json.Sorted

/-!
# The JSON form of a configuration

In the JSON form of a target its type stands among its parameters, and what is absent is `null`, or
not there at all, or an object without fields. Decoding gives back every configuration nevertheless,
as long as no parameter is called as the type is; and as no decoded target has such a parameter, all
that was decoded once is decoded again from its JSON form. Without floats the text of this form says
all as well, but the reader takes it only where its nesting is allowed: what stands in a parameter
may be 123 levels deep, as there are four objects around it.
-/

namespace BatchedLog

/-- A decoding that comes to the state for each part of a list when it has taken this part. -/
theorem foldlM_of_steps {α β ε : Type} {f : β → α → Except ε β} (state : List α → β) {xs : List α}
    (step : ∀ before x after, xs = before ++ x :: after →
      f (state before) x = .ok (state (before ++ [x]))) :
    xs.foldlM f (state []) = .ok (state xs) := by
  have hrest : ∀ after before, xs = before ++ after →
      after.foldlM f (state before) = .ok (state xs) := by
    intro after
    induction after with
    | nil =>
      intro before h
      rw [h, List.append_nil]
      rfl
    | cons x after ih =>
      intro before h
      rw [List.foldlM_cons, step before x after h]
      exact ih (before ++ [x]) (h.trans (List.append_cons ..))
  exact hrest xs [] rfl

/-! ## Decoding the JSON form -/

namespace Target

/-- Its parameters are in the form in which they are kept, and none is called as the type is. -/
structure Regular (t : Target) : Prop where
  params : (Json.object t.params).All Json.fits
  untyped : ∀ f ∈ t.params, f.1 ≠ "type"

variable {t : Target}

/-- Parameters are decoded in their order, whatever the type is. -/
theorem decode_params (h : t.Regular) (type : Option (Option String)) :
    t.params.foldlM (fun t (key, j) => decodeField t key j) (type, []) = .ok (type, t.params) := by
  refine foldlM_of_steps (fun before => (type, before)) ?_
  rintro before ⟨key, j⟩ after hparams
  have hmem : (key, j) ∈ t.params := hparams ▸ List.mem_append_right before List.mem_cons_self
  have hincreasing : Fields.Increasing t.params := of_decide_eq_true h.params.here
  have hlast : ∀ f ∈ before, f.1 < key := by
    rw [hparams] at hincreasing
    exact fun f hf => (List.pairwise_append.1 hincreasing).2.2 f hf (key, j) List.mem_cons_self
  have hsorted : j.sorted = j := Json.sorted_eq ((Json.all_object.1 h.params).2 _ hmem)
  simp only [decodeField, if_neg (h.untyped _ hmem), hsorted, Fields.put_of_last hlast]
  rfl

theorem ofJson_toJson (h : t.Regular) : ofJson t.toJson = .ok t := by
  have hparams := decode_params h
  obtain ⟨type, params⟩ := t
  -- the type comes first if it is there at all, and `decode_params` starts from what it leaves
  rw [toJson, ofJson]
  cases type with
  | none => exact bind_eq_ok.2 ⟨_, hparams none, rfl⟩
  | some type =>
    have htype : decodeField (none, []) "type" (.string type) = .ok (some (some type), []) := rfl
    rw [Option.map_some, Option.toList_some, List.singleton_append, List.foldlM_cons]
    exact bind_eq_ok.2 ⟨_, bind_eq_ok.2 ⟨_, htype, hparams (some (some type))⟩, rfl⟩

/-- A parameter that is called as the type is would be taken for it, or be one too many. -/
example : (ofJson (toJson ⟨none, [("type", .string "file")]⟩)).toOption.map (·.type) =
      some (some "file") ∧
    (ofJson (toJson ⟨some "file", [("type", .null)]⟩)).toOption.isNone := ⟨rfl, rfl⟩

end Target

namespace Targets

theorem put_of_not_mem {name : String} {target : Target} {ts : Targets}
    (h : name ∉ ts.map (·.1)) : ts.put name target = ts ++ [(name, target)] := by
  induction ts with
  | nil => rfl
  | cons head ts ih =>
    obtain ⟨n, t⟩ := head
    rw [List.map_cons, List.mem_cons, not_or] at h
    rw [put, if_neg (Ne.symm h.1), ih h.2, List.cons_append]

theorem ofJson_toJson {ts : Targets} (names : (ts.map (·.1)).Nodup)
    (regular : ∀ t ∈ ts, t.2.Regular) : ofJson ts.toJson = .ok ts := by
  rw [toJson, ofJson, List.foldlM_map]
  refine foldlM_of_steps (fun before : Targets => before) ?_
  rintro before ⟨name, t⟩ after hts
  have hmem : (name, t) ∈ ts := hts ▸ List.mem_append_right before List.mem_cons_self
  have hnew : name ∉ before.map (·.1) := by
    rw [hts, List.map_append, List.map_cons] at names
    exact fun hname => (List.nodup_append.1 names).2.2 name hname name List.mem_cons_self rfl
  exact bind_eq_ok.2
    ⟨t, Target.ofJson_toJson (regular _ hmem), congrArg Except.ok (put_of_not_mem hnew)⟩

end Targets

/-- The interval takes at most 64 bits, no two targets have the same name, and each is regular. -/
structure LogSettings.Regular (s : LogSettings) : Prop where
  interval : s.flushInterval < UInt64.size
  names : s.Once
  targets : ∀ ts ∈ s.targets, ∀ t ∈ ts, t.2.Regular

theorem LogSettings.ofJson_toJson {s : LogSettings} (h : s.Regular) : ofJson s.toJson = .ok s := by
  obtain ⟨targets, interval⟩ := s
  have hsize : Decode.size (.integer interval) = .ok interval := by
    rw [Decode.size, if_pos ⟨Int.natCast_nonneg _, Int.ofNat_lt.2 h.interval⟩, Int.toNat_natCast]
  have htargets : Decode.option Targets.ofJson ((targets.map Targets.toJson).getD .null) =
      .ok targets := by
    cases targets with
    | none => rfl
    | some ts =>
      exact congrArg (Except.map some) (Targets.ofJson_toJson (h.names ts rfl) (h.targets ts rfl))
  simp only [toJson, ofJson, List.foldlM_cons, List.foldlM_nil, Draft.decodeField, Decode.once,
    htargets, hsize]
  rfl

theorem Observability.ofJson_toJson (o : Observability) : ofJson o.toJson = .ok o := rfl

theorem AppConfig.ofJson_toJson {c : AppConfig} (h : ∀ s ∈ c.log, s.Regular) :
    ofJson c.toJson = .ok c := by
  obtain ⟨debug, log, observability⟩ := c
  have hlog : Decode.option LogSettings.ofJson ((log.map LogSettings.toJson).getD .null) =
      .ok log := by
    cases log with
    | none => rfl
    | some s => exact congrArg (Except.map some) (LogSettings.ofJson_toJson (h s rfl))
  simp only [toJson, ofJson, List.foldlM_cons, List.foldlM_nil, Draft.decodeField, Decode.once,
    hlog, Observability.ofJson_toJson]
  rfl

/-! ## Decoded configurations -/

theorem Target.regular_of_ofJson {j : Json} {t : Target} (integers : j.All Json.fits64)
    (h : ofJson j = .ok t) : t.Regular := by
  unfold ofJson at h
  split at h
  · obtain ⟨state, hfold, ht⟩ := bind_eq_ok.1 h
    cases ht
    have hregular : Regular ⟨none, state.2⟩ := by
      refine keeps_foldlM (P := fun state : Option (Option String) × Fields =>
        Regular ⟨none, state.2⟩) _ ?_ ⟨.of_single rfl rfl, by simp⟩ hfold
      rintro state ⟨key, value⟩ after hmem hbefore hstep
      change decodeField state key value = .ok after at hstep
      unfold decodeField at hstep
      split at hstep
      · obtain ⟨type, -, hafter⟩ := bind_eq_ok.1 hstep
        cases hafter
        exact hbefore
      · rename_i hkey
        cases hstep
        obtain ⟨hkeys, hvalues⟩ := Json.all_object.1 hbefore.params
        refine ⟨Json.all_object.2
          ⟨decide_eq_true (Fields.increasing_put (of_decide_eq_true hkeys)), ?_⟩, ?_⟩
        · intro f hf
          rcases Fields.mem_put hf with rfl | hf
          · exact Json.fits_sorted ((Json.all_object.1 integers).2 _ hmem)
          · exact hvalues f hf
        · intro f hf
          rcases Fields.mem_put hf with rfl | hf
          · exact hkey
          · exact hbefore.untyped f hf
    exact ⟨hregular.params, hregular.untyped⟩
  · cases h

theorem LogSettings.regular_of_ofJson {j : Json} {s : LogSettings} (integers : j.All Json.fits64)
    (h : ofJson j = .ok s) : s.Regular := by
  have targets : ∀ k ∈ j.parts, ∀ {ts}, Targets.ofJson k = .ok ts → ∀ t ∈ ts, t.2.Regular :=
    fun k hk ts hts => (Targets.of_ofJson (fun i hi =>
      Target.regular_of_ofJson ((integers.inside hk).inside hi)) hts).2
  obtain ⟨hinterval, htargets⟩ := of_ofJson targets h
  exact ⟨hinterval, once_of_ofJson h, htargets⟩

namespace AppConfig

variable {c : AppConfig}

/-- Whatever was decoded once is decoded again from its JSON form. -/
theorem decoded_again {j : Json} (integers : j.All Json.fits64) (h : ofJson j = .ok c) :
    ofJson c.toJson = .ok c :=
  ofJson_toJson (of_ofJson (fun _ hk => LogSettings.regular_of_ofJson (integers.inside hk)) h)

end AppConfig

/-! ## Texts of configurations -/

/-- No parameter is called as the type is, and none holds a float. -/
structure Target.Expressible (t : Target) : Prop where
  untyped : ∀ f ∈ t.params, f.1 ≠ "type"
  floats : ∀ f ∈ t.params, f.2.All Json.notFloat

theorem Target.faithful_toJson {t : Target} (kept : (Json.object t.params).All Json.fits)
    (h : t.Expressible) : t.toJson.All Json.faithful := by
  refine Json.all_object.2 ⟨rfl, ?_⟩
  intro f hf
  rcases List.mem_append.1 hf with hf | hf
  · obtain ⟨s, -, rfl⟩ := Option.map_eq_some_iff.1 (Option.mem_toList.1 hf)
    exact .of_single rfl rfl
  · exact Json.faithful_of_fits (h.floats f hf) ((Json.all_object.1 kept).2 f hf)

theorem Target.depth_toJson_le {t : Target} {n : Nat} :
    t.toJson.depth ≤ n + 1 ↔ ∀ f ∈ t.params, f.2.depth ≤ n := by
  rw [toJson, Json.depth, Nat.add_le_add_iff_right, Json.depthOfFields_le, List.forall_mem_append]
  refine and_iff_right ?_
  intro f hf
  obtain ⟨s, -, rfl⟩ := Option.map_eq_some_iff.1 (Option.mem_toList.1 hf)
  exact Nat.zero_le n

theorem Targets.faithful_toJson {ts : Targets} (h : ∀ t ∈ ts, t.2.toJson.All Json.faithful) :
    ts.toJson.All Json.faithful := by
  refine Json.all_object.2 ⟨rfl, ?_⟩
  rw [List.forall_mem_map]
  exact h

theorem LogSettings.faithful_toJson {s : LogSettings} (hinterval : s.flushInterval < UInt64.size)
    (h : ∀ ts ∈ s.targets, ts.toJson.All Json.faithful) : s.toJson.All Json.faithful := by
  obtain ⟨targets, interval⟩ := s
  have htargets : ((targets.map Targets.toJson).getD .null).All Json.faithful := by
    cases targets with
    | none => exact .of_single rfl rfl
    | some ts => exact h ts rfl
  refine Json.all_object.2 ⟨rfl, ?_⟩
  simp only [List.forall_mem_cons]
  exact ⟨htargets, .of_single rfl (Json.faithful_natCast hinterval), nofun⟩

theorem Observability.faithful_toJson (o : Observability) : o.toJson.All Json.faithful := by
  refine Json.all_object.2 ⟨rfl, ?_⟩
  simp only [List.forall_mem_cons]
  exact ⟨.of_single rfl rfl, .of_single rfl rfl, .of_single rfl rfl, nofun⟩

namespace AppConfig

/-- What the types of a configuration guarantee: the interval takes at most 64 bits, no two targets
have the same name, and parameters are in the form in which they are kept. -/
structure WellTyped (c : AppConfig) : Prop where
  interval : c.interval < UInt64.size
  names : (c.targets.map (·.1)).Nodup
  params : ∀ t ∈ c.targets, (Json.object t.2.params).All Json.fits

variable {c : AppConfig}

theorem targets_of_log {s : LogSettings} {ts : Targets} (hlog : s ∈ c.log) (hts : ts ∈ s.targets) :
    c.targets = ts := by
  rw [AppConfig.targets, hlog, Option.bind_some, hts, Option.getD_some]

theorem interval_of_log {s : LogSettings} (hlog : s ∈ c.log) : c.interval = s.flushInterval := by
  rw [AppConfig.interval, hlog, Option.map_some, Option.getD_some]

theorem WellTyped.regular (typed : c.WellTyped) (expressible : ∀ t ∈ c.targets, t.2.Expressible) :
    ∀ s ∈ c.log, s.Regular := by
  intro s hlog
  refine ⟨interval_of_log hlog ▸ typed.interval, ?_, ?_⟩
  · exact fun ts hts => targets_of_log hlog hts ▸ typed.names
  · intro ts hts t ht
    rw [← targets_of_log hlog hts] at ht
    exact ⟨typed.params t ht, (expressible t ht).untyped⟩

theorem faithful_toJson (typed : c.WellTyped) (expressible : ∀ t ∈ c.targets, t.2.Expressible) :
    c.toJson.All Json.faithful := by
  have hlog : ((c.log.map LogSettings.toJson).getD .null).All Json.faithful := by
    cases hsome : c.log with
    | none => exact .of_single rfl rfl
    | some s =>
      refine LogSettings.faithful_toJson (interval_of_log hsome ▸ typed.interval) fun ts hts => ?_
      rw [← targets_of_log hsome hts]
      exact Targets.faithful_toJson fun t ht =>
        Target.faithful_toJson (typed.params t ht) (expressible t ht)
  refine Json.all_object.2 ⟨rfl, ?_⟩
  simp only [List.forall_mem_cons]
  exact ⟨.of_single rfl rfl, hlog, c.observability.faithful_toJson, nofun⟩

/-- Around the values of parameters there are four objects. -/
theorem depth_toJson_le {n : Nat} :
    c.toJson.depth ≤ n + 4 ↔ ∀ t ∈ c.targets, ∀ f ∈ t.2.params, f.2.depth ≤ n := by
  have hdepth : c.toJson.depth = max ((c.log.map LogSettings.toJson).getD .null).depth 1 + 1 := by
    simp only [toJson, Observability.toJson, Json.depth, Json.depthOfFields]
    omega
  rw [hdepth, Nat.add_le_add_iff_right, Nat.max_le, and_iff_left (Nat.le_add_left 1 _)]
  cases hlog : c.log with
  | none => simp [targets, hlog, Json.depth]
  | some s =>
    cases hts : s.targets with
    | none => simp [targets, hlog, hts, LogSettings.toJson, Json.depth, Json.depthOfFields]
    | some ts =>
      have hsettings : s.toJson.depth = ts.toJson.depth + 1 := by
        simp [LogSettings.toJson, hts, Json.depth, Json.depthOfFields]
      rw [Option.map_some, Option.getD_some, hsettings, Nat.add_le_add_iff_right, Targets.toJson,
        Json.depth, Nat.add_le_add_iff_right, Json.depthOfFields_le, List.forall_mem_map,
        targets_of_log hlog hts]
      exact forall₂_congr fun t _ => Target.depth_toJson_le

/-- A configuration is given back from the text of its JSON form if no parameter value has more than
123 lists and objects inside one another, and this text is refused as nested too deep if one has.
Two configurations with the same text are equal at any depth, for the fields as they are written, in
their order, decode to the configuration however deep they are. -/
theorem json_lossless (typed : c.WellTyped) (expressible : ∀ t ∈ c.targets, t.2.Expressible) :
    ofJson c.toJson = .ok c ∧
      ((∀ t ∈ c.targets, ∀ f ∈ t.2.params, f.2.depth ≤ 123) →
        ∃ j, Json.read c.toJson.compact = .ok j ∧ ofJson j = .ok c) ∧
      ((∃ t ∈ c.targets, ∃ f ∈ t.2.params, 123 < f.2.depth) →
        ∃ e, Json.read c.toJson.compact = .error e ∧ e.cause = .tooDeep) ∧
      ∀ c' : AppConfig, c'.WellTyped → (∀ t ∈ c'.targets, t.2.Expressible) →
        c'.toJson.compact = c.toJson.compact → c' = c := by
  have decoded := ofJson_toJson (typed.regular expressible)
  have faithful := faithful_toJson typed expressible
  refine ⟨decoded, ?_, ?_, ?_⟩
  · intro hdepth
    exact ⟨_, Json.read_compact faithful (depth_toJson_le.2 hdepth), decoded⟩
  · rintro ⟨t, ht, f, hf, hdeep⟩
    refine Json.read_compact_of_lt faithful (Nat.lt_of_not_le fun hdepth => ?_)
    exact Nat.not_le_of_lt hdeep (depth_toJson_le.1 hdepth t ht f hf)
  · intro c' typed' expressible' htext
    have hjson : c'.toJson = c.toJson :=
      Json.compact_injective (faithful_toJson typed' expressible') faithful htext
    have decoded' := ofJson_toJson (typed'.regular expressible')
    rw [hjson, decoded] at decoded'
    exact (Except.ok.inj decoded').symm

/-- The first target has no type and the second no parameters; there are parameters called as fields
of sections are, and a field called as the type is inside one of them. -/
def diverse : AppConfig :=
  { debug := true
    log := some
      { targets := some
          [("b", ⟨none, [("debug", .null), ("log", .array [.integer (-3), .object []]),
            ("targets", .object [("a", .string "\"\n"), ("type", .bool false)])]⟩),
            ("a", ⟨some "file", []⟩)]
        flushInterval := UInt64.size - 1 }
    observability := .default }

theorem json_lossless_diverse : diverse.WellTyped ∧ (∀ t ∈ diverse.targets, t.2.Expressible) ∧
    ofJson diverse.toJson = .ok diverse ∧
    (∃ j, Json.read diverse.toJson.compact = .ok j ∧ ofJson j = .ok diverse) ∧
    ∀ c' : AppConfig, c'.WellTyped → (∀ t ∈ c'.targets, t.2.Expressible) →
      c'.toJson.compact = diverse.toJson.compact → c' = diverse := by
  have typed : diverse.WellTyped := ⟨by decide, by decide, by decide +kernel⟩
  have untyped : ∀ t ∈ diverse.targets, ∀ f ∈ t.2.params, f.1 ≠ "type" := by decide +kernel
  have floats : ∀ t ∈ diverse.targets, ∀ f ∈ t.2.params, f.2.All Json.notFloat := by decide +kernel
  have depths : ∀ t ∈ diverse.targets, ∀ f ∈ t.2.params, f.2.depth ≤ 123 := by decide +kernel
  have expressible : ∀ t ∈ diverse.targets, t.2.Expressible :=
    fun t ht => ⟨untyped t ht, floats t ht⟩
  obtain ⟨decoded, read, -, unique⟩ := json_lossless typed expressible
  exact ⟨typed, expressible, decoded, read depths, unique⟩

/-- Lists in one another, one more than `n`, the innermost without items. -/
def lists : Nat → Json
  | 0 => .array []
  | n + 1 => .array [lists n]

/-- One parameter, one level deeper than is read back. -/
def deep : AppConfig :=
  { debug := false
    log := some { targets := some [("a", ⟨none, [("k", lists 123)]⟩)], flushInterval := 10 }
    observability := .default }

theorem deep_not_read_back : deep.WellTyped ∧ (∀ t ∈ deep.targets, t.2.Expressible) ∧
    (∃ e, Json.read deep.toJson.compact = .error e ∧ e.cause = .tooDeep) ∧
    ¬ ∃ j, Json.read deep.toJson.compact = .ok j ∧ ofJson j = .ok deep := by
  have typed : deep.WellTyped := ⟨by decide, by decide, by decide +kernel⟩
  have untyped : ∀ t ∈ deep.targets, ∀ f ∈ t.2.params, f.1 ≠ "type" := by decide +kernel
  have floats : ∀ t ∈ deep.targets, ∀ f ∈ t.2.params, f.2.All Json.notFloat := by decide +kernel
  have expressible : ∀ t ∈ deep.targets, t.2.Expressible := fun t ht => ⟨untyped t ht, floats t ht⟩
  have hdepth : 127 < deep.toJson.depth := by decide +kernel
  obtain ⟨e, hread, hcause⟩ := Json.read_compact_of_lt (faithful_toJson typed expressible) hdepth
  refine ⟨typed, expressible, ⟨e, hread, hcause⟩, ?_⟩
  rintro ⟨j, hok, -⟩
  rw [hread] at hok
  cases hok

end AppConfig

end BatchedLog
