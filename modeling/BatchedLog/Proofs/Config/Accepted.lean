import BatchedLog.Config.Load
import BatchedLog.Proofs.Json.Nesting

/-!
# Accepted configurations

Decoding takes the targets of a document one by one, and a name that is met again keeps its place,
so each name is there once. Validation sees to it that a log section has a table of targets and that
no name in it is blank. `accepted_of_parse` says both of every text that is accepted.
-/

namespace BatchedLog

theorem bind_eq_ok {α β ε : Type} {r : Except ε α} {f : α → Except ε β} {b : β} :
    r >>= f = .ok b ↔ ∃ a, r = .ok a ∧ f a = .ok b := by
  cases r with
  | error e => exact ⟨nofun, nofun⟩
  | ok a => exact ⟨fun h => ⟨a, rfl, h⟩, fun ⟨_, ha, h⟩ => Except.ok.inj ha ▸ h⟩

theorem map_eq_ok {α β ε : Type} {r : Except ε α} {f : α → β} {b : β} :
    r.map f = .ok b ↔ ∃ a, r = .ok a ∧ f a = b := by
  cases r with
  | error e => exact ⟨nofun, nofun⟩
  | ok a => simp [Except.map]

theorem toOption_eq_some {α ε : Type} {r : Except ε α} {a : α} :
    r.toOption = some a ↔ r = .ok a := by
  cases r with
  | error e => exact ⟨nofun, nofun⟩
  | ok b => simp [Except.toOption]

/-- What the step for each part keeps, a decoding of all parts does. -/
theorem keeps_foldlM {α β ε : Type} {P : β → Prop} {f : β → α → Except ε β} (xs : List α) :
    (∀ {b a b'}, a ∈ xs → P b → f b a = .ok b' → P b') →
      ∀ {b b'}, P b → xs.foldlM f b = .ok b' → P b' := by
  induction xs with
  | nil =>
    intro _ b b' hb h
    cases h
    exact hb
  | cons x xs ih =>
    intro hf b b' hb h
    rw [List.foldlM_cons] at h
    obtain ⟨next, hx, hrest⟩ := bind_eq_ok.1 h
    exact ih (fun ha => hf (List.mem_cons_of_mem x ha)) (hf List.mem_cons_self hb hx) hrest

namespace Decode

variable {α : Type} {decode : Json → Except Mismatch α} {P : α → Prop} {j : Json}

/-- What holds of all that is decoded, holds of a value that may be null. -/
theorem of_option (hd : ∀ {a}, decode j = .ok a → P a) {o : Option α}
    (h : option decode j = .ok o) : ∀ a ∈ o, P a := by
  unfold option at h
  split at h
  · cases h
    nofun
  · obtain ⟨a, ha, rfl⟩ := map_eq_ok.1 h
    rintro _ ⟨⟩
    exact hd ha

theorem of_once {name : String} {before o : Option α} (hd : ∀ {a}, decode j = .ok a → P a)
    (h : once name decode before j = .ok o) : ∀ a ∈ o, P a := by
  unfold once at h
  split at h
  · cases h
  · obtain ⟨a, ha, rfl⟩ := map_eq_ok.1 h
    rintro _ ⟨⟩
    exact hd ha

theorem of_position {default a : α} {items : List Json} {i : Nat} (hdefault : P default)
    (hd : ∀ j ∈ items, ∀ {a}, decode j = .ok a → P a)
    (h : position decode default items i = .ok a) : P a := by
  unfold position at h
  split at h
  · cases h
    exact hdefault
  · rename_i j hj
    exact hd j (List.mem_of_getElem? hj) h

/-- So is a field that may be missing and may be null. -/
theorem of_getD {o : Option (Option α)} (h : ∀ i ∈ o, ∀ a ∈ i, P a) : ∀ a ∈ o.getD none, P a := by
  cases o with
  | none => simp
  | some i => exact h i rfl

theorem size_lt {n : Nat} (h : size j = .ok n) : n < UInt64.size := by
  unfold size at h
  split at h
  · split at h
    · rename_i hrange
      cases h
      exact (Int.toNat_lt hrange.1).2 hrange.2
    · cases h
  · cases h

end Decode

/-! ## What is decoded -/

theorem Targets.mem_put {name : String} {target : Target} {ts : Targets} {t : String × Target}
    (h : t ∈ ts.put name target) : t = (name, target) ∨ t ∈ ts := by
  induction ts with
  | nil => exact .inl (List.mem_singleton.1 h)
  | cons head ts ih =>
    obtain ⟨n, first⟩ := head
    unfold put at h
    split at h
    · exact (List.mem_cons.1 h).imp_right (List.mem_cons_of_mem _)
    · rcases List.mem_cons.1 h with rfl | h
      · exact .inr List.mem_cons_self
      · exact (ih h).imp_right (List.mem_cons_of_mem _)

/-- No two decoded targets have the same name, and each is decoded from a value inside. -/
theorem Targets.of_ofJson {P : Target → Prop} {j : Json} {ts : Targets}
    (hd : ∀ k ∈ j.parts, ∀ {t}, Target.ofJson k = .ok t → P t) (h : ofJson j = .ok ts) :
    (ts.map (·.1)).Nodup ∧ ∀ t ∈ ts, P t.2 := by
  unfold ofJson at h
  split at h
  · refine keeps_foldlM (P := fun ts : Targets => (ts.map (·.1)).Nodup ∧ ∀ t ∈ ts, P t.2) _ ?_
      (by simp) h
    rintro before ⟨name, value⟩ after hmem ⟨names, hbefore⟩ hstep
    obtain ⟨target, htarget, hafter⟩ := bind_eq_ok.1 hstep
    cases hafter
    refine ⟨names_put_nodup names, ?_⟩
    intro t ht
    rcases mem_put ht with rfl | ht
    · exact hd value (Json.mem_parts_of_field hmem) htarget
    · exact hbefore t ht
  · cases h

/-- A decoded interval takes at most 64 bits, and targets are decoded from a value inside. -/
theorem LogSettings.of_ofJson {P : Targets → Prop} {j : Json} {s : LogSettings}
    (hd : ∀ k ∈ j.parts, ∀ {ts}, Targets.ofJson k = .ok ts → P ts) (h : ofJson j = .ok s) :
    s.flushInterval < UInt64.size ∧ ∀ ts ∈ s.targets, P ts := by
  have hdefault : default.flushInterval < UInt64.size := by decide
  unfold ofJson at h
  split at h
  · obtain ⟨d, hfold, hs⟩ := bind_eq_ok.1 h
    cases hs
    have kept : (∀ n ∈ d.flushInterval, n < UInt64.size) ∧ ∀ o ∈ d.targets, ∀ ts ∈ o, P ts := by
      refine keeps_foldlM (P := fun d : Draft => (∀ n ∈ d.flushInterval, n < UInt64.size) ∧
        ∀ o ∈ d.targets, ∀ ts ∈ o, P ts) _ ?_ ⟨by simp, by simp⟩ hfold
      rintro before ⟨key, value⟩ after hmem ⟨hinterval, htargets⟩ hstep
      have inside := Json.mem_parts_of_field hmem
      change before.decodeField key value = .ok after at hstep
      unfold Draft.decodeField at hstep
      split at hstep
      · obtain ⟨o, ho, hafter⟩ := bind_eq_ok.1 hstep
        cases hafter
        exact ⟨hinterval, Decode.of_once (Decode.of_option (hd value inside)) ho⟩
      · split at hstep
        · obtain ⟨o, ho, hafter⟩ := bind_eq_ok.1 hstep
          cases hafter
          exact ⟨Decode.of_once Decode.size_lt ho, htargets⟩
        · cases hstep
          exact ⟨hinterval, htargets⟩
    refine ⟨?_, Decode.of_getD kept.2⟩
    cases hinterval : d.flushInterval with
    | none => exact hdefault
    | some n => exact kept.1 n hinterval
  · obtain ⟨targets, ht, hrest⟩ := bind_eq_ok.1 h
    obtain ⟨interval, hinterval, hs⟩ := bind_eq_ok.1 hrest
    cases hs
    refine ⟨?_, ?_⟩
    · exact Decode.of_position (P := (· < UInt64.size)) hdefault (fun _ _ => Decode.size_lt)
        hinterval
    · exact Decode.of_position (P := fun o : Option Targets => ∀ ts ∈ o, P ts) (by simp [default])
        (fun k hk => Decode.of_option (hd k (Json.mem_parts_of_item hk))) ht
  · cases h

/-- Log settings are decoded from a value inside. -/
theorem AppConfig.of_ofJson {P : LogSettings → Prop} {j : Json} {config : AppConfig}
    (hd : ∀ k ∈ j.parts, ∀ {s}, LogSettings.ofJson k = .ok s → P s) (h : ofJson j = .ok config) :
    ∀ s ∈ config.log, P s := by
  unfold ofJson at h
  split at h
  · obtain ⟨d, hfold, hconfig⟩ := bind_eq_ok.1 h
    cases hconfig
    refine Decode.of_getD (keeps_foldlM (P := fun d : Draft => ∀ o ∈ d.log, ∀ s ∈ o, P s) _ ?_
      (by simp) hfold)
    rintro before ⟨key, value⟩ after hmem hbefore hstep
    have inside := Json.mem_parts_of_field hmem
    change before.decodeField key value = .ok after at hstep
    unfold Draft.decodeField at hstep
    split at hstep
    · obtain ⟨o, -, hafter⟩ := bind_eq_ok.1 hstep
      cases hafter
      exact hbefore
    · split at hstep
      · obtain ⟨o, ho, hafter⟩ := bind_eq_ok.1 hstep
        cases hafter
        exact Decode.of_once (Decode.of_option (hd value inside)) ho
      · split at hstep
        · obtain ⟨o, -, hafter⟩ := bind_eq_ok.1 hstep
          cases hafter
          exact hbefore
        · cases hstep
          exact hbefore
  · obtain ⟨debug, -, hrest⟩ := bind_eq_ok.1 h
    obtain ⟨log, hlog, hrest⟩ := bind_eq_ok.1 hrest
    obtain ⟨observability, -, hconfig⟩ := bind_eq_ok.1 hrest
    cases hconfig
    exact Decode.of_position (P := fun o : Option LogSettings => ∀ s ∈ o, P s) (by simp [default])
      (fun k hk => Decode.of_option (hd k (Json.mem_parts_of_item hk))) hlog
  · cases h

/-- Each name is there once. -/
def LogSettings.Once (s : LogSettings) : Prop :=
  ∀ targets ∈ s.targets, (targets.map (·.1)).Nodup

theorem LogSettings.once_of_ofJson {j : Json} {s : LogSettings} (h : ofJson j = .ok s) :
    s.Once := by
  refine (of_ofJson (fun k _ ts hts => ?_) h).2
  exact (Targets.of_ofJson (P := fun _ => True) (fun _ _ _ _ => trivial) hts).1

theorem AppConfig.once_of_ofJson {j : Json} {config : AppConfig} (h : ofJson j = .ok config) :
    ∀ s ∈ config.log, s.Once :=
  of_ofJson (fun _ _ _ => LogSettings.once_of_ofJson) h

/-! ## Validation -/

/-- What the wiring of a logger relies on. -/
structure AppConfig.Accepted (config : AppConfig) : Prop where
  declared : ∀ s ∈ config.log, ∃ targets, s.targets = some targets
  once : (config.targets.map (·.1)).Nodup
  named : ∀ name ∈ config.targets.map (·.1), Text.isBlank name = false

theorem Target.isBlank_of_errors {name : String} {target : Target} (h : target.errors name = []) :
    Text.isBlank name = false := by
  cases hblank : Text.isBlank name with
  | false => rfl
  | true => simp [errors, hblank] at h

theorem AppConfig.accepted_of_errors {config : AppConfig} (h : config.errors = [])
    (once : ∀ s ∈ config.log, s.Once) : config.Accepted := by
  unfold errors at h
  obtain ⟨hlog, -⟩ := List.append_eq_nil_iff.1 h
  cases hsome : config.log with
  | none =>
    have htargets : config.targets = [] := by simp [AppConfig.targets, hsome]
    refine ⟨by simp [hsome], ?_, ?_⟩
    · rw [htargets]
      exact List.nodup_nil
    · simp [htargets]
  | some s =>
    rw [hsome] at hlog
    cases hdeclared : s.targets with
    | none => simp [LogSettings.errors, hdeclared] at hlog
    | some targets =>
      have htargets : config.targets = targets := by simp [AppConfig.targets, hsome, hdeclared]
      have herrors : ∀ named ∈ targets, named.2.errors named.1 = [] := by
        simpa [LogSettings.errors, hdeclared] using hlog
      refine ⟨?_, ?_, ?_⟩
      · rw [hsome]
        rintro _ ⟨⟩
        exact ⟨targets, hdeclared⟩
      · rw [htargets]
        exact once s hsome targets hdeclared
      · rw [htargets]
        intro name hname
        obtain ⟨named, hmem, rfl⟩ := List.mem_map.1 hname
        exact Target.isBlank_of_errors (herrors named hmem)

theorem AppConfig.accepted_of_parse {text : String} {config : AppConfig}
    (h : parse text = .ok config) : config.Accepted := by
  unfold parse at h
  split at h
  · cases h
  · split at h
    · cases h
    · rename_i decoded hdecoded
      split at h
      · rename_i hvalid
        cases h
        exact accepted_of_errors (List.isEmpty_iff.1 hvalid) (once_of_ofJson hdecoded)
      · cases h

end BatchedLog
