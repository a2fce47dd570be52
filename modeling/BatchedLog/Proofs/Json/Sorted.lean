import BatchedLog.Proofs.Json.RoundTrip

/-!
# Sorted values

Fields that are put in one after another come to stand in increasing order of their keys, and fields
that stand so already stay as they are. So sorting brings every value into the form in which
parameters are kept, and changes nothing of a value in this form.
-/

namespace BatchedLog

namespace Fields

/-- In increasing order of their keys, so each key is there once. -/
def Increasing (fields : Fields) : Prop := fields.Pairwise fun f g => f.1 < g.1

instance (fields : Fields) : Decidable fields.Increasing :=
  inferInstanceAs (Decidable (List.Pairwise _ fields))

variable {fields : Fields} {key : String} {value : Json}

theorem put_of_last (h : ∀ f ∈ fields, f.1 < key) :
    fields.put key value = fields ++ [(key, value)] := by
  induction fields with
  | nil => rfl
  | cons f fields ih =>
    obtain ⟨k, v⟩ := f
    obtain ⟨hk, hrest⟩ := List.forall_mem_cons.1 h
    rw [put, if_neg (String.lt_asymm hk), if_neg (String.ne_of_lt hk).symm, ih hrest,
      List.cons_append]

theorem mem_put {f : String × Json} (h : f ∈ fields.put key value) :
    f = (key, value) ∨ f ∈ fields := by
  induction fields with
  | nil => exact .inl (List.mem_singleton.1 h)
  | cons g fields ih =>
    obtain ⟨k, v⟩ := g
    unfold put at h
    split at h
    · exact List.mem_cons.1 h
    · split at h
      · exact (List.mem_cons.1 h).imp_right (List.mem_cons_of_mem _)
      · rcases List.mem_cons.1 h with rfl | h
        · exact .inr List.mem_cons_self
        · exact (ih h).imp_right (List.mem_cons_of_mem _)

theorem increasing_put (h : fields.Increasing) : (fields.put key value).Increasing := by
  induction fields with
  | nil => exact List.pairwise_singleton _ _
  | cons g fields ih =>
    obtain ⟨k, v⟩ := g
    obtain ⟨hfirst, hrest⟩ := List.pairwise_cons.1 h
    unfold put
    split
    · rename_i hlt
      refine List.pairwise_cons.2 ⟨List.forall_mem_cons.2 ⟨hlt, ?_⟩, h⟩
      exact fun f hf => String.lt_trans hlt (hfirst f hf)
    · split
      · rename_i heq
        subst heq
        exact List.pairwise_cons.2 ⟨hfirst, hrest⟩
      · rename_i hlt hne
        have hk : k < key := Std.lt_of_le_of_ne hlt (Ne.symm hne)
        refine List.pairwise_cons.2 ⟨?_, ih hrest⟩
        intro f hf
        rcases mem_put hf with rfl | hf
        · exact hk
        · exact hfirst f hf

theorem sort_eq (fields : Fields) :
    fields.sort = fields.foldl (fun acc f => Fields.put f.1 f.2 acc) [] := rfl

/-- What putting in one field after the other keeps, sorting establishes. -/
theorem sort_induct {P : Fields → Prop} (nil : P [])
    (put : ∀ {acc f}, P acc → f ∈ fields → P (acc.put f.1 f.2)) : P fields.sort := by
  have hfold : ∀ rest acc : Fields, (∀ f ∈ rest, f ∈ fields) → P acc →
      P (rest.foldl (fun acc f => Fields.put f.1 f.2 acc) acc) := by
    intro rest
    induction rest with
    | nil => exact fun acc _ h => h
    | cons f rest ih =>
      intro acc hmem h
      obtain ⟨hf, hrest⟩ := List.forall_mem_cons.1 hmem
      exact ih _ hrest (put h hf)
  rw [sort_eq]
  exact hfold fields [] (fun f hf => hf) nil

theorem increasing_sort (fields : Fields) : fields.sort.Increasing :=
  sort_induct (P := Increasing) List.Pairwise.nil fun h _ => increasing_put h

theorem mem_sort {f : String × Json} (h : f ∈ fields.sort) : f ∈ fields := by
  have hmem : ∀ f ∈ fields.sort, f ∈ fields :=
    sort_induct (P := fun sorted => ∀ f ∈ sorted, f ∈ fields) nofun fun {acc g} hacc hg f hf => by
      rcases mem_put hf with rfl | hf
      · exact hg
      · exact hacc f hf
  exact hmem f h

theorem sort_of_increasing (h : fields.Increasing) : fields.sort = fields := by
  have hfold : ∀ rest before : Fields, Increasing (before ++ rest) →
      rest.foldl (fun acc f => Fields.put f.1 f.2 acc) before = before ++ rest := by
    intro rest
    induction rest with
    | nil => exact fun before _ => (List.append_nil before).symm
    | cons f rest ih =>
      intro before h
      have hlast : ∀ g ∈ before, g.1 < f.1 := fun g hg =>
        (List.pairwise_append.1 h).2.2 g hg f List.mem_cons_self
      rw [List.append_cons] at h ⊢
      rw [List.foldl_cons, put_of_last hlast]
      exact ih _ h
  rw [sort_eq]
  exact hfold fields [] h

end Fields

namespace Json

/-- What the form in which parameters are kept asks of a value, whatever it asks of those inside. -/
def fits : Json → Bool
  | .float x => x.isFinite
  | .object fields => decide (Fields.Increasing fields)
  | j => j.fits64

theorem fits64_of_fits {j : Json} (h : j.fits = true) : j.fits64 = true := by
  cases j with
  | float x => rfl
  | object fields => rfl
  | _ => exact h

theorem faithful_of_fits {j : Json} (floats : j.All notFloat) (kept : j.All fits) :
    j.All faithful := by
  intro k hk
  rw [faithful, floats k hk, fits64_of_fits (kept k hk)]
  rfl

theorem sortedItems_eq (items : List Json) : sortedItems items = items.map sorted := by
  induction items with
  | nil => rfl
  | cons j items ih => rw [sortedItems, ih, List.map_cons]

theorem sortedFields_eq (fields : List (String × Json)) :
    sortedFields fields = fields.map fun f => (f.1, f.2.sorted) := by
  induction fields with
  | nil => rfl
  | cons f fields ih => rw [sortedFields, ih, List.map_cons]

/-- Sorting changes nothing of a value in the form in which parameters are kept. -/
theorem sorted_eq {j : Json} (kept : j.All fits) : j.sorted = j := by
  induction j using induct with
  | float x =>
    have hfinite : x.isFinite = true := kept.here
    rw [sorted, if_pos hfinite]
  | array items ih =>
    have hitems : items.map sorted = items.map id :=
      List.map_congr_left fun j hj => ih j hj ((all_array.1 kept).2 j hj)
    rw [sorted, sortedItems_eq, hitems, List.map_id]
  | object fields ih =>
    have hfields : fields.map (fun f => (f.1, f.2.sorted)) = fields.map id :=
      List.map_congr_left fun f hf => Prod.ext rfl (ih f hf ((all_object.1 kept).2 f hf))
    have hkeys : Fields.Increasing fields := of_decide_eq_true kept.here
    rw [sorted, sortedFields_eq, hfields, List.map_id, Fields.sort_of_increasing hkeys]
  | _ => rfl

/-- Sorting brings a value into this form. -/
theorem fits_sorted {j : Json} (integers : j.All fits64) : j.sorted.All fits := by
  induction j using induct with
  | integer i => exact .of_single rfl integers.here
  | float x =>
    rw [sorted]
    split
    · rename_i hfinite
      exact .of_single rfl hfinite
    · exact .of_single rfl rfl
  | array items ih =>
    rw [sorted, sortedItems_eq]
    refine all_array.2 ⟨rfl, ?_⟩
    rw [List.forall_mem_map]
    exact fun j hj => ih j hj ((all_array.1 integers).2 j hj)
  | object fields ih =>
    rw [sorted, sortedFields_eq]
    refine all_object.2 ⟨decide_eq_true (Fields.increasing_sort _), ?_⟩
    intro g hg
    obtain ⟨f, hf, rfl⟩ := List.mem_map.1 (Fields.mem_sort hg)
    exact ih f hf ((all_object.1 integers).2 f hf)
  | _ => exact .of_single rfl rfl

end Json

end BatchedLog
