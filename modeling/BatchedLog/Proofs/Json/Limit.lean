import BatchedLog.Proofs.Json.RoundTrip

/-!
# The nesting limit

A compact text is read back where its nesting is allowed. Where it is not, the reader stops at the
first bracket or brace beyond the limit and refuses the text for that reason, whatever stands behind
it. So at most 127 levels of nesting is exactly what the round trip through a text asks for.
-/

namespace BatchedLog.Json

/-- Stopped at a bracket or brace for which no level is left. -/
def Exceeded {α : Type} (r : Read α) : Prop := ∃ stop, r = .error stop ∧ stop.cause = .tooDeep

theorem Exceeded.andThen {α β : Type} {r : Read α} (h : Exceeded r)
    (next : α → List Char → Read β) : Exceeded (r.andThen next) := by
  obtain ⟨stop, rfl, hcause⟩ := h
  exact ⟨stop, rfl, hcause⟩

/-- However it goes on, the text is refused where `depth` levels are left. -/
def TooDeep (depth : Nat) (text : List Char) : Prop :=
  ∀ (fuel : Nat) (rest : List Char), 2 * text.length ≤ fuel →
    Exceeded (readValue fuel depth (text ++ rest))

theorem tooDeep_array_zero (items : List Json) : TooDeep 0 (compact (.array items)).toList := by
  intro fuel rest hfuel
  rw [toList_compact_array] at hfuel ⊢
  obtain ⟨fuel, rfl⟩ := Nat.exists_eq_add_of_le' (Nat.le_trans (Nat.le_add_left 1 _) hfuel)
  exact ⟨⟨.tooDeep, _, 1⟩, by rw [List.cons_append, readValue]; rfl, rfl⟩

theorem tooDeep_object_zero (fields : List (String × Json)) :
    TooDeep 0 (compact (.object fields)).toList := by
  intro fuel rest hfuel
  rw [toList_compact_object] at hfuel ⊢
  obtain ⟨fuel, rfl⟩ := Nat.exists_eq_add_of_le' (Nat.le_trans (Nat.le_add_left 1 _) hfuel)
  exact ⟨⟨.tooDeep, _, 1⟩, by rw [List.cons_append, readValue]; rfl, rfl⟩

/-! ## Lists -/

section

variable {depth : Nat} {items : List Json}

/-- The items before the first that is nested too deep are read, and that one is refused. -/
theorem readItems_exceeded (values : ∀ j ∈ items, j.All faithful)
    (refused : ∀ j ∈ items, depth < j.depth → TooDeep depth j.compact.toList)
    (deep : depth < depthOfItems items) (rest : List Char) {fuel : Nat}
    (hfuel : 2 * (afterItem items).length + 1 ≤ fuel) :
    Exceeded (readItems fuel depth false (afterItem items ++ ']' :: rest)) := by
  induction items generalizing fuel with
  | nil => exact absurd deep (Nat.not_lt_zero depth)
  | cons j items ih =>
    rw [afterItem_cons, List.length_cons, List.length_append] at hfuel
    rw [afterItem_cons, List.cons_append, List.append_assoc]
    obtain ⟨fuel, rfl⟩ := Nat.exists_eq_add_of_le' (show 1 ≤ fuel by omega)
    rw [readItems_next (reads_compact (values j List.mem_cons_self) (Nat.le_refl _))]
    by_cases hj : depth < j.depth
    · exact (refused j List.mem_cons_self hj fuel _ (show _ ≤ fuel by omega)).andThen _
    · have value : Reads depth j.compact.toList j :=
        reads_compact (values j List.mem_cons_self) (Nat.le_of_not_lt hj)
      have hothers := ih (fun k hk => values k (List.mem_cons_of_mem j hk))
        (fun k hk => refused k (List.mem_cons_of_mem j hk))
        (show depth < _ by rw [depthOfItems] at deep; omega) (show _ ≤ fuel by omega)
      rw [value.read _ (show _ ≤ fuel by omega) (endsNumber_afterItem items rest), Read.andThen]
      exact hothers.andThen _

theorem tooDeep_array (values : ∀ j ∈ items, j.All faithful)
    (refused : ∀ j ∈ items, depth < j.depth → TooDeep depth j.compact.toList)
    (deep : depth < depthOfItems items) :
    TooDeep (depth + 1) (compact (.array items)).toList := by
  intro fuel rest hfuel
  have hlength := length_afterItem_le items
  have reads : ∀ j ∈ items, Reads (depthOfItems items) j.compact.toList j := fun j hj =>
    reads_compact (values j hj) (depthOfItems_le.1 (Nat.le_refl _) j hj)
  simp only [toList_compact_array, List.length_cons, List.length_append, List.length_nil] at hfuel
  obtain ⟨fuel, rfl⟩ := Nat.exists_eq_add_of_le' (show 2 ≤ fuel by omega)
  rw [readValue_array reads]
  exact (readItems_exceeded values refused deep rest (show _ ≤ fuel + 1 by omega)).andThen _

end

/-! ## Objects -/

section

variable {depth : Nat} {fields : List (String × Json)}

theorem readFields_exceeded (values : ∀ f ∈ fields, f.2.All faithful)
    (refused : ∀ f ∈ fields, depth < f.2.depth → TooDeep depth f.2.compact.toList)
    (deep : depth < depthOfFields fields) (rest : List Char) {fuel : Nat}
    (hfuel : 2 * (afterField fields).length + 1 ≤ fuel) :
    Exceeded (readFields fuel depth false (afterField fields ++ '}' :: rest)) := by
  induction fields generalizing fuel with
  | nil => exact absurd deep (Nat.not_lt_zero depth)
  | cons f fields ih =>
    obtain ⟨key, j⟩ := f
    rw [afterField_cons] at hfuel ⊢
    simp only [List.length_cons, List.length_append] at hfuel
    obtain ⟨fuel, rfl⟩ := Nat.exists_eq_add_of_le' (show 2 ≤ fuel by omega)
    simp only [List.cons_append, List.append_assoc, readFields_next, readField_key]
    by_cases hj : depth < j.depth
    · have hfuel : 2 * j.compact.toList.length ≤ fuel := by omega
      exact (refused (key, j) List.mem_cons_self hj fuel _ hfuel).andThen _
    · have value : Reads depth j.compact.toList j :=
        reads_compact (values (key, j) List.mem_cons_self) (Nat.le_of_not_lt hj)
      have hothers := ih (fun g hg => values g (List.mem_cons_of_mem _ hg))
        (fun g hg => refused g (List.mem_cons_of_mem _ hg))
        (show depth < _ by rw [depthOfFields] at deep; omega) (show _ ≤ fuel by omega)
      rw [value.read _ (show _ ≤ fuel by omega) (endsNumber_afterField fields rest), Read.andThen]
      exact hothers.andThen _

theorem tooDeep_object (values : ∀ f ∈ fields, f.2.All faithful)
    (refused : ∀ f ∈ fields, depth < f.2.depth → TooDeep depth f.2.compact.toList)
    (deep : depth < depthOfFields fields) :
    TooDeep (depth + 1) (compact (.object fields)).toList := by
  intro fuel rest hfuel
  have hlength := length_afterField_le fields
  simp only [toList_compact_object, List.length_cons, List.length_append, List.length_nil] at hfuel
  obtain ⟨fuel, rfl⟩ := Nat.exists_eq_add_of_le' (show 2 ≤ fuel by omega)
  rw [readValue_object]
  exact (readFields_exceeded values refused deep rest (show _ ≤ fuel + 1 by omega)).andThen _

end

/-! ## All values -/

/-- A value with more levels than are left is refused, wherever the first of them is. -/
theorem tooDeep_compact {j : Json} {depth : Nat} (h : j.All faithful) (hdepth : depth < j.depth) :
    TooDeep depth j.compact.toList := by
  induction j using induct generalizing depth with
  | array items ih =>
    cases depth with
    | zero => exact tooDeep_array_zero items
    | succ depth =>
      have values := (all_array.1 h).2
      exact tooDeep_array values (fun j hj => ih j hj (values j hj)) (Nat.lt_of_succ_lt_succ hdepth)
  | object fields ih =>
    cases depth with
    | zero => exact tooDeep_object_zero fields
    | succ depth =>
      have values := (all_object.1 h).2
      exact tooDeep_object values (fun f hf => ih f hf (values f hf))
        (Nat.lt_of_succ_lt_succ hdepth)
  | _ => exact absurd hdepth (Nat.not_lt_zero depth)

/-- A text that `read_compact` leaves out is refused for its nesting, and for no other reason. -/
theorem read_compact_of_lt {j : Json} (h : j.All faithful) (hdepth : 127 < j.depth) :
    ∃ e, read j.compact = .error e ∧ e.cause = .tooDeep := by
  obtain ⟨stop, hstop, hcause⟩ := tooDeep_compact h hdepth _ [] (Nat.le_add_right _ 2)
  rw [List.append_nil] at hstop
  exact ⟨stop.locate j.compact.toList, by simp only [read, hstop], hcause⟩

end BatchedLog.Json
