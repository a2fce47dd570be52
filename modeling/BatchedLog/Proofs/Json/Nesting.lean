import BatchedLog.Json.Basic

/-!
# Values inside values

Lists and objects hold further values. Properties of each of them, and how deep they are nested, are
what reading and decoding a value depend on.
-/

namespace BatchedLog.Json

/-- A property of lists that their items have, and of objects that the values of their fields have,
is one of all values. -/
@[elab_as_elim]
theorem induct {P : Json → Prop} (null : P .null) (bool : ∀ b, P (.bool b))
    (integer : ∀ i, P (.integer i)) (float : ∀ x, P (.float x)) (string : ∀ s, P (.string s))
    (array : ∀ items, (∀ j ∈ items, P j) → P (.array items))
    (object : ∀ fields, (∀ f ∈ fields, P f.2) → P (.object fields)) (j : Json) : P j := by
  refine @Json.rec P (fun items => ∀ j ∈ items, P j) (fun fields => ∀ f ∈ fields, P f.2)
    (fun f => P f.2) null bool integer float string array object ?_ ?_ ?_ ?_ ?_ j
  · simp
  · intro j items hj hitems
    exact List.forall_mem_cons.2 ⟨hj, hitems⟩
  · simp
  · intro f fields hf hfields
    exact List.forall_mem_cons.2 ⟨hf, hfields⟩
  · exact fun _ _ h => h

mutual
/-- A value and all those inside it. -/
def parts : Json → List Json
  | .array items => .array items :: partsOfItems items
  | .object fields => .object fields :: partsOfFields fields
  | j => [j]

def partsOfItems : List Json → List Json
  | [] => []
  | j :: rest => j.parts ++ partsOfItems rest

def partsOfFields : List (String × Json) → List Json
  | [] => []
  | (_, j) :: rest => j.parts ++ partsOfFields rest
end

theorem partsOfItems_eq (items : List Json) : partsOfItems items = items.flatMap parts := by
  induction items with
  | nil => rfl
  | cons j items ih => rw [partsOfItems, ih, List.flatMap_cons]

theorem partsOfFields_eq (fields : List (String × Json)) :
    partsOfFields fields = fields.flatMap fun f => f.2.parts := by
  induction fields with
  | nil => rfl
  | cons f fields ih => rw [partsOfFields, ih, List.flatMap_cons]

/-- All values inside a value satisfy `p`, and so does it itself. -/
def All (p : Json → Bool) (j : Json) : Prop := ∀ k ∈ j.parts, p k = true

instance (p : Json → Bool) (j : Json) : Decidable (j.All p) :=
  inferInstanceAs (Decidable (∀ k ∈ j.parts, p k = true))

section

variable {p : Json → Bool} {items : List Json} {fields : List (String × Json)}

theorem all_array : (array items).All p ↔ p (array items) = true ∧ ∀ j ∈ items, j.All p := by
  simp only [All, parts, partsOfItems_eq, List.forall_mem_cons, List.forall_mem_flatMap]

theorem all_object :
    (object fields).All p ↔ p (object fields) = true ∧ ∀ f ∈ fields, f.2.All p := by
  simp only [All, parts, partsOfFields_eq, List.forall_mem_cons, List.forall_mem_flatMap]

theorem All.of_single {j : Json} (single : j.parts = [j]) (h : p j = true) : j.All p := by
  rw [All, single]
  exact List.forall_mem_singleton.2 h

theorem mem_parts_self (j : Json) : j ∈ j.parts := by
  cases j
  all_goals simp [parts]

theorem All.here {j : Json} (h : j.All p) : p j = true := h j (mem_parts_self j)

theorem mem_parts_of_item {j : Json} (h : j ∈ items) : j ∈ (array items).parts := by
  rw [parts, partsOfItems_eq]
  exact List.mem_cons_of_mem _ (List.mem_flatMap.2 ⟨j, h, mem_parts_self j⟩)

theorem mem_parts_of_field {f : String × Json} (h : f ∈ fields) : f.2 ∈ (object fields).parts := by
  rw [parts, partsOfFields_eq]
  exact List.mem_cons_of_mem _ (List.mem_flatMap.2 ⟨f, h, mem_parts_self f.2⟩)

/-- What all values inside satisfy, all values inside one of them do. -/
theorem All.inside {j k : Json} (h : j.All p) (hk : k ∈ j.parts) : k.All p := by
  induction j using induct with
  | array items ih =>
    rw [parts, partsOfItems_eq, List.mem_cons, List.mem_flatMap] at hk
    rcases hk with rfl | ⟨j, hj, hk⟩
    · exact h
    · exact ih j hj ((all_array.1 h).2 j hj) hk
  | object fields ih =>
    rw [parts, partsOfFields_eq, List.mem_cons, List.mem_flatMap] at hk
    rcases hk with rfl | ⟨f, hf, hk⟩
    · exact h
    · exact ih f hf ((all_object.1 h).2 f hf) hk
  | _ =>
    obtain rfl := List.mem_singleton.1 hk
    exact h

end

mutual
/-- How many lists and objects are around the innermost of them, itself included. -/
def depth : Json → Nat
  | .array items => depthOfItems items + 1
  | .object fields => depthOfFields fields + 1
  | _ => 0

def depthOfItems : List Json → Nat
  | [] => 0
  | j :: rest => max j.depth (depthOfItems rest)

def depthOfFields : List (String × Json) → Nat
  | [] => 0
  | (_, j) :: rest => max j.depth (depthOfFields rest)
end

theorem depthOfItems_le {items : List Json} {n : Nat} :
    depthOfItems items ≤ n ↔ ∀ j ∈ items, j.depth ≤ n := by
  induction items with
  | nil => simp [depthOfItems]
  | cons j items ih => rw [depthOfItems, Nat.max_le, ih, List.forall_mem_cons]

theorem depthOfFields_le {fields : List (String × Json)} {n : Nat} :
    depthOfFields fields ≤ n ↔ ∀ f ∈ fields, f.2.depth ≤ n := by
  induction fields with
  | nil => simp [depthOfFields]
  | cons f fields ih => rw [depthOfFields, Nat.max_le, ih, List.forall_mem_cons]

end BatchedLog.Json
