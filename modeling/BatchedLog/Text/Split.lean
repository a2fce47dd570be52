/-!
# Splitting at a separator

`split sep s` are the pieces of `s` between the occurrences of `sep`; there is one more piece than
there are occurrences, and joining the pieces with `sep` gives `s` back.
-/

namespace BatchedLog.Text

variable {α : Type} [DecidableEq α]

def split (sep : α) : List α → List (List α)
  | [] => [[]]
  | c :: rest =>
    match split sep rest with
    | [] => [[c]]
    | piece :: pieces =>
      if c = sep then [] :: piece :: pieces else (c :: piece) :: pieces

def join (sep : α) : List (List α) → List α
  | [] => []
  | [piece] => piece
  | piece :: pieces => piece ++ sep :: join sep pieces

theorem split_ne_nil (sep : α) (s : List α) : split sep s ≠ [] := by
  cases s with
  | nil => simp [split]
  | cons c rest =>
    unfold split
    split
    · simp
    · split <;> simp

theorem join_split (sep : α) (s : List α) : join sep (split sep s) = s := by
  induction s with
  | nil => rfl
  | cons c rest ih =>
    unfold split
    split
    · rename_i h
      exact absurd h (split_ne_nil sep rest)
    · rename_i piece pieces h
      rw [h] at ih
      split
      · subst_vars
        simp [join]
      · cases pieces with
        | nil => simpa [join] using ih
        | cons q qs => simpa [join] using ih

/-- A piece without the separator, up to the first one, is split off whole. -/
theorem split_append_cons {sep : α} {piece : List α} (h : sep ∉ piece) (rest : List α) :
    split sep (piece ++ sep :: rest) = piece :: split sep rest := by
  induction piece with
  | nil =>
    rw [List.nil_append, split]
    split
    · rename_i hn
      exact absurd hn (split_ne_nil sep rest)
    · rename_i hn
      simp [hn]
  | cons c piece ih =>
    simp only [List.mem_cons, not_or] at h
    rw [List.cons_append, split, ih h.2]
    simp [Ne.symm h.1]

theorem split_of_not_mem {sep : α} {s : List α} (h : sep ∉ s) : split sep s = [s] := by
  induction s with
  | nil => rfl
  | cons c rest ih =>
    simp only [List.mem_cons, not_or] at h
    rw [split, ih h.2]
    simp [Ne.symm h.1]

theorem not_mem_of_mem_split {sep : α} {s piece : List α} (h : piece ∈ split sep s) :
    sep ∉ piece := by
  induction s generalizing piece with
  | nil =>
    have : piece = [] := by simpa [split] using h
    simp [this]
  | cons c rest ih =>
    rw [split] at h
    split at h
    · rename_i hn
      exact absurd hn (split_ne_nil sep rest)
    · rename_i first others hf
      rw [hf] at ih
      split at h
      · rcases List.mem_cons.1 h with rfl | h
        · simp
        · exact ih h
      · rename_i hc
        rcases List.mem_cons.1 h with rfl | h
        · have := @ih first (by simp)
          simp [this, Ne.symm hc]
        · exact ih (by simp [h])

end BatchedLog.Text
