/-!
# White space

The characters with the Unicode property `White_Space`, and trimming by them. `trim` removes the
longest run of them from either end and nothing else.
-/

namespace BatchedLog.Text

/-- The Unicode property `White_Space`: 25 characters, listed by range. -/
def isWhiteSpace (c : Char) : Bool :=
  let n := c.toNat
  (0x09 ≤ n && n ≤ 0x0d) || n == 0x20 || n == 0x85 || n == 0xa0 || n == 0x1680 ||
    (0x2000 ≤ n && n ≤ 0x200a) || n == 0x2028 || n == 0x2029 || n == 0x202f || n == 0x205f ||
    n == 0x3000

def trimStart (s : List Char) : List Char := s.dropWhile isWhiteSpace

def trimEnd (s : List Char) : List Char := (s.reverse.dropWhile isWhiteSpace).reverse

def trim (s : List Char) : List Char := trimEnd (trimStart s)

/-- Nothing is left of a blank text once it is trimmed. -/
def isBlank (s : String) : Bool := s.toList.all isWhiteSpace

theorem trimStart_append_of_all {pad s : List Char} (h : ∀ c ∈ pad, isWhiteSpace c = true) :
    trimStart (pad ++ s) = trimStart s :=
  List.dropWhile_append_of_pos h

theorem trimEnd_append_of_all {s pad : List Char} (h : ∀ c ∈ pad, isWhiteSpace c = true) :
    trimEnd (s ++ pad) = trimEnd s := by
  have hrev : ∀ c ∈ pad.reverse, isWhiteSpace c = true := fun c hc => h c (List.mem_reverse.1 hc)
  rw [trimEnd, List.reverse_append, List.dropWhile_append_of_pos hrev, trimEnd]

theorem trimStart_of_solid {s : List Char} (h : ∀ c ∈ s, isWhiteSpace c = false) :
    trimStart s = s := by
  cases s with
  | nil => rfl
  | cons c s => exact List.dropWhile_cons_of_neg (by simp [h c])

theorem trimEnd_of_solid {s : List Char} (h : ∀ c ∈ s, isWhiteSpace c = false) : trimEnd s = s := by
  have hrev : trimStart s.reverse = s.reverse :=
    trimStart_of_solid fun c hc => h c (List.mem_reverse.1 hc)
  rw [trimEnd, ← trimStart, hrev, List.reverse_reverse]

/-- Where a text has no white space in it, trimming gives it back from any padding. -/
theorem trim_padded {before s after : List Char} (hbefore : ∀ c ∈ before, isWhiteSpace c = true)
    (hs : ∀ c ∈ s, isWhiteSpace c = false) (hafter : ∀ c ∈ after, isWhiteSpace c = true) :
    trim (before ++ s ++ after) = s := by
  rw [List.append_assoc, trim, trimStart_append_of_all hbefore]
  cases s with
  | nil =>
    have hblank : trimStart (after ++ []) = trimStart [] := trimStart_append_of_all hafter
    rw [List.append_nil] at hblank
    rw [List.nil_append, hblank]
    rfl
  | cons c s =>
    have hc : isWhiteSpace c = false := hs c List.mem_cons_self
    have hkeep : trimStart (c :: s ++ after) = c :: s ++ after :=
      List.dropWhile_cons_of_neg (by simp [hc])
    rw [hkeep, trimEnd_append_of_all hafter, trimEnd_of_solid hs]

theorem exists_trimStart (s : List Char) :
    ∃ pad, s = pad ++ trimStart s ∧ ∀ c ∈ pad, isWhiteSpace c = true :=
  ⟨s.takeWhile isWhiteSpace, List.takeWhile_append_dropWhile.symm,
    fun _ hc => List.all_eq_true.1 List.all_takeWhile _ hc⟩

theorem exists_trimEnd (s : List Char) :
    ∃ pad, s = trimEnd s ++ pad ∧ ∀ c ∈ pad, isWhiteSpace c = true := by
  obtain ⟨pad, hs, hpad⟩ := exists_trimStart s.reverse
  refine ⟨pad.reverse, ?_, fun c hc => hpad c (List.mem_reverse.1 hc)⟩
  calc s = s.reverse.reverse := (List.reverse_reverse s).symm
    _ = (pad ++ trimStart s.reverse).reverse := by rw [← hs]
    _ = trimEnd s ++ pad.reverse := List.reverse_append

/-- Only white space goes, from both ends. -/
theorem exists_trim (s : List Char) :
    ∃ before after, s = before ++ trim s ++ after ∧
      (∀ c ∈ before, isWhiteSpace c = true) ∧ ∀ c ∈ after, isWhiteSpace c = true := by
  obtain ⟨before, hstart, hbefore⟩ := exists_trimStart s
  obtain ⟨after, hend, hafter⟩ := exists_trimEnd (trimStart s)
  refine ⟨before, after, ?_, hbefore, hafter⟩
  rw [List.append_assoc, trim, ← hend, ← hstart]

end BatchedLog.Text
