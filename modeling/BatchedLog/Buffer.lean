import BatchedLog.Entry

/-!
# The buffer

Entries wait in a buffer until they are taken, all at once. A flush policy says when they are due:
with interval zero never, else once there are as many as the interval.
-/

namespace BatchedLog

structure FlushPolicy where
  interval : Nat
  deriving DecidableEq, Repr

namespace FlushPolicy

def default : FlushPolicy := ⟨10⟩

def isManual (p : FlushPolicy) : Bool := p.interval == 0

def due (p : FlushPolicy) (pending : Nat) : Bool := !p.isManual && decide (p.interval ≤ pending)

@[simp] theorem due_iff {p : FlushPolicy} {n : Nat} :
    p.due n = true ↔ 0 < p.interval ∧ p.interval ≤ n := by
  simp [due, isManual, Nat.pos_iff_ne_zero]

end FlushPolicy

structure Buffer where
  policy : FlushPolicy
  pending : List Entry
  deriving DecidableEq, Repr

namespace Buffer

def empty (policy : FlushPolicy) : Buffer := ⟨policy, []⟩

def push (b : Buffer) (e : Entry) : Buffer := { b with pending := b.pending ++ [e] }

/-- Everything pending, and the emptied buffer; nothing from an empty one. -/
def take (b : Buffer) : Option (List Entry) × Buffer :=
  if b.pending.isEmpty then (none, b) else (some b.pending, { b with pending := [] })

def takeDue (b : Buffer) : Option (List Entry) × Buffer :=
  if b.policy.due b.pending.length then b.take else (none, b)

def append (b : Buffer) (e : Entry) : Option (List Entry) × Buffer := (b.push e).takeDue

@[simp] theorem pending_push (b : Buffer) (e : Entry) : (b.push e).pending = b.pending ++ [e] := rfl

@[simp] theorem policy_push (b : Buffer) (e : Entry) : (b.push e).policy = b.policy := rfl

@[simp] theorem policy_take (b : Buffer) : b.take.2.policy = b.policy := by
  unfold take; split <;> rfl

@[simp] theorem policy_takeDue (b : Buffer) : b.takeDue.2.policy = b.policy := by
  unfold takeDue; split <;> simp

@[simp] theorem policy_append (b : Buffer) (e : Entry) : (b.append e).2.policy = b.policy := by
  simp [append]

/-- Taking loses nothing: what is taken and what stays are what was there. -/
theorem take_append_pending (b : Buffer) : b.take.1.getD [] ++ b.take.2.pending = b.pending := by
  unfold take; split
  · simp
  · simp

theorem takeDue_append_pending (b : Buffer) :
    b.takeDue.1.getD [] ++ b.takeDue.2.pending = b.pending := by
  unfold takeDue; split
  · exact take_append_pending b
  · simp

theorem take_eq_some {b : Buffer} {es : List Entry} (h : b.take.1 = some es) :
    es ≠ [] ∧ es = b.pending ∧ b.take.2.pending = [] := by
  unfold take at h ⊢
  split at h
  · simp at h
  · rename_i hne
    simp only [Option.some.injEq] at h
    subst h
    simp_all

theorem takeDue_eq_some {b : Buffer} {es : List Entry} (h : b.takeDue.1 = some es) :
    b.policy.due b.pending.length = true ∧ es ≠ [] ∧ es = b.pending ∧ b.takeDue.2.pending = [] := by
  unfold takeDue at h ⊢
  split at h
  · rename_i hd
    rw [if_pos hd]
    exact ⟨hd, take_eq_some h⟩
  · simp at h

end Buffer

end BatchedLog
