import BatchedLog.Buffer

/-!
# Runs of a buffer

Entries are appended or pushed, and taken when they are due or at once, in any order. Whatever is
done, each entry is in one of the batches taken or still pending, in the order of the entries, and a
batch is always all that is pending. Pushing may go past the interval; where nothing is pushed,
fewer entries than the interval are pending between operations, and appending cuts batches of just
this size.
-/

namespace BatchedLog.Buffer

inductive Operation
  | append (e : Entry)
  | push (e : Entry)
  | takeDue
  | take
  deriving DecidableEq, Repr

/-- The entry that an operation puts in, if it does. -/
def Operation.given : Operation → List Entry
  | append e => [e]
  | push e => [e]
  | takeDue => []
  | take => []

def perform (b : Buffer) : Operation → Option (List Entry) × Buffer
  | .append e => b.append e
  | .push e => (none, b.push e)
  | .takeDue => b.takeDue
  | .take => b.take

/-- An operation of a run, and the buffer that it finds. -/
structure Passage where
  before : Buffer
  operation : Operation
  deriving DecidableEq, Repr

def Passage.returned (p : Passage) : Option (List Entry) := (p.before.perform p.operation).1

def Passage.after (p : Passage) : Buffer := (p.before.perform p.operation).2

/-- The operations one after the other, each on the buffer that those before it have left. -/
def run (b : Buffer) : List Operation → List Passage
  | [] => []
  | op :: ops => ⟨b, op⟩ :: run (b.perform op).2 ops

def ending (b : Buffer) (ops : List Operation) : Buffer :=
  ops.foldl (fun b op => (b.perform op).2) b

/-- The batches returned in a run, in this order. -/
def batches (b : Buffer) (ops : List Operation) : List (List Entry) :=
  (b.run ops).filterMap Passage.returned

/-- Fewer entries than the interval are pending, if it is positive. -/
def Small (b : Buffer) : Prop := 0 < b.policy.interval → b.pending.length < b.policy.interval

variable {b : Buffer} {e : Entry} {es : List Entry} {op : Operation} {ops : List Operation}

/-! ## One operation -/

@[simp] theorem policy_perform (b : Buffer) (op : Operation) :
    (b.perform op).2.policy = b.policy := by
  cases op with
  | append e => exact policy_append b e
  | push e => exact policy_push b e
  | takeDue => exact policy_takeDue b
  | take => exact policy_take b

/-- What an operation returns and leaves pending is what was pending and what it was given. -/
theorem perform_append_pending (b : Buffer) (op : Operation) :
    (b.perform op).1.getD [] ++ (b.perform op).2.pending = b.pending ++ op.given := by
  cases op with
  | append e => exact takeDue_append_pending (b.push e)
  | push e => rfl
  | takeDue => exact (takeDue_append_pending b).trans (List.append_nil _).symm
  | take => exact (take_append_pending b).trans (List.append_nil _).symm

/-- Whatever is returned is all there is, and is not empty. -/
theorem perform_eq_some (h : (b.perform op).1 = some es) :
    es ≠ [] ∧ es = b.pending ++ op.given ∧ (b.perform op).2.pending = [] := by
  have kept : es ++ (b.perform op).2.pending = b.pending ++ op.given := by
    rw [← perform_append_pending, h, Option.getD_some]
  have taken : es ≠ [] ∧ (b.perform op).2.pending = [] := by
    cases op with
    | append e =>
      obtain ⟨-, hne, -, hnil⟩ := takeDue_eq_some (b := b.push e) h
      exact ⟨hne, hnil⟩
    | push e => cases h
    | takeDue =>
      obtain ⟨-, hne, -, hnil⟩ := takeDue_eq_some h
      exact ⟨hne, hnil⟩
    | take =>
      obtain ⟨hne, -, hnil⟩ := take_eq_some h
      exact ⟨hne, hnil⟩
  rw [taken.2, List.append_nil] at kept
  exact ⟨taken.1, kept, taken.2⟩

theorem isSome_takeDue_iff : b.takeDue.1.isSome = true ↔
    0 < b.policy.interval ∧ b.policy.interval ≤ b.pending.length := by
  constructor
  · intro h
    obtain ⟨es, hes⟩ := Option.isSome_iff_exists.1 h
    exact FlushPolicy.due_iff.1 (takeDue_eq_some hes).1
  · rintro ⟨positive, reached⟩
    have hne : ¬ b.pending.isEmpty = true := by
      rw [List.isEmpty_iff_length_eq_zero]
      omega
    rw [takeDue, if_pos (FlushPolicy.due_iff.2 ⟨positive, reached⟩), take, if_neg hne]
    rfl

theorem pending_take (b : Buffer) : b.take.2.pending = [] := by
  unfold take
  split
  · next h => exact List.isEmpty_iff.1 h
  · rfl

theorem small_take (b : Buffer) : b.take.2.Small := by
  intro positive
  rw [pending_take]
  exact positive

/-- A look at the buffer leaves nothing due, however much was pending. -/
theorem small_takeDue (b : Buffer) : b.takeDue.2.Small := by
  by_cases h : b.policy.due b.pending.length = true
  · rw [takeDue, if_pos h]
    exact small_take b
  · rw [takeDue, if_neg h]
    intro positive
    apply Nat.not_le.1
    intro reached
    exact h (FlushPolicy.due_iff.2 ⟨positive, reached⟩)

/-- Only pushing goes past the interval. -/
theorem small_perform (hop : ∀ e, op ≠ .push e) : (b.perform op).2.Small := by
  cases op with
  | append e => exact small_takeDue (b.push e)
  | push e => exact absurd rfl (hop e)
  | takeDue => exact small_takeDue b
  | take => exact small_take b

/-- Appending returns batches of the size of the interval, if no more are pending. -/
theorem length_of_append (small : b.Small) (h : (b.append e).1 = some es) :
    es.length = b.policy.interval := by
  obtain ⟨due, -, hes, -⟩ := takeDue_eq_some (b := b.push e) h
  obtain ⟨positive, reached⟩ := FlushPolicy.due_iff.1 due
  have below : b.pending.length < b.policy.interval := small positive
  rw [policy_push, pending_push, List.length_append, List.length_singleton] at reached
  rw [hes, pending_push, List.length_append, List.length_singleton]
  omega

/-! ## Whole runs -/

@[simp] theorem ending_cons (b : Buffer) (op : Operation) (ops : List Operation) :
    b.ending (op :: ops) = (b.perform op).2.ending ops := rfl

/-- An operation of a run finds what the operations before it leave. -/
theorem exists_earlier {p : Passage} (h : p ∈ b.run ops) :
    ∃ earlier later, ops = earlier ++ p.operation :: later ∧ p.before = b.ending earlier := by
  induction ops generalizing b with
  | nil => cases h
  | cons op ops ih =>
    rcases List.mem_cons.1 h with rfl | h
    · exact ⟨[], ops, rfl, rfl⟩
    · obtain ⟨earlier, later, rfl, hp⟩ := ih h
      exact ⟨op :: earlier, later, rfl, hp⟩

theorem policy_ending (b : Buffer) (ops : List Operation) : (b.ending ops).policy = b.policy := by
  induction ops generalizing b with
  | nil => rfl
  | cons op ops ih => rw [ending_cons, ih, policy_perform]

theorem small_ending (small : b.Small) (hops : ∀ e, Operation.push e ∉ ops) :
    (b.ending ops).Small := by
  induction ops generalizing b with
  | nil => exact small
  | cons op ops ih =>
    have hop : ∀ e, op ≠ .push e := fun e h => hops e (h ▸ List.mem_cons_self)
    exact ih (small_perform hop) fun e h => hops e (List.mem_cons_of_mem _ h)

/-- The batches of a run and what it leaves pending are what was pending and what was given. -/
theorem batches_append_pending (b : Buffer) (ops : List Operation) :
    (b.batches ops).flatten ++ (b.ending ops).pending =
      b.pending ++ ops.flatMap Operation.given := by
  induction ops generalizing b with
  | nil => simp [batches, run, ending]
  | cons op ops ih =>
    have first : (b.batches (op :: ops)).flatten =
        (b.perform op).1.getD [] ++ ((b.perform op).2.batches ops).flatten := by
      cases h : (b.perform op).1 with
      | none => simp [batches, run, Passage.returned, h]
      | some es => simp [batches, run, Passage.returned, h]
    rw [first, ending_cons, List.append_assoc, ih, ← List.append_assoc, perform_append_pending,
      List.append_assoc, List.flatMap_cons]

/-- Whatever is done with a fresh buffer of any interval, the batches returned and what is pending
in the end are the entries given, in this order. Each batch is all that was pending, is not empty
and leaves nothing pending; looking for due entries returns one exactly if the interval is positive
and has been reached; the interval stays. Where nothing is pushed, fewer entries than a positive
interval are pending after each operation, and each batch from appending is as large as the
interval. -/
theorem runs_accounted (n : Nat) (ops : List Operation) :
    ((empty ⟨n⟩).batches ops).flatten ++ ((empty ⟨n⟩).ending ops).pending =
        ops.flatMap Operation.given ∧
      (∀ p ∈ (empty ⟨n⟩).run ops, p.before.policy.interval = n ∧ p.after.policy.interval = n ∧
        (∀ es, p.returned = some es →
          es ≠ [] ∧ es = p.before.pending ++ p.operation.given ∧ p.after.pending = []) ∧
        (p.operation = .takeDue →
          (p.returned.isSome = true ↔ 0 < n ∧ n ≤ p.before.pending.length))) ∧
      ((∀ e, Operation.push e ∉ ops) → ∀ p ∈ (empty ⟨n⟩).run ops,
        (0 < n → p.after.pending.length < n) ∧
        ∀ e es, p.operation = .append e → p.returned = some es → es.length = n) := by
  have interval : ∀ p ∈ (empty ⟨n⟩).run ops, p.before.policy.interval = n := by
    intro p hp
    obtain ⟨earlier, later, -, hbefore⟩ := exists_earlier hp
    rw [hbefore, policy_ending]
    rfl
  refine ⟨batches_append_pending (empty ⟨n⟩) ops, ?_, ?_⟩
  · intro p hp
    have hn : p.before.policy.interval = n := interval p hp
    refine ⟨hn, ?_, fun es hes => perform_eq_some hes, ?_⟩
    · rw [Passage.after, policy_perform, hn]
    · intro hop
      rw [Passage.returned, hop, ← hn]
      exact isSome_takeDue_iff
  · intro hops p hp
    have hn : p.before.policy.interval = n := interval p hp
    obtain ⟨earlier, later, hsplit, hbefore⟩ := exists_earlier hp
    have fresh : (empty ⟨n⟩).Small := fun positive => positive
    have small : p.before.Small := by
      rw [hbefore]
      apply small_ending fresh
      intro e he
      exact hops e (hsplit ▸ List.mem_append_left _ he)
    have hop : ∀ e, p.operation ≠ .push e := by
      intro e he
      exact hops e (hsplit ▸ he ▸ List.mem_append_right _ List.mem_cons_self)
    have after : p.after.Small := small_perform hop
    rw [Small, Passage.after, policy_perform, hn] at after
    refine ⟨after, ?_⟩
    intro e es happend hes
    rw [Passage.returned, happend] at hes
    rw [length_of_append small hes, hn]

/-- A pair that fills the buffer, a look at it too early, and a single entry taken before another
comes. -/
def pairs : List Operation :=
  [.append ⟨"a", .info, ⟨0⟩⟩, .takeDue, .append ⟨"b", .trace, ⟨1⟩⟩,
    .append ⟨"c", .error, ⟨2⟩⟩, .take, .append ⟨"d", .info, ⟨3⟩⟩]

theorem runs_accounted_pairs : (∀ e, Operation.push e ∉ pairs) ∧
    (∀ p ∈ (empty ⟨2⟩).run pairs, p.after.pending.length < 2 ∧
      ∀ e es, p.operation = .append e → p.returned = some es → es.length = 2) ∧
    ((empty ⟨2⟩).batches pairs).map List.length = [2, 1] ∧
    ((empty ⟨2⟩).batches pairs).flatten ++ ((empty ⟨2⟩).ending pairs).pending =
      [⟨"a", .info, ⟨0⟩⟩, ⟨"b", .trace, ⟨1⟩⟩, ⟨"c", .error, ⟨2⟩⟩, ⟨"d", .info, ⟨3⟩⟩] := by
  have unpushed : ∀ e, Operation.push e ∉ pairs := by
    intro e
    simp [pairs]
  obtain ⟨kept, -, sized⟩ := runs_accounted 2 pairs
  refine ⟨unpushed, ?_, by decide, kept⟩
  intro p hp
  obtain ⟨below, filled⟩ := sized unpushed p hp
  exact ⟨below (by decide), filled⟩

/-- Pushed entries are taken together, past the interval. -/
example (a b c : Entry) :
    (empty ⟨2⟩).batches [.push a, .push b, .push c, .takeDue, .push a, .takeDue] = [[a, b, c]] :=
  rfl

end BatchedLog.Buffer
