import BatchedLog.Delivery.Machine

/-!
# Runs

`Steps` are the runs of the machine under every interleaving, with what happened on the way, and
`System.follow` is the run after a given schedule. `System.drive` is one of them: a thread runs on
as long as it can, a thread that was just started runs first, and otherwise the earliest thread that
can take a step does.
-/

namespace BatchedLog

variable {σ κ ρ : Type}

/-- Any number of steps of any threads. -/
inductive Steps (host : Host σ κ ρ) : System σ κ ρ → List Happening → System σ κ ρ → Prop
  | refl (s : System σ κ ρ) : Steps host s [] s
  | tail {s t u : System σ κ ρ} {before now : List Happening} (thread : ThreadId) :
      Steps host s before t → t.step host thread = some (u, now) → Steps host s (before ++ now) u

namespace System

/-- The threads of a schedule take a step each, in this order. -/
def follow (host : Host σ κ ρ) :
    List ThreadId → System σ κ ρ → Option (System σ κ ρ × List Happening)
  | [], s => some (s, [])
  | t :: schedule, s =>
    match s.step host t with
    | none => none
    | some (next, now) =>
      match follow host schedule next with
      | none => none
      | some (last, later) => some (last, now ++ later)

def canStep (host : Host σ κ ρ) (s : System σ κ ρ) (t : ThreadId) : Bool :=
  (s.step host t).isSome

def nextThread (host : Host σ κ ρ) (s : System σ κ ρ) : Option ThreadId :=
  (List.range s.threads.length).find? fun t => canStep host s t

/-- Run thread `t` and the others until none can take a step, or for `fuel` steps. -/
def drive (host : Host σ κ ρ) (settle : System σ κ ρ → System σ κ ρ) :
    Nat → ThreadId → System σ κ ρ → System σ κ ρ
  | 0, _, s => s
  | fuel + 1, t, s =>
    match s.step host t with
    | some (next, _) =>
      let t := if s.threads.length < next.threads.length then s.threads.length else t
      drive host settle fuel t (settle next)
    | none =>
      match nextThread host s with
      | some t => drive host settle fuel t s
      | none => s

end System

variable {host : Host σ κ ρ} {s t u : System σ κ ρ}

theorem Steps.trans {before after : List Happening} (h : Steps host s before t)
    (h' : Steps host t after u) : Steps host s (before ++ after) u := by
  induction h' with
  | refl => rwa [List.append_nil]
  | tail thread _ hstep ih =>
    rw [← List.append_assoc]
    exact ih.tail thread hstep

theorem Steps.single {now : List Happening} {thread : ThreadId}
    (h : s.step host thread = some (t, now)) : Steps host s now t :=
  (Steps.refl s).tail thread h

theorem System.steps_of_follow {schedule : List ThreadId} {hs : List Happening}
    (h : s.follow host schedule = some (t, hs)) : Steps host s hs t := by
  induction schedule generalizing s hs with
  | nil =>
    cases h
    exact .refl _
  | cons thread rest ih =>
    unfold follow at h
    split at h
    · cases h
    · rename_i next now hstep
      split at h
      · cases h
      · rename_i last later hrest
        cases h
        exact (Steps.single hstep).trans (ih hrest)

/-- A step and then a schedule. -/
theorem System.follow_cons {schedule : List ThreadId} {v : System σ κ ρ}
    {now later : List Happening} {thread : ThreadId} (hstep : s.step host thread = some (u, now))
    (hrest : u.follow host schedule = some (v, later)) :
    s.follow host (thread :: schedule) = some (v, now ++ later) := by
  simp [follow, hstep, hrest]

end BatchedLog
