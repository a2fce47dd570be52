import BatchedLog.Proofs.Process.Independent

/-!
# One shared logger

Threads of one process that ask for the shared logger while others install a configuration, register
types and build loggers of their own. `Move` says what a step of one thread does to the slot, its
lock and the thread's call. At most one thread is between taking the lock and giving it back, and
only there is the logger made and stored; `Held` says how far it has come and that what was made so
far is what the slot holds, or is about to hold.
-/

namespace BatchedLog.Session

/-! ## What is seen of calls -/

def Milestone.made? : Milestone → Option LoggerId
  | .made _ l => some l
  | _ => none

/-- Why an attempt of this thread has failed. -/
def Milestone.unmade? (t : ThreadId) : Milestone → Option LoggerError
  | .unmade u e => if u = t then some e else none
  | _ => none

def Milestone.refused? (t : ThreadId) : Milestone → Option LoggerError
  | .refused u e => if u = t then some e else none
  | _ => none

/-- The loggers that attempts have come to. -/
def madeOf (hs : List Milestone) : List LoggerId := hs.filterMap Milestone.made?

/-- The failed attempts of a thread. -/
def failuresOf (t : ThreadId) (hs : List Milestone) : List LoggerError :=
  hs.filterMap (Milestone.unmade? t)

/-- The failures that calls of a thread have come back with. -/
def refusalsOf (t : ThreadId) (hs : List Milestone) : List LoggerError :=
  hs.filterMap (Milestone.refused? t)

section

variable (hs now : List Milestone) (t : ThreadId)

theorem madeOf_append : madeOf (hs ++ now) = madeOf hs ++ madeOf now := List.filterMap_append

theorem failuresOf_append : failuresOf t (hs ++ now) = failuresOf t hs ++ failuresOf t now :=
  List.filterMap_append

theorem refusalsOf_append : refusalsOf t (hs ++ now) = refusalsOf t hs ++ refusalsOf t now :=
  List.filterMap_append

end

/-! ## Steps -/

/-- Between taking the lock and giving it back. -/
def isInside : Acquiring → Bool
  | .lookingAgain | .making | .storing _ | .unlocking _ => true
  | _ => false

/-- The failure that a call is about to come back with. -/
def due : Option Acquiring → List LoggerError
  | some (.unlocking (.error e)) => [e]
  | _ => []

/-- All that a step of thread `t` can do to the slot and its lock, and to the call for the shared
logger that the thread is in. -/
inductive Move (t : ThreadId) : Shared → Option Acquiring → List Milestone → Shared →
    Option Acquiring → Prop
  | aside {shared} : Move t shared none [] shared none
  | ask {shared} : Move t shared none [] shared (some .arrived)
  | found {l locked} :
      Move t ⟨some l, locked⟩ (some .arrived) [.returned t l] ⟨some l, locked⟩ none
  | missed {locked} : Move t ⟨none, locked⟩ (some .arrived) [] ⟨none, locked⟩ (some .locking)
  | lock {slot} : Move t ⟨slot, false⟩ (some .locking) [] ⟨slot, true⟩ (some .lookingAgain)
  | foundAgain {l locked} :
      Move t ⟨some l, locked⟩ (some .lookingAgain) [] ⟨some l, locked⟩ (some (.unlocking (.ok l)))
  | missedAgain {locked} :
      Move t ⟨none, locked⟩ (some .lookingAgain) [] ⟨none, locked⟩ (some .making)
  | made {shared l} : Move t shared (some .making) [.made t l] shared (some (.storing l))
  | unmade {shared e} :
      Move t shared (some .making) [.unmade t e] shared (some (.unlocking (.error e)))
  | store {slot locked l} :
      Move t ⟨slot, locked⟩ (some (.storing l)) [] ⟨some l, locked⟩ (some (.unlocking (.ok l)))
  | unlock {slot locked l} :
      Move t ⟨slot, locked⟩ (some (.unlocking (.ok l))) [.returned t l] ⟨slot, false⟩ none
  | giveUp {slot locked e} :
      Move t ⟨slot, locked⟩ (some (.unlocking (.error e))) [.refused t e] ⟨slot, false⟩ none

/-- A step of a call is a move. -/
theorem move_of_shared_step {s s' : State} {shared shared' : Shared} {a a' : Acquiring}
    {t : ThreadId} (h : Shared.step State.makeShared shared s a = some (shared', s', a')) :
    Move t shared (some a) (Milestone.between t a a') shared' (ongoing a') := by
  obtain ⟨slot, locked⟩ := shared
  cases a with
  | arrived =>
    cases slot with
    | none =>
      cases h
      exact .missed
    | some l =>
      cases h
      exact .found
  | locking =>
    cases locked with
    | true => cases h
    | false =>
      cases h
      exact .lock
  | lookingAgain =>
    cases slot with
    | none =>
      cases h
      exact .missedAgain
    | some l =>
      cases h
      exact .foundAgain
  | making =>
    rcases hmake : s.makeShared with ⟨made, e | l⟩
    · simp only [Shared.step, hmake] at h
      cases h
      exact .unmade
    · simp only [Shared.step, hmake] at h
      cases h
      exact .made
  | storing l =>
    cases h
    exact .store
  | unlocking result =>
    cases result with
    | ok l =>
      cases h
      exact .unlock
    | error e =>
      cases h
      exact .giveUp
  | done => cases h

namespace Move

variable {t u : ThreadId} {shared shared' : Shared} {before after : Option Acquiring}
  {now : List Milestone}

/-- What a call comes back with is in the slot, or is what it has found or stored under the lock. -/
theorem of_returned {l : LoggerId} (move : Move t shared before now shared' after)
    (h : .returned u l ∈ now) :
    shared.logger = some l ∨ before = some (.unlocking (.ok l)) := by
  cases move with
  | found =>
    obtain ⟨-, rfl⟩ := Milestone.returned.inj (List.mem_singleton.1 h)
    exact .inl rfl
  | unlock =>
    obtain ⟨-, rfl⟩ := Milestone.returned.inj (List.mem_singleton.1 h)
    exact .inr rfl
  | _ => simp at h

/-- An attempt fails in the making, and leaves slot and lock as they were. -/
theorem of_unmade {e : LoggerError} (move : Move t shared before now shared' after)
    (h : .unmade u e ∈ now) : before = some .making ∧ shared' = shared := by
  cases move with
  | unmade => exact ⟨rfl, rfl⟩
  | _ => simp at h

/-- The failures of a thread are those its calls have come back with and that which its present call
is about to come back with. -/
theorem refusals (move : Move t shared before now shared' after) :
    refusalsOf t now ++ due after = due before ++ failuresOf t now := by
  cases move with
  | unmade => simp [refusalsOf, failuresOf, Milestone.refused?, Milestone.unmade?, due]
  | giveUp => simp [refusalsOf, failuresOf, Milestone.refused?, Milestone.unmade?, due]
  | _ => rfl

theorem others (move : Move t shared before now shared' after) (h : u ≠ t) :
    refusalsOf u now = [] ∧ failuresOf u now = [] := by
  cases move with
  | unmade => simp [refusalsOf, failuresOf, Milestone.refused?, Milestone.unmade?, Ne.symm h]
  | giveUp => simp [refusalsOf, failuresOf, Milestone.refused?, Milestone.unmade?, Ne.symm h]
  | _ => exact ⟨rfl, rfl⟩

end Move

/-- Making the shared logger opens it at the end of the loggers, if it succeeds. -/
theorem loggers_makeShared (s : State) :
    ∃ opened, (s.makeShared).1.loggers = s.loggers ++ opened ∧
      ∀ l, s.makeShared.2 = .ok l → l = s.loggers.length ∧ opened.length = 1 := by
  unfold State.makeShared World.makeShared
  dsimp only
  rcases Wiring.ofConfig World.workshop s.host.registry
    { s.host with context := s.host.context.read.1 } s.host.context.read.2 with ⟨made, e | wiring⟩
  · refine ⟨_, rfl, ?_⟩
    intro l h
    cases h
  · refine ⟨_, rfl, ?_⟩
    rintro l ⟨⟩
    exact ⟨rfl, rfl⟩

/-- A step of a call takes no logger away, and one that it makes is there afterwards. -/
theorem loggers_shared_step {s s' : State} {shared shared' : Shared} {a a' : Acquiring}
    {t : ThreadId} (h : Shared.step State.makeShared shared s a = some (shared', s', a')) :
    s.loggers <+: s'.loggers ∧
      ∀ {u l}, .made u l ∈ Milestone.between t a a' → l < s'.loggers.length := by
  cases a with
  | making =>
    obtain ⟨opened, hloggers, hmade⟩ := loggers_makeShared s
    rcases hmake : s.makeShared with ⟨made, e | l⟩
    · simp only [Shared.step, hmake] at h
      rw [hmake] at hloggers
      cases h
      exact ⟨⟨opened, hloggers.symm⟩, by simp [Milestone.between]⟩
    · simp only [Shared.step, hmake] at h
      rw [hmake] at hloggers hmade
      cases h
      obtain ⟨rfl, hlength⟩ := hmade l rfl
      refine ⟨⟨opened, hloggers.symm⟩, ?_⟩
      intro u l hl
      obtain ⟨-, rfl⟩ : u = t ∧ l = s.loggers.length := by simpa [Milestone.between] using hl
      simp only at hloggers
      simp [hloggers, hlength]
  | done => cases h
  | arrived =>
    simp only [Shared.step] at h
    split at h <;> cases h <;> exact ⟨List.prefix_rfl, by simp [Milestone.between]⟩
  | locking =>
    simp only [Shared.step] at h
    split at h <;> cases h
    exact ⟨List.prefix_rfl, by simp [Milestone.between]⟩
  | lookingAgain =>
    simp only [Shared.step] at h
    split at h <;> cases h <;> exact ⟨List.prefix_rfl, by simp [Milestone.between]⟩
  | storing l =>
    cases h
    exact ⟨List.prefix_rfl, by simp [Milestone.between]⟩
  | unlocking result =>
    cases h
    cases result <;> exact ⟨List.prefix_rfl, by simp [Milestone.between]⟩

/-- An errand other than a call for the shared logger leaves that alone. -/
theorem shared_perform {errand : Errand} (h : errand ≠ .get) (w : World) (loggers : List Logger) :
    (w.perform loggers errand.step).1.shared = w.shared := by
  cases errand with
  | get => exact absurd rfl h
  | independent settings =>
    have same := w.perform_independent_amid w.context w.shared loggers settings
    rw [World.amid_self] at same
    exact congrArg (·.1.shared) same
  | install source =>
    cases source with
    | config c =>
      simp only [Errand.step, World.perform, World.install, World.install.installed]
      split
      · rfl
      · rfl
    | toml text =>
      simp only [Errand.step, World.perform, World.install, World.install.installed]
      split
      · rfl
      · split
        · rfl
        · rfl
  | config => rfl
  | setDebug on => rfl
  | register type factory => rfl

namespace Process

/-- Where a thread is with its call for the shared logger, if it is in one. -/
def call (p : Process) (t : ThreadId) : Option Acquiring := (p.callers[t]?).bind (·.call)

variable {p q : Process} {t : ThreadId} {hs now : List Milestone}

theorem call_put_self {s : State} {caller before : Caller} (h : p.callers[t]? = some before) :
    (p.put t s caller).call t = caller.call := by
  have hlt : t < p.callers.length := (List.getElem?_eq_some_iff.1 h).1
  simp [call, put, hlt]

theorem call_put_of_ne {s : State} {caller : Caller} {u : ThreadId} (h : u ≠ t) :
    (p.put t s caller).call u = p.call u := by
  simp [call, put, List.getElem?_set_ne (Ne.symm h)]

/-- What a step of thread `t` does, seen from the shared logger. -/
structure Stepped (p : Process) (t : ThreadId) (q : Process) (now : List Milestone) : Prop where
  move : Move t p.shared (p.call t) now q.shared (q.call t)
  other : ∀ u, u ≠ t → q.call u = p.call u
  kept : p.state.loggers <+: q.state.loggers
  opened : ∀ {u l}, .made u l ∈ now → l < q.state.loggers.length

theorem stepped (h : p.step t = some (q, now)) : p.Stepped t q now := by
  unfold step at h
  split at h
  · cases h
  · rename_i errands a hcaller
    have hcall : p.call t = some a := by simp [call, hcaller]
    split at h
    · cases h
    · rename_i shared s next hshared
      cases h
      obtain ⟨kept, opened⟩ := loggers_shared_step (t := t) hshared
      refine ⟨?_, fun u hu => call_put_of_ne hu, kept, opened⟩
      rw [hcall, call_put_self hcaller]
      exact move_of_shared_step hshared
  · cases h
  · rename_i errands hcaller
    have hcall : p.call t = none := by simp [call, hcaller]
    cases h
    refine ⟨?_, fun u hu => call_put_of_ne hu, List.prefix_rfl, nofun⟩
    rw [hcall, call_put_self hcaller]
    exact .ask
  · rename_i errand errands hne hcaller
    have hcall : p.call t = none := by simp [call, hcaller]
    split at h
    rename_i w opened reply hperform
    cases h
    refine ⟨?_, fun u hu => call_put_of_ne hu, List.prefix_append .., nofun⟩
    have hshared : (p.put t (p.state.opening w opened) ⟨errands, none⟩).shared = p.shared := by
      have kept := shared_perform hne p.state.host p.state.loggers
      rwa [hperform] at kept
    rw [hcall, call_put_self hcaller, hshared]
    exact .aside

/-! ## The holder of the lock -/

/-- What has been made so far is in the slot, or the holder of the lock is about to store it. While
the holder makes the logger none has been made before. -/
def Fits (slot : Option LoggerId) (made : List LoggerId) : Option Acquiring → Prop
  | some .making => slot = none ∧ made = []
  | some (.storing l) => slot = none ∧ made = [l]
  | some (.unlocking (.ok l)) => slot = some l ∧ made = [l]
  | _ => made = slot.toList

/-- Who holds the lock, if anybody does, and how far that has come. -/
structure Held (p : Process) (hs : List Milestone) (holder : Option ThreadId) : Prop where
  locked : p.shared.locked = holder.isSome
  inside : ∀ {u}, (p.call u).any isInside = true ↔ holder = some u
  fits : Fits p.shared.logger (madeOf hs) (holder.bind p.call)

/-- Nobody has asked for the shared logger yet, and there is none. -/
structure Fresh (p : Process) : Prop where
  shared : p.shared = .empty
  callers : ∀ c ∈ p.callers, c.call = none

theorem Fresh.call_eq (fresh : p.Fresh) (t : ThreadId) : p.call t = none := by
  unfold call
  cases hcaller : p.callers[t]? with
  | none => rfl
  | some caller => exact fresh.callers caller (List.mem_of_getElem? hcaller)

theorem Fresh.held (fresh : p.Fresh) : p.Held [] none := by
  refine ⟨?_, ?_, ?_⟩
  · rw [fresh.shared]
    rfl
  · intro u
    simp [fresh.call_eq u]
  · rw [fresh.shared]
    rfl

/-- A thread outside the lock goes on outside it. -/
theorem Held.outside {holder : Option ThreadId} (held : p.Held hs holder)
    (step : p.Stepped t q now) (before : (p.call t).any isInside = false)
    (after : (q.call t).any isInside = false) (hshared : q.shared = p.shared)
    (hmade : madeOf now = []) : q.Held (hs ++ now) holder := by
  have hother : ∀ u, holder = some u → q.call u = p.call u := by
    intro u hu
    apply step.other
    rintro rfl
    rw [held.inside.2 hu] at before
    cases before
  refine ⟨?_, ?_, ?_⟩
  · rw [hshared, held.locked]
  · intro u
    rw [← held.inside]
    by_cases hu : u = t
    · rw [hu, before, after]
    · rw [step.other u hu]
  · rw [hshared, madeOf_append, hmade, List.append_nil]
    cases holder with
    | none => exact held.fits
    | some u =>
      rw [Option.bind_some, hother u rfl]
      exact held.fits

/-- The holder of the lock goes on inside it. -/
theorem Held.within {holder : Option ThreadId} (held : p.Held hs holder)
    (step : p.Stepped t q now) (before : (p.call t).any isInside = true)
    (after : (q.call t).any isInside = true) (hlocked : q.shared.locked = p.shared.locked)
    (fits : Fits p.shared.logger (madeOf hs) (p.call t) →
      Fits q.shared.logger (madeOf hs ++ madeOf now) (q.call t)) : q.Held (hs ++ now) holder := by
  obtain rfl : holder = some t := held.inside.1 before
  refine ⟨?_, ?_, ?_⟩
  · rw [hlocked, held.locked]
  · intro u
    rw [← held.inside]
    by_cases hu : u = t
    · rw [hu, before, after]
    · rw [step.other u hu]
  · rw [madeOf_append]
    exact fits held.fits

/-- A thread takes the lock while nobody holds it. -/
theorem Held.lock {holder : Option ThreadId} (held : p.Held hs holder) (step : p.Stepped t q [])
    (free : p.shared.locked = false) (taken : q.shared = { p.shared with locked := true })
    (after : q.call t = some .lookingAgain) : q.Held hs (some t) := by
  have hnone : holder = none := by
    rw [held.locked] at free
    simpa using free
  subst hnone
  refine ⟨?_, ?_, ?_⟩
  · rw [taken]
    rfl
  · intro u
    by_cases hu : u = t
    · simp [hu, after, isInside]
    · have houtside : ¬ (p.call u).any isInside = true := fun h => nomatch held.inside.1 h
      rw [step.other u hu]
      simp [houtside, Ne.symm hu]
  · rw [taken, Option.bind_some, after]
    exact held.fits

/-- The holder gives the lock back. -/
theorem Held.unlock {holder : Option ThreadId} (held : p.Held hs holder)
    (step : p.Stepped t q now) (before : (p.call t).any isInside = true) (after : q.call t = none)
    (given : q.shared = { p.shared with locked := false })
    (fits : Fits p.shared.logger (madeOf hs) (p.call t) →
      madeOf hs ++ madeOf now = p.shared.logger.toList) : q.Held (hs ++ now) none := by
  obtain rfl : holder = some t := held.inside.1 before
  refine ⟨?_, ?_, ?_⟩
  · rw [given]
    rfl
  · intro u
    by_cases hu : u = t
    · simp [hu, after]
    · have houtside : ¬ (p.call u).any isInside = true := by
        intro h
        exact hu (Option.some.inj (held.inside.1 h)).symm
      rw [step.other u hu]
      simp [houtside]
  · rw [given, madeOf_append]
    exact fits held.fits

theorem Held.step {holder : Option ThreadId} (held : p.Held hs holder) (step : p.Stepped t q now) :
    ∃ holder, q.Held (hs ++ now) holder := by
  have move := step.move
  generalize hbefore : p.call t = before at move
  generalize hafter : q.call t = after at move
  generalize hp : p.shared = shared at move
  generalize hq : q.shared = shared' at move
  cases move with
  | aside =>
    exact ⟨_, held.outside step (by simp [hbefore]) (by simp [hafter]) (hq.trans hp.symm) rfl⟩
  | ask =>
    exact ⟨_, held.outside step (by simp [hbefore]) (by simp [hafter, isInside])
      (hq.trans hp.symm) rfl⟩
  | found =>
    exact ⟨_, held.outside step (by simp [hbefore, isInside]) (by simp [hafter])
      (hq.trans hp.symm) rfl⟩
  | missed =>
    exact ⟨_, held.outside step (by simp [hbefore, isInside]) (by simp [hafter, isInside])
      (hq.trans hp.symm) rfl⟩
  | lock =>
    rw [List.append_nil]
    exact ⟨_, held.lock step (by rw [hp]) (by rw [hp, hq]) hafter⟩
  | foundAgain =>
    refine ⟨_, held.within step (by simp [hbefore, isInside]) (by simp [hafter, isInside])
      (by rw [hp, hq]) ?_⟩
    rw [hp, hq, hbefore, hafter]
    intro fits
    exact ⟨rfl, (List.append_nil _).trans fits⟩
  | missedAgain =>
    refine ⟨_, held.within step (by simp [hbefore, isInside]) (by simp [hafter, isInside])
      (by rw [hp, hq]) ?_⟩
    rw [hp, hq, hbefore, hafter]
    intro fits
    exact ⟨rfl, (List.append_nil _).trans fits⟩
  | made =>
    refine ⟨_, held.within step (by simp [hbefore, isInside]) (by simp [hafter, isInside])
      (by rw [hp, hq]) ?_⟩
    rw [hp, hq, hbefore, hafter]
    rintro ⟨hslot, hmade⟩
    refine ⟨hslot, ?_⟩
    rw [hmade]
    rfl
  | unmade =>
    refine ⟨_, held.within step (by simp [hbefore, isInside]) (by simp [hafter, isInside])
      (by rw [hp, hq]) ?_⟩
    rw [hp, hq, hbefore, hafter]
    rintro ⟨hslot, hmade⟩
    rw [hslot, hmade]
    rfl
  | store =>
    refine ⟨_, held.within step (by simp [hbefore, isInside]) (by simp [hafter, isInside])
      (by rw [hp, hq]) ?_⟩
    rw [hp, hq, hbefore, hafter]
    rintro ⟨-, hmade⟩
    exact ⟨rfl, (List.append_nil _).trans hmade⟩
  | unlock =>
    refine ⟨_, held.unlock step (by simp [hbefore, isInside]) hafter (by rw [hp, hq]) ?_⟩
    rw [hp, hbefore]
    rintro ⟨rfl, hmade⟩
    exact (List.append_nil _).trans hmade
  | giveUp =>
    refine ⟨_, held.unlock step (by simp [hbefore, isInside]) hafter (by rw [hp, hq]) ?_⟩
    rw [hp, hbefore]
    exact fun fits => (List.append_nil _).trans fits

theorem Held.length_le {holder : Option ThreadId} (held : p.Held hs holder) :
    (madeOf hs).length ≤ 1 := by
  have fits := held.fits
  unfold Fits at fits
  split at fits
  · simp [fits.2]
  · simp [fits.2]
  · simp [fits.2]
  · rw [fits]
    exact p.shared.logger.length_toList_le

/-- What the slot holds is what was made. -/
theorem Held.made_eq {holder : Option ThreadId} {l : LoggerId} (held : p.Held hs holder)
    (stored : p.shared.logger = some l) : madeOf hs = [l] := by
  have fits := held.fits
  unfold Fits at fits
  rw [stored] at fits
  split at fits
  · cases fits.1
  · cases fits.1
  · rw [fits.2, Option.some.inj fits.1]
  · exact fits

/-! ## Calls that come back -/

/-- Each call that has succeeded came back with the one logger that was made, and each that has
failed came back with the failure of an attempt of its own. -/
structure Once (p : Process) (hs : List Milestone) : Prop where
  held : ∃ holder, p.Held hs holder
  returned : ∀ {t l}, .returned t l ∈ hs → madeOf hs = [l]
  refused : ∀ t, refusalsOf t hs ++ due (p.call t) = failuresOf t hs
  there : ∀ l ∈ madeOf hs, l < p.state.loggers.length

theorem Fresh.once (fresh : p.Fresh) : p.Once [] := by
  refine ⟨⟨none, fresh.held⟩, ?_, ?_, ?_⟩
  · intro t l h
    cases h
  · intro t
    rw [fresh.call_eq t]
    rfl
  · intro l h
    cases h

/-- What comes back is what was made. -/
theorem Stepped.returned {holder : Option ThreadId} {u : ThreadId} {l : LoggerId}
    (step : p.Stepped t q now) (held : p.Held hs holder) (h : .returned u l ∈ now) :
    madeOf hs = [l] := by
  rcases step.move.of_returned h with hslot | hbefore
  · exact held.made_eq hslot
  · obtain rfl : holder = some t := held.inside.1 (by simp [hbefore, isInside])
    have fits := held.fits
    rw [Option.bind_some, hbefore] at fits
    exact fits.2

theorem Stepped.refused {u : ThreadId} (step : p.Stepped t q now)
    (h : refusalsOf u hs ++ due (p.call u) = failuresOf u hs) :
    refusalsOf u (hs ++ now) ++ due (q.call u) = failuresOf u (hs ++ now) := by
  rw [refusalsOf_append, failuresOf_append, ← h]
  by_cases hu : u = t
  · subst hu
    rw [List.append_assoc, step.move.refusals, List.append_assoc]
  · rw [(step.move.others hu).1, (step.move.others hu).2, step.other u hu, List.append_nil,
      List.append_nil]

/-- An attempt fails while the slot is empty, and leaves slot and lock as they were. -/
theorem Stepped.unmade {holder : Option ThreadId} {u : ThreadId} {e : LoggerError}
    (step : p.Stepped t q now) (held : p.Held hs holder) (h : .unmade u e ∈ now) :
    p.shared.logger = none ∧ q.shared = p.shared := by
  obtain ⟨hbefore, hshared⟩ := step.move.of_unmade h
  obtain rfl : holder = some t := held.inside.1 (by simp [hbefore, isInside])
  have fits := held.fits
  rw [Option.bind_some, hbefore] at fits
  exact ⟨fits.1, hshared⟩

theorem Once.step (once : p.Once hs) (step : p.Stepped t q now) : q.Once (hs ++ now) := by
  obtain ⟨holder, held⟩ := once.held
  obtain ⟨holder', held'⟩ := held.step step
  -- Once a logger is made, no other is made beside it.
  have stays : ∀ {l}, madeOf hs = [l] → madeOf (hs ++ now) = [l] := by
    intro l hmade
    have hle := held'.length_le
    rw [madeOf_append, hmade] at hle ⊢
    have hnil : madeOf now = [] := by simpa using hle
    rw [hnil, List.append_nil]
  refine ⟨⟨holder', held'⟩, ?_, fun u => step.refused (once.refused u), ?_⟩
  · intro u l h
    rcases List.mem_append.1 h with before | new
    · exact stays (once.returned before)
    · exact stays (step.returned held new)
  · intro l h
    rw [madeOf_append] at h
    rcases List.mem_append.1 h with before | new
    · exact Nat.lt_of_lt_of_le (once.there l before) step.kept.length_le
    · obtain ⟨m, hm, hl⟩ := List.mem_filterMap.1 new
      cases m with
      | made u made =>
        cases hl
        exact step.opened hm
      | _ => cases hl

/-! ## Runs -/

theorem follow_cons {schedule : List ThreadId} {r : Process}
    (h : p.follow (t :: schedule) = some (r, hs)) :
    ∃ q now later, p.step t = some (q, now) ∧ q.follow schedule = some (r, later) ∧
      hs = now ++ later := by
  unfold follow at h
  split at h
  · cases h
  · rename_i q now hstep
    split at h
    · cases h
    · rename_i last later hfollow
      cases h
      exact ⟨q, now, later, hstep, hfollow, rfl⟩

theorem Once.follow {schedule : List ThreadId} (once : p.Once hs)
    (h : p.follow schedule = some (q, now)) : q.Once (hs ++ now) := by
  induction schedule generalizing p hs now with
  | nil =>
    cases h
    rwa [List.append_nil]
  | cons t schedule ih =>
    obtain ⟨r, first, later, hstep, hfollow, rfl⟩ := follow_cons h
    rw [← List.append_assoc]
    exact ih (once.step (stepped hstep)) hfollow

/-! ## Attempts -/

/-- The thread is about to ask for the shared logger, or waits for its lock. -/
def Asking (p : Process) (t : ThreadId) : Prop :=
  ∃ errands, p.callers[t]? = some ⟨.get :: errands, none⟩ ∨
    p.callers[t]? = some ⟨errands, some .locking⟩

/-- The thread has tried to make the shared logger: it was made, stored and returned, or the call
came back with the failure and nothing was stored. -/
def Tried (p : Process) (t : ThreadId) (q : Process) (hs : List Milestone) : Prop :=
  match p.state.makeShared.2 with
  | .ok l => hs = [.made t l, .returned t l] ∧ q.shared = ⟨some l, false⟩
  | .error e => hs = [.unmade t e, .refused t e] ∧ q.shared = .empty

theorem step_get {errands : List Errand} (h : p.callers[t]? = some ⟨.get :: errands, none⟩) :
    p.step t = some (p.put t p.state ⟨errands, some .arrived⟩, []) := by
  simp only [step, h]

theorem step_call {errands : List Errand} {a next : Acquiring} {shared : Shared} {s : State}
    (h : p.callers[t]? = some ⟨errands, some a⟩)
    (hshared : Shared.step State.makeShared p.shared p.state a = some (shared, s, next)) :
    p.step t = some (p.put t (s.withShared shared) ⟨errands, ongoing next⟩,
      Milestone.between t a next) := by
  simp only [step, h, hshared]

theorem callers_put {caller before : Caller} (s : State) (h : p.callers[t]? = some before) :
    (p.put t s caller).callers[t]? = some caller := by
  have hlt : t < p.callers.length := (List.getElem?_eq_some_iff.1 h).1
  simp [put, hlt]

theorem follow_of_step {schedule : List ThreadId} {r : Process} {later : List Milestone}
    (h : p.step t = some (q, now)) (rest : q.follow schedule = some (r, later)) :
    p.follow (t :: schedule) = some (r, now ++ later) := by
  simp only [follow, h, rest]

/-- The slot and the lock play no part in what making the shared logger comes to. -/
theorem makeShared_withShared (s : State) (shared : Shared) :
    (s.withShared shared).makeShared.2 = s.makeShared.2 :=
  World.makeShared_locked s.host shared s.loggers

/-- A thread that has seen the slot empty under the lock tries. -/
theorem follow_making {errands : List Errand} (h : p.callers[t]? = some ⟨errands, some .making⟩)
    (hshared : p.shared = ⟨none, true⟩) :
    ∃ n q hs, p.follow (List.replicate n t) = some (q, hs) ∧ p.Tried t q hs := by
  unfold Tried
  rcases hmake : p.state.makeShared with ⟨s, e | l⟩
  · have hmaking : Shared.step State.makeShared p.shared p.state .making =
        some (⟨none, true⟩, s, .unlocking (.error e)) := by
      simp only [hshared, Shared.step, hmake]
    have making := step_call h hmaking
    have unlocking : (p.put t (s.withShared ⟨none, true⟩)
        ⟨errands, some (.unlocking (.error e))⟩).step t = _ :=
      step_call (callers_put _ h) rfl
    exact ⟨2, _, _, follow_of_step making (follow_of_step unlocking rfl), rfl, rfl⟩
  · have hmaking : Shared.step State.makeShared p.shared p.state .making =
        some (⟨none, true⟩, s, .storing l) := by
      simp only [hshared, Shared.step, hmake]
    have making := step_call h hmaking
    have storing : (p.put t (s.withShared ⟨none, true⟩)
        ⟨errands, some (.storing l)⟩).step t = _ :=
      step_call (callers_put _ h) rfl
    have unlocking : ((p.put t (s.withShared ⟨none, true⟩) ⟨errands, some (.storing l)⟩).put t
        ((s.withShared ⟨none, true⟩).withShared ⟨some l, true⟩)
        ⟨errands, some (.unlocking (.ok l))⟩).step t = _ :=
      step_call (callers_put _ (callers_put _ h)) rfl
    exact ⟨3, _, _, follow_of_step making (follow_of_step storing (follow_of_step unlocking rfl)),
      rfl, rfl⟩

/-- Steps before the attempt, which show nothing and do not touch what it depends on. -/
theorem Tried.of_step {n : Nat} {r : Process} (h : p.step t = some (q, []))
    (run : q.follow (List.replicate n t) = some (r, hs)) (tried : q.Tried t r hs)
    (same : q.state.makeShared.2 = p.state.makeShared.2) :
    ∃ n r hs, p.follow (List.replicate n t) = some (r, hs) ∧ p.Tried t r hs := by
  refine ⟨n + 1, r, hs, follow_of_step h run, ?_⟩
  unfold Tried at tried ⊢
  rwa [← same]

theorem follow_lookingAgain {errands : List Errand}
    (h : p.callers[t]? = some ⟨errands, some .lookingAgain⟩) (hshared : p.shared = ⟨none, true⟩) :
    ∃ n q hs, p.follow (List.replicate n t) = some (q, hs) ∧ p.Tried t q hs := by
  have hlooking : Shared.step State.makeShared p.shared p.state .lookingAgain =
      some (⟨none, true⟩, p.state, .making) := by
    rw [hshared]
    rfl
  obtain ⟨n, r, hs, run, tried⟩ :=
    follow_making (callers_put (p.state.withShared ⟨none, true⟩) h) rfl
  exact Tried.of_step (step_call h hlooking) run tried (makeShared_withShared p.state _)

theorem follow_locking {errands : List Errand} (h : p.callers[t]? = some ⟨errands, some .locking⟩)
    (hshared : p.shared = .empty) :
    ∃ n q hs, p.follow (List.replicate n t) = some (q, hs) ∧ p.Tried t q hs := by
  have hlocking : Shared.step State.makeShared p.shared p.state .locking =
      some (⟨none, true⟩, p.state, .lookingAgain) := by
    rw [hshared]
    rfl
  obtain ⟨n, r, hs, run, tried⟩ :=
    follow_lookingAgain (callers_put (p.state.withShared ⟨none, true⟩) h) rfl
  exact Tried.of_step (step_call h hlocking) run tried (makeShared_withShared p.state _)

theorem follow_arrived {errands : List Errand} (h : p.callers[t]? = some ⟨errands, some .arrived⟩)
    (hshared : p.shared = .empty) :
    ∃ n q hs, p.follow (List.replicate n t) = some (q, hs) ∧ p.Tried t q hs := by
  have harrived : Shared.step State.makeShared p.shared p.state .arrived =
      some (.empty, p.state, .locking) := by
    rw [hshared]
    rfl
  obtain ⟨n, r, hs, run, tried⟩ :=
    follow_locking (callers_put (p.state.withShared .empty) h) rfl
  exact Tried.of_step (step_call h harrived) run tried (makeShared_withShared p.state _)

/-- While the slot is empty and the lock is free, a thread that asks tries to make the logger. -/
theorem Asking.follow (asking : p.Asking t) (hshared : p.shared = .empty) :
    ∃ n q hs, p.follow (List.replicate n t) = some (q, hs) ∧ p.Tried t q hs := by
  obtain ⟨errands, h | h⟩ := asking
  · obtain ⟨n, r, hs, run, tried⟩ := follow_arrived (callers_put p.state h) hshared
    exact Tried.of_step (step_get h) run tried rfl
  · exact follow_locking h hshared

end Process

/-- In any interleaving of threads that ask for the shared logger, install and read a configuration,
set the debug flag, register types and build loggers of their own, at most one logger is made to be
shared. It is what every call that succeeds comes back with, and all that the slot ever holds. A
call fails only with the failure of an attempt of its own; such an attempt stores nothing, and
whoever asks while there is none tries again. To build a logger of one's own it makes no difference
what is configured or shared, and it changes neither. -/
theorem shared_logger_once {p q : Process} {schedule : List ThreadId} {hs : List Milestone}
    (fresh : p.Fresh) (run : p.follow schedule = some (q, hs)) :
    (madeOf hs).length ≤ 1 ∧
      (∀ t l, .returned t l ∈ hs → madeOf hs = [l] ∧ l < q.state.loggers.length) ∧
      (∀ l, q.shared.logger = some l → madeOf hs = [l]) ∧
      (∀ t, refusalsOf t hs <+: failuresOf t hs) ∧
      (∀ t u e r now, q.step t = some (r, now) → .unmade u e ∈ now →
        q.shared.logger = none ∧ r.shared = q.shared) ∧
      (∀ t, q.Asking t → q.shared = .empty →
        ∃ n r later, q.follow (List.replicate n t) = some (r, later) ∧ q.Tried t r later) ∧
      (∀ settings context shared,
        (q.state.host.amid context shared).perform q.state.loggers
            (.build (.independent settings)) =
          ((q.state.host.perform q.state.loggers (.build (.independent settings))).1.amid
              context shared,
            (q.state.host.perform q.state.loggers (.build (.independent settings))).2)) := by
  have once : q.Once hs := fresh.once.follow run
  obtain ⟨holder, held⟩ := once.held
  refine ⟨held.length_le, ?_, fun l => held.made_eq, ?_, ?_, fun t => Process.Asking.follow, ?_⟩
  · intro t l h
    have hmade := once.returned h
    exact ⟨hmade, once.there l (by simp [hmade])⟩
  · intro t
    rw [← once.refused t]
    exact List.prefix_append ..
  · intro t u e r now hstep h
    exact (Process.stepped hstep).unmade held h
  · exact fun settings context shared =>
      q.state.host.perform_independent_amid context shared q.state.loggers settings

/-- Three threads. The first installs a configuration with a type that cannot be made yet. -/
def race : Process where
  state := Session.start .empty
  callers :=
    [⟨[.register "slow" (.refuse "down"),
        .install
          (.config { AppConfig.default with log := some ⟨some [("a", ⟨some "slow", []⟩)], 2⟩ }),
        .get, .get], none⟩,
      ⟨[.get], none⟩,
      ⟨[.register "slow" .forward, .get], none⟩]

/-- The first thread fails while the second waits for the lock. The second then makes the logger,
and the third, which had found the slot empty as well, finds it under the lock, as the first does
when it asks again. -/
theorem shared_logger_once_race : ∃ q hs,
    race.follow [0, 0, 0, 0, 1, 1, 0, 0, 0, 2, 2, 2, 0, 1, 1, 1, 1, 1, 2, 2, 2, 0, 0] =
        some (q, hs) ∧
      hs = [.unmade 0 (.sinkConstruction "a" (.other "down")),
        .refused 0 (.sinkConstruction "a" (.other "down")), .made 1 0, .returned 1 0,
        .returned 2 0, .returned 0 0] ∧
      madeOf hs = [0] ∧ 0 < q.state.loggers.length := by
  have evaluated :
      (race.follow
          [0, 0, 0, 0, 1, 1, 0, 0, 0, 2, 2, 2, 0, 1, 1, 1, 1, 1, 2, 2, 2, 0, 0]).map (·.2) =
        some [.unmade 0 (.sinkConstruction "a" (.other "down")),
          .refused 0 (.sinkConstruction "a" (.other "down")), .made 1 0, .returned 1 0,
          .returned 2 0, .returned 0 0] := by
    decide +kernel
  obtain ⟨⟨q, hs⟩, run, rfl⟩ := Option.map_eq_some_iff.1 evaluated
  have fresh : race.Fresh := by
    refine ⟨rfl, ?_⟩
    intro c hc
    simp only [race, List.mem_cons, List.not_mem_nil, or_false] at hc
    rcases hc with rfl | rfl | rfl
    · rfl
    · rfl
    · rfl
  exact ⟨q, _, run, rfl, (shared_logger_once fresh run).2.1 2 0 (by simp)⟩

end BatchedLog.Session
