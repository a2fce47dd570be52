import BatchedLog.Proofs.Wiring.Supply
import BatchedLog.Session.Run
import Mathlib.Logic.Basic

/-!
# Who keeps a logger

Of all that a session can see the books are the counters and who keeps which loggers: slots of the
session and the process do, and loggers that were let go are listed as orphans. A command opens
loggers that are kept from then on, or lets go of one that was kept, and otherwise leaves the books
as they are; `turns_perform` says so of every command. Commands ask for calls only on loggers that
are kept.
-/

namespace BatchedLog

/-- The logger that a demand is about. -/
def Demand.logger? : Demand → Option LoggerId
  | .log l .. => some l
  | .flush l => some l
  | .burst l .. => some l
  | .spawn l .. => some l
  | .crowd l .. => some l
  | .nothing => none

namespace Session

/-- Who keeps which loggers, and the counters. -/
structure Books where
  slots : List (Option LoggerId)
  shared : Option LoggerId
  orphans : List LoggerId
  metrics : Metrics

namespace Books

/-- A slot or the process keeps the logger. -/
def Keeps (b : Books) (l : LoggerId) : Prop := some l ∈ b.slots ∨ b.shared = some l

/-- What a command makes of the books when there are `n` loggers: the ones that it opens are kept,
or one that was kept is an orphan. -/
inductive Turns (n : Nat) (b : Books) : Books → Nat → Prop
  | kept {b' : Books} {opened : Nat} : b'.metrics = b.metrics → b'.orphans = b.orphans →
      (∀ l : Nat, b'.Keeps l ↔ b.Keeps l ∨ n ≤ l ∧ l < n + opened) → Turns n b b' opened
  | dropped {b' : Books} {d : LoggerId} : b'.metrics = b.metrics → b'.orphans = b.orphans ++ [d] →
      b.Keeps d → (∀ l, b'.Keeps l ↔ b.Keeps l ∧ l ≠ d) → Turns n b b' 0

theorem eq_iff_next (l n : Nat) : l = n ↔ n ≤ l ∧ l < n + 1 := by omega

theorem Turns.metrics_eq {n opened : Nat} {b b' : Books} (h : b.Turns n b' opened) :
    b'.metrics = b.metrics := by
  cases h with
  | kept hm => exact hm
  | dropped hm => exact hm

/-- Where nothing is opened and the same loggers are kept. -/
theorem Turns.of_keeps {b b' : Books} (n : Nat) (hm : b'.metrics = b.metrics)
    (ho : b'.orphans = b.orphans) (h : ∀ l, b'.Keeps l ↔ b.Keeps l) : b.Turns n b' 0 := by
  refine .kept hm ho fun l => (h l).trans ?_
  have hnone : ¬(n ≤ l ∧ l < n + 0) := fun h => Nat.not_lt.2 h.1 h.2
  exact (or_iff_left hnone).symm

theorem Turns.of_eq {b b' : Books} (n : Nat) (h : b' = b) : b.Turns n b' 0 :=
  h ▸ .of_keeps n rfl rfl fun _ => Iff.rfl

theorem Turns.refl (n : Nat) (b : Books) : b.Turns n b 0 := .of_eq n rfl

/-- What is kept or an orphan remains one of the two. -/
theorem Turns.held {n opened : Nat} {b b' : Books} {l : LoggerId} (turns : b.Turns n b' opened)
    (h : b.Keeps l ∨ l ∈ b.orphans) : b'.Keeps l ∨ l ∈ b'.orphans := by
  cases turns with
  | kept _ ho hk => exact h.imp (fun hl => (hk l).2 (.inl hl)) (ho ▸ ·)
  | @dropped d _ ho _ hk =>
    rw [hk, ho, List.mem_append, List.mem_singleton]
    by_cases hl : l = d
    · exact .inr (.inr hl)
    · exact h.imp (fun hkept => ⟨hkept, hl⟩) .inl

end Books

namespace World

def books (w : World) : Books := ⟨w.slots, w.shared.logger, w.orphans, w.metrics⟩

/-- The world without its sinks and what they write to: files, the console, the journal and
diagnostics. -/
def outline (w : World) : World :=
  { w with sinks := [], disk := .empty, console := .empty, journal := #[], diagnostics := #[] }

section

variable {w w' : World} (h : w'.outline = w.outline)

include h

/-- Where the outline stays, so do the books. -/
theorem books_of_outline : w'.books = w.books := by
  have hbooks : w'.outline.books = w.outline.books := congrArg books h
  exact hbooks

theorem context_of_outline : w'.context = w.context := by
  have hcontext : w'.outline.context = w.outline.context := congrArg World.context h
  exact hcontext

theorem shared_of_outline : w'.shared = w.shared := by
  have hshared : w'.outline.shared = w.outline.shared := congrArg World.shared h
  exact hshared

theorem registry_of_outline : w'.registry = w.registry := by
  have hregistry : w'.outline.registry = w.outline.registry := congrArg World.registry h
  exact hregistry

end

variable (w : World)

/-! ## What making sinks and using them leaves alone -/

theorem outline_notes {α : Type} (f : α → Diagnostic) (xs : List α) :
    (xs.foldl (fun w x => w.note (f x)) w).outline = w.outline := by
  induction xs generalizing w with
  | nil => rfl
  | cons x xs ih => exact ih (w.note (f x))

/-- What is observed is only counted. -/
theorem outline_observeAll (hs : List Happening) : (hs.foldl World.observe w).outline =
    { w with metrics := hs.foldl Metrics.record w.metrics }.outline := by
  induction hs generalizing w with
  | nil => rfl
  | cons h hs ih =>
    rw [List.foldl_cons, ih]
    cases h <;> rfl

theorem outline_receive (id : SinkId) (batch : Batch) :
    (w.receive id batch).1.outline = w.outline := by
  unfold receive
  split
  · rfl
  · rfl
  · rfl
  · rfl
  · exact outline_notes ..
  · dsimp only
    split
    · rfl
    · rfl

theorem outline_answered (id : SinkId) (answer : Answer Reply) :
    (w.answered id answer).outline = w.outline := by
  unfold answered
  split
  · rfl
  · rfl

theorem outline_makeConsole (params : Fields) : (w.makeConsole params).1.outline = w.outline := by
  unfold makeConsole
  split
  · rfl
  · rfl

theorem outline_makeFile (params : Fields) : (w.makeFile params).1.outline = w.outline := by
  unfold makeFile
  split
  · rfl
  · split
    · rfl
    · rfl

theorem outline_makeSink (plan : SinkPlan Step) : (w.makeSink plan).1.outline = w.outline := by
  unfold makeSink
  split
  · rfl
  · exact outline_makeFile ..
  · exact outline_makeConsole ..
  · rfl
  · rfl

theorem outline_make (factory : Factory Step) (type : String) (params : Fields) :
    (w.make factory type params).1.outline = w.outline := by
  cases factory with
  | console => exact outline_makeConsole ..
  | file => exact outline_makeFile ..
  | planned required plan =>
    unfold make
    dsimp only
    split
    · rfl
    · exact outline_makeSink ..
  | _ => rfl

theorem outline_addTargets (registry : Registry (Factory Step)) (targets : Targets)
    (wiring : Wiring) (w : World) :
    (Wiring.addTargets workshop registry wiring w targets).1.outline = w.outline :=
  Wiring.keeps_addTargets (I := fun t : World => t.outline = w.outline) (fun _ h => h)
    (fun _ _ _ h => (outline_make ..).trans h) rfl

theorem outline_ofSettings (registry : Registry (Factory Step)) (settings : LogSettings) :
    (Wiring.ofSettings workshop registry w settings).1.outline = w.outline :=
  Wiring.keeps_ofSettings (I := fun t : World => t.outline = w.outline) (fun _ h => h)
    (fun _ _ _ h => (outline_make ..).trans h) rfl

theorem outline_ofConfig (registry : Registry (Factory Step)) (config : AppConfig) :
    (Wiring.ofConfig workshop registry w config).1.outline = w.outline :=
  Wiring.keeps_ofConfig (I := fun t : World => t.outline = w.outline) (fun _ h => h)
    (fun _ _ _ h => (outline_make ..).trans h) rfl

/-- What each of some steps leaves alone, all of them do. -/
theorem outline_foldl {α β : Type} {f : World × β → α → World × β}
    (hf : ∀ acc x, (f acc x).1.outline = acc.1.outline) (xs : List α) (acc : World × β) :
    (xs.foldl f acc).1.outline = acc.1.outline := by
  induction xs generalizing acc with
  | nil => rfl
  | cons x xs ih => exact (ih (f acc x)).trans (hf acc x)

theorem outline_registerAll (plan : List (String × Factory Step)) :
    (w.registerAll plan).1.outline = w.outline := by
  unfold registerAll
  refine outline_foldl ?_ plan (w, [])
  exact fun _ _ => rfl

theorem outline_addSinks (plans : List (SinkPlan Step)) :
    ∀ (w : World) (wiring : Wiring), (w.addSinks wiring plans).1.outline = w.outline := by
  induction plans with
  | nil => exact fun _ _ => rfl
  | cons plan rest ih =>
    intro w wiring
    have hmake := outline_makeSink w plan
    unfold addSinks
    generalize w.makeSink plan = result at hmake ⊢
    obtain ⟨made, e | id⟩ := result
    · exact hmake
    · dsimp only
      cases wiring.add plan.name id with
      | error e => exact hmake
      | ok wiring => exact (ih made wiring).trans hmake

theorem outline_wire (plan : LoggerPlan Step) : (w.wire plan).1.outline = w.outline := by
  cases plan with
  | direct interval sinks targets registry =>
    have hsinks := outline_addSinks sinks w ((interval.map Wiring.start.interval).getD .start)
    unfold wire
    dsimp only
    generalize w.addSinks ((interval.map Wiring.start.interval).getD .start) sinks = result
      at hsinks ⊢
    obtain ⟨made, e | wiring⟩ := result
    · cases targets with
      | none => exact hsinks
      | some targets => exact hsinks
    · cases targets with
      | none => exact hsinks
      | some targets =>
        exact (outline_addTargets ..).trans ((outline_registerAll made registry).trans hsinks)
  | settings settings registry => exact (outline_ofSettings ..).trans (outline_registerAll ..)
  | app config registry => exact (outline_ofConfig ..).trans (outline_registerAll ..)
  | toml text registry =>
    unfold wire
    dsimp only
    split
    · rfl
    · exact (outline_ofConfig ..).trans (outline_registerAll ..)
  | independent settings => exact outline_ofSettings ..

/-! ## Commands -/

theorem mem_slots {i : Nat} {l : LoggerId} (h : w.slot i = some l) : some l ∈ w.slots := by
  obtain ⟨slot, hslot, rfl⟩ : ∃ slot, w.slots[i]? = some slot ∧ slot = some l := by
    simpa [slot, Option.join_eq_some_iff] using h
  exact List.mem_of_getElem? hslot

theorem keeps_of_ask {step : Step} {l : LoggerId} (h : (w.ask step).logger? = some l) :
    w.books.Keeps l := by
  have hslot : ∀ {i : Nat} {f : LoggerId → Demand}, (∀ l', (f l').logger? = some l') →
      (((w.slot i).map f).getD .nothing).logger? = some l → w.books.Keeps l := by
    intro i f hf h
    cases hi : w.slot i with
    | none => simp [hi, Demand.logger?] at h
    | some l' =>
      have hl : l' = l := by simpa [hi, hf] using h
      exact .inl (w.mem_slots (hl ▸ hi))
  cases step with
  | log | error | warning | info => exact hslot (fun _ => rfl) h
  | trace =>
    simp only [ask] at h
    split at h
    · exact hslot (fun _ => rfl) h
    · cases h
  | flush => exact hslot (fun _ => rfl) h
  | logMany => exact hslot (fun _ => rfl) h
  | spawn => exact hslot (fun _ => rfl) h
  | threads => exact hslot (fun _ => rfl) h
  | _ => cases h

/-- A logger that has a slot, or gets one, is kept, and so are those that were before. -/
theorem keeps_slotOf (l l' : LoggerId) :
    (w.slotOf l).1.books.Keeps l' ↔ w.books.Keeps l' ∨ l' = l := by
  unfold slotOf
  split
  · rename_i i hi
    have hl : w.books.Keeps l := by
      obtain ⟨hlt, hat, -⟩ := List.findIdx?_eq_some_iff_getElem.1 hi
      exact .inl (of_decide_eq_true hat ▸ List.getElem_mem hlt)
    refine ⟨.inl, ?_⟩
    rintro (h | rfl)
    · exact h
    · exact hl
  · simp only [books, Books.Keeps, List.mem_append, List.mem_singleton, Option.some.injEq]
    exact or_right_comm

theorem metrics_slotOf (l : LoggerId) : (w.slotOf l).1.books.metrics = w.books.metrics := by
  unfold slotOf
  split
  · rfl
  · rfl

theorem orphans_slotOf (l : LoggerId) : (w.slotOf l).1.books.orphans = w.books.orphans := by
  unfold slotOf
  split
  · rfl
  · rfl

variable (loggers : List Logger)

/-- Slots for loggers that are kept change nothing. -/
theorem turns_slotOf {l : LoggerId} {b : Books} {n opened : Nat}
    (turns : b.Turns n w.books opened) (h : w.books.Keeps l) :
    b.Turns n (w.slotOf l).1.books opened := by
  have hsame : ∀ l', (w.slotOf l).1.books.Keeps l' ↔ w.books.Keeps l' := by
    intro l'
    rw [keeps_slotOf]
    refine ⟨?_, .inl⟩
    rintro (h' | rfl)
    · exact h'
    · exact h
  cases turns with
  | kept hm ho hk =>
    exact .kept ((w.metrics_slotOf l).trans hm) ((w.orphans_slotOf l).trans ho)
      fun l' => (hsame l').trans (hk l')
  | dropped hm ho hd hk =>
    exact .dropped ((w.metrics_slotOf l).trans hm) ((w.orphans_slotOf l).trans ho) hd
      fun l' => (hsame l').trans (hk l')

theorem turns_build (plan : LoggerPlan Step) :
    w.books.Turns loggers.length (w.build loggers plan).1.books
      (w.build loggers plan).2.1.length := by
  have hwire := books_of_outline (outline_wire w plan)
  unfold build
  generalize w.wire plan = result at hwire ⊢
  obtain ⟨w', e | wiring⟩ := result
  · exact .of_eq _ hwire
  · rw [← hwire]
    refine .kept (w'.metrics_slotOf _) (w'.orphans_slotOf _) fun l => ?_
    refine (w'.keeps_slotOf ..).trans (or_congr_right ?_)
    exact Books.eq_iff_next ..

/-- A slot that is emptied concerns only the logger that was in it. -/
theorem keeps_setSlot {i : Nat} {l l' : LoggerId} (hl : w.slot i = some l) (hne : l' ≠ l) :
    ({ w with slots := w.slots.set i none } : World).books.Keeps l' ↔ w.books.Keeps l' := by
  refine or_congr_left ⟨?_, ?_⟩
  · intro h
    exact (List.mem_or_eq_of_mem_set h).resolve_right (by simp)
  · intro h
    obtain ⟨j, hj⟩ := List.mem_iff_getElem?.1 h
    have hij : i ≠ j := by
      rintro rfl
      rw [slot, show w.slots[i]? = some (some l') from hj] at hl
      exact hne (Option.some.inj hl)
    exact List.mem_of_getElem? ((List.getElem?_set_ne hij).trans hj)

theorem turns_drop (i : Nat) :
    w.books.Turns loggers.length (w.drop i).1.books (w.drop i).2.1.length := by
  unfold drop
  cases hl : w.slot i with
  | none => exact .refl ..
  | some l =>
    have hkept : w.books.Keeps l := .inl (w.mem_slots hl)
    dsimp only [plainly, release]
    split
    · rename_i still
      have hself : ({ w with slots := w.slots.set i none } : World).books.Keeps l :=
        still.imp_left List.contains_iff_mem.1
      refine .of_keeps _ rfl rfl fun l' => ?_
      by_cases hne : l' = l
      · rw [hne]
        exact iff_of_true hself hkept
      · exact w.keeps_setSlot hl hne
    · rename_i still
      have hself : ¬({ w with slots := w.slots.set i none } : World).books.Keeps l :=
        fun h => still (h.imp_left List.contains_iff_mem.2)
      refine .dropped rfl rfl hkept fun l' => ?_
      by_cases hne : l' = l
      · rw [hne]
        exact iff_of_false hself fun h => h.2 rfl
      · exact (w.keeps_setSlot hl hne).trans (and_iff_left hne).symm

/-! ### The shared logger -/

/-- Making the shared logger settles the configuration and opens at most one logger, which is wired
from it. -/
theorem makeShared_cases (loggers : List Logger) (before : World × List Wiring) :
    let settled := { before.1 with context := before.1.context.read.1 }
    ∃ w : World, w.outline = settled.outline ∧
      ((∃ e, makeShared loggers before = ((w, before.2), .error e)) ∨
        ∃ wiring, (Wiring.ofConfig workshop before.1.registry settled
            before.1.context.read.2).2 = .ok wiring ∧
          makeShared loggers before =
            ((w, before.2 ++ [wiring]), .ok (loggers.length + before.2.length))) := by
  obtain ⟨w, opened⟩ := before
  have hwire := outline_ofConfig { w with context := w.context.read.1 } w.registry w.context.read.2
  unfold makeShared
  dsimp only
  generalize Wiring.ofConfig workshop w.registry { w with context := w.context.read.1 }
    w.context.read.2 = result at hwire ⊢
  obtain ⟨made, e | wiring⟩ := result
  · exact ⟨made, hwire, .inl ⟨_, rfl⟩⟩
  · refine ⟨_, ?_, .inr ⟨wiring, rfl, rfl⟩⟩
    exact hwire

/-- Calls for the shared logger change only that: where there was none, it is the one opened. -/
structure Acquired (loggers : List Logger) (before after : World × List Wiring) : Prop where
  slots : after.1.books.slots = before.1.books.slots
  orphans : after.1.books.orphans = before.1.books.orphans
  metrics : after.1.books.metrics = before.1.books.metrics
  opened : before.2.length ≤ after.2.length
  shared : ∀ l : Nat, after.1.books.shared = some l ↔ before.1.books.shared = some l ∨
    loggers.length + before.2.length ≤ l ∧ l < loggers.length + after.2.length

variable {loggers} {before mid after : World × List Wiring}

theorem Acquired.of_books (h : after.1.books = before.1.books) (hopened : after.2 = before.2) :
    Acquired loggers before after := by
  refine ⟨by rw [h], by rw [h], by rw [h], Nat.le_of_eq (by rw [hopened]), fun l => ?_⟩
  rw [h, hopened]
  exact (or_iff_left fun h => Nat.not_lt.2 h.1 h.2).symm

theorem Acquired.trans (first : Acquired loggers before mid) (second : Acquired loggers mid after) :
    Acquired loggers before after where
  slots := second.slots.trans first.slots
  orphans := second.orphans.trans first.orphans
  metrics := second.metrics.trans first.metrics
  opened := Nat.le_trans first.opened second.opened
  shared l := by
    have hfirst := first.opened
    have hsecond := second.opened
    rw [second.shared, first.shared, or_assoc]
    refine or_congr_right ⟨?_, ?_⟩
    · rintro (h | h)
      · omega
      · omega
    · intro h
      omega

/-- A call that comes back with a logger, comes back with the shared one. -/
theorem acquired_acquire (loggers : List Logger) (before : World × List Wiring) :
    Acquired loggers before (acquire loggers before).1 ∧
      ∀ l, (acquire loggers before).2 = .ok l →
        (acquire loggers before).1.1.books.shared = some l := by
  cases hshared : before.1.shared.logger with
  | some l =>
    have hacquire : acquire loggers before = (before, .ok l) := by
      simp only [acquire, Shared.acquire, hshared]
    rw [hacquire]
    refine ⟨.of_books rfl rfl, ?_⟩
    rintro l ⟨⟩
    exact hshared
  | none =>
    obtain ⟨w, houtline, ⟨e, hmake⟩ | ⟨wiring, -, hmake⟩⟩ := makeShared_cases loggers before
    · have hacquire : acquire loggers before =
          (({ w with shared := before.1.shared }, before.2), .error e) := by
        simp only [acquire, Shared.acquire, hshared, hmake]
      have hold : ({ w with shared := before.1.shared } : World).books = before.1.books := by
        obtain ⟨hslots, -, horphans, hmetrics⟩ := Books.mk.inj (books_of_outline houtline)
        simp only [books, hslots, horphans, hmetrics]
      rw [hacquire]
      refine ⟨.of_books hold rfl, ?_⟩
      intro l hl
      cases hl
    · have hacquire : acquire loggers before =
          (({ w with shared :=
                { before.1.shared with logger := some (loggers.length + before.2.length) } },
            before.2 ++ [wiring]), .ok (loggers.length + before.2.length)) := by
        simp only [acquire, Shared.acquire, hshared, hmake]
      have hnone : before.1.books.shared = none := hshared
      rw [hacquire]
      obtain ⟨hslots, -, horphans, hmetrics⟩ := Books.mk.inj (books_of_outline houtline)
      refine ⟨⟨hslots, horphans, hmetrics, by simp, fun l => ?_⟩, ?_⟩
      · rw [hnone, List.length_append, List.length_singleton, ← Nat.add_assoc]
        refine Option.some_inj.trans (eq_comm.trans ((Books.eq_iff_next ..).trans ?_))
        simp
      · rintro l ⟨⟩
        rfl

theorem acquired_getMany (loggers : List Logger) (n : Nat) : ∀ before : World × List Wiring,
    Acquired loggers before (getMany loggers n before).1 ∧
      ∀ l ∈ (getMany loggers n before).2, (getMany loggers n before).1.1.books.shared = some l := by
  induction n with
  | zero => exact fun before => ⟨.of_books rfl rfl, by simp [getMany]⟩
  | succ n ih =>
    intro before
    obtain ⟨first, hfirst⟩ := acquired_acquire loggers before
    obtain ⟨rest, hrest⟩ := ih (acquire loggers before).1
    refine ⟨first.trans rest, ?_⟩
    intro l hl
    have hl : l ∈ (acquire loggers before).2.toOption.toList ++
        (getMany loggers n (acquire loggers before).1).2 := hl
    rcases List.mem_append.1 hl with hl | hl
    · refine (rest.shared l).2 (.inl (hfirst l ?_))
      cases hresult : (acquire loggers before).2 with
      | error e => simp [hresult, Except.toOption] at hl
      | ok l' =>
        have hl' : l = l' := by simpa [hresult, Except.toOption] using hl
        rw [hl']
    · exact hrest l hl

/-- The loggers that were opened are kept by the process. -/
theorem Acquired.turns {w' : World} {opened : List Wiring}
    (h : Acquired loggers (w, []) (w', opened)) :
    w.books.Turns loggers.length w'.books opened.length := by
  refine .kept h.metrics h.orphans fun l => ?_
  have hslots : w'.books.slots = w.books.slots := h.slots
  have hshared := h.shared l
  rw [Books.Keeps, Books.Keeps, hslots, or_assoc]
  exact or_congr_right hshared

theorem length_opening (opened : List Wiring) : (opening opened).length = opened.length :=
  List.length_map _

theorem turns_get (loggers : List Logger) :
    w.books.Turns loggers.length (w.get loggers).1.books (w.get loggers).2.1.length := by
  obtain ⟨acquired, hresult⟩ := acquired_acquire loggers (w, [])
  unfold get
  generalize acquire loggers (w, []) = result at acquired hresult ⊢
  obtain ⟨⟨w', opened⟩, e | l⟩ := result
  · dsimp only
    rw [length_opening]
    exact acquired.turns
  · dsimp only
    rw [length_opening]
    exact turns_slotOf _ acquired.turns (.inr (hresult l rfl))

/-- Slots for several loggers that are kept. -/
theorem turns_slotAll {b : Books} {n opened : Nat} (ls : List LoggerId) :
    ∀ (w : World) (is : List Nat), b.Turns n w.books opened → (∀ l ∈ ls, w.books.Keeps l) →
      b.Turns n
        (ls.foldl (fun (w, is) l => let (w, i) := slotOf w l; (w, is ++ [i])) (w, is)).1.books
        opened := by
  induction ls with
  | nil => exact fun _ _ turns _ => turns
  | cons l ls ih =>
    intro w is turns kept
    refine ih _ _ (turns_slotOf w turns (kept l List.mem_cons_self)) fun l' hl' => ?_
    exact (keeps_slotOf ..).2 (.inl (kept l' (List.mem_cons_of_mem _ hl')))

theorem turns_getThreads (loggers : List Logger) (n : Nat) :
    w.books.Turns loggers.length (w.getThreads loggers n).1.books
      (w.getThreads loggers n).2.1.length := by
  obtain ⟨acquired, hresults⟩ := acquired_getMany loggers n (w, [])
  unfold getThreads
  generalize getMany loggers n (w, []) = result at acquired hresults ⊢
  obtain ⟨⟨w', opened⟩, ls⟩ := result
  dsimp only
  rw [length_opening]
  exact turns_slotAll ls w' [] acquired.turns fun l hl => .inr (hresults l hl)

/-- The logger that was the shared one gets a slot, and the one that takes its place has one. -/
theorem turns_replace (n : Nat) (slot : Option Nat) :
    w.books.Turns n (w.replace slot).1.books (w.replace slot).2.1.length := by
  have hslot : ∀ {l}, slot.bind w.slot = some l → some l ∈ w.slots := by
    intro l hl
    obtain ⟨i, -, hi⟩ := Option.bind_eq_some_iff.1 hl
    exact w.mem_slots hi
  unfold replace
  dsimp only
  cases hprevious : w.shared.logger with
  | none =>
    refine .of_keeps n rfl rfl fun l => or_congr_right' fun hl => ?_
    have hold : w.books.shared = none := hprevious
    rw [hold]
    exact iff_of_false (fun h => hl (hslot h)) (by simp)
  | some p =>
    refine .of_keeps n (metrics_slotOf ..) (orphans_slotOf ..) fun l => ?_
    have hold : w.books.shared = some p := hprevious
    refine (keeps_slotOf ..).trans ?_
    rw [Books.Keeps, Books.Keeps, hold, Option.some_inj, or_assoc]
    refine or_congr_right' fun hl => ?_
    exact (or_iff_right fun h => hl (hslot h)).trans eq_comm

theorem books_install (source : Source) :
    (w.install source).1.books = w.books ∧ (w.install source).2.1 = [] := by
  have hinstalled : ∀ config, (install.installed w config).1.books = w.books ∧
      (install.installed w config).2.1 = [] := by
    intro config
    unfold install.installed
    split
    · exact ⟨rfl, rfl⟩
    · exact ⟨rfl, rfl⟩
  cases source with
  | config config => exact hinstalled config
  | toml text =>
    unfold install
    dsimp only
    split
    · exact ⟨rfl, rfl⟩
    · exact hinstalled _

/-- What any command makes of the books. -/
theorem turns_perform (loggers : List Logger) (step : Step) :
    w.books.Turns loggers.length (w.perform loggers step).1.books
      (w.perform loggers step).2.1.length := by
  cases step with
  | build plan => exact turns_build w loggers plan
  | drop i => exact turns_drop w loggers i
  | get => exact turns_get w loggers
  | getThreads n => exact turns_getThreads w loggers n
  | replace slot => exact turns_replace w _ slot
  | install source =>
    obtain ⟨hbooks, hopened⟩ := books_install w source
    have hinstall : w.perform loggers (.install source) = w.install source := rfl
    rw [hinstall, hopened]
    exact .of_eq _ hbooks
  | remove path =>
    unfold perform
    dsimp only
    split
    · exact .refl ..
    · exact .refl ..
  | _ => exact .refl ..

end World

end Session

end BatchedLog
