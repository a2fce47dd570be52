import BatchedLog.Proofs.Delivery.Flow
import BatchedLog.Proofs.Session.Books

/-!
# Loggers that are kept, orphaned and gone

A logger that is there is kept; or it is an orphan, which only calls under way still hold; or it is
gone. `Custody` says that the three are apart and that calls are under way only on loggers that are
not gone. Every step of a session and every `settle` keeps it, so nothing happens any more at a
logger that is gone.
-/

namespace BatchedLog.Session

/-- The loggers that the frames of a stack work for. -/
def serving (stack : List (Frame Step)) : List LoggerId :=
  stack.flatMap fun f => (loggerOf? f).toList

variable {clock : Nat → Instant} {p : State} {done : List Bool} {stack rest : List (Frame Step)}
  {out : Turnout World Step Reply}

/-! ## What a rule does to the books -/

theorem outline_reply (a : Answer Reply) (stack : List (Frame Step)) :
    (Machine.reply (host clock) p a stack).1.host.outline = p.host.outline := by
  unfold Machine.reply
  split
  · rfl
  · exact World.outline_answered ..
  · rfl
  · rfl

theorem outline_afterCut (call : Call) (cut : Option (Nat × List Entry) × Logger)
    (hs : List Happening) :
    (Machine.afterCut (host clock) p call cut stack hs).plant.host.outline = p.host.outline := by
  obtain ⟨_ | c, l⟩ := cut
  · exact outline_reply ..
  · rfl

/-- A rule leaves the outline alone, unless it carries out a command; then it makes of the outline
what the command does. -/
theorem outline_of_rule (rule : Machine.Rule (host clock) p done stack out) :
    (out.plant.host.outline = p.host.outline ∧ out.plant.loggers.length = p.loggers.length ∧
      ∀ c rest, stack = .command c :: rest → p.host.ask c ≠ .nothing) ∨
    ∃ c rest w opened r, stack = .command c :: rest ∧ p.host.ask c = .nothing ∧
      p.host.perform p.loggers c = (w, opened, r) ∧ out.plant.host.outline = w.outline ∧
      out.plant.loggers = Machine.grown p.loggers opened := by
  have asked : ∀ {c : Step} {rest : List (Frame Step)} {d : Demand},
      (host clock).ask p.host c = d → d ≠ .nothing →
      ∀ c' rest', Frame.command c :: rest = .command c' :: rest' → p.host.ask c' ≠ .nothing := by
    rintro c rest d hask hd _ _ ⟨⟩ hnothing
    exact hd (hask.symm.trans hnothing)
  cases rule with
  | @perform c rest h opened r hask hperform =>
    refine .inr ⟨c, rest, h, opened, r, rfl, hask, hperform, ?_, Machine.loggers_finish ..⟩
    exact outline_reply (p := { p with loggers := Machine.grown p.loggers opened, host := h })
      (.other r) rest
  | askLog hask | askFlush hask | askBurst hask | askCrowd hask =>
    exact .inl ⟨rfl, rfl, asked hask (by simp)⟩
  | askSpawn hask =>
    exact .inl ⟨outline_reply .., by rw [Machine.loggers_finish], asked hask (by simp)⟩
  | @hand call ticket batch w left failures rest h todo ending hreceive =>
    have houtline := World.outline_receive p.host w.sink batch
    have hresult : p.host.receive w.sink batch = (h, todo, ending) := hreceive
    rw [hresult] at houtline
    exact .inl ⟨houtline, rfl, by simp⟩
  | log => exact .inl ⟨outline_afterCut .., by simp [Machine.loggers_afterCut, Plant.read], by simp⟩
  | flush | drain =>
    exact .inl ⟨outline_afterCut .., by simp [Machine.loggers_afterCut], by simp⟩
  | logHeld =>
    exact .inl ⟨outline_reply ..,
      by simp [Machine.loggers_finish, Plant.setLogger, Plant.read], by simp⟩
  | release => exact .inl ⟨rfl, by simp [Machine.proceed, Plant.setLogger], by simp⟩
  | logNowhere | flushNowhere | flushHeld | burstEnd | join =>
    exact .inl ⟨outline_reply .., by rw [Machine.loggers_finish], by simp⟩
  | _ => exact .inl ⟨rfl, rfl, by simp⟩

/-- The machine turns the books as the host's commands do, and has as many loggers more as these
open. -/
theorem turns_of_rule (rule : Machine.Rule (host clock) p done stack out) :
    ∃ opened, p.host.books.Turns p.loggers.length out.plant.host.books opened ∧
      out.plant.loggers.length = p.loggers.length + opened := by
  rcases outline_of_rule rule with ⟨houtline, hlength, -⟩ |
    ⟨c, rest, w, opened, r, -, -, hperform, houtline, hloggers⟩
  · exact ⟨0, .of_eq _ (World.books_of_outline houtline), hlength⟩
  · have turns := World.turns_perform p.host p.loggers c
    rw [hperform] at turns
    refine ⟨opened.length, World.books_of_outline houtline ▸ turns, ?_⟩
    rw [hloggers]
    simp [Machine.grown]

/-! ## What a rule works for -/

theorem serving_cons (f : Frame Step) (rest : List (Frame Step)) :
    serving (f :: rest) = (loggerOf? f).toList ++ serving rest := List.flatMap_cons

theorem serving_reply (a : Answer Reply) (stack : List (Frame Step)) :
    serving (Machine.reply (host clock) p a stack).2.stack = serving stack :=
  Machine.flatMap_reply rfl

theorem serving_afterCut {call : Call} {cut : Option (Nat × List Entry) × Logger}
    {hs : List Happening} {l : LoggerId}
    (h : l ∈ serving (Machine.afterCut (host clock) p call cut stack hs).thread.stack) :
    l = call.logger ∨ l ∈ serving stack := by
  obtain ⟨_ | c, cutLogger⟩ := cut
  · exact .inr (serving_reply (p := p.setLogger call.logger cutLogger) call.answer stack ▸ h)
  · simpa [Machine.afterCut, Machine.proceed, serving_cons, loggerOf?] using h

/-- A frame works for the logger that the one before it did, or for one that is kept. -/
theorem serving_of_rule (rule : Machine.Rule (host clock) p done stack out) {l : LoggerId}
    (h : l ∈ serving out.thread.stack) : l ∈ serving stack ∨ p.host.books.Keeps l := by
  -- A command only names loggers that are kept; the others only go on with theirs.
  have hasked : ∀ {c : Step} {d : Demand} {f : Frame Step} {rest : List (Frame Step)},
      (host clock).ask p.host c = d → loggerOf? f = d.logger? → l ∈ serving (f :: rest) →
      l ∈ serving (.command c :: rest) ∨ p.host.books.Keeps l := by
    intro c d f rest hask hf h
    rw [serving_cons, hf] at h
    rcases List.mem_append.1 h with h | h
    · exact .inr (World.keeps_of_ask p.host (hask ▸ Option.mem_toList.1 h))
    · exact .inl h
  have hended : ∀ {q : State} {a : Answer Reply} {f : Frame Step} {rest : List (Frame Step)},
      l ∈ serving (Machine.reply (host clock) q a rest).2.stack →
      l ∈ serving (f :: rest) ∨ p.host.books.Keeps l := by
    intro q a f rest h
    rw [serving_reply] at h
    exact .inl (serving_cons f rest ▸ List.mem_append_right _ h)
  have hlooked : ∀ {f : Frame Step} {rest : List (Frame Step)} {call : Call},
      loggerOf? f = some call.logger → l = call.logger ∨ l ∈ serving rest →
      l ∈ serving (f :: rest) ∨ p.host.books.Keeps l := by
    intro f rest call hf h
    rw [serving_cons, hf]
    exact .inl (List.mem_cons.2 h)
  cases rule with
  | askLog hask | askFlush hask | askBurst hask => exact hasked hask rfl h
  | log | flush | drain => exact hlooked rfl (serving_afterCut h)
  | burstNext =>
    refine .inl ?_
    simpa [Machine.proceed, serving_cons, loggerOf?] using h
  | askSpawn | perform | logNowhere | logHeld | flushNowhere | flushHeld | burstEnd | join =>
    exact hended h
  | _ => exact .inl h

/-- A thread that is started works for a logger that is kept. -/
theorem serving_started (rule : Machine.Rule (host clock) p done stack out)
    {th : Thread Step Reply} (hth : th ∈ out.started) {l : LoggerId} (h : l ∈ serving th.stack) :
    p.host.books.Keeps l := by
  have hasked : ∀ {c : Step} {d : Demand} {id : LoggerId}, (host clock).ask p.host c = d →
      d.logger? = some id → l ∈ [id] → p.host.books.Keeps l := by
    intro c d id hask hd hl
    rw [List.mem_singleton.1 hl]
    exact World.keeps_of_ask p.host (hask ▸ hd)
  cases rule with
  | askSpawn hask =>
    obtain rfl := List.mem_singleton.1 hth
    exact hasked hask rfl h
  | askCrowd hask =>
    obtain ⟨i, -, rfl⟩ := List.mem_map.1 hth
    exact hasked hask rfl h
  | log | flush | drain => simp [Machine.started_afterCut] at hth
  | _ => cases hth

/-- A rule changes no other loggers than those that the stack works for. -/
theorem loggers_of_rule (rule : Machine.Rule (host clock) p done stack out) {l : LoggerId}
    (hl : l < p.loggers.length) (hnot : l ∉ serving stack) :
    out.plant.loggers[l]? = p.loggers[l]? := by
  have hset : ∀ {f : Frame Step} {rest : List (Frame Step)} {id : LoggerId} {l' : Logger},
      loggerOf? f = some id → l ∉ serving (f :: rest) →
      (p.loggers.set id l')[l]? = p.loggers[l]? := by
    intro f rest id l' hf hnot
    apply List.getElem?_set_ne
    rintro rfl
    exact hnot (by simp [serving_cons, hf])
  cases rule with
  | perform =>
    rw [Machine.loggers_finish]
    exact List.getElem?_append_left hl
  | logHeld =>
    rw [Machine.loggers_finish]
    exact hset rfl hnot
  | log | flush | drain =>
    rw [Machine.loggers_afterCut]
    exact hset rfl hnot
  | release => exact hset rfl hnot
  | askSpawn | logNowhere | flushNowhere | flushHeld | burstEnd | join =>
    rw [Machine.loggers_finish]
  | _ => rfl

/-! ## Where loggers are -/

/-- Each of the first `n` loggers is in one place. -/
structure Books.Custody (b : Books) (n : Nat) (gone : List LoggerId) : Prop where
  somewhere : ∀ l : Nat, l < n ↔ b.Keeps l ∨ l ∈ b.orphans ∨ l ∈ gone
  orphaned : ∀ l ∈ b.orphans, ¬b.Keeps l
  lost : ∀ l ∈ gone, ¬b.Keeps l ∧ l ∉ b.orphans
  orphans_nodup : b.orphans.Nodup
  gone_nodup : gone.Nodup

namespace Books.Custody

variable {b b' : Books} {n : Nat} {gone : List LoggerId}

theorem of_turns {opened : Nat} (h : b.Custody n gone) (turns : b.Turns n b' opened) :
    b'.Custody (n + opened) gone := by
  cases turns with
  | kept _ ho hk =>
    have hold : ∀ l : Nat, l < n → ¬(n ≤ l ∧ l < n + opened) := fun l hl h => Nat.not_lt.2 h.1 hl
    have hkeeps : ∀ l : Nat, l < n → (b'.Keeps l ↔ b.Keeps l) :=
      fun l hl => (hk l).trans (or_iff_left (hold l hl))
    have horphan : ∀ l ∈ b.orphans, (l : Nat) < n := fun l hl => (h.somewhere l).2 (.inr (.inl hl))
    have hgone : ∀ l ∈ gone, (l : Nat) < n := fun l hl => (h.somewhere l).2 (.inr (.inr hl))
    refine ⟨?_, ?_, ?_, ho ▸ h.orphans_nodup, h.gone_nodup⟩
    · intro l
      rw [hk, ho, or_right_comm, ← h.somewhere l]
      omega
    · intro l hl
      rw [ho] at hl
      rw [hkeeps l (horphan l hl)]
      exact h.orphaned l hl
    · intro l hl
      rw [hkeeps l (hgone l hl), ho]
      exact h.lost l hl
  | @dropped d _ ho hd hk =>
    refine ⟨?_, ?_, ?_, ?_, h.gone_nodup⟩
    · intro l
      rw [hk, ho, List.mem_append, List.mem_singleton, Nat.add_zero, h.somewhere l]
      by_cases hl : l = d
      · rw [hl]
        exact iff_of_true (.inl hd) (.inr (.inl (.inr rfl)))
      · rw [and_iff_left hl, or_iff_left hl]
    · intro l hl
      rw [hk]
      rcases List.mem_append.1 (ho ▸ hl) with hl | hl
      · exact fun hkept => h.orphaned l hl hkept.1
      · exact fun hkept => hkept.2 (List.mem_singleton.1 hl)
    · intro l hl
      have hlost := h.lost l hl
      rw [hk, ho, List.mem_append, List.mem_singleton]
      refine ⟨fun hkept => hlost.1 hkept.1, ?_⟩
      rintro (horphan | rfl)
      · exact hlost.2 horphan
      · exact hlost.1 hd
    · rw [ho]
      refine List.nodup_append.2 ⟨h.orphans_nodup, by simp, ?_⟩
      intro l hl l' hl' heq
      rw [heq, List.mem_singleton.1 hl'] at hl
      exact h.orphaned d hl hd

/-- Orphans on which no call is under way go. -/
theorem settle (h : b.Custody n gone) (busy : LoggerId → Bool) (hk : ∀ l, b'.Keeps l ↔ b.Keeps l)
    (ho : b'.orphans = b.orphans.filter busy) :
    b'.Custody n (gone ++ b.orphans.filter fun l => !busy l) := by
  have hgone : ∀ l, l ∈ gone ++ b.orphans.filter (fun l => !busy l) ↔
      l ∈ gone ∨ l ∈ b.orphans ∧ busy l = false := by simp
  have horphans : ∀ l, l ∈ b'.orphans ↔ l ∈ b.orphans ∧ busy l = true := by simp [ho]
  refine ⟨?_, ?_, ?_, ho ▸ h.orphans_nodup.filter _, ?_⟩
  · intro l
    rw [hk, hgone, horphans, h.somewhere l]
    cases hbusy : busy l with
    | true => simp
    | false => simp [or_comm]
  · intro l hl
    rw [hk]
    exact h.orphaned l ((horphans l).1 hl).1
  · intro l hl
    rw [hk, horphans]
    rcases (hgone l).1 hl with hl | ⟨hl, hidle⟩
    · exact ⟨(h.lost l hl).1, fun horphan => (h.lost l hl).2 horphan.1⟩
    · refine ⟨h.orphaned l hl, fun horphan => ?_⟩
      rw [hidle] at horphan
      cases horphan.2
  · refine List.nodup_append.2 ⟨h.gone_nodup, h.orphans_nodup.filter _, ?_⟩
    intro l hl l' hl' heq
    exact (h.lost l hl).2 (heq ▸ List.mem_of_mem_filter hl')

end Books.Custody

/-- Where the loggers of a session are. Calls are under way on none that is gone. -/
structure Custody (m : Machine) (gone : List LoggerId) : Prop where
  books : m.plant.host.books.Custody m.plant.loggers.length gone
  busy : ∀ l, isBusy m l = true → m.plant.host.books.Keeps l ∨ l ∈ m.plant.host.books.orphans

theorem isBusy_iff {m : Machine} {l : LoggerId} :
    isBusy m l = true ↔ ∃ th ∈ m.threads, l ∈ serving th.stack := by
  simp [isBusy, serving]

/-- The orphans on which no call is under way, which are about to go. -/
def leaving (m : Machine) : List LoggerId := m.plant.host.orphans.filter fun l => !isBusy m l

/-- What `settle` leaves: the orphans on which calls are under way. -/
theorem settle_cases (m : Machine) :
    (settle m).threads = m.threads ∧ (settle m).plant.loggers = m.plant.loggers ∧
      (settle m).plant.host.books =
        { m.plant.host.books with orphans := m.plant.host.orphans.filter (isBusy m) } := by
  unfold settle
  dsimp only
  split
  · rename_i hnone
    refine ⟨rfl, rfl, ?_⟩
    simp only [World.books, hnone, List.filter_nil]
  · refine ⟨rfl, rfl, ?_⟩
    obtain ⟨hslots, hshared, -, hmetrics⟩ := Books.mk.inj
      (World.books_of_outline (World.outline_notes m.plant.host Diagnostic.dropped
        ((((leaving m).filterMap (m.plant.loggers[·]?)).map Logger.pendingCount).filter (0 < ·))))
    exact (Books.mk.injEq ..).mpr ⟨hslots, hshared, rfl, hmetrics⟩

theorem isBusy_settle (m : Machine) (l : LoggerId) : isBusy (settle m) l = isBusy m l := by
  unfold isBusy
  rw [(settle_cases m).1]

namespace Custody

variable {m u : Machine} {gone : List LoggerId} {t : ThreadId} {now : List Happening}

/-- A step leaves loggers in one place each, and does nothing to those that are gone. -/
theorem step (h : Custody m gone) (hstep : m.step (host clock) t = some (u, now)) :
    Custody u gone ∧ ∀ l ∈ gone, u.plant.loggers[l]? = m.plant.loggers[l]? := by
  obtain ⟨th, out, hth, rule, hplant, hthreads, rfl⟩ := System.exists_turnout hstep
  obtain ⟨opened, turns, hlength⟩ := turns_of_rule rule
  have hmem : th ∈ m.threads := List.mem_of_getElem? hth
  have hloggers : u.plant.loggers = out.plant.loggers := by rw [hplant]
  have hbooks : u.plant.host.books = { out.plant.host.books with
      metrics := out.happenings.foldl Metrics.record out.plant.host.metrics } := by
    rw [hplant]
    exact World.books_of_outline (World.outline_observeAll ..)
  have held : ∀ {l}, m.plant.host.books.Keeps l ∨ l ∈ m.plant.host.books.orphans →
      u.plant.host.books.Keeps l ∨ l ∈ u.plant.host.books.orphans := by
    intro l hl
    rw [hbooks]
    exact turns.held hl
  refine ⟨⟨?_, ?_⟩, ?_⟩
  · obtain ⟨somewhere, orphaned, lost, orphans_nodup, gone_nodup⟩ := h.books.of_turns turns
    rw [hbooks, hloggers, hlength]
    exact ⟨somewhere, orphaned, lost, orphans_nodup, gone_nodup⟩
  · intro l hl
    obtain ⟨v, hv, hserving⟩ := isBusy_iff.1 hl
    rw [hthreads] at hv
    rcases List.mem_append.1 hv with hv | hv
    · rcases List.mem_or_eq_of_mem_set hv with hv | rfl
      · exact held (h.busy l (isBusy_iff.2 ⟨v, hv, hserving⟩))
      · rcases serving_of_rule rule hserving with hserving | hkept
        · exact held (h.busy l (isBusy_iff.2 ⟨th, hmem, hserving⟩))
        · exact held (.inl hkept)
    · exact held (.inl (serving_started rule hv hserving))
  · intro l hl
    obtain ⟨hnotKept, hnotOrphan⟩ := h.books.lost l hl
    rw [hloggers]
    apply loggers_of_rule rule ((h.books.somewhere l).2 (.inr (.inr hl)))
    intro hserving
    rcases h.busy l (isBusy_iff.2 ⟨th, hmem, hserving⟩) with hkept | horphan
    · exact hnotKept hkept
    · exact hnotOrphan horphan

/-- The orphans that leave are gone. -/
theorem settle (h : Custody m gone) : Custody (settle m) (gone ++ leaving m) := by
  obtain ⟨-, hloggers, hbooks⟩ := settle_cases m
  refine ⟨?_, ?_⟩
  · rw [hloggers]
    refine h.books.settle (isBusy m) (fun l => ?_) ?_
    · rw [hbooks]
      exact Iff.rfl
    · rw [hbooks]
      rfl
  · intro l hl
    rw [isBusy_settle] at hl
    rw [hbooks]
    exact (h.busy l hl).imp_right fun horphan => List.mem_filter.2 ⟨horphan, hl⟩

end Custody

end BatchedLog.Session
