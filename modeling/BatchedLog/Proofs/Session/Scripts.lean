import BatchedLog.Proofs.Delivery.Bounded
import BatchedLog.Proofs.Delivery.Thrift
import BatchedLog.Session.Host

/-!
# Sinks with finite scripts

A scripted sink carries out the steps of its next turn with each batch, and nothing once its script
is over. So what sinks do flows out of their scripts, and if all of it is to log and to flush then
it comes to an end, and so does every call.
-/

namespace BatchedLog.Session

/-- To log or to flush. -/
def Step.talks : Step → Bool
  | .log .. | .error .. | .warning .. | .info .. | .trace .. | .flush _ => true
  | _ => false

/-- The steps that a sink is still going to carry out. -/
def SinkState.script : SinkState → List Step
  | .scripted _ script => script.flatMap (·.actions)
  | _ => []

namespace World

/-- The steps that sinks are still going to carry out. -/
def script (w : World) : List Step := w.sinks.flatMap SinkState.script

/-- All that sinks are still going to do is to log and to flush. -/
def Scripted (w : World) : Prop := ∀ a ∈ w.script, a.talks = true

theorem script_notes {α : Type} (f : α → Diagnostic) (xs : List α) :
    ∀ w : World, (xs.foldl (fun w x => w.note (f x)) w).script = w.script := by
  induction xs with
  | nil => exact fun _ => rfl
  | cons x xs ih => exact fun w => ih (w.note (f x))

theorem script_observe (w : World) (h : Happening) : (w.observe h).script = w.script := by
  cases h <;> rfl

theorem script_answered (w : World) (id : SinkId) (a : Answer Reply) :
    (w.answered id a).script = w.script := by
  unfold answered
  split
  · rfl
  · rfl

/-- What a sink does with a batch it takes out of its script. -/
theorem flows_receive (w : World) (id : SinkId) (batch : Batch) :
    Flows w.script [] (w.receive id batch).1.script (w.receive id batch).2.1 := by
  unfold receive
  cases hs : w.sinks[id]? with
  | none => exact .still _
  | some s =>
    cases s with
    | memory => exact Flows.set hs (.still [])
    | file => exact Flows.set hs (.still [])
    | console => exact .still _
    | forward => exact .of_eq (script_notes _ _ w)
    | scripted label script =>
      cases script with
      | nil => exact .still _
      | cons turn rest =>
        have actions : Flows (turn.actions ++ rest.flatMap (·.actions)) []
            (rest.flatMap (·.actions)) turn.actions := .leave _ _
        exact Flows.set hs actions

end World

theorem ask_talks {w : World} {step : Step} (h : step.talks = true) :
    (w.ask step).talks = true := by
  have demanded : ∀ {demand : LoggerId → Demand} {slot : Option LoggerId},
      (∀ l, (demand l).talks = true) → ((slot.map demand).getD .nothing).talks = true := by
    intro demand slot talks
    cases slot with
    | none => rfl
    | some l => exact talks l
  cases step with
  | log | error | warning | info | flush => exact demanded fun _ => rfl
  | trace =>
    cases hdebug : w.context.debug with
    | false => simp [World.ask, hdebug, Demand.talks]
    | true =>
      simp only [World.ask, hdebug, if_true]
      exact demanded fun _ => rfl
  | _ => cases h

/-- The sinks of a session fall silent, if all their scripts are to log and to flush. -/
theorem host_thrifty (clock : Nat → Instant) :
    (host clock).Thrifty World.Scripted (fun step => step.talks = true) (·.script.length) := by
  have of_script : ∀ {w w' : World}, w'.script = w.script → w.Scripted →
      w'.Scripted ∧ w'.script.length ≤ w.script.length := by
    intro w w' hscript scripted
    unfold World.Scripted
    rw [hscript]
    exact ⟨scripted, Nat.le_refl _⟩
  refine ⟨fun _ h => ask_talks h, ?_, ?_, ?_, ?_⟩
  · intro w step loggers scripted h _
    cases step with
    | log | error | warning | info | trace | flush => exact ⟨scripted, Nat.le_refl _, rfl⟩
    | _ => cases h
  · intro w id batch scripted
    have flows := w.flows_receive id batch
    unfold Flows at flows
    rw [List.append_nil] at flows
    refine ⟨?_, ?_, ?_⟩
    · exact fun a ha => scripted a (flows.subset (List.mem_append_left _ ha))
    · exact fun a ha => scripted a (flows.subset (List.mem_append_right _ ha))
    · have hlength := flows.length_eq
      rw [List.length_append] at hlength
      exact Nat.le_of_eq ((Nat.add_comm ..).trans hlength)
  · intro w id a scripted
    exact of_script (w.script_answered id a) scripted
  · intro w x scripted
    exact of_script (w.script_observe x) scripted

/-- A log or flush call that cuts a batch, whatever the sinks do: it cuts the first with its first
step, and nothing is logged into the logger from then on until the call is over, but by sinks at
work on the batches of this call or by what these set off. If the call comes to its end then it has
delivered just the one batch if the interval is zero, and else one more at most for each time that
the interval goes into the number of the entries so logged. Each batch after the first has as many
entries as the interval at least. These batches and what is pending afterwards are what was so
logged, and fewer entries than a positive interval stay pending. And the call does come to its end,
in any session with any loggers, however their sinks refer to them, if its thread is alone and what
scripted sinks are still going to do is to log and to flush. -/
theorem drain_bounded_by_sinks :
    (∀ {σ κ ρ : Type} {host : Host σ κ ρ} {id : LoggerId} {purpose : Purpose} {f : Frame κ}
      {rest : List (Frame κ)} {l : Logger} {s₀ s v u : System σ κ ρ}
      {before hs now : List Happening},
      s₀.Ready → Steps host s₀ before s → s.plant.loggers[id]? = some l → f.Calls id purpose →
      s.stack 0 = f :: rest → s.Spans host rest.length hs v now u → cutsOf id (hs ++ now) ≠ [] →
      ∃ s₁ first later, s.step host 0 = some (s₁, first) ∧ hs = first ++ later ∧
        (∀ {earlier v' news u' e}, s₁.Within host rest.length earlier v' →
          v'.step host 0 = some (u', news) → .accepted id e ∈ news → v'.Inside id rest) ∧
        Drains l.interval (entriesOf id (later ++ now)) (receiptsOf id (hs ++ now))
          (u.pending id)) ∧
    ∀ {clock : Nat → Instant} {id : LoggerId} {purpose : Purpose} {f : Frame Step}
      {rest : List (Frame Step)} {s₀ s : System World Step Reply} {before : List Happening},
      s₀.Ready → Steps (host clock) s₀ before s → s.threads.length = 1 → s.plant.host.Scripted →
      f.Calls id purpose → s.stack 0 = f :: rest →
      ∃ hs v now u, s.Spans (host clock) rest.length hs v now u ∧ u.threads.length = 1 := by
  constructor
  · intro σ κ ρ host id purpose f rest l s₀ s v u before hs now ready run here calls top spans cuts
    exact spans.drains ready run here calls top cuts
  · intro clock id purpose f rest s₀ s before ready run alone scripted calls top
    exact ready.call_ends (host_thrifty clock) run alone scripted calls top

/-- Two loggers whose sinks log through each other, once, and one call. -/
def answering : System World Step Reply where
  plant :=
    { loggers := [.start ⟨1⟩ [⟨"on", 0⟩], .start ⟨1⟩ [⟨"back", 1⟩]], dispatched := 0, readings := 0
      host :=
        { World.start .empty with
          sinks := [.scripted "on" [⟨[.log 1 "on" .info], .returned (.ok ())⟩],
            .scripted "back" [⟨[.log 0 "back" .warning, .flush 0], .unwound (.owned "full")⟩]]
          slots := [some 0, some 1] } }
  threads := [⟨[.log 0 "a" .info], none⟩]

theorem answering_ready : answering.Ready := by
  refine ⟨?_, by simp [answering, Frame.isCall]⟩
  intro l hl
  obtain rfl | rfl : l = _ ∨ l = _ := by simpa [answering] using hl
  · exact ⟨_, _, rfl⟩
  · exact ⟨_, _, rfl⟩

/-- What the first sink logs into its own logger from inside the first batch is drained as a second
batch; and the call on loggers that refer to each other comes to an end. -/
theorem drain_bounded_by_sinks_answering :
    (∃ hs v now u s₁ first later, System.relapse.Spans .echo 1 hs v now u ∧
      System.relapse.step .echo 0 = some (s₁, first) ∧ hs = first ++ later ∧
      (receiptsOf 0 (hs ++ now)).length = 2 ∧
      Drains 1 (entriesOf 0 (later ++ now)) (receiptsOf 0 (hs ++ now)) (u.pending 0)) ∧
    ∃ hs v now u, answering.Spans (host fun n => ⟨n⟩) 0 hs v now u ∧ u.threads.length = 1 := by
  constructor
  · have evaluated : (System.relapse.carry .echo 1 21).any (fun (hs, _, now, _) =>
        (receiptsOf 0 (hs ++ now)).length = 2 ∧ (cutsOf 0 (hs ++ now)).length = 2) = true := by
      decide +kernel
    obtain ⟨⟨hs, v, now, u⟩, hcarry, hall⟩ := (Option.any_eq_true _ _).1 evaluated
    obtain ⟨hreceipts, hcuts⟩ := of_decide_eq_true hall
    have spans : System.relapse.Spans .echo 1 hs v now u :=
      System.spans_of_carry (Nat.lt_succ_self 1) hcarry
    have cuts : cutsOf 0 (hs ++ now) ≠ [] := fun hnil => by
      rw [hnil] at hcuts
      cases hcuts
    obtain ⟨s₁, first, later, hfirst, hsplit, -, drains⟩ := drain_bounded_by_sinks.1
      System.relapse_ready (.refl _) rfl .log rfl spans cuts
    exact ⟨hs, v, now, u, s₁, first, later, spans, hfirst, hsplit, hreceipts, drains⟩
  · have scripted : answering.plant.host.Scripted := by
      intro step hstep
      obtain rfl | rfl | rfl : step = .log 1 "on" .info ∨ step = .log 0 "back" .warning ∨
          step = .flush 0 := by
        simpa [answering, World.script, SinkState.script] using hstep
      · rfl
      · rfl
      · rfl
    exact drain_bounded_by_sinks.2 answering_ready (.refl _) rfl scripted .log rfl

end BatchedLog.Session
