import Homeflow.Adapters.World
import Homeflow.Commands.Outcomes

namespace Homeflow.Adapters

open Commands (fails)

-- Whether an answer leaves a call of execute that has written nothing to raise.
def Adapter.Fits (wiring : Wiring) : Adapter → Event → Prop
  | .homeAssistant (.calling asked), .answered exchange =>
      exchange = .unreachable ∨
        HomeAssistant.Called wiring.homeAssistant wiring.float asked exchange
  | .homeAssistant (.confirming asked attempt latest), .answered exchange =>
      HomeAssistant.Read wiring.homeAssistant wiring.float asked attempt latest exchange
  | .bestway (.sending _ _), .undrained => False
  | .bestway (.confirming _ _ _ _), .read first second =>
      ¬(first.Truncated ∨ first.run = .error .unavailable ∧ second.Truncated)
  | _, _ => True

-- The peer answers in a way that fits every write it applies.
def Fits (wiring : Wiring) (applies : Uuid → Bool) (world : World) : Label → Prop
  | .event id _ event => applies id = true → ∀ adapter, world.adapters.get? id = some adapter →
      adapter.wrote = true → adapter.Fits wiring event
  | _ => True

-- No command whose write the peer has applied has failed.
def Spared (applies : Uuid → Bool) (world : World) : Prop :=
  ∀ id ∈ world.sent, applies id = true → ∀ command,
    world.pipeline.returned.get? id = some command → command.status ≠ .failed

section Ending

variable {wiring : Wiring} {now : Time} {adapter next : Adapter} {event : Event}
  {outcome : AdapterOutcome ProviderCommandResult}

-- A call fails its command exactly if it raises.
theorem homeAssistant_fails {execution : HomeAssistant.Execution}
    (hrejects : execution.rejects = false) :
    (∀ outcome, (Adapter.homeAssistant execution).outcome wiring now = some outcome →
      fails outcome = false) ↔ execution.raised = false := by
  cases execution with
  | calling | confirming | sleeping =>
      simp [Adapter.outcome, HomeAssistant.Execution.raised]
  | ended result =>
      cases result with
      | ok result =>
          have hfails : fails (.returned result) = false := hrejects
          simp [Adapter.outcome, HomeAssistant.Execution.raised, hfails]
      | error error =>
          cases error <;> simp [Adapter.outcome, HomeAssistant.Execution.raised, fails,
            HomeAssistant.HaError.exception]

theorem bestway_fails {execution : Bestway.Execution Bestway.Bytes}
    (hstrange : execution.strange = false) :
    (∀ outcome, (Adapter.bestway execution).outcome wiring now = some outcome →
      fails outcome = false) ↔ execution.raised = false := by
  cases execution with
  | reading | writing | sending | confirming | sleeping =>
      simp [Adapter.outcome, Bestway.Execution.raised]
  | ended result =>
      cases result with
      | ok executed =>
          have hfails : fails (.returned (Adapter.result wiring now executed)) = false := hstrange
          simp [Adapter.outcome, Bestway.Execution.raised, hfails]
      | error exception =>
          have hexception : exception ≠ .timeoutError := by
            simpa [Bestway.Execution.strange] using hstrange
          simp [Adapter.outcome, Bestway.Execution.raised, fails, hexception]

-- What the peer answers to a write it may have received decides whether the call fails.
theorem fits_iff (hwrote : adapter.wrote = true)
    (hstep : adapter.step wiring now event = some next) (hsent : adapter.unsent event = false) :
    (∀ outcome, next.outcome wiring now = some outcome → fails outcome = false) ↔
      adapter.Fits wiring event := by
  unfold Adapter.step at hstep
  split at hstep
  · rename_i asked exchange
    obtain rfl := Option.some.inj hstep
    rw [homeAssistant_fails (HomeAssistant.Execution.answered_rejects _ _ _ _ rfl),
      HomeAssistant.called_iff]
    have hreached : exchange ≠ .unreachable := by
      rintro rfl
      cases hsent
    exact ⟨.inr, fun h => h.resolve_left hreached⟩
  · obtain rfl := Option.some.inj hstep
    rw [homeAssistant_fails (HomeAssistant.Execution.answered_rejects _ _ _ _ rfl),
      HomeAssistant.read_iff]
    rfl
  · obtain rfl := Option.some.inj hstep
    simp [Adapter.outcome, Adapter.Fits]
  · cases hwrote
  · cases hwrote
  · cases hwrote
  · obtain rfl := Option.some.inj hstep
    rw [bestway_fails (Bestway.Execution.sendEnds_strange _), Bestway.Execution.sendEnds_raised]
    exact ⟨fun _ => trivial, fun _ => rfl⟩
  · obtain rfl := Option.some.inj hstep
    rw [bestway_fails (Bestway.Execution.sendEnds_strange _), Bestway.Execution.sendEnds_raised]
    exact ⟨nofun, False.elim⟩
  · obtain rfl := Option.some.inj hstep
    rw [bestway_fails (Bestway.Execution.readEnds_strange _ _ _), Bestway.Execution.readEnds_raised,
      ne_eq, Bestway.readWithRetry_protocol_iff]
    rfl
  · obtain rfl := Option.some.inj hstep
    simp [Adapter.outcome, Adapter.Fits]
  · cases hstep

theorem homeAssistant_goes {execution : HomeAssistant.Execution}
    (h : (Adapter.homeAssistant execution).outcome wiring now = none) :
    execution.called = true := by
  cases execution with
  | calling | confirming | sleeping => rfl
  | ended result => cases result <;> simp [Adapter.outcome] at h

theorem bestway_goes {execution : Bestway.Execution Bestway.Bytes}
    (h : (Adapter.bestway execution).outcome wiring now = none)
    (hcontrolled : execution.controlled = true ∨ ∃ result, execution = .ended result) :
    execution.controlled = true := by
  rcases hcontrolled with hcontrolled | ⟨result, rfl⟩
  · exact hcontrolled
  · cases result <;> simp [Adapter.outcome] at h

-- A call that has written goes on as one that has written.
theorem wrote_step (hwrote : adapter.wrote = true)
    (hstep : adapter.step wiring now event = some next)
    (hgoes : next.outcome wiring now = none) : next.wrote = true := by
  unfold Adapter.step at hstep
  split at hstep
  · obtain rfl := Option.some.inj hstep
    exact homeAssistant_goes hgoes
  · obtain rfl := Option.some.inj hstep
    exact homeAssistant_goes hgoes
  · obtain rfl := Option.some.inj hstep
    rfl
  · cases hwrote
  · cases hwrote
  · cases hwrote
  · obtain rfl := Option.some.inj hstep
    exact bestway_goes hgoes (Bestway.Execution.sendEnds_controlled _)
  · obtain rfl := Option.some.inj hstep
    exact bestway_goes hgoes (Bestway.Execution.sendEnds_controlled _)
  · obtain rfl := Option.some.inj hstep
    exact bestway_goes hgoes (Bestway.Execution.readEnds_controlled _ _ _)
  · obtain rfl := Option.some.inj hstep
    rfl
  · cases hstep

-- A request that never left the gateway ends its call.
theorem unsent_ends (hstep : adapter.step wiring now event = some next)
    (hsent : adapter.unsent event = true) :
    (next.outcome wiring now).isSome ∧ adapter.Fits wiring event := by
  unfold Adapter.unsent at hsent
  split at hsent
  · obtain rfl := Option.some.inj hstep
    exact ⟨rfl, .inl rfl⟩
  · cases hsent

end Ending

end Homeflow.Adapters
