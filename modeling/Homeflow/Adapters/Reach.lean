import Homeflow.Adapters.Release
import Homeflow.Commands.Provided
import Homeflow.HomeAssistant.Release

-- Calls are only made of adapters that are wired.
namespace Homeflow.Adapters

section Pipeline

variable {clock : Nat → Time} {coercion : Coercion} {wiring : Wiring} {world after : World}
  {label : Label}

-- What a step does to the commands is nothing, or a step of theirs.
def Follows (clock : Nat → Time) (coercion : Coercion) (world after : World) : Prop :=
  after.pipeline = world.pipeline ∨
    ∃ label, world.pipeline.step clock coercion label = some after.pipeline

theorem follows_act {label : Commands.Label}
    (hact : world.act clock coercion label = some after) : Follows clock coercion world after := by
  obtain ⟨pipeline, hstep, rfl⟩ := Option.map_eq_some_iff.mp hact
  exact .inr ⟨label, hstep⟩

theorem follows_settle {id : Uuid} {now : Time} {adapter : Adapter}
    (hsettle : world.settle clock coercion wiring id now adapter = some after) :
    Follows clock coercion world after := by
  unfold World.settle at hsettle
  split at hsettle
  · exact @follows_act clock coercion (world.forget id) after _ hsettle
  · cases hsettle
    exact .inl rfl

theorem follows_step (hstep : world.step clock coercion wiring label = some after) :
    Follows clock coercion world after := by
  cases label with
  | pipeline label =>
      cases label with
      | executeReturns id outcome =>
          simp only [World.step] at hstep
          split at hstep
          · exact follows_act hstep
          · cases hstep
      | cancelTask id => exact @follows_act clock coercion (world.forget id) after _ hstep
      | submit | enter | getStateReturns | ingest => exact follows_act hstep
  | begin id now =>
      simp only [World.step] at hstep
      split at hstep
      · split at hstep
        · obtain ⟨adapter, -, hsettle⟩ := Option.bind_eq_some_iff.mp hstep
          exact follows_settle hsettle
        · cases hstep
      · cases hstep
  | event id now event =>
      obtain ⟨adapter, -, hstep⟩ := Option.bind_eq_some_iff.mp hstep
      obtain ⟨next, -, hsettle⟩ := Option.bind_eq_some_iff.mp hstep
      have hfollows := follows_settle hsettle
      exact hfollows
  | deadline id =>
      simp only [World.step] at hstep
      split at hstep
      · exact @follows_act clock coercion (world.forget id) after _ hstep
      · cases hstep

theorem Follows.provided {providers : List String} (h : Follows clock coercion world after)
    (hprovided : Commands.Provided providers world.pipeline) :
    Commands.Provided providers after.pipeline := by
  rcases h with hsame | ⟨label, hstep⟩
  · exact hsame ▸ hprovided
  · exact Commands.provided_step hprovided hstep

end Pipeline

section Calls

variable {wiring : Wiring} {now : Time} {event : Event} {adapter next : Adapter}
  {ref : ProviderDeviceRef} {command : ProviderCommand}

-- Whose call it is.
def Adapter.provider : Adapter → String
  | .homeAssistant _ => HomeAssistant.PROVIDER_NAME
  | .bestway _ => Bestway.PROVIDER_NAME

-- The service it is about to call is one of a released domain.
def Released (wiring : Wiring) (adapter : Adapter) : Prop :=
  ∀ asked, adapter = .homeAssistant (.calling asked) →
    HomeAssistant.domainOf asked.entityId ∈ wiring.homeAssistant.releasedDomains

theorem start_provider (h : Adapter.start wiring ref command = some adapter) :
    adapter.provider = ref.provider := by
  unfold Adapter.start at h
  split at h
  · next hname =>
    cases h
    exact hname.symm
  · split at h
    · next hname =>
      cases h
      exact hname.symm
    · cases h

theorem step_provider (h : adapter.step wiring now event = some next) :
    next.provider = adapter.provider := by
  unfold Adapter.step at h
  split at h <;> first | (cases h; rfl) | cases h

theorem start_released (h : Adapter.start wiring ref command = some adapter) :
    Released wiring adapter := by
  rintro asked rfl
  unfold Adapter.start at h
  split at h
  · obtain hcalling := Adapter.homeAssistant.inj (Option.some.inj h)
    exact (HomeAssistant.start_calling hcalling).2.2.1
  · split at h <;> cases h

theorem step_released (h : adapter.step wiring now event = some next) : Released wiring next := by
  rintro asked rfl
  unfold Adapter.step at h
  split at h
  · exact absurd (Adapter.homeAssistant.inj (Option.some.inj h))
      (HomeAssistant.answered_not_calling now _ _ asked)
  · exact absurd (Adapter.homeAssistant.inj (Option.some.inj h))
      (HomeAssistant.answered_not_calling now _ _ asked)
  all_goals cases h

end Calls

section Runs

variable {clock : Nat → Time} {coercion : Coercion} {wiring : Wiring} {world after : World}
  {label : Label} {providers : List String}

theorem sent_act {label : Commands.Label} (hact : world.act clock coercion label = some after) :
    after.sent = world.sent := by
  obtain ⟨pipeline, -, rfl⟩ := Option.map_eq_some_iff.mp hact
  rfl

theorem sent_settle {id other : Uuid} {now : Time} {adapter : Adapter}
    (hsettle : world.settle clock coercion wiring id now adapter = some after)
    (hsent : other ∈ after.sent) :
    other ∈ world.sent ∨ ∃ call, after.adapters.get? other = some call := by
  unfold World.settle at hsettle
  split at hsettle
  · have hsame := @sent_act clock coercion (world.forget id) after _ hsettle
    exact .inl (hsame ▸ hsent)
  · cases hsettle
    dsimp only at hsent
    split at hsent
    · rcases List.mem_cons.mp hsent with rfl | hold
      · exact .inr ⟨adapter, OrderedDict.get?_set_self _ _ _⟩
      · exact .inl hold
    · exact .inl hsent

-- A write that was sent is one of a call under way.
theorem sent_step {other : Uuid} (hstep : world.step clock coercion wiring label = some after)
    (hsent : other ∈ after.sent) :
    other ∈ world.sent ∨ ∃ call, after.adapters.get? other = some call := by
  cases label with
  | pipeline label =>
      cases label with
      | executeReturns id outcome =>
          simp only [World.step] at hstep
          split at hstep
          · exact .inl (sent_act hstep ▸ hsent)
          · cases hstep
      | cancelTask id =>
          have hsame := @sent_act clock coercion (world.forget id) after _ hstep
          exact .inl (hsame ▸ hsent)
      | submit | enter | getStateReturns | ingest => exact .inl (sent_act hstep ▸ hsent)
  | begin id now =>
      simp only [World.step] at hstep
      split at hstep
      · split at hstep
        · obtain ⟨adapter, -, hsettle⟩ := Option.bind_eq_some_iff.mp hstep
          exact sent_settle hsettle hsent
        · cases hstep
      · cases hstep
  | event id now event =>
      obtain ⟨adapter, -, hstep⟩ := Option.bind_eq_some_iff.mp hstep
      obtain ⟨next, -, hsettle⟩ := Option.bind_eq_some_iff.mp hstep
      refine (sent_settle hsettle hsent).imp_left fun hold => ?_
      dsimp only at hold
      split at hold
      · exact List.mem_of_mem_filter hold
      · exact hold
  | deadline id =>
      simp only [World.step] at hstep
      split at hstep
      · have hsame := @sent_act clock coercion (world.forget id) after _ hstep
        exact .inl (hsame ▸ hsent)
      · cases hstep

-- Every call under way is one of an adapter that is wired, and so was every write.
structure Contained (providers : List String) (wiring : Wiring) (world : World) : Prop where
  provided : Commands.Provided providers world.pipeline
  flight : InFlight (fun adapter => adapter.provider ∈ providers ∧ Released wiring adapter ∧
    Encoded wiring.bestway.profile adapter) world
  sent : ∀ id ∈ world.sent,
    HomeAssistant.PROVIDER_NAME ∈ providers ∨ Bestway.PROVIDER_NAME ∈ providers

theorem contained_step (h : Contained providers wiring world)
    (hstep : world.step clock coercion wiring label = some after) :
    Contained providers wiring after := by
  have hflight : InFlight (fun adapter => adapter.provider ∈ providers ∧ Released wiring adapter ∧
      Encoded wiring.bestway.profile adapter) after := by
    refine inFlight_step (fun id task adapter htask hstart => ?_)
      (fun now event adapter next hadapter hnext => ?_) h.flight hstep
    · refine ⟨?_, start_released hstart, encoded_start _ _ hstart⟩
      rw [start_provider hstart]
      exact h.provided.flight id task htask
    · exact ⟨(step_provider hnext).symm ▸ hadapter.1, step_released hnext,
        encoded_step hadapter.2.2 hnext⟩
  refine ⟨(follows_step hstep).provided h.provided, hflight, fun id hid => ?_⟩
  rcases sent_step hstep hid with hold | ⟨adapter, hadapter⟩
  · exact h.sent id hold
  · have hname := (hflight id adapter hadapter).1
    cases adapter with
    | homeAssistant => exact .inl hname
    | bestway => exact .inr hname

theorem contained_run {registry : DeviceRegistry} {labels : List Label}
    (hrun : Machine.run (World.step clock coercion wiring) (initial registry providers) labels =
      some world) : Contained providers wiring world := by
  have hinitial : Contained providers wiring (initial registry providers) :=
    ⟨Commands.provided_initial registry providers,
      fun _ _ hadapter => by simp [initial] at hadapter, fun _ hid => by simp [initial] at hid⟩
  exact Machine.invariant hinitial (fun _ _ _ => contained_step) hrun

end Runs

end Homeflow.Adapters
