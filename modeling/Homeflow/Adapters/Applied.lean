import Homeflow.Adapters.Sent
import Homeflow.Commands.Serial

namespace Homeflow.Adapters

open Commands (fails)

section Run

variable {clock : Nat → Time} {coercion : Coercion} {wiring : Wiring} {applies : Uuid → Bool}
  {world after : World}

-- What a step keeps, and when it spares the commands that were written.
structure Stepped (wiring : Wiring) (applies : Uuid → Bool) (world : World) (label : Label)
    (after : World) : Prop where
  kept : Kept after
  spared : Spared applies after ↔ Spared applies world ∧ Fits wiring applies world label

theorem stepped_act (h : Kept world) {label : Commands.Label}
    (hact : world.act clock coercion label = some after)
    (hends : ∀ id outcome, label = .executeReturns id outcome → world.adapters.get? id = none)
    (hcancel : ∀ id, label ≠ .cancelTask id) :
    Stepped wiring applies world (.pipeline label) after := by
  obtain ⟨pipeline, hstep, rfl⟩ := Option.map_eq_some_iff.mp hact
  refine ⟨h.move hstep (fun id adapter hadapter => ?_) (fun _ hid => hid)
    (fun _ _ hnone => .inl hnone), ?_⟩
  · refine ⟨hadapter, Iff.rfl, fun outcome he => ?_, hcancel id⟩
    cases hadapter.symm.trans (hends id outcome he)
  · rw [spared_move applies world.adapters h hstep]
    · exact (and_iff_left trivial).symm
    · rintro id hid outcome rfl
      obtain ⟨task, htask, hphase⟩ := Commands.executing_of_returns hstep
      cases hphase.symm.trans (h.silent id hid (hends id outcome rfl) task htask)

theorem stepped_deadline (h : Kept world) {id : Uuid}
    (hact : (world.forget id).act clock coercion (.executeReturns id .deadline) = some after) :
    Stepped wiring applies world (.deadline id) after := by
  obtain ⟨pipeline, hstep, rfl⟩ := Option.map_eq_some_iff.mp hact
  refine ⟨h.leave (.inl ⟨_, rfl⟩) hstep (fun _ hid => hid) (fun _ _ hid => hid), ?_⟩
  have hspared := spared_move applies (world.forget id).adapters h hstep
    (by rintro _ _ _ ⟨⟩; rfl)
  exact hspared.trans (and_iff_left trivial).symm

theorem stepped_cancel (h : Kept world) {id : Uuid}
    (hact : (world.forget id).act clock coercion (.cancelTask id) = some after) :
    Stepped wiring applies world (.pipeline (.cancelTask id)) after := by
  obtain ⟨pipeline, hstep, rfl⟩ := Option.map_eq_some_iff.mp hact
  refine ⟨h.leave (.inr rfl) hstep (fun _ hid => hid) (fun _ _ hid => hid), ?_⟩
  have hspared := spared_move applies (world.forget id).adapters h hstep (by rintro _ _ _ ⟨⟩)
  exact hspared.trans (and_iff_left trivial).symm

theorem stepped_begin (h : Kept world) {id : Uuid} {now : Time} {task : Commands.Task}
    {adapter : Adapter} (htask : world.pipeline.tasks.get? id = some task)
    (hphase : task.phase = .executing) (hnone : world.adapters.get? id = none)
    (hstart : Adapter.start wiring task.ref ⟨task.running.action, task.params⟩ = some adapter)
    (hsettle : world.settle clock coercion wiring id now adapter = some after) :
    Stepped wiring applies world (.begin id now) after := by
  have hunsent : id ∉ world.sent := fun hid => by
    cases hphase.symm.trans (h.silent id hid hnone task htask)
  have hnew := h.ended.not_returned htask
  have hdomestic : world.foreign id = false := by
    unfold Adapter.start at hstart
    rw [World.foreign, htask, Option.any_some, decide_eq_false_iff_not]
    rintro ⟨hassistant, hbestway⟩
    rw [if_neg hassistant, if_neg hbestway] at hstart
    cases hstart
  unfold World.settle at hsettle
  split at hsettle
  · obtain ⟨pipeline, hstep, rfl⟩ := Option.map_eq_some_iff.mp hsettle
    refine ⟨h.leave (.inl ⟨_, rfl⟩) hstep (fun _ hid => hid) (fun _ _ hid => hid), ?_⟩
    have hspared := spared_leave applies (world.forget id).adapters h hstep hnew
      (h.ended.locked.known id task htask) fun other _ => Iff.refl (other ∈ world.sent)
    exact hspared.trans (and_congr_right fun _ =>
      ⟨fun _ => trivial, fun _ hid => absurd hid hunsent⟩)
  · obtain rfl := Option.some.inj hsettle
    refine ⟨h.set htask hphase hdomestic fun _ => hunsent, ?_⟩
    refine (spared_set hnew fun other hne => ?_).trans (and_iff_left trivial).symm
    split
    · simp [hne]
    · rfl

theorem stepped_event (h : Kept world) {id : Uuid} {now : Time} {adapter next : Adapter}
    {event : Event} (hadapter : world.adapters.get? id = some adapter)
    (hnext : adapter.step wiring now event = some next)
    (hsettle : ({ world with
        sent := if adapter.unsent event then world.sent.filter (· ≠ id) else world.sent
        } : World).settle clock coercion wiring id now next = some after) :
    Stepped wiring applies world (.event id now event) after := by
  obtain ⟨task, htask, hphase⟩ := h.executing id adapter hadapter
  have hnew := h.not_returned hadapter
  have hknown := h.ended.locked.known id task htask
  have hfits : Fits wiring applies world (.event id now event) ↔
      (applies id = true → adapter.wrote = true → adapter.Fits wiring event) := by
    simp only [Fits, hadapter, Option.some.injEq, forall_eq']
  unfold World.settle at hsettle
  split at hsettle
  · rename_i outcome houtcome
    obtain ⟨pipeline, hstep, rfl⟩ := Option.map_eq_some_iff.mp hsettle
    cases hunsent : adapter.unsent event with
    | true =>
        -- Nothing of the request has left the gateway.
        simp only [hunsent, if_true] at hstep ⊢
        have hgone : id ∉ world.sent.filter (· ≠ id) := by simp
        have hothers : ∀ other ≠ id, (other ∈ world.sent.filter (· ≠ id) ↔ other ∈ world.sent) := by
          intro other hne
          simp [hne]
        refine ⟨h.leave (.inl ⟨_, rfl⟩) hstep (fun _ hid => List.mem_of_mem_filter hid)
          (fun other hne hid => (hothers other hne).mpr hid), ?_⟩
        have hspared := spared_leave applies (world.forget id).adapters h hstep hnew hknown hothers
        rw [hfits]
        exact hspared.trans (and_congr_right fun _ =>
          ⟨fun _ _ _ => (unsent_ends hnext hunsent).2, fun _ hid => absurd hid hgone⟩)
    | false =>
        simp only [hunsent, Bool.false_eq_true, if_false] at hstep ⊢
        refine ⟨h.leave (.inl ⟨_, rfl⟩) hstep (fun _ hid => hid) (fun _ _ hid => hid), ?_⟩
        have hspared := spared_leave applies (world.forget id).adapters h hstep hnew hknown
          fun other _ => Iff.refl (other ∈ world.sent)
        have hdecides : adapter.wrote = true →
            (fails outcome = false ↔ adapter.Fits wiring event) := fun hwrote => by
          rw [← fits_iff hwrote hnext hunsent, houtcome]
          simp
        rw [hfits]
        refine hspared.trans (and_congr_right fun _ => ?_)
        rw [← h.wrote id adapter hadapter]
        exact ⟨fun hends happlies hwrote => (hdecides hwrote).mp (hends hwrote happlies),
          fun hanswer hwrote happlies => (hdecides hwrote).mpr (hanswer happlies hwrote)⟩
  · rename_i houtcome
    obtain rfl := Option.some.inj hsettle
    cases hunsent : adapter.unsent event with
    | true =>
        have hends := (unsent_ends hnext hunsent).1
        rw [houtcome] at hends
        cases hends
    | false =>
        simp only [Bool.false_eq_true, if_false]
        refine ⟨h.set htask hphase (h.domestic id adapter hadapter) fun hwrote hid => ?_, ?_⟩
        · have hbefore := (h.wrote id adapter hadapter).mpr hid
          cases hwrote.symm.trans (wrote_step hbefore hnext houtcome)
        · rw [hfits]
          refine (spared_set hnew fun other hne => ?_).trans (and_iff_left fun _ hwrote => ?_).symm
          · split
            · simp [hne]
            · rfl
          · refine (fits_iff hwrote hnext hunsent).mp fun outcome hended => ?_
            cases houtcome.symm.trans hended

theorem stepped (applies : Uuid → Bool) {label : Label} (h : Kept world)
    (hstep : world.step clock coercion wiring label = some after) :
    Stepped wiring applies world label after := by
  cases label with
  | pipeline label =>
      cases label with
      | executeReturns id outcome =>
          simp only [World.step] at hstep
          split at hstep
          · rename_i hforeign
            refine stepped_act h hstep ?_ (fun _ he => by cases he)
            rintro other _ ⟨⟩
            by_contra hsome
            obtain ⟨adapter, hadapter⟩ := Option.ne_none_iff_exists'.mp hsome
            cases hforeign.symm.trans (h.domestic id adapter hadapter)
          · cases hstep
      | cancelTask id => exact stepped_cancel h hstep
      | submit | enter | getStateReturns | ingest =>
          simp only [World.step] at hstep
          exact stepped_act h hstep (fun _ _ he => by cases he) (fun _ he => by cases he)
  | begin id now =>
      simp only [World.step] at hstep
      split at hstep
      · rename_i task htask hnone
        split at hstep
        · rename_i hphase
          obtain ⟨adapter, hstart, hsettle⟩ := Option.bind_eq_some_iff.mp hstep
          exact stepped_begin h htask hphase hnone hstart hsettle
        · cases hstep
      · cases hstep
  | event id now event =>
      obtain ⟨adapter, hadapter, hstep⟩ := Option.bind_eq_some_iff.mp hstep
      obtain ⟨next, hnext, hsettle⟩ := Option.bind_eq_some_iff.mp hstep
      exact stepped_event h hadapter hnext hsettle
  | deadline id =>
      simp only [World.step] at hstep
      split at hstep
      · exact stepped_deadline h hstep
      · cases hstep

theorem kept_initial (registry : DeviceRegistry) (providers : List String) :
    Kept (initial registry providers) :=
  ⟨Commands.ended_initial registry providers,
    fun _ _ hadapter => by simp [initial] at hadapter,
    fun _ _ hadapter => by simp [initial] at hadapter,
    fun _ _ hadapter => by simp [initial] at hadapter,
    fun _ hid => by simp [initial] at hid, fun _ hid => by simp [initial] at hid⟩

-- A command whose write the peer applies fails in some run exactly if an answer to it does
-- not fit there.
theorem applied_spared_iff {registry : DeviceRegistry} {providers : List String}
    {labels : List Label}
    (hrun : Machine.run (World.step clock coercion wiring) (initial registry providers) labels =
      some world) :
    (∀ id ∈ world.sent, applies id = true → ∀ command,
      world.pipeline.returned.get? id = some command → command.status ≠ .failed) ↔
    Machine.Guarded (World.step clock coercion wiring) (Fits wiring applies)
      (initial registry providers) labels := by
  have hspared : Spared applies (initial registry providers) := fun _ hid => by
    simp [initial] at hid
  refine Machine.good_iff_guarded (kept_initial registry providers) hspared ?_ hrun
  intro before label next hbefore hstep
  have h := stepped applies hbefore hstep
  exact ⟨h.kept, h.spared⟩

def hallWiring : Wiring where
  homeAssistant := { releasedDomains := ["light"], kinds := .set .empty "light.hall" .light }
  bestway := { profile := Bestway.AIRJET_19BYTE_PROFILE }
  float _ := none

def hallRegistry : DeviceRegistry :=
  DeviceRegistry.empty.register (fun _ => 1) (fun _ => 0)
    { ref := HomeAssistant.refFor "light.hall", suggestedName := "Hall", kind := .light
      capabilities := [.power] }
    { state := {}, availability := .online, observedAt := 0 }

def hallOn : Json := .obj [("entity_id", .str "light.hall"), ("state", .str "on")]

-- The light in the hall is switched on, and the instance answers this.
def switchedOn (response : HomeAssistant.Response) : List Label :=
  [.pipeline (.submit (Commands.switchOn 1)), .begin 0 0,
    .event 0 0 (.answered (.answered response))]

theorem applied_spared_iff_hall :
    ∃ world, Machine.run (World.step (fun _ => 0) Commands.strict hallWiring)
        (initial hallRegistry [HomeAssistant.PROVIDER_NAME])
        (switchedOn ⟨200, 2, .json (.arr [hallOn])⟩) = some world ∧
      ((∀ id ∈ world.sent, true = true → ∀ command,
        world.pipeline.returned.get? id = some command → command.status ≠ .failed) ↔
      Machine.Guarded (World.step (fun _ => 0) Commands.strict hallWiring)
        (Fits hallWiring fun _ => true) (initial hallRegistry [HomeAssistant.PROVIDER_NAME])
        (switchedOn ⟨200, 2, .json (.arr [hallOn])⟩)) := by
  have hruns : (Machine.run (World.step (fun _ => 0) Commands.strict hallWiring)
      (initial hallRegistry [HomeAssistant.PROVIDER_NAME])
      (switchedOn ⟨200, 2, .json (.arr [hallOn])⟩)).isSome := by
    decide +kernel
  obtain ⟨world, hrun⟩ := Option.isSome_iff_exists.mp hruns
  exact ⟨world, hrun, applied_spared_iff hrun⟩

-- The instance switches the light on, and a proxy before it answers that it did not.
theorem bad_gateway_fails_applied :
    ¬ ∀ (clock : Nat → Time) (coercion : Coercion) (wiring : Wiring) (applies : Uuid → Bool)
        (registry : DeviceRegistry) (providers : List String) (labels : List Label) (world : World),
      Machine.run (World.step clock coercion wiring) (initial registry providers) labels =
        some world →
      ∀ id ∈ world.sent, applies id = true → ∀ command,
        world.pipeline.returned.get? id = some command → command.status ≠ .failed := by
  intro h
  have hruns : (Machine.run (World.step (fun _ => 0) Commands.strict hallWiring)
      (initial hallRegistry [HomeAssistant.PROVIDER_NAME])
      (switchedOn ⟨502, 0, .valueError⟩)).any (fun world => decide (0 ∈ world.sent) &&
        (world.pipeline.returned.get? 0).any fun command => command.status = .failed) = true := by
    decide +kernel
  obtain ⟨world, hrun, hworld⟩ := (Option.any_eq_true _ _).mp hruns
  obtain ⟨hsent, hreturned⟩ := Bool.and_eq_true_iff.mp hworld
  obtain ⟨command, hcommand, hfailed⟩ := (Option.any_eq_true _ _).mp hreturned
  exact h _ _ hallWiring (fun _ => true) _ _ _ world hrun 0 (of_decide_eq_true hsent) rfl command
    hcommand (of_decide_eq_true hfailed)

end Run

end Homeflow.Adapters
