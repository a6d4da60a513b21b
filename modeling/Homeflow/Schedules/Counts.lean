import Homeflow.Schedules.Calls
import Homeflow.Schedules.Unattended

-- How many calls of submit the timers can come to.
namespace OrderedDict

variable {κ ν : Type*} [DecidableEq κ]

theorem length_set_le (dict : OrderedDict κ ν) (key : κ) (value : ν) :
    (dict.set key value).length ≤ dict.length + 1 := by
  have hsublist := (dict.keys_set_sublist key value).length_le
  rwa [List.length_append, length_keys, length_keys] at hsublist

theorem length_erase_of_get? {dict : OrderedDict κ ν} {key : κ} {value : ν}
    (h : dict.get? key = some value) : (dict.erase key).length < dict.length :=
  List.length_filter_lt_length_iff_exists.mpr ⟨_, (get?_eq_some_iff _ _ _).mp h, by simp⟩

end OrderedDict

namespace Homeflow.Schedules

open ScheduleService

variable {clock : Nat → Time} {maximum : ℚ} {count : Nat} {world after : World} {label : Label}
  {call : Option (Ticket × SubmitCall)}

def Label.creates : Label → Bool
  | .create _ _ _ => true
  | _ => false

-- Each request arms one timer at most, and makes one call at most besides.
structure Counted (count : Nat) (world : World) : Prop where
  armed : world.service.ids + world.creating.length ≤ count
  made : (made world.service.trace).length ≤ (firings world.service.trace).length + count

theorem counted_create {ticket : Ticket} {request : CreateRequest} {device : Option Device}
    (h : Counted count world)
    (hadvance : world.advance clock maximum (.create ticket request device) = some (after, call)) :
    Counted (count + 1) after := by
  have hmade := congrArg List.length (advance_made hadvance)
  have hprepared := quiet_prepare clock maximum world.service request device
  have harmed := h.armed
  have hbound := h.made
  rw [List.length_append] at hmade
  cases creates_of_advance hadvance with
  | refused hprepare =>
      rw [hprepare] at hprepared
      refine ⟨?_, ?_⟩
      · dsimp only
        rw [hprepared.ids]
        omega
      · rw [hmade, hprepared.unfired.firings_eq]
        exact hbound.trans (by omega)
  | @submits pending hprepare =>
      have hset := world.creating.length_set_le ticket pending
      refine ⟨?_, ?_⟩
      · change world.service.ids + (world.creating.set ticket pending).length ≤ count + 1
        omega
      · rw [hmade, (quiet_turnedOn world.service ticket (onCommand pending)).unfired.firings_eq,
          Option.toList_some, List.length_singleton]
        omega
  | @arms pending hprepare hkind =>
      refine ⟨?_, ?_⟩
      · dsimp only
        rw [arm_ids]
        omega
      · rw [hmade, (unfired_arm clock world.service pending none).firings_eq]
        exact hbound.trans (by omega)

-- The loop makes the calls it fires.
theorem next_fires (world : World) (ticket : Ticket) (due : List Schedule) :
    (firings (World.next clock world ticket due).1.service.trace).length =
      (firings world.service.trace).length + (World.next clock world ticket due).2.toList.length ∧
    (World.next clock world ticket due).1.service.ids = world.service.ids ∧
    (World.next clock world ticket due).1.creating = world.creating := by
  cases due with
  | nil => exact ⟨rfl, rfl, rfl⟩
  | cons timer rest =>
      refine ⟨?_, rfl, rfl⟩
      have hfirings := firings_emit world.service ⟨ticket, timer, fireCall timer,
        clock (world.service.reads - 1)⟩
      have hlength := congrArg List.length hfirings
      rwa [List.length_append] at hlength

theorem counted_next {before : World} {ticket : Ticket} {due : List Schedule}
    (h : Counted count before) (hids : world.service.ids = before.service.ids)
    (hcreating : world.creating = before.creating)
    (hfirings : firings world.service.trace = firings before.service.trace)
    (hmade : made (World.next clock world ticket due).1.service.trace =
      made before.service.trace ++ (World.next clock world ticket due).2.toList) :
    Counted count (World.next clock world ticket due).1 := by
  obtain ⟨hfires, hnextIds, hnextCreating⟩ := @next_fires clock world ticket due
  refine ⟨?_, ?_⟩
  · rw [hnextIds, hnextCreating, hids, hcreating]
    exact h.armed
  · have hbound := h.made
    rw [hmade, List.length_append, hfires, hfirings]
    omega

theorem counted_returns {ticket : Ticket} {outcome : SubmitOutcome} (h : Counted count world)
    (hadvance : world.advance clock maximum (.createReturns ticket outcome) =
      some (after, call)) : Counted count after := by
  have hmade := advance_made hadvance
  obtain ⟨pending, hpending, hafter⟩ := Option.map_eq_some_iff.mp hadvance
  cases hafter
  have herase := OrderedDict.length_erase_of_get? hpending
  have harmed := h.armed
  have hbound := h.made
  have hsame : firings (createResumes clock world.service pending outcome).1.trace =
      firings world.service.trace ∧
      (createResumes clock world.service pending outcome).1.ids ≤ world.service.ids + 1 := by
    cases outcome with
    | returned command =>
        simp only [createResumes]
        split
        · exact ⟨rfl, Nat.le_succ _⟩
        · exact ⟨(unfired_arm clock world.service pending (some command.id)).firings_eq,
            (arm_ids clock world.service pending (some command.id)).le⟩
    | refused | raised => exact ⟨rfl, Nat.le_succ _⟩
  refine ⟨?_, ?_⟩
  · change (createResumes clock world.service pending outcome).1.ids +
      (world.creating.erase ticket).length ≤ count
    omega
  · rw [hmade, hsame.1, Option.toList_none, List.append_nil]
    exact hbound

theorem counted_cancel {principal : Principal} {id : Uuid} (h : Counted count world) :
    Counted count { world with service := (cancel clock world.service principal id).1 } := by
  unfold cancel
  split
  · exact h
  · next schedule _ =>
    split
    · exact h
    · refine ⟨h.armed, ?_⟩
      rw [(unfired_settle _ _ _ _ _ _).firings_eq, made_settle]
      exact h.made

-- Nothing else of what happens asks for more.
theorem counted_runs (h : Counted count world) (hdirect : label.direct = false)
    (hcreates : label.creates = false)
    (hadvance : world.advance clock maximum label = some (after, call)) :
    Counted count after := by
  have hmade := advance_made hadvance
  cases label with
  | create ticket request device => cases hcreates
  | createReturns ticket outcome => exact counted_returns h hadvance
  | cancel principal id =>
      cases hadvance
      exact counted_cancel h
  | wake ticket =>
      simp only [World.advance] at hadvance
      split at hadvance
      · have hnext := Option.some.inj hadvance
        have hquiet := quiet_due clock world.service
        have hcounted := @counted_next clock count
          { world with service := (due clock world.service).1 } world ticket
          (due clock world.service).2 h hquiet.ids rfl hquiet.unfired.firings_eq
          (by rw [hnext]; exact hmade)
        rwa [hnext] at hcounted
      · cases hadvance
  | loopReturns outcome ticket =>
      simp only [World.advance] at hadvance
      split at hadvance
      · next called current rest hloop =>
        obtain ⟨status, failureCode, commandId, -, hsettle⟩ :=
          runResumes_settles clock world.service current outcome
        rw [hsettle] at hadvance
        have hnext := Option.some.inj hadvance
        have hcounted := @counted_next clock count
          { world with service := settle clock world.service current status failureCode commandId }
          world ticket rest h rfl rfl (unfired_settle _ _ _ _ _ _).firings_eq
          (by rw [hnext]; exact hmade)
        rwa [hnext] at hcounted
      · cases hadvance
  | stop =>
      cases hadvance
      exact ⟨h.armed, h.made⟩
  | fire | fireReturns => cases hdirect

-- No more calls than twice the requests.
theorem Counted.made_le (h : Counted count world) (hhandling : Handling clock world) :
    (Schedules.made world.service.trace).length ≤ 2 * count := by
  let ids := (firings world.service.trace).map fun firing => firing.timer.id
  have hrange : ids ⊆ List.range world.service.ids := by
    intro id hid
    obtain ⟨firing, hfiring, rfl⟩ := List.mem_map.mp hid
    obtain ⟨hrecord, -⟩ := hhandling.firable.armed firing hfiring
    exact List.mem_range.mpr (hhandling.firable.tidy.known _ hrecord)
  have hfired := (List.subperm_of_subset hhandling.firable.once hrange).length_le
  rw [List.length_map, List.length_range] at hfired
  have harmed := h.armed
  have hmade := h.made
  omega

end Homeflow.Schedules
