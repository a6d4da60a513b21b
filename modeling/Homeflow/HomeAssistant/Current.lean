import Homeflow.HomeAssistant.Offers

namespace Homeflow.HomeAssistant

variable {clock : Nat → Time} {float : String → Option PyFloat} {kind : DeviceKind}
  {entityId : String}

section Pending

-- The changes of an entity among the frames, in order.
def pending (entityId : String) (frames : List Frame) : List (Option Members) :=
  frames.filterMap fun frame => match frame with
    | .event _ other newState => if other = entityId then some newState else none
    | _ => none

-- A frame that tells nothing of the entity.
def Elsewhere (entityId : String) (frame : Frame) : Prop :=
  ∃ commandId other newState, frame = .event commandId other newState ∧ other ≠ entityId

-- Once the frames are handled, what was seen last is what the instance holds.
def Tracks (float : String → Option PyFloat) (kind : DeviceKind) (entityId : String)
    (held : Option Members) (seen : Option ProviderState) (frames : List Frame) : Prop :=
  ∃ believed, Reflects float kind entityId believed seen ∧
    (pending entityId frames).getLastD believed = held

variable {held : Option Members} {seen : Option ProviderState} {frames : List Frame}

theorem Tracks.reflects (h : Tracks float kind entityId held seen []) :
    Reflects float kind entityId held seen := by
  obtain ⟨believed, hreflects, hheld⟩ := h
  exact hheld ▸ hreflects

theorem Reflects.tracks (h : Reflects float kind entityId held seen) :
    Tracks float kind entityId held seen [] := ⟨held, h, rfl⟩

theorem pending_append (frames more : List Frame) :
    pending entityId (frames ++ more) = pending entityId frames ++ pending entityId more :=
  List.filterMap_append

theorem pending_event_same (commandId : Int) (newState : Option Members) (rest : List Frame) :
    pending entityId (.event commandId entityId newState :: rest) =
      newState :: pending entityId rest :=
  List.filterMap_cons_some (if_pos rfl)

theorem pending_event_other (commandId : Int) {other : String} (newState : Option Members)
    (rest : List Frame) (hne : other ≠ entityId) :
    pending entityId (.event commandId other newState :: rest) = pending entityId rest :=
  List.filterMap_cons_none (if_neg hne)

-- A change is sent as it is made.
theorem tracks_change (commandId : Int) (newState : Option Members)
    (h : Tracks float kind entityId held seen frames) :
    Tracks float kind entityId newState seen (frames ++ [.event commandId entityId newState]) := by
  obtain ⟨believed, hreflects, -⟩ := h
  refine ⟨believed, hreflects, ?_⟩
  rw [pending_append]
  simp [pending]

theorem Tracks.elsewhere {frame : Frame} (h : Tracks float kind entityId held seen frames)
    (hframe : Elsewhere entityId frame) :
    Tracks float kind entityId held seen (frames ++ [frame]) := by
  obtain ⟨believed, hreflects, hheld⟩ := h
  obtain ⟨commandId, other, newState, rfl, hne⟩ := hframe
  refine ⟨believed, hreflects, ?_⟩
  rw [pending_append]
  simpa [pending, hne] using hheld

end Pending

section Current

-- What holds of one entity while its changes are watched or it does not change.
def Current (float : String → Option PyFloat) (kind : DeviceKind) (entityId : String)
    (world : World) : Prop :=
  let tracks := Tracks float kind entityId (world.home.get? entityId) (world.stream.last entityId)
  match world.phase with
  | .failed => True
  | .requesting =>
      world.socket = [] ∧ world.subscription = none ∧ world.answered = false ∧
        ∀ exchange, world.response = some exchange → ∃ home : OrderedDict String Members,
          ∃ contentLength, exchange = .answered ⟨200, contentLength,
            .json (.arr (home.entries.map fun entry => stateObject entry.1 entry.2))⟩ ∧
          home.get? entityId = world.home.get? entityId
  | .connecting | .authenticating =>
      world.subscription = none ∧ world.answered = false ∧ tracks [] ∧ world.socket.length ≤ 1
  | .waiting commandId =>
      (∀ served, world.subscription = some served → served = commandId) ∧
        if world.answered then
          ∃ skipped success rest, world.socket = skipped ++ .result commandId success :: rest ∧
            (∀ frame ∈ skipped, Elsewhere entityId frame) ∧
            (success = true → world.subscription.isSome ∧ tracks rest)
        else (∀ frame ∈ world.socket, Elsewhere entityId frame) ∧ tracks []
  | .following => world.answered = true ∧ world.subscription.isSome ∧ tracks world.socket

structure Kept (float : String → Option PyFloat) (kind : DeviceKind) (entityId : String)
    (world : World) : Prop where
  discovered : world.stream.provider.kinds.get? entityId = some kind
  current : Current float kind entityId world

variable {world after : World}

theorem get?_change (other : String) (newState : Option Members) :
    (world.change other newState).home.get? entityId =
      if entityId = other then newState else world.home.get? entityId := by
  cases newState with
  | none => exact OrderedDict.get?_erase _ _ _
  | some members => exact OrderedDict.get?_set _ _ _ _

theorem socket_change (other : String) (newState : Option Members) {commandId : Int}
    (h : world.subscription = some commandId) :
    (world.change other newState).socket = world.socket ++ [.event commandId other newState] := by
  simp [World.change, h]

theorem tracks_changed {frames : List Frame} (other : String) (newState : Option Members)
    (commandId : Int) (h : Tracks float kind entityId (world.home.get? entityId)
      (world.stream.last entityId) frames) :
    Tracks float kind entityId ((world.change other newState).home.get? entityId)
      (world.stream.last entityId) (frames ++ [.event commandId other newState]) := by
  rw [get?_change]
  split
  · rename_i he
    subst he
    exact tracks_change commandId newState h
  · rename_i hne
    exact h.elsewhere ⟨commandId, other, newState, rfl, Ne.symm hne⟩

-- A change behind the answer to the subscription is tracked if the answer grants it.
theorem answered_change (other : String) (newState : Option Members) {skipped rest : List Frame}
    {commandId : Int} {success : Bool}
    (hsocket : world.socket = skipped ++ .result commandId success :: rest)
    (htracks : success = true → world.subscription.isSome ∧
      Tracks float kind entityId (world.home.get? entityId) (world.stream.last entityId) rest) :
    ∃ more, (world.change other newState).socket =
        skipped ++ .result commandId success :: more ∧
      (success = true → (world.change other newState).subscription.isSome ∧
        Tracks float kind entityId ((world.change other newState).home.get? entityId)
          (world.stream.last entityId) more) := by
  cases hsub : world.subscription with
  | none =>
      refine ⟨rest, by simp [World.change, hsub, hsocket], fun hsuccess => ?_⟩
      have hsubscribed := (htracks hsuccess).1
      rw [hsub] at hsubscribed
      cases hsubscribed
  | some served =>
      refine ⟨rest ++ [.event served other newState], ?_, fun hsuccess => ⟨?_, ?_⟩⟩
      · rw [socket_change other newState hsub, hsocket]
        simp
      · simp [World.change, hsub]
      · exact tracks_changed other newState served (htracks hsuccess).2

theorem elsewhere_change {other : String} (newState : Option Members)
    (hsocket : ∀ frame ∈ world.socket, Elsewhere entityId frame) (hne : other ≠ entityId) :
    ∀ frame ∈ (world.change other newState).socket, Elsewhere entityId frame := by
  cases hsub : world.subscription with
  | none => simpa [World.change, hsub] using hsocket
  | some served =>
      rw [socket_change other newState hsub]
      intro frame hframe
      rcases List.mem_append.mp hframe with hframe | hframe
      · exact hsocket frame hframe
      · obtain rfl := List.mem_singleton.mp hframe
        exact ⟨served, other, newState, rfl, hne⟩

theorem current_change (h : Current float kind entityId world) (other : String)
    (newState : Option Members)
    (hguard : other = entityId → world.unwatched = false) :
    Current float kind entityId (world.change other newState) := by
  have hphase : (world.change other newState).phase = world.phase := rfl
  -- Unwatched means that the entity keeps its state.
  have hsame : world.unwatched = true →
      (world.change other newState).home.get? entityId = world.home.get? entityId := by
    intro hunwatched
    rw [get?_change, if_neg]
    rintro rfl
    cases hunwatched.symm.trans (hguard rfl)
  unfold Current at h ⊢
  rw [hphase]
  cases hcase : world.phase with
  | failed => trivial
  | requesting =>
      rw [hcase] at h
      obtain ⟨hsocket, hsubscription, hanswered, hresponse⟩ := h
      refine ⟨?_, hsubscription, hanswered, fun exchange hexchange => ?_⟩
      · simp [World.change, hsubscription, hsocket]
      · obtain ⟨home, contentLength, heq, hget⟩ := hresponse exchange hexchange
        have hresponded : world.response = some exchange := hexchange
        exact ⟨home, contentLength, heq,
          hget.trans (hsame (by simp [World.unwatched, hresponded, hanswered])).symm⟩
  | connecting | authenticating =>
      rw [hcase] at h
      obtain ⟨hsubscription, hanswered, htracks, hsocket⟩ := h
      refine ⟨hsubscription, hanswered, ?_, ?_⟩
      · rw [hsame (by simp [World.unwatched, hcase, hanswered])]
        exact htracks
      · simp only [World.change, hsubscription]
        exact hsocket
  | waiting commandId =>
      rw [hcase] at h
      obtain ⟨hserved, h⟩ := h
      refine ⟨hserved, ?_⟩
      have hanswered : (world.change other newState).answered = world.answered := rfl
      rw [hanswered]
      cases hcase' : world.answered with
      | true =>
          rw [hcase', if_pos rfl] at h
          obtain ⟨skipped, success, rest, hsocket, hskipped, htracks⟩ := h
          obtain ⟨more, hmore, htracks'⟩ := answered_change other newState hsocket htracks
          rw [if_pos rfl]
          exact ⟨skipped, success, more, hmore, hskipped, htracks'⟩
      | false =>
          rw [hcase', if_neg (by simp)] at h
          obtain ⟨hsocket, htracks⟩ := h
          rw [if_neg (by simp)]
          have hunwatched : world.unwatched = true := by
            simp [World.unwatched, hcase, hcase']
          rw [hsame hunwatched]
          refine ⟨elsewhere_change newState hsocket fun he => ?_, htracks⟩
          cases hunwatched.symm.trans (hguard he)
  | following =>
      rw [hcase] at h
      obtain ⟨hanswered, hsubscription, htracks⟩ := h
      obtain ⟨served, hserved⟩ := Option.isSome_iff_exists.mp hsubscription
      refine ⟨hanswered, hsubscription, ?_⟩
      rw [socket_change other newState hserved]
      exact tracks_changed other newState served htracks

end Current

end Homeflow.HomeAssistant
