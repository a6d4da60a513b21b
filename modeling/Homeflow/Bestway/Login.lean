import Homeflow.Bestway.Handshake

namespace Homeflow.Bestway.Tasks

section Step

variable {link after : Link} {id : TaskId}

-- The lock, the counter and the transports say nothing about logins.
theorem Sound.frame (h : Sound link) (hstream : after.stream = link.stream)
    (hpending : after.pending = link.pending) (htasks : after.tasks = link.tasks)
    (htrace : after.trace = link.trace) : Sound after := by
  refine ⟨htrace ▸ h.used, htasks ▸ h.one, fun id task htask hconnecting => ?_, ?_⟩
  · have hhandshake := h.handshake id task (htasks ▸ htask) hconnecting
    unfold Handshake at hhandshake ⊢
    rw [hstream, hpending]
    exact hhandshake
  · rw [hstream, htrace, htasks]
    exact h.logged

theorem Sound.running (h : Sound link)
    (halone : ∀ other task, link.tasks.get? other = some task → task.point.connecting = true →
      other = id) : Running link id :=
  ⟨h.used, fun other task hne htask => by
    by_contra hconnecting
    exact hne (halone other task htask (Bool.not_eq_false _ ▸ hconnecting))⟩

-- Where the task that runs is not logging in, nobody is.
theorem Sound.logged_running (h : Sound link) (hrunning : Running link id)
    (hquiet : ∀ task, link.tasks.get? id = some task → task.point.handshaking = false) :
    Logged link := by
  refine h.logged fun other task htask => ?_
  by_cases he : other = id
  · exact hquiet task (he ▸ htask)
  · by_contra hhandshaking
    have hconnecting := connecting_of_handshaking (Bool.not_eq_false _ ▸ hhandshaking)
    cases (hrunning.others other task he htask).symm.trans hconnecting

theorem Sound.ready (h : Sound link) (hrunning : Running link id) {attempt : Nat}
    {request : Request} {phase : Phase}
    (htask : link.tasks.get? id = some ⟨attempt, .exchanging request phase⟩) :
    Ready link request := by
  cases request with
  | status =>
      refine h.logged_running hrunning fun task hheld => ?_
      obtain rfl := Option.some.inj (htask.symm.trans hheld)
      rfl
  | passcode | login =>
      obtain ⟨stream, hstream, hpending, -⟩ := h.handshake id _ htask rfl
      exact ⟨stream, hstream, hpending⟩

theorem Sound.sendControl (h : Sound link) (hrunning : Running link id) (hlogged : Logged link)
    (attrFlags : Nat) (attrVals : Bytes) : Sound (link.sendControl id attrFlags attrVals) := by
  let counted : Link := { link with sequence := (link.sequence + 1) % 2 ^ 32 }
  have hcounted : Sound counted := h.frame rfl rfl rfl rfl
  unfold Link.sendControl
  dsimp only
  split
  · rename_i payload stream _ hstream
    split
    · exact hcounted
    · have hwrote : Running (counted.emit
          (.wrote stream { command := Command.controlRequest.number, payload })) id := by
        refine ⟨h.used.concat fun other written he _ => ?_, hrunning.others⟩
        cases he
        exact hlogged stream hstream
      exact hwrote.put _ nofun fun _ other hother => (hlogged other hother).append _
  · exact hcounted

theorem Sound.resume {task : Task} (h : Sound link) (hrunning : Running link id)
    (htask : link.tasks.get? id = some task) (hstep : link.resume id task = some after) :
    Sound after := by
  have hlogged : task.point.handshaking = false → Logged link := fun hpoint =>
    h.logged_running hrunning fun held hheld => by
      obtain rfl := Option.some.inj (htask.symm.trans hheld)
      exact hpoint
  unfold Link.resume at hstep
  split at hstep
  · rename_i hpoint
    obtain rfl := Option.some.inj hstep
    have hnone := h.handshake id task htask (by simp [hpoint, Point.connecting])
    rw [hpoint] at hnone
    exact hrunning.put _ (fun _ => hnone) fun _ => logged_of_none hnone
  · rename_i hpoint
    obtain rfl := Option.some.inj hstep
    exact hrunning.caught (hlogged (by simp [hpoint, Point.handshaking])) _ _
  · rename_i hpoint
    have hfree := hlogged (by simp [hpoint, Point.handshaking])
    split at hstep
    · obtain rfl := Option.some.inj hstep
      exact hrunning.finish hfree
    · obtain rfl := Option.some.inj hstep
      exact hrunning.attempt hfree _
  · rename_i hpoint
    obtain rfl := Option.some.inj hstep
    exact hrunning.finish (hlogged (by simp [hpoint, Point.handshaking]))
  · cases hstep

-- A task is gone that was not logging in.
theorem Sound.finish (h : Sound link) {task : Task} (htask : link.tasks.get? id = some task)
    (hpoint : task.point.handshaking = false) : Sound (link.finish id) := by
  have hold : ∀ other held, (link.finish id).tasks.get? other = some held →
      link.tasks.get? other = some held := fun other held hheld => (get?_finish_eq_some.mp hheld).2
  refine ⟨h.used, fun first second one other hone hother =>
    h.one first second one other (hold first one hone) (hold second other hother),
    fun other held hheld hconnecting => ?_, fun hquiet => h.logged fun other held hheld => ?_⟩
  · have hhandshake := h.handshake other held (hold other held hheld) hconnecting
    cases hpoint : held.point <;> rw [hpoint] at hhandshake <;> exact hhandshake
  · by_cases he : other = id
    · subst he
      obtain rfl := Option.some.inj (htask.symm.trans hheld)
      exact hpoint
    · exact hquiet other held (get?_finish_eq_some.mpr ⟨he, hheld⟩)

theorem Sound.cancel (h : Sound link) {task : Task} (htask : link.tasks.get? id = some task)
    (hpoint : task.point.handshaking = false) : Sound (link.cancel id task) := by
  unfold Link.cancel
  split
  · have hleft : Sound { link with lock := link.lock.abandon id } := h.frame rfl rfl rfl rfl
    exact hleft.finish htask hpoint
  · have hleft : Sound link.release := h.frame rfl rfl rfl rfl
    exact hleft.finish htask hpoint
  · exact h.finish htask hpoint

theorem Sound.fails {task : Task} {error : ClientError} (h : Sound link)
    (hrunning : Running link id) (htask : link.tasks.get? id = some task)
    (hstep : link.fails id task error = some after) : Sound after := by
  obtain ⟨attempt, point⟩ := task
  have hreleased : Running link.release id := ⟨hrunning.used, hrunning.others⟩
  have hraised : ∀ request phase, point = .exchanging request phase →
      Sound (link.release.raised id attempt request error) := by
    rintro request phase rfl
    refine hreleased.raised attempt request error ?_
    rintro rfl
    exact h.ready hrunning htask
  unfold Link.fails at hstep
  split at hstep
  · obtain rfl := Option.some.inj hstep
    exact hraised _ _ ‹_›
  · obtain rfl := Option.some.inj hstep
    exact hraised _ _ ‹_›
  · rename_i hpoint
    obtain rfl := Option.some.inj hstep
    exact h.finish htask (by rw [hpoint]; rfl)
  · cases hstep

-- Frames that arrive on the connection an exchange reads are frames it may read.
theorem Sound.ready_chunk (h : Sound link) (hrunning : Running link id) {attempt : Nat}
    {request : Request} {stream : StreamId}
    (htask : link.tasks.get? id = some ⟨attempt, .exchanging request (.reading stream)⟩)
    (frames : List Bestway.Frame) :
    Ready { link with
      pending := link.pending ++ frames.map fun frame => (stream, frame) } request := by
  have hready := h.ready hrunning htask
  cases request with
  | status => exact hready
  | passcode | login =>
      -- It reads the connection it opened.
      obtain ⟨own, hown, hentries⟩ := hready
      obtain ⟨other, hother, -, hreads⟩ := h.handshake id _ htask rfl
      obtain rfl := Option.some.inj (hown.symm.trans hother)
      obtain rfl := hreads stream rfl
      refine ⟨stream, hown, fun entry hentry => ?_⟩
      rcases List.mem_append.mp hentry with hentry | hentry
      · exact hentries entry hentry
      · obtain ⟨frame, -, rfl⟩ := List.mem_map.mp hentry
        rfl

theorem sound_step {label : Label} (h : Sound link) (hguard : Undisturbed link label)
    (hstep : link.step label = some after) : Sound after := by
  have hrunning : ∀ id, label.task? = some id → Running link id := fun id hid =>
    h.running (hguard.alone id hid)
  have hidle : ∀ id, label.task? = some id → (link.tasks.get? id).isNone → Logged link := by
    intro id hid hnone
    refine h.logged_running (hrunning id hid) fun task htask => ?_
    simp [htask] at hnone
  cases label with
  | read id =>
      simp only [Link.step] at hstep
      split at hstep
      · rename_i hnone
        obtain rfl := Option.some.inj hstep
        exact (hrunning id rfl).attempt (hidle id rfl hnone) 1
      · cases hstep
  | control id attrFlags attrVals =>
      simp only [Link.step] at hstep
      split at hstep
      · rename_i hnone
        obtain rfl := Option.some.inj hstep
        exact h.sendControl (hrunning id rfl) (hidle id rfl hnone) attrFlags attrVals
      · cases hstep
  | aclose id =>
      simp only [Link.step] at hstep
      split at hstep
      · split at hstep
        · rename_i stream _
          obtain rfl := Option.some.inj hstep
          have hclosed : Running (link.close stream) id :=
            ⟨(hrunning id rfl).used, (hrunning id rfl).others⟩
          exact hclosed.put _ (fun h => by cases h) fun _ => logged_of_none rfl
        · obtain rfl := Option.some.inj hstep
          exact h
      · cases hstep
  | resume id =>
      obtain ⟨task, htask, hresume⟩ := Option.bind_eq_some_iff.mp hstep
      exact h.resume (hrunning id rfl) htask hresume
  | connected id =>
      simp only [Link.step] at hstep
      split at hstep
      · obtain rfl := Option.some.inj hstep
        exact (hrunning id rfl).connected _
      · cases hstep
  | refused id =>
      simp only [Link.step] at hstep
      split at hstep
      · rename_i htask
        obtain rfl := Option.some.inj hstep
        have hnone := h.handshake id _ htask rfl
        exact (hrunning id rfl).caught (logged_of_none hnone) _ _
      · cases hstep
  | enter id =>
      simp only [Link.step] at hstep
      split at hstep
      · rename_i attempt request htask
        obtain ⟨lock, -, rfl⟩ := Option.map_eq_some_iff.mp hstep
        have hentered : Running { link with lock } id :=
          ⟨(hrunning id rfl).used, (hrunning id rfl).others⟩
        have hready : Ready { link with lock } request := by
          have hready := h.ready (hrunning id rfl) htask
          cases request <;> exact hready
        exact hentered.send attempt hready
      · cases hstep
  | drained id =>
      simp only [Link.step] at hstep
      split at hstep
      · rename_i attempt request htask
        obtain rfl := Option.some.inj hstep
        exact (hrunning id rfl).suspend attempt (h.ready (hrunning id rfl) htask) (by simp)
      · rename_i htask
        obtain rfl := Option.some.inj hstep
        exact h.finish htask rfl
      · cases hstep
  | turn id =>
      simp only [Link.step] at hstep
      split at hstep
      · rename_i attempt request htask
        obtain rfl := Option.some.inj hstep
        exact (hrunning id rfl).turn attempt htask (h.ready (hrunning id rfl) htask)
      · cases hstep
  | chunk id frames =>
      simp only [Link.step] at hstep
      split at hstep
      · rename_i attempt request stream htask
        obtain rfl := Option.some.inj hstep
        have hfed : Running { link with
            pending := link.pending ++ frames.map fun frame => (stream, frame) } id :=
          ⟨(hrunning id rfl).used, (hrunning id rfl).others⟩
        exact hfed.suspend attempt (h.ready_chunk (hrunning id rfl) htask frames) (by simp)
      · cases hstep
  | fails id =>
      obtain ⟨task, htask, hfails⟩ := Option.bind_eq_some_iff.mp hstep
      exact h.fails (hrunning id rfl) htask hfails
  | misbehaves id =>
      simp only [Link.step] at hstep
      split at hstep
      · rename_i attempt request stream htask
        obtain rfl := Option.some.inj hstep
        have hreleased : Running link.release id :=
          ⟨(hrunning id rfl).used, (hrunning id rfl).others⟩
        refine hreleased.raised attempt request .misbehaved ?_
        rintro rfl
        exact h.ready (hrunning id rfl) htask
      · cases hstep
  | breaks stream =>
      obtain rfl := Option.some.inj hstep
      exact h.frame rfl rfl rfl rfl
  | cancel id =>
      obtain ⟨task, htask, rfl⟩ := Option.map_eq_some_iff.mp hstep
      exact h.cancel htask (hguard.uncancelled id task rfl htask)

-- As long as connect has the client to itself and is not cancelled half way, nothing is
-- asked of a controller before it has answered the login.
theorem login_before_use {labels : List Label}
    (hrun : Machine.run Link.step {} labels = some link)
    (hguard : Machine.Guarded Link.step Undisturbed {} labels) : LoginBeforeUse link.trace := by
  have hstart : Sound {} := by
    refine ⟨fun before stream frame after hsplit => ?_, by simp, by simp, by simp⟩
    cases before <;> cases hsplit
  have hsound : Sound link := Machine.guarded_invariant hstart
    (fun _ _ _ hbefore hlabel hstep => sound_step hbefore hlabel hstep) hrun hguard
  exact hsound.used

theorem undisturbed_iff {label : Label} :
    Undisturbed link label ↔
      (∀ id ∈ label.task?, ∀ entry ∈ link.tasks.entries, entry.2.point.connecting = true →
        entry.1 = id) ∧
      match label with
      | .cancel id => ∀ task ∈ link.tasks.get? id, task.point.handshaking = false
      | _ => True := by
  constructor
  · intro h
    refine ⟨fun id hid entry hentry => h.alone id hid entry.1 entry.2
      ((OrderedDict.get?_eq_some_iff _ _ _).mpr hentry), ?_⟩
    split
    · rename_i id
      exact fun task htask => h.uncancelled id task rfl htask
    · trivial
  · rintro ⟨halone, huncancelled⟩
    refine ⟨fun id hid other task htask => halone id hid (other, task)
      ((OrderedDict.get?_eq_some_iff _ _ _).mp htask), ?_⟩
    rintro id task rfl htask
    exact huncancelled task htask

instance (link : Link) (label : Label) : Decidable (Undisturbed link label) := by
  refine @decidable_of_iff' _ _ undisturbed_iff (@instDecidableAnd _ _ inferInstance ?_)
  cases label <;> infer_instance

def passcodeAnswer : Frame :=
  { command := Command.passcodeResponse.number, payload := [0x00, 0x02, 0x13, 0x37] }

-- The passcode is asked for, and its answer is there.
def handshake : List Label :=
  [.read 0, .connected 0, .drained 0, .turn 0, .chunk 0 [passcodeAnswer]]

def answerTo (request : Request) : Frame := { command := request.expect.number }

-- The login is answered too, and the status is asked for. A second task asks for it as well
-- and a third one writes, both over the connection that is there.
def loggedIn : List Label :=
  handshake ++ [.turn 0, .drained 0, .turn 0, .chunk 0 [answerTo (.login [])], .turn 0, .read 1,
    .control 2 1 [0x01], .drained 0, .turn 0, .chunk 0 [answerTo .status], .turn 0, .enter 1]

theorem login_before_use_alone :
    ∃ link, Machine.run Link.step {} loggedIn = some link ∧
      (link.trace.countP fun effect => effect = .wrote 0 Request.status.frame) = 2 ∧
      LoginBeforeUse link.trace := by
  obtain ⟨link, hrun, hasked⟩ := (Option.any_eq_true _ _).mp
    (show (Machine.run Link.step {} loggedIn).any (fun link => decide
      ((link.trace.countP fun effect => effect = .wrote 0 Request.status.frame) = 2)) = true by
        decide +kernel)
  exact ⟨link, hrun, of_decide_eq_true hasked, login_before_use hrun (by decide +kernel)⟩

-- A second read finds the client connected, queues behind the passcode and so comes before
-- the login.
theorem status_before_login :
    ¬ ∀ (labels : List Label) (link : Link), Machine.run Link.step {} labels = some link →
      LoginBeforeUse link.trace := by
  intro h
  have hruns : (Machine.run Link.step {} (.read 0 :: .connected 0 :: .read 1 ::
      [.drained 0, .turn 0, .chunk 0 [passcodeAnswer], .turn 0, .enter 1])).map Link.trace =
      some [.opened 0, .wrote 0 Request.passcode.frame, .received 0 passcodeAnswer,
        .wrote 0 Request.status.frame] := by decide +kernel
  obtain ⟨link, hrun, htrace⟩ := Option.map_eq_some_iff.mp hruns
  obtain ⟨frame, hmem, hcommand⟩ := h _ link hrun
    [.opened 0, .wrote 0 Request.passcode.frame, .received 0 passcodeAnswer] 0
    Request.status.frame [] htrace (.inl rfl)
  simp only [List.mem_cons, reduceCtorEq, Effect.received.injEq, true_and, false_or,
    List.not_mem_nil, or_false] at hmem
  subst hmem
  cases hcommand

end Step

end Homeflow.Bestway.Tasks
