import Homeflow.Bestway.Buffer
import Homeflow.Bestway.Probe
import Homeflow.Lib.Machine

namespace Homeflow.Bestway.Probe

def Diagnosis.next (diagnosis : Diagnosis) (window : Window) : Option Diagnosis :=
  (diagnosis.step window).map Prod.fst

def streamOf (windows : List Window) : Bytes := (windows.map Window.received).flatten

-- A stream as it arrives: each read returns so many bytes at most.
def DividedOver (stream : Bytes) (windows : List Window) : Prop :=
  streamOf windows = stream ∧ ∀ window ∈ windows, ∀ chunk ∈ window, chunk.length ≤ 4096

-- Bytes that are a frame, and bytes that no frame begins with.
def IsPiece (piece : Bytes) : Prop :=
  (∃ frame, decodeFrame piece = .ok (frame, piece.length)) ∨
    ∀ more found, decodeFrame (piece ++ more) ≠ .ok found

-- A passcode response behind frames and malformed bytes in any order.
def Delivered (stream passcode : Bytes) : Prop :=
  ∃ (pieces : List Bytes) (response behind : Bytes) (frame : Frame),
    stream = pieces.flatten ++ (response ++ behind) ∧ (∀ piece ∈ pieces, IsPiece piece) ∧
      decodeFrame response = .ok (frame, response.length) ∧
      frame.command = Command.passcodeResponse.number ∧
      decodeLengthPrefixed frame.payload = .ok passcode

-- A raw line printed once a passcode response has come in does not hold the passcode.
def NeverShown (windows : List Window) : Prop :=
  ∀ earlier window later, windows = earlier ++ window :: later →
    ∀ before after lines, Machine.run Diagnosis.next {} earlier = some before →
      before.step window = some (after, lines) →
      ∀ passcode, Delivered (streamOf (earlier ++ [window])) passcode → passcode ≠ [] →
        ∀ dump, .raw dump ∈ lines → ¬hex passcode <:+: dump

-- The reader takes a window in: what it holds together with it fits and is of frames.
def Takes (diagnosis : Diagnosis) (window : Window) : Prop :=
  (diagnosis.frames.buffer ++ window.received).length ≤ 4 * MAX_PAYLOAD_BYTES ∧
    Framed (diagnosis.frames.buffer ++ window.received)

section Delivered

variable {stream passcode : Bytes}

theorem Delivered.append (h : Delivered stream passcode) (more : Bytes) :
    Delivered (stream ++ more) passcode := by
  obtain ⟨pieces, response, behind, frame, rfl, hresponse⟩ := h
  exact ⟨pieces, response, behind ++ more, frame, by simp only [List.append_assoc], hresponse⟩

-- A passcode is a part of the stream that delivers it.
theorem Delivered.part (h : Delivered stream passcode) : passcode <:+: stream := by
  obtain ⟨pieces, response, behind, frame, rfl, -, hdecode, -, hpasscode⟩ := h
  obtain ⟨length, body, rest, rfl, -, -, -, -, -, rfl⟩ := decodeFrame_eq_ok hdecode
  have hpayload : passcode <:+ body.drop 3 := by
    unfold decodeLengthPrefixed at hpasscode
    dsimp only at hpasscode
    split at hpasscode
    · cases hpasscode
    · split at hpasscode
      · split at hpasscode
        · cases hpasscode
        · obtain rfl := Except.ok.inj hpasscode
          exact List.suffix_rfl
      · obtain rfl := Except.ok.inj hpasscode
        exact List.drop_suffix _ _
  have hresponse : body <:+: MAGIC ++ length ++ body ++ rest := ⟨MAGIC ++ length, rest, rfl⟩
  have hstream : MAGIC ++ length ++ body ++ rest <:+:
      pieces.flatten ++ (MAGIC ++ length ++ body ++ rest ++ behind) :=
    ⟨pieces.flatten, behind, by rw [List.append_assoc]⟩
  exact ((hpayload.trans (List.drop_suffix 3 body)).isInfix.trans hresponse).trans hstream

-- In a stream of frames a passcode response is one of them.
theorem Delivered.mem_drain (h : Delivered stream passcode)
    (hsound : ((frameDecoder id).drain stream).malformed = false) :
    ∃ entry ∈ ((frameDecoder id).drain stream).frames, passcode ∈ secretsOf entry.1 := by
  obtain ⟨pieces, response, behind, frame, rfl, hpieces, hdecode, hcommand, hpasscode⟩ := h
  have hresponse (more : Bytes) : decodeFrame (response ++ more) = .ok (frame, response.length) :=
    (decodeFrame_append hdecode more).1
  have hlong := (decodeFrame_append hdecode []).2.1
  induction pieces with
  | nil =>
      rw [List.flatten_nil, List.nil_append, Decoder.drain_frame (decode_eq_frame (hresponse _))]
      refine ⟨_, List.mem_cons_self, ?_⟩
      simp [secretsOf, hcommand, hpasscode, Except.toOption]
  | cons piece pieces ih =>
      obtain ⟨hpiece, hpieces⟩ := List.forall_mem_cons.mp hpieces
      rw [List.flatten_cons, List.append_assoc] at hsound ⊢
      rcases hpiece with ⟨first, hfirst⟩ | hnever
      · have hframe := decode_eq_frame
          (decodeFrame_append hfirst (pieces.flatten ++ (response ++ behind))).1
        rw [Decoder.drain_frame hframe, List.drop_left] at hsound ⊢
        obtain ⟨entry, hentry, hknown⟩ := ih hsound hpieces
        exact ⟨entry, List.mem_cons_of_mem _ hentry, hknown⟩
      -- With the response behind them there are bytes enough for the reader to refuse them.
      · generalize hmore : pieces.flatten ++ (response ++ behind) = more at hsound
        have henough : FRAME_HEAD_BYTES ≤ (piece ++ more).length := by
          have hhead : FRAME_HEAD_BYTES = 8 := rfl
          rw [← hmore]
          simp only [List.length_append]
          omega
        cases hverdict : decodeFrame (piece ++ more) with
        | ok found => exact absurd hverdict (hnever more found)
        | error error =>
            cases error with
            | incompleteFrame message =>
                obtain ⟨later, found, hfound⟩ := decodeFrame_completes hverdict henough
                rw [List.append_assoc] at hfound
                exact absurd hfound (hnever _ found)
            | refused message =>
                have hnonempty : piece ++ more ≠ [] := by
                  rintro hnil
                  rw [hnil] at henough
                  cases henough
                rw [Decoder.drain_malformed hnonempty (decode_eq_malformed hverdict)] at hsound
                cases hsound

end Delivered

section Follows

-- The reader stands where the stream does, and what it has read is known.
structure Follows (diagnosis : Diagnosis) (stream : Bytes) : Prop where
  sound : ((frameDecoder id).drain stream).malformed = false
  buffer : diagnosis.frames.buffer = ((frameDecoder id).drain stream).rest
  known : ∀ entry ∈ ((frameDecoder id).drain stream).frames,
    ∀ secret ∈ secretsOf entry.1, secret ∈ diagnosis.secrets

variable {diagnosis after : Diagnosis} {stream : Bytes} {window : Window} {lines : List Line}

theorem follows_start : Follows {} [] := ⟨rfl, rfl, by simp⟩

theorem Follows.knows (h : Follows diagnosis stream) {passcode : Bytes}
    (hdelivered : Delivered stream passcode) : passcode ∈ diagnosis.secrets := by
  obtain ⟨entry, hentry, hsecret⟩ := hdelivered.mem_drain h.sound
  exact h.known entry hentry passcode hsecret

theorem secrets_subset (hstep : diagnosis.step window = some (after, lines)) :
    diagnosis.secrets ⊆ after.secrets := by
  rcases step_cases hstep with ⟨-, -, hsame, -⟩ | ⟨-, -, -, ⟨-, hsame⟩ | ⟨entries, -, hknown⟩⟩
  · exact hsame ▸ List.Subset.refl _
  · exact hsame ▸ List.Subset.refl _
  · exact hknown ▸ List.subset_append_left _ _

-- What is known by the end of a window is not shown in it.
theorem step_hides (hstep : diagnosis.step window = some (after, lines)) {secret : Bytes}
    (hsecret : secret ∈ after.secrets) (hne : secret ≠ []) {dump : List Char}
    (hdump : .raw dump ∈ lines) : ¬hex secret <:+: dump := by
  rcases step_cases hstep with ⟨-, -, -, hnone⟩ | ⟨-, -, hraw, -⟩
  · exact absurd hdump (hnone dump)
  · obtain rfl := (hraw dump).mp hdump
    exact not_infix_redactHex hsecret hne _

theorem Follows.step (h : Follows diagnosis stream) (htakes : Takes diagnosis window)
    (hstep : diagnosis.step window = some (after, lines)) :
    Follows after (stream ++ window.received) := by
  have hreturns := (diagnosis.frames.feed_isSome_iff window.received).mpr htakes
  have hsound := (framed_iff _).mp htakes.2
  have hdrain := Decoder.drain_append window.received h.sound
  rw [← h.buffer] at hdrain
  rcases step_cases hstep with ⟨hnone, hframes, hsecrets, -⟩ |
    ⟨-, hframes, -, ⟨hraises, -⟩ | ⟨entries, hentries, hknown⟩⟩
  · rw [hnone, List.append_nil]
    exact ⟨h.sound, hframes ▸ h.buffer, hsecrets ▸ h.known⟩
  · rw [hraises] at hreturns
    cases hreturns
  · have hfits : ¬(diagnosis.frames.buffer ++ window.received).length > MAX_PAYLOAD_BYTES * 4 := by
      have hle := htakes.1
      omega
    simp only [FrameReader.feed, if_neg hfits, hsound, Bool.false_eq_true, if_false,
      Option.some.injEq] at hframes hentries
    refine ⟨by rw [hdrain]; exact hsound, by rw [hdrain, hframes], ?_⟩
    intro entry hentry secret hsecret
    rw [hdrain] at hentry
    rw [hknown, List.mem_append]
    rcases List.mem_append.mp hentry with hold | hnew
    · exact .inl (h.known entry hold secret hsecret)
    · refine .inr (List.mem_flatMap.mpr ⟨entry.1, ?_, hsecret⟩)
      exact List.mem_map_of_mem (hentries ▸ hnew)

theorem Follows.run (h : Follows diagnosis stream) {windows : List Window}
    (hguard : Machine.Guarded Diagnosis.next Takes diagnosis windows)
    (hrun : Machine.run Diagnosis.next diagnosis windows = some after) :
    Follows after (stream ++ streamOf windows) := by
  induction windows generalizing diagnosis stream with
  | nil =>
      obtain rfl := Option.some.inj hrun
      rwa [streamOf, List.map_nil, List.flatten_nil, List.append_nil]
  | cons window windows ih =>
      obtain ⟨next, hnext, hlater⟩ := Option.bind_eq_some_iff.mp hrun
      obtain ⟨⟨_, lines⟩, hstep, rfl⟩ := Option.map_eq_some_iff.mp hnext
      have hfollows := ih (h.step hguard.1 hstep) (hguard.2 _ hnext) hlater
      rwa [List.append_assoc] at hfollows

theorem secrets_subset_run {windows : List Window}
    (hrun : Machine.run Diagnosis.next diagnosis windows = some after) :
    diagnosis.secrets ⊆ after.secrets := by
  have hkept : ∀ before window next, diagnosis.secrets ⊆ before.secrets →
      Diagnosis.next before window = some next → diagnosis.secrets ⊆ next.secrets := by
    intro before window next hbefore hnext
    obtain ⟨⟨_, lines⟩, hstep, rfl⟩ := Option.map_eq_some_iff.mp hnext
    exact fun secret hsecret => secrets_subset hstep (hbefore hsecret)
  exact @Machine.invariant _ _ _ (fun state => diagnosis.secrets ⊆ state.secrets) _ _ _
    (List.Subset.refl _) hkept hrun

end Follows

-- Every passcode comes in before the first window that the reader does not take in.
def TakenIn (windows : List Window) : Prop :=
  ∀ passcode, Delivered (streamOf windows) passcode → passcode ≠ [] →
    ∃ taken, taken <+: windows ∧ Machine.Guarded Diagnosis.next Takes {} taken ∧
      Delivered (streamOf taken) passcode

section Hidden

variable {windows taken : List Window} {after : Diagnosis} {passcode : Bytes}

theorem streamOf_append (first second : List Window) :
    streamOf (first ++ second) = streamOf first ++ streamOf second := by
  rw [streamOf, List.map_append, List.flatten_append]
  rfl

-- What came in with the windows that were taken in is known from then on.
theorem knows_of_taken (hrun : Machine.run Diagnosis.next {} windows = some after)
    (htaken : taken <+: windows) (hguard : Machine.Guarded Diagnosis.next Takes {} taken)
    (hdelivered : Delivered (streamOf taken) passcode) : passcode ∈ after.secrets := by
  obtain ⟨rest, rfl⟩ := htaken
  rw [Machine.run_append] at hrun
  obtain ⟨middle, hmiddle, hlater⟩ := Option.bind_eq_some_iff.mp hrun
  have hfollows := follows_start.run hguard hmiddle
  exact secrets_subset_run hlater (hfollows.knows hdelivered)

theorem neverShown_of_takenIn (h : TakenIn windows) : NeverShown windows := by
  rintro earlier window later rfl before after lines hbefore hstep passcode hdelivered hne dump
    hdump
  have hsplit : earlier ++ window :: later = (earlier ++ [window]) ++ later := by simp
  have hrun : Machine.run Diagnosis.next {} (earlier ++ [window]) = some after :=
    Machine.run_concat.mpr ⟨before, hbefore, by rw [Diagnosis.next, hstep]; rfl⟩
  obtain ⟨taken, htaken, hguard, hown⟩ :=
    h passcode (by rw [hsplit, streamOf_append]; exact hdelivered.append _) hne
  refine step_hides hstep ?_ hne hdump
  rcases List.prefix_or_prefix_of_prefix htaken ⟨later, hsplit.symm⟩ with hshort | ⟨rest, rfl⟩
  · exact knows_of_taken hrun hshort hguard hown
  · exact knows_of_taken hrun List.prefix_rfl ((Machine.guarded_append rest hrun).mp hguard).1
      hdelivered

-- A short stream of frames is taken in however it is divided.
theorem guarded_of_framed {diagnosis : Diagnosis} {stream : Bytes}
    (h : Follows diagnosis stream)
    (hfits : (stream ++ streamOf windows).length ≤ 4 * MAX_PAYLOAD_BYTES)
    (hframed : Framed (stream ++ streamOf windows)) :
    Machine.Guarded Diagnosis.next Takes diagnosis windows := by
  induction windows generalizing diagnosis stream with
  | nil => trivial
  | cons window windows ih =>
      have hsplit : stream ++ streamOf (window :: windows) =
          (stream ++ window.received) ++ streamOf windows := (List.append_assoc _ _ _).symm
      rw [hsplit] at hfits hframed
      have hsound := Decoder.sound_of_append frameDecoder_settles ((framed_iff _).mp hframed)
      rw [Decoder.drain_append _ h.sound, ← h.buffer] at hsound
      have hlength := congrArg List.length (Decoder.drain_flatten (frameDecoder id) stream)
      rw [← h.buffer] at hlength
      have htakes : Takes diagnosis window := by
        refine ⟨?_, (framed_iff _).mpr hsound⟩
        simp only [List.length_append] at hfits hlength ⊢
        omega
      refine ⟨htakes, fun next hnext => ?_⟩
      obtain ⟨⟨_, lines⟩, hstep, rfl⟩ := Option.map_eq_some_iff.mp hnext
      exact ih (h.step htakes hstep) hfits hframed

end Hidden

section Shown

variable {earlier : List Window} {window : Window} {before : Diagnosis} {passcode : Bytes}

-- A window that makes the reader raise is shown as it is while nothing is known.
theorem shown_of_not_takes (hrun : Machine.run Diagnosis.next {} earlier = some before)
    (hstage : before.stage ≠ .ended) (hsecrets : before.secrets = [])
    (hraises : ¬Takes before window)
    (hdelivered : Delivered (streamOf (earlier ++ [window])) passcode) (hne : passcode ≠ [])
    (hoccurs : passcode <:+: window.received) : ¬NeverShown (earlier ++ [window]) := by
  intro h
  obtain ⟨after, lines, hstep⟩ : ∃ after lines, before.step window = some (after, lines) := by
    rw [Diagnosis.step, if_neg hstage]
    exact ⟨_, _, rfl⟩
  have hnever := h earlier window [] rfl before after lines hrun hstep passcode hdelivered hne
  rcases step_cases hstep with ⟨hnone, -⟩ |
    ⟨-, -, hraw, ⟨-, hsame⟩ | ⟨entries, hentries, -⟩⟩
  · rw [hnone] at hoccurs
    exact hne (List.infix_nil.mp hoccurs)
  · rw [hsame, hsecrets] at hraw
    exact hnever _ ((hraw _).mpr rfl) (hex_part hoccurs)
  · refine hraises ((before.frames.feed_isSome_iff window.received).mp ?_)
    rw [hentries]
    rfl

-- Each byte is read on its own.
theorem received_singletons (stream : Bytes) :
    Window.received (stream.map fun byte => [byte]) = stream := by
  induction stream with
  | nil => rfl
  | cons byte stream ih =>
      rw [List.map_cons, Window.received, Window.read, if_neg (List.cons_ne_nil _ _)]
      exact congrArg (byte :: ·) ih

end Shown

-- For a run, and for a stream in every division of it.
theorem hidden_iff (windows : List Window) (stream : Bytes) :
    (TakenIn windows → NeverShown windows) ∧
      ((∀ division, DividedOver stream division → NeverShown division) ↔
        (∀ passcode, Delivered stream passcode → passcode = []) ∨
          stream.length ≤ 4 * MAX_PAYLOAD_BYTES ∧ Framed stream) := by
  refine ⟨neverShown_of_takenIn, fun h => ?_, ?_⟩
  · by_contra hnot
    obtain ⟨hsome, hlost⟩ := not_or.mp hnot
    obtain ⟨passcode, hsome⟩ := not_forall.mp hsome
    obtain ⟨hdelivered, hne⟩ := Classical.not_imp.mp hsome
    have hreceived := received_singletons stream
    have hstream : streamOf [stream.map fun byte => [byte]] = stream := by
      simp [streamOf, hreceived]
    have hdivided : DividedOver stream [stream.map fun byte => [byte]] := by
      refine ⟨hstream, fun window hwindow chunk hchunk => ?_⟩
      obtain rfl := List.mem_singleton.mp hwindow
      obtain ⟨byte, -, rfl⟩ := List.mem_map.mp hchunk
      simp
    refine @shown_of_not_takes [] _ {} passcode rfl (by simp) rfl ?_
      (hstream.symm ▸ hdelivered) hne (hreceived.symm ▸ hdelivered.part) (h _ hdivided)
    rw [Takes, hreceived]
    exact hlost
  · rintro (hnone | ⟨hfits, hframed⟩) division ⟨hstream, -⟩
    · intro earlier window later hsplit before after lines _ _ passcode hdelivered hne
      have hlater : earlier ++ window :: later = (earlier ++ [window]) ++ later := by simp
      rw [hsplit, hlater, streamOf_append] at hstream
      exact absurd (hnone passcode (hstream ▸ hdelivered.append _)) hne
    · refine neverShown_of_takenIn fun passcode hdelivered hne => ?_
      have hguard := @guarded_of_framed division {} [] follows_start
        (by simpa [hstream] using hfits) (by simpa [hstream] using hframed)
      exact ⟨division, List.prefix_rfl, hguard, hdelivered⟩

-- A passcode response with four other bytes behind it, all in answer to the request.
def brokenAnswer : Bytes :=
  [0x00, 0x00, 0x00, 0x03, 0x0F, 0x00, 0x00, 0x07, 0x00, 0x0A, 0x51, 0x52, 0x53, 0x54, 0x55,
    0x56, 0x57, 0x58, 0x59, 0x5A, 0xFF, 0xFF, 0xFF, 0xFF]

theorem passcode_shown :
    DividedOver brokenAnswer [[], [brokenAnswer]] ∧ ¬NeverShown [[], [brokenAnswer]] := by
  have hraises : ¬Takes { stage := .passcodeReply } [brokenAnswer] := by
    intro htakes
    have hreturns := (FrameReader.feed_isSome_iff {} _).mpr htakes
    revert hreturns
    decide +kernel
  have hdelivered : Delivered (streamOf ([[]] ++ [[brokenAnswer]]))
      [0x51, 0x52, 0x53, 0x54, 0x55, 0x56, 0x57, 0x58, 0x59, 0x5A] :=
    ⟨[], brokenAnswer.take 20, brokenAnswer.drop 20,
      { command := 0x0007, payload := (brokenAnswer.drop 8).take 12 }, rfl, by simp,
      by decide +kernel, rfl, by decide +kernel⟩
  refine ⟨⟨rfl, by simp [brokenAnswer]⟩, ?_⟩
  exact @shown_of_not_takes [[]] [brokenAnswer] { stage := .passcodeReply } _ rfl (by simp) rfl
    hraises hdelivered (by simp) ⟨brokenAnswer.take 10, brokenAnswer.drop 20, rfl⟩

end Homeflow.Bestway.Probe
