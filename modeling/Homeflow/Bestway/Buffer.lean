import Homeflow.Bestway.Reassembly

namespace Homeflow.Bestway

section Verdicts

theorem decodeFrame_append {data : Bytes} {frame : Frame} {consumed : Nat}
    (h : decodeFrame data = .ok (frame, consumed)) (more : Bytes) :
    decodeFrame (data ++ more) = .ok (frame, consumed) ∧ 8 ≤ consumed ∧ consumed ≤ data.length := by
  obtain ⟨hpos, hle, hsame⟩ := decodeFrame_ok h
  exact ⟨hsame _ ((List.take_prefix _ _).trans (List.prefix_append _ _)), hpos, hle⟩

theorem decodeFrame_append_refused {data : Bytes} {message : String}
    (h : decodeFrame data = .error (.refused message)) (more : Bytes) :
    decodeFrame (data ++ more) = .error (.refused message) :=
  decodeFrame_refused h ((List.take_prefix _ _).trans (List.prefix_append _ _))

-- A beginning as long as the magic and the longest length goes on to a frame.
theorem decodeFrame_completes {data : Bytes} {message : String}
    (h : decodeFrame data = .error (.incompleteFrame message))
    (hlong : FRAME_HEAD_BYTES ≤ data.length) :
    ∃ more found, decodeFrame (data ++ more) = .ok found := by
  rcases decodeFrame_cases data with ⟨length, number, part, rfl, hlength, hshort⟩ |
    ⟨own, -, hhead⟩ | ⟨own, herror, -⟩
  · rw [decodeFrame_of_varint hlength hshort] at h
    split at h
    · cases h
    split at h
    · cases h
    rename_i hmax hmin
    split at h
    · rename_i htruncated
      have hbody : (part ++ List.replicate (number - part.length) 0x00).length = number := by
        rw [List.length_append, List.length_replicate]
        omega
      have hframed := decodeFrame_framed (hbody.symm ▸ hlength) hshort []
      rw [hbody, if_neg hmax, if_neg hmin, List.append_nil, ← List.append_assoc] at hframed
      exact ⟨_, _, hframed⟩
    · cases h
  · exact absurd hhead (Nat.not_lt.mpr hlong)
  · cases herror.symm.trans h

end Verdicts

section Framed

-- Complete frames, and behind them nothing or the beginning of one.
def Framed (data : Bytes) : Prop :=
  ∃ (entries : List (Frame × Bytes)) (rest : Bytes),
    data = (entries.map Prod.snd).flatten ++ rest ∧
      (∀ entry ∈ entries, decodeFrame entry.2 = .ok (entry.1, entry.2.length)) ∧
      (rest = [] ∨ ∃ message, decodeFrame rest = .error (.incompleteFrame message))

theorem framed_iff (data : Bytes) :
    Framed data ↔ ((frameDecoder id).drain data).malformed = false := by
  constructor
  · rintro ⟨entries, rest, rfl, hentries, hrest⟩
    have hframes : ∀ entry ∈ entries,
        (frameDecoder id).decode entry.2 = .frame entry.1 entry.2.length :=
      fun entry hentry => decode_eq_frame (hentries entry hentry)
    rw [Decoder.drain_frames entries rest hframes]
    rcases hrest with rfl | ⟨message, hincomplete⟩
    · rfl
    · rw [Decoder.drain_incomplete (decode_eq_incomplete hincomplete)]
  · intro hsound
    refine ⟨_, _, (Decoder.drain_flatten (frameDecoder id) data).symm, fun entry hentry => ?_, ?_⟩
    · simpa using frameDecoder_frame (Decoder.decode_of_mem_drain hentry)
    · rcases Decoder.decode_rest hsound with hnil | hincomplete
      · exact .inl hnil
      · obtain ⟨message, hdecode⟩ := frameDecoder_incomplete hincomplete
        rw [List.map_id] at hdecode
        exact .inr ⟨message, hdecode⟩

-- A feed returns as long as the bytes fit the buffer and are of frames.
theorem FrameReader.feed_isSome_iff (reader : FrameReader UInt8) (chunk : Bytes) :
    (reader.feed id chunk).2.isSome ↔
      (reader.buffer ++ chunk).length ≤ 4 * MAX_PAYLOAD_BYTES ∧
        Framed (reader.buffer ++ chunk) := by
  rw [framed_iff]
  unfold feed
  dsimp only
  split
  · rename_i hfull
    simp only [Option.isSome_none, Bool.false_eq_true, false_iff, not_and]
    exact fun hfits => absurd hfits (by omega)
  · rename_i hfits
    cases ((frameDecoder id).drain (reader.buffer ++ chunk)).malformed with
    | true => simp
    | false =>
        simp only [Bool.false_eq_true, if_false, Option.isSome_some, and_true, true_iff]
        omega

end Framed

section Feed

-- The loop of feed: the bytes it keeps, and the frames it returns or the error it raises.
-- None: it has not ended within these rounds.
def feedLoop : Nat → Bytes → List Frame → Option (Bytes × Except ProtocolError (List Frame))
  | 0, _, _ => none
  | rounds + 1, buffer, frames =>
      if buffer = [] then some (buffer, .ok frames)
      else
        match decodeFrame buffer with
        | .error (.incompleteFrame _) => some (buffer, .ok frames)
        | .error (.refused message) => some (buffer, .error (.refused message))
        | .ok (frame, consumed) => feedLoop rounds (buffer.drop consumed) (frames ++ [frame])

def FrameReader.feedWithin (reader : FrameReader UInt8) (rounds : Nat) (chunk : Bytes) :
    Option (FrameReader UInt8 × Except ProtocolError (List Frame)) :=
  let buffer := reader.buffer ++ chunk
  if buffer.length > MAX_PAYLOAD_BYTES * 4 then
    some ({}, .error (.refused "peer sent more unframed data than can be buffered"))
  else (feedLoop rounds buffer []).map fun ended => (⟨ended.1⟩, ended.2)

-- Every round but the last takes a frame off the buffer, so more rounds than it has bytes do
-- not run out.
theorem feedLoop_ends (buffer : Bytes) (frames : List Frame) :
    ∃ outcome, (∀ rounds, buffer.length < rounds →
        feedLoop rounds buffer frames = some (((frameDecoder id).drain buffer).rest, outcome)) ∧
      outcome.toOption = if ((frameDecoder id).drain buffer).malformed then none
        else some (frames ++ ((frameDecoder id).drain buffer).frames.map Prod.fst) := by
  induction hlength : buffer.length using Nat.strongRecOn generalizing buffer frames with
  | _ length ih =>
  subst hlength
  by_cases hnil : buffer = []
  · subst hnil
    refine ⟨.ok frames, fun rounds hrounds => ?_, by simp [Except.toOption]⟩
    obtain ⟨rounds, rfl⟩ := Nat.exists_eq_add_one_of_ne_zero (Nat.ne_zero_of_lt hrounds)
    rfl
  cases hdecode : decodeFrame buffer with
  | error error =>
      cases error with
      | incompleteFrame message =>
          rw [Decoder.drain_incomplete (decode_eq_incomplete hdecode)]
          refine ⟨.ok frames, fun rounds hrounds => ?_, by simp [Except.toOption]⟩
          obtain ⟨rounds, rfl⟩ := Nat.exists_eq_add_one_of_ne_zero (Nat.ne_zero_of_lt hrounds)
          rw [feedLoop, if_neg hnil, hdecode]
      | refused message =>
          rw [Decoder.drain_malformed hnil (decode_eq_malformed hdecode)]
          refine ⟨.error (.refused message), fun rounds hrounds => ?_, rfl⟩
          obtain ⟨rounds, rfl⟩ := Nat.exists_eq_add_one_of_ne_zero (Nat.ne_zero_of_lt hrounds)
          rw [feedLoop, if_neg hnil, hdecode]
  | ok found =>
      obtain ⟨frame, consumed⟩ := found
      have hpos := (decodeFrame_ok hdecode).1
      have hbuffer := List.length_pos_iff.mpr hnil
      have hshorter : (buffer.drop consumed).length < buffer.length := by
        rw [List.length_drop]
        omega
      obtain ⟨outcome, hloop, houtcome⟩ := ih _ hshorter _ (frames ++ [frame]) rfl
      rw [Decoder.drain_frame (decode_eq_frame hdecode)]
      refine ⟨outcome, fun rounds hrounds => ?_, houtcome.trans ?_⟩
      · obtain ⟨rounds, rfl⟩ := Nat.exists_eq_add_one_of_ne_zero (Nat.ne_zero_of_lt hrounds)
        rw [feedLoop, if_neg hnil, hdecode]
        exact hloop rounds (by omega)
      · simp only [List.map_cons, List.append_assoc, List.singleton_append]

-- Feeding ends, and comes to what feed says.
theorem FrameReader.feedWithin_ends (reader : FrameReader UInt8) (chunk : Bytes) :
    ∃ outcome, (∀ rounds, (reader.buffer ++ chunk).length < rounds →
        reader.feedWithin rounds chunk = some ((reader.feed id chunk).1, outcome)) ∧
      outcome.toOption = (reader.feed id chunk).2.map (List.map Prod.fst) := by
  by_cases hfull : (reader.buffer ++ chunk).length > MAX_PAYLOAD_BYTES * 4
  · simp only [feedWithin, feed, if_pos hfull]
    exact ⟨_, fun _ _ => rfl, rfl⟩
  · obtain ⟨outcome, hloop, houtcome⟩ := feedLoop_ends (reader.buffer ++ chunk) []
    simp only [feedWithin, feed, if_neg hfull]
    refine ⟨outcome, fun rounds hrounds => by rw [hloop rounds hrounds]; rfl, ?_⟩
    rw [houtcome]
    split <;> simp

theorem FrameReader.feed_pending (reader : FrameReader UInt8) (chunk : Bytes) :
    (reader.feed id chunk).1.pendingBytes ≤ 4 * MAX_PAYLOAD_BYTES := by
  unfold feed pendingBytes
  dsimp only
  split
  · exact Nat.zero_le _
  · have hlength := congrArg List.length
      (Decoder.drain_flatten (frameDecoder id) (reader.buffer ++ chunk))
    rw [List.length_append] at hlength
    dsimp only
    omega

-- A feed that returns leaves nothing, or the beginning of one frame.
theorem FrameReader.feed_rest {reader : FrameReader UInt8} {chunk : Bytes}
    {frames : List (Frame × Bytes)} (h : (reader.feed id chunk).2 = some frames) :
    (reader.feed id chunk).1.buffer = [] ∨
      (∃ message, decodeFrame (reader.feed id chunk).1.buffer =
        .error (.incompleteFrame message)) ∧
      (reader.feed id chunk).1.pendingBytes < MAX_FRAME_BYTES := by
  unfold feed pendingBytes at *
  dsimp only at *
  split at h
  · cases h
  · rename_i hfits
    rw [if_neg hfits]
    cases hsound : ((frameDecoder id).drain (reader.buffer ++ chunk)).malformed with
    | true =>
        rw [hsound] at h
        cases h
    | false =>
        rcases Decoder.decode_rest hsound with hnil | hincomplete
        · exact .inl hnil
        · obtain ⟨message, hdecode⟩ := frameDecoder_incomplete hincomplete
          rw [List.map_id] at hdecode
          exact .inr ⟨⟨message, hdecode⟩, decodeFrame_incomplete hdecode⟩

theorem verdicts_stable_and_buffer_bounded :
    (∀ data more : Bytes,
      (∀ frame consumed, decodeFrame data = .ok (frame, consumed) →
        decodeFrame (data ++ more) = .ok (frame, consumed) ∧
          8 ≤ consumed ∧ consumed ≤ data.length) ∧
      ∀ message, decodeFrame data = .error (.refused message) →
        ∃ other, decodeFrame (data ++ more) = .error (.refused other)) ∧
    ∀ (reader : FrameReader UInt8) (chunk : Bytes), ∃ after outcome,
      (∀ rounds, (reader.buffer ++ chunk).length < rounds →
        reader.feedWithin rounds chunk = some (after, outcome)) ∧
      after.pendingBytes ≤ 4 * MAX_PAYLOAD_BYTES ∧
      ∀ frames, outcome = .ok frames → after.buffer = [] ∨
        (∃ message, decodeFrame after.buffer = .error (.incompleteFrame message)) ∧
          after.pendingBytes ≤ 2055 := by
  refine ⟨fun data more => ⟨fun frame consumed h => decodeFrame_append h more,
    fun message h => ⟨message, decodeFrame_append_refused h more⟩⟩, fun reader chunk => ?_⟩
  obtain ⟨outcome, hends, houtcome⟩ := reader.feedWithin_ends chunk
  refine ⟨_, outcome, hends, reader.feed_pending chunk, ?_⟩
  rintro frames rfl
  obtain ⟨entries, hentries, -⟩ := Option.map_eq_some_iff.mp houtcome.symm
  rcases FrameReader.feed_rest hentries with hnil | ⟨hincomplete, hlength⟩
  · exact .inl hnil
  · exact .inr ⟨hincomplete, Nat.le_of_lt_succ hlength⟩

end Feed

end Homeflow.Bestway
