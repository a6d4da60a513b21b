import Homeflow.Bestway.Client
import Homeflow.Lib.Chunking

namespace Homeflow.Bestway

def FrameReader.pendingBytes {β : Type} (reader : FrameReader β) : Nat := reader.buffer.length

-- What the calls of feed came to, one for each chunk, up to the first ProtocolError.
structure Fed where
  reader : FrameReader UInt8
  frames : List Frame := []
  raised : Bool := false

def FrameReader.feedAll (reader : FrameReader UInt8) : List Bytes → Fed
  | [] => { reader }
  | chunk :: chunks =>
      match reader.feed id chunk with
      | (reader, none) => { reader, raised := true }
      | (reader, some frames) =>
          let later := reader.feedAll chunks
          { later with frames := frames.map Prod.fst ++ later.frames }

-- The client reads at most this much at once.
def Received (stream : Bytes) (chunks : List Bytes) : Prop :=
  chunks.flatten = stream ∧ ∀ chunk ∈ chunks, chunk.length ≤ READ_CHUNK

section Settles

variable {β : Type} {byte : β → UInt8}

theorem frameDecoder_malformed {data : List β} (h : (frameDecoder byte).decode data = .malformed) :
    ∃ message, decodeFrame (data.map byte) = .error (.refused message) := by
  simp only [frameDecoder] at h
  split at h
  · cases h
  · cases h
  · rename_i message hdecode
    exact ⟨message, hdecode⟩

theorem frameDecoder_incomplete {data : List β}
    (h : (frameDecoder byte).decode data = .incomplete) :
    ∃ message, decodeFrame (data.map byte) = .error (.incompleteFrame message) := by
  simp only [frameDecoder] at h
  split at h
  · cases h
  · rename_i message hdecode
    exact ⟨message, hdecode⟩
  · cases h

theorem frameDecoder_frame {data : List β} {frame : Frame} {consumed : Nat}
    (h : (frameDecoder byte).decode data = .frame frame consumed) :
    decodeFrame (data.map byte) = .ok (frame, consumed) := by
  simp only [frameDecoder] at h
  split at h
  · rename_i hdecode
    cases h
    exact hdecode
  · cases h
  · cases h

section Verdict

variable {data : Bytes} {message : String}

theorem decode_eq_frame {frame : Frame} {consumed : Nat}
    (h : decodeFrame data = .ok (frame, consumed)) :
    (frameDecoder id).decode data = .frame frame consumed := by
  simp only [frameDecoder, List.map_id_fun, id_eq, h]

theorem decode_eq_incomplete (h : decodeFrame data = .error (.incompleteFrame message)) :
    (frameDecoder id).decode data = .incomplete := by
  simp only [frameDecoder, List.map_id_fun, id_eq, h]

theorem decode_eq_malformed (h : decodeFrame data = .error (.refused message)) :
    (frameDecoder id).decode data = .malformed := by
  simp only [frameDecoder, List.map_id_fun, id_eq, h]

end Verdict

theorem frameDecoder_settles : (frameDecoder byte).Settles FRAME_HEAD_BYTES MAX_FRAME_BYTES where
  malformed data other h hprefix := by
    obtain ⟨message, hdecode⟩ := frameDecoder_malformed h
    have hmapped : (data.map byte).take FRAME_HEAD_BYTES <+: other.map byte := by
      rw [← List.map_take]
      exact hprefix.map byte
    simp only [frameDecoder, decodeFrame_refused hdecode hmapped]
  incomplete data h := by
    obtain ⟨message, hdecode⟩ := frameDecoder_incomplete h
    simpa using (decodeFrame_incomplete hdecode).le
  frame data frame consumed h := decodeFrame_consumed_le (frameDecoder_frame h)

end Settles

-- The limit of the buffer is never reached: what is left of a frame is short enough for a
-- chunk to fit behind it.
theorem FrameReader.feedAll_eq_read {reader : FrameReader UInt8}
    (hbuffer : reader.buffer.length ≤ MAX_FRAME_BYTES) {chunks : List Bytes}
    (hchunks : ∀ chunk ∈ chunks, chunk.length ≤ READ_CHUNK) :
    reader.feedAll chunks =
      { reader := ⟨((frameDecoder id).read reader.buffer chunks).rest⟩
        frames := ((frameDecoder id).read reader.buffer chunks).frames.map Prod.fst
        raised := ((frameDecoder id).read reader.buffer chunks).malformed } := by
  induction chunks generalizing reader with
  | nil => rfl
  | cons chunk chunks ih =>
      have hfits : ¬(reader.buffer ++ chunk).length > MAX_PAYLOAD_BYTES * 4 := by
        have hchunk := hchunks chunk List.mem_cons_self
        rw [List.length_append]
        simp only [MAX_FRAME_BYTES, FRAME_HEAD_BYTES, MAX_VARINT_BYTES, MAX_PAYLOAD_BYTES,
          READ_CHUNK, MAGIC, List.length_cons, List.length_nil] at hbuffer hchunk ⊢
        omega
      cases hdrain : ((frameDecoder id).drain (reader.buffer ++ chunk)).malformed with
      | true => simp only [feedAll, feed, if_neg hfits, Decoder.read, hdrain, if_true, List.map_nil]
      | false =>
          have hlater := @ih ⟨((frameDecoder id).drain (reader.buffer ++ chunk)).rest⟩
            (Decoder.rest_length_le frameDecoder_settles hdrain)
            fun other hother => hchunks other (List.mem_cons_of_mem _ hother)
          simp only [feedAll, feed, if_neg hfits, Decoder.read, hdrain, Bool.false_eq_true,
            if_false, hlater, List.map_append]

theorem FrameReader.feedAll_fresh {chunks : List Bytes}
    (hchunks : ∀ chunk ∈ chunks, chunk.length ≤ READ_CHUNK) :
    FrameReader.feedAll {} chunks =
      { reader := ⟨((frameDecoder id).read [] chunks).rest⟩
        frames := ((frameDecoder id).read [] chunks).frames.map Prod.fst
        raised := ((frameDecoder id).read [] chunks).malformed } :=
  feedAll_eq_read (Nat.zero_le _) hchunks

theorem FrameReader.feedAll_raised {stream : Bytes} {chunks : List Bytes}
    (h : Received stream chunks) :
    (FrameReader.feedAll {} chunks).raised = ((frameDecoder id).drain stream).malformed := by
  obtain ⟨rfl, hchunks⟩ := h
  rw [feedAll_fresh hchunks]
  exact Decoder.read_malformed frameDecoder_settles Decoder.drain_nil chunks

theorem FrameReader.feedAll_sound {stream : Bytes} {chunks : List Bytes}
    (h : Received stream chunks) (hsound : ((frameDecoder id).drain stream).malformed = false) :
    FrameReader.feedAll {} chunks =
      { reader := ⟨((frameDecoder id).drain stream).rest⟩
        frames := ((frameDecoder id).drain stream).frames.map Prod.fst } := by
  obtain ⟨rfl, hchunks⟩ := h
  rw [feedAll_fresh hchunks,
    Decoder.read_eq_drain frameDecoder_settles Decoder.drain_nil chunks hsound]
  simp only [List.nil_append, hsound]

section Encoded

-- The encodings of frames the receiver takes, each with its frame.
theorem exists_entries {frames : List Frame}
    (hframes : ∀ frame ∈ frames, frame.command < 2 ^ 16 ∧
      frame.payload.length ≤ MAX_PAYLOAD_BYTES - 3) :
    ∃ entries : List (Frame × Bytes), entries.map Prod.fst = frames ∧
      frames.mapM Frame.encode = .ok (entries.map Prod.snd) ∧
      ∀ entry ∈ entries, (frameDecoder id).decode entry.2 = .frame entry.1 entry.2.length := by
  induction frames with
  | nil => exact ⟨[], rfl, rfl, by simp⟩
  | cons frame frames ih =>
      obtain ⟨hcommand, hpayload⟩ := hframes frame List.mem_cons_self
      obtain ⟨encoded, hencoded⟩ := Frame.encode_succeeds (Nat.le_trans hpayload (Nat.sub_le _ _))
      obtain ⟨entries, rfl, hencodings, hentries⟩ :=
        ih fun other hother => hframes other (List.mem_cons_of_mem _ hother)
      refine ⟨(frame, encoded) :: entries, rfl, ?_, fun entry hentry => ?_⟩
      · rw [List.mapM_cons, hencoded, hencodings]
        rfl
      · rcases List.mem_cons.mp hentry with rfl | hentry
        · have hdecode := decodeFrame_encode hcommand hencoded []
          rw [List.append_nil, if_pos hpayload] at hdecode
          exact decode_eq_frame hdecode
        · exact hentries entry hentry

theorem frames_reassembled {frames : List Frame}
    (hframes : ∀ frame ∈ frames, frame.command < 2 ^ 16 ∧
      frame.payload.length ≤ MAX_PAYLOAD_BYTES - 3) :
    ∃ encodings, frames.mapM Frame.encode = .ok encodings ∧
      ∀ chunks, Received encodings.flatten chunks →
        (FrameReader.feedAll {} chunks).raised = false ∧
        (FrameReader.feedAll {} chunks).frames = frames ∧
        (FrameReader.feedAll {} chunks).reader.pendingBytes = 0 := by
  obtain ⟨entries, rfl, hencodings, hentries⟩ := exists_entries hframes
  refine ⟨_, hencodings, fun chunks hchunks => ?_⟩
  have hdrain := Decoder.drain_frames entries [] hentries
  rw [List.append_nil] at hdrain
  rw [FrameReader.feedAll_sound hchunks (by rw [hdrain]; rfl), hdrain]
  exact ⟨rfl, by simp, rfl⟩

theorem frames_reassembled_two : ∃ encodings,
    [({ command := 0x0090, payload := [0x02] } : Frame), { command := 0x0015 }].mapM Frame.encode =
      .ok encodings ∧
      ∀ chunks, Received encodings.flatten chunks →
        (FrameReader.feedAll {} chunks).raised = false ∧
        (FrameReader.feedAll {} chunks).frames =
          [{ command := 0x0090, payload := [0x02] }, { command := 0x0015 }] ∧
        (FrameReader.feedAll {} chunks).reader.pendingBytes = 0 :=
  frames_reassembled (by decide)

end Encoded

section Chunking

-- Complete frames, and behind them bytes no frame can begin with.
def BreaksBehindFrames (stream : Bytes) : Prop :=
  ∃ (entries : List (Frame × Bytes)) (rest : Bytes) (message : String),
    stream = (entries.map Prod.snd).flatten ++ rest ∧ entries ≠ [] ∧ rest ≠ [] ∧
      (∀ entry ∈ entries, decodeFrame entry.2 = .ok (entry.1, entry.2.length)) ∧
      decodeFrame rest = .error (.refused message)

theorem breaksBehindFrames_iff (stream : Bytes) :
    BreaksBehindFrames stream ↔ ((frameDecoder id).drain stream).malformed = true ∧
      ((frameDecoder id).drain stream).frames ≠ [] := by
  constructor
  · rintro ⟨entries, rest, message, rfl, hentries, hrest, hdecode, hrefused⟩
    have hframes : ∀ entry ∈ entries,
        (frameDecoder id).decode entry.2 = .frame entry.1 entry.2.length :=
      fun entry hentry => decode_eq_frame (hdecode entry hentry)
    rw [Decoder.drain_frames entries rest hframes,
      Decoder.drain_malformed hrest (decode_eq_malformed hrefused)]
    exact ⟨rfl, by simpa using hentries⟩
  · rintro ⟨hmalformed, hframes⟩
    obtain ⟨hnil, hdecode⟩ := Decoder.decode_rest_malformed hmalformed
    obtain ⟨message, hrefused⟩ := frameDecoder_malformed hdecode
    rw [List.map_id] at hrefused
    refine ⟨_, _, message, (Decoder.drain_flatten (frameDecoder id) stream).symm, hframes, hnil,
      fun entry hentry => ?_, hrefused⟩
    simpa using frameDecoder_frame (Decoder.decode_of_mem_drain hentry)

-- However the stream is cut, the same frames are delivered and the reader raises or does not.
def ChunkingInvariant (stream : Bytes) : Prop :=
  ∀ first second, Received stream first → Received stream second →
    (FrameReader.feedAll {} first).frames = (FrameReader.feedAll {} second).frames ∧
    (FrameReader.feedAll {} first).raised = (FrameReader.feedAll {} second).raised

theorem chunkingInvariant_iff (stream : Bytes) :
    ChunkingInvariant stream ↔ ¬BreaksBehindFrames stream := by
  rw [breaksBehindFrames_iff]
  have hlimit : MAX_FRAME_BYTES + FRAME_HEAD_BYTES ≤ READ_CHUNK := by decide
  constructor
  · rintro h ⟨hmalformed, hframes⟩
    have hsettles : (frameDecoder (id : UInt8 → UInt8)).Settles FRAME_HEAD_BYTES
        MAX_FRAME_BYTES := frameDecoder_settles
    obtain ⟨first, hfirst, hfirstSize, hall⟩ :=
      Decoder.exists_read_all hsettles hlimit (by decide) stream
    obtain ⟨second, hsecond, hsecondSize, hfewer⟩ :=
      Decoder.exists_read_fewer hsettles hlimit (by decide) hmalformed hframes
    have hsame := (h first second ⟨hfirst, hfirstSize⟩ ⟨hsecond, hsecondSize⟩).1
    rw [FrameReader.feedAll_fresh hfirstSize, FrameReader.feedAll_fresh hsecondSize] at hsame
    have hlength := congrArg List.length hsame
    simp only [List.length_map, hall, hfewer, List.length_dropLast] at hlength
    have hpos := List.length_pos_of_ne_nil hframes
    omega
  · intro h first second hfirst hsecond
    refine ⟨?_, (FrameReader.feedAll_raised hfirst).trans (FrameReader.feedAll_raised hsecond).symm⟩
    cases hmalformed : ((frameDecoder id).drain stream).malformed with
    | false =>
        rw [FrameReader.feedAll_sound hfirst hmalformed,
          FrameReader.feedAll_sound hsecond hmalformed]
    | true =>
        have hnone : ((frameDecoder id).drain stream).frames = [] := by
          by_contra hframes
          exact h ⟨hmalformed, hframes⟩
        have hempty : ∀ chunks, Received stream chunks →
            (FrameReader.feedAll {} chunks).frames = [] := by
          rintro chunks ⟨rfl, hchunks⟩
          have hprefix : ((frameDecoder id).read [] chunks).frames <+:
              ((frameDecoder id).drain ([] ++ chunks.flatten)).frames :=
            Decoder.read_prefix Decoder.drain_nil chunks
          rw [List.nil_append, hnone, List.prefix_nil] at hprefix
          rw [FrameReader.feedAll_fresh hchunks]
          exact congrArg (List.map Prod.fst) hprefix
        rw [hempty first hfirst, hempty second hsecond]

-- A status block and four other bytes: cut behind the block it is delivered, in one chunk
-- with them it is lost.
theorem block_lost_before_malformed :
    ¬ChunkingInvariant
      ([0x00, 0x00, 0x00, 0x03, 0x03, 0x00, 0x00, 0x91] ++ [0xFF, 0xFF, 0xFF, 0xFF]) := by
  intro h
  have hsame := (h [[0x00, 0x00, 0x00, 0x03, 0x03, 0x00, 0x00, 0x91], [0xFF, 0xFF, 0xFF, 0xFF]]
    [[0x00, 0x00, 0x00, 0x03, 0x03, 0x00, 0x00, 0x91, 0xFF, 0xFF, 0xFF, 0xFF]]
    ⟨rfl, by decide⟩ ⟨rfl, by decide⟩).1
  revert hsame
  decide +kernel

end Chunking

end Homeflow.Bestway
