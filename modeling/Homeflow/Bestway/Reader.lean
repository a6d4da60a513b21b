import Homeflow.Bestway.Codec
import Homeflow.Lib.Framing

namespace Homeflow.Bestway

theorem decodeFrame_ok {data : Bytes} {frame : Frame} {consumed : Nat}
    (h : decodeFrame data = .ok (frame, consumed)) :
    8 ≤ consumed ∧ consumed ≤ data.length ∧
      ∀ other : Bytes, data.take consumed <+: other →
        decodeFrame other = .ok (frame, consumed) := by
  obtain ⟨length, body, rest, rfl, hlength, -, hmin, -, rfl, -⟩ := decodeFrame_eq_ok h
  have hmagic : MAGIC.length = 4 := rfl
  have hpos := hlength.length_pos
  refine ⟨?_, ?_, fun other hother => decodeFrame_stable h hother⟩
  · simp only [List.length_append]
    omega
  · exact (List.prefix_append _ rest).length_le

section FrameReader

-- A received byte may carry more than its value, such as when it was received.
variable {β : Type} (byte : β → UInt8)

def frameDecoder : Decoder β Frame where
  decode data :=
    match decodeFrame (data.map byte) with
    | .ok (frame, consumed) => .frame frame consumed
    | .error (.incompleteFrame _) => .incomplete
    | .error (.refused _) => .malformed
  consumed_pos data frame consumed h := by
    split at h
    · rename_i hdecode
      cases h
      exact Nat.lt_of_lt_of_le (by decide) (decodeFrame_ok hdecode).1
    · cases h
    · cases h
  consumed_le data frame consumed h := by
    split at h
    · rename_i hdecode
      cases h
      simpa using (decodeFrame_ok hdecode).2.1
    · cases h
    · cases h
  stable data frame consumed other h hprefix := by
    split at h
    · rename_i hdecode
      cases h
      have hmapped : (data.map byte).take consumed <+: other.map byte := by
        rw [← List.map_take]
        exact hprefix.map byte
      rw [(decodeFrame_ok hdecode).2.2 _ hmapped]
    · cases h
    · cases h

structure FrameReader (β : Type) where
  buffer : List β := []

-- The complete frames with their bytes. None: a ProtocolError, which loses the frames
-- that were complete before it in the same call.
def FrameReader.feed (reader : FrameReader β) (chunk : List β) :
    FrameReader β × Option (List (Frame × List β)) :=
  let buffer := reader.buffer ++ chunk
  if buffer.length > MAX_PAYLOAD_BYTES * 4 then ({}, none)
  else
    let drained := (frameDecoder byte).drain buffer
    (⟨drained.rest⟩, if drained.malformed then none else some drained.frames)

end FrameReader

end Homeflow.Bestway
