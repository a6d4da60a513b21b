import Homeflow.Bestway.Codec

namespace Homeflow.Bestway

-- Any integer may be asked for.
def encodeVarintInt (value : Int) : Except ProtocolError Bytes :=
  if value < 0 then .error (.refused "varint values are never negative")
  else encodeVarint MAX_VARINT_BYTES value.toNat

-- The indexes count from the offset on.
def decodeVarintFrom (data : Bytes) (offset : Nat) :
    Nat → Nat → Nat → Except ProtocolError (Nat × Nat)
  | 0, _, _ => .error (.refused "varint exceeds the permitted length")
  | left + 1, index, value =>
      match data[offset + index]? with
      | none => .error (.incompleteFrame "varint is truncated")
      | some byte =>
          let value := value ||| ((byte.toNat &&& 0x7F) <<< (7 * index))
          if byte.toNat &&& 0x80 = 0 then .ok (value, index + 1)
          else decodeVarintFrom data offset left (index + 1) value

def decodeVarintAt (data : Bytes) (offset : Nat) : Except ProtocolError (Nat × Nat) :=
  decodeVarintFrom data offset MAX_VARINT_BYTES 0 0

theorem decodeVarintFrom_eq_drop (data : Bytes) (offset left index value : Nat) :
    decodeVarintFrom data offset left index value =
      decodeVarint (data.drop offset) left index value := by
  induction left generalizing index value with
  | zero => rfl
  | succ left ih =>
      unfold decodeVarintFrom decodeVarint
      rw [List.getElem?_drop]
      cases data[offset + index]? with
      | none => rfl
      | some byte => simp only [ih]

theorem decodeVarintAt_append (before data : Bytes) :
    decodeVarintAt (before ++ data) before.length = decodeVarint data MAX_VARINT_BYTES 0 0 := by
  rw [decodeVarintAt, decodeVarintFrom_eq_drop, List.drop_left]

section Decode

variable {bytes : Bytes} {left value : Nat}

-- Every byte of a varint but the last asks for another one.
theorem decodeVarint_cut {cut : Bytes} (h : Varint bytes value) (hleft : bytes.length ≤ left)
    (hcut : cut <+: bytes) (hne : cut ≠ bytes) (before : Bytes) {read : Nat}
    (hread : read < 128 ^ before.length) :
    decodeVarint (before ++ cut) left before.length read =
      .error (.incompleteFrame "varint is truncated") := by
  obtain ⟨left, rfl⟩ := Nat.exists_eq_add_one_of_ne_zero (h.length_pos.trans_le hleft).ne'
  induction h generalizing left cut before read with
  | @last byte value hlast hbyte =>
      obtain rfl | rfl : cut = [] ∨ cut = [byte] := by
        simpa [List.prefix_cons_iff] using hcut
      · simp [decodeVarint]
      · exact absurd rfl hne
  | @more byte tail value hbyte htail ih =>
      rcases List.prefix_cons_iff.mp hcut with rfl | ⟨shorter, rfl, hshorter⟩
      · simp [decodeVarint]
      · have hhead : (before ++ byte :: shorter)[before.length]? = some byte := by simp
        have htailLeft : tail.length ≤ left := Nat.le_of_succ_le_succ hleft
        obtain ⟨left, rfl⟩ :=
          Nat.exists_eq_add_one_of_ne_zero (htail.length_pos.trans_le htailLeft).ne'
        have hlater := ih hshorter (fun hsame => hne (congrArg _ hsame)) (before ++ [byte])
          (by simpa using add_group_lt byte.toNat hread) left htailLeft
        rw [decodeVarint_byte hhead hread, if_neg (by omega)]
        simpa using hlater

-- Whatever the offset, what is read is a varint that lies within the data.
theorem varint_of_decodeVarintAt {data : Bytes} {offset used : Nat}
    (h : decodeVarintAt data offset = .ok (value, used)) :
    ∃ bytes, bytes <+: data.drop offset ∧ Varint bytes value ∧ bytes.length = used := by
  rw [decodeVarintAt, decodeVarintFrom_eq_drop] at h
  obtain ⟨bytes, number, hprefix, hvarint, -, rfl, rfl⟩ := exists_varint Nat.one_pos h
  exact ⟨bytes, hprefix, by simpa using hvarint, (Nat.zero_add _).symm⟩

end Decode

section Encode

theorem encodeVarintInt_natCast (value : Nat) :
    encodeVarintInt value = encodeVarint MAX_VARINT_BYTES value := by
  rw [encodeVarintInt, if_neg (by omega), Int.toNat_natCast]

theorem encodeVarintInt_eq_ok {value : Int} {encoded : Bytes}
    (h : encodeVarintInt value = .ok encoded) :
    ∃ number : Nat, value = number ∧ encodeVarint MAX_VARINT_BYTES number = .ok encoded := by
  unfold encodeVarintInt at h
  split at h
  · cases h
  · exact ⟨value.toNat, by omega, h⟩

theorem encodeVarintInt_ok_iff (value : Int) :
    (∃ encoded, encodeVarintInt value = .ok encoded) ↔ 0 ≤ value ∧ value < 2 ^ 28 := by
  constructor
  · rintro ⟨encoded, hencoded⟩
    obtain ⟨number, rfl, hnumber⟩ := encodeVarintInt_eq_ok hencoded
    obtain ⟨hvarint, hlength, -⟩ := encodeVarint_varint hnumber
    have hlt : number < 128 ^ 4 :=
      hvarint.lt_pow.trans_le (Nat.pow_le_pow_right (by decide) hlength)
    omega
  · rintro ⟨hpos, hlt⟩
    obtain ⟨number, rfl⟩ := Int.eq_ofNat_of_zero_le hpos
    rw [encodeVarintInt_natCast]
    exact encodeVarint_ok (by omega)

-- The last two parts say that an encoding is a shortest one, and that no part of it is read as
-- a number.
theorem varint_codec (value : Int) :
    ((∃ encoded, encodeVarintInt value = .ok encoded) ↔ 0 ≤ value ∧ value < 2 ^ 28) ∧
      ∀ encoded, encodeVarintInt value = .ok encoded →
        (∀ before rest : Bytes, decodeVarintAt (before ++ encoded ++ rest) before.length =
          .ok (value.toNat, encoded.length)) ∧
        (∀ other offset used, decodeVarintAt other offset = .ok (value.toNat, used) →
          encoded.length ≤ used ∧ used ≤ other.length) ∧
        ∀ before cut : Bytes, cut <+: encoded → cut ≠ encoded →
          decodeVarintAt (before ++ cut) before.length =
            .error (.incompleteFrame "varint is truncated") := by
  refine ⟨encodeVarintInt_ok_iff value, fun encoded hencoded => ?_⟩
  obtain ⟨number, rfl, hnumber⟩ := encodeVarintInt_eq_ok hencoded
  obtain ⟨hvarint, hlength, hshortest⟩ := encodeVarint_varint hnumber
  rw [Int.toNat_natCast]
  refine ⟨fun before rest => ?_, fun other offset used hother => ?_, fun before cut hcut hne => ?_⟩
  · have hread := decodeVarint_varint hvarint hlength [] rest (Nat.one_pos : 0 < 128 ^ 0)
    rw [List.append_assoc, decodeVarintAt_append]
    simpa using hread
  · obtain ⟨bytes, hprefix, hbytes, rfl⟩ := varint_of_decodeVarintAt hother
    have hle := hprefix.length_le
    rw [List.length_drop] at hle
    exact ⟨hshortest bytes hbytes, by omega⟩
  · rw [decodeVarintAt_append]
    exact decodeVarint_cut hvarint hlength hcut hne [] (Nat.one_pos : 0 < 128 ^ 0)

end Encode

section Frame

-- What is decoded is encoded as it was received, but for the spelling of its length.
theorem encode_of_decodeFrame {data : Bytes} {frame : Frame} {consumed : Nat}
    (h : decodeFrame data = .ok (frame, consumed)) :
    ∃ length shortest body rest, data = MAGIC ++ length ++ body ++ rest ∧
      consumed = (MAGIC ++ length ++ body).length ∧ frame.encode = .ok (MAGIC ++ shortest ++ body) ∧
      shortest.length ≤ length.length ∧ (shortest = length ↔ shortest.length = length.length) ∧
      frame.command < 2 ^ 16 ∧ frame.payload.length ≤ MAX_PAYLOAD_BYTES - 3 := by
  obtain ⟨length, body, rest, rfl, hlength, -, hmin, hmax, rfl, rfl⟩ := decodeFrame_eq_ok h
  obtain ⟨hbody, hcommand⟩ := Frame.body_ofBody hmin
  obtain ⟨shortest, hencoded⟩ : ∃ shortest,
      encodeVarint MAX_VARINT_BYTES body.length = .ok shortest := by
    refine encodeVarint_ok (hmax.trans_lt ?_)
    decide
  obtain ⟨hvarint, -, hshortest⟩ := encodeVarint_varint hencoded
  have hpayload : (Frame.ofBody body).payload.length ≤ MAX_PAYLOAD_BYTES - 3 := by
    rw [Frame.ofBody, List.length_drop]
    omega
  refine ⟨length, shortest, body, rest, rfl, rfl, ?_, hshortest length hlength,
    ⟨congrArg _, hvarint.eq_of_length_eq hlength⟩, hcommand, hpayload⟩
  rw [Frame.encode_eq (hpayload.trans (Nat.sub_le _ _)), hbody, hencoded]
  rfl

-- The bound of the command is what encoding it in two bytes needs.
theorem decodeFrame_normal {data : Bytes} {frame : Frame} {consumed : Nat}
    (h : decodeFrame data = .ok (frame, consumed)) :
    frame.command < 2 ^ 16 ∧ ∃ encoded, frame.encode = .ok encoded ∧
      decodeFrame encoded = .ok (frame, encoded.length) ∧ encoded.length ≤ consumed ∧
      (encoded = data.take consumed ↔ encoded.length = consumed) := by
  obtain ⟨length, shortest, body, rest, rfl, rfl, hencode, hle, hsame, hcommand, hpayload⟩ :=
    encode_of_decodeFrame h
  refine ⟨hcommand, _, hencode, ?_, ?_, ?_⟩
  · have hdecode := decodeFrame_encode hcommand hencode []
    rwa [List.append_nil, if_pos hpayload] at hdecode
  · simp only [List.length_append]
    omega
  · rw [List.take_left, List.append_assoc, List.append_assoc, List.append_right_inj,
      List.append_left_inj, hsame]
    simp only [List.length_append]
    omega

-- A status block whose length is spelled in two bytes.
theorem decodeFrame_normal_padded :
    (0x0091 : Nat) < 2 ^ 16 ∧ ∃ encoded,
      Frame.encode { command := 0x0091 } = .ok encoded ∧
      decodeFrame encoded = .ok ({ command := 0x0091 }, encoded.length) ∧ encoded.length ≤ 9 ∧
      (encoded = [0x00, 0x00, 0x00, 0x03, 0x83, 0x00, 0x00, 0x00, 0x91] ↔ encoded.length = 9) :=
  @decodeFrame_normal [0x00, 0x00, 0x00, 0x03, 0x83, 0x00, 0x00, 0x00, 0x91]
    { command := 0x0091 } 9 (by decide +kernel)

end Frame

end Homeflow.Bestway
