import Homeflow.Bestway.Protocol
import Homeflow.Lib.Varint
import Mathlib.Data.Nat.Bitwise
import Mathlib.Tactic.Ring

namespace Homeflow.Bestway

section Varint

-- Seven bits of a number with the bit that says whether more follow.
theorem group_toNat (value : Nat) : (UInt8.ofNat (value &&& 0x7F)).toNat = value % 128 := by
  have hand : value &&& 0x7F = value % 128 := Nat.and_two_pow_sub_one_eq_mod value 7
  rw [hand, UInt8.toNat_ofNat']
  omega

theorem continued_toNat (value : Nat) :
    (UInt8.ofNat ((value &&& 0x7F) ||| 0x80)).toNat = value % 128 + 128 := by
  have hand : value &&& 0x7F = value % 128 := Nat.and_two_pow_sub_one_eq_mod value 7
  have hlt : value % 128 < 2 ^ 7 := Nat.mod_lt _ (by decide)
  have hor : value % 128 ||| 0x80 = 128 + value % 128 := by
    rw [Nat.or_comm]
    exact (Nat.two_pow_add_eq_or_of_lt hlt 1).symm
  rw [hand, hor, UInt8.toNat_ofNat']
  omega

theorem low_bits (byte : Nat) : byte &&& 0x7F = byte % 128 :=
  Nat.and_two_pow_sub_one_eq_mod byte 7

-- The top bit of a byte.
theorem top_bit {byte : Nat} (h : byte < 256) : byte &&& 0x80 = 0 ↔ byte < 128 := by
  have hand : byte &&& 0x80 = (byte.testBit 7).toNat * 2 ^ 7 := Nat.and_two_pow byte 7
  have hbit : byte.testBit 7 = decide (128 ≤ byte) := by
    rw [Nat.testBit_eq_decide_div_mod_eq]
    congr 1
    simp only [eq_iff_iff]
    omega
  rw [hand, hbit]
  by_cases hbyte : 128 ≤ byte
  · simp [hbyte]
  · simp [hbyte, Nat.lt_of_not_le hbyte]

-- A group read at an index goes above what was read before it.
theorem above_eq_add {value index : Nat} (group : Nat) (hvalue : value < 128 ^ index) :
    value ||| (group <<< (7 * index)) = value + group * 128 ^ index := by
  have hpow : 2 ^ (7 * index) = 128 ^ index := by rw [Nat.pow_mul]
  rw [Nat.shiftLeft_eq, Nat.or_comm, Nat.mul_comm,
    ← Nat.two_pow_add_eq_or_of_lt (hpow ▸ hvalue), hpow, Nat.mul_comm, Nat.add_comm]

theorem encodeVarint_last {left value : Nat} (h : value < 128) :
    encodeVarint (left + 1) value = .ok [UInt8.ofNat (value &&& 0x7F)] := by
  have hshift : value >>> 7 = 0 := by
    rw [Nat.shiftRight_eq_div_pow]
    omega
  simp only [encodeVarint, if_pos hshift]

theorem encodeVarint_more {left value : Nat} (h : ¬value < 128) :
    encodeVarint (left + 1) value = (encodeVarint left (value / 128)).map fun rest =>
      UInt8.ofNat ((value &&& 0x7F) ||| 0x80) :: rest := by
  have hshift : value >>> 7 = value / 128 := Nat.shiftRight_eq_div_pow value 7
  have hmore : ¬value / 128 = 0 := by omega
  simp only [encodeVarint, hshift, if_neg hmore]

theorem encodeVarint_ok {left value : Nat} (h : value < 128 ^ (left + 1)) :
    ∃ bytes, encodeVarint (left + 1) value = .ok bytes := by
  induction left generalizing value with
  | zero => exact ⟨_, encodeVarint_last (by simpa using h)⟩
  | succ left ih =>
      by_cases hlast : value < 128
      · exact ⟨_, encodeVarint_last hlast⟩
      · have hrest : value / 128 < 128 ^ (left + 1) := by
          rw [Nat.div_lt_iff_lt_mul (by decide)]
          simpa [Nat.pow_succ] using h
        obtain ⟨rest, hok⟩ := ih hrest
        rw [encodeVarint_more hlast, hok]
        exact ⟨_, rfl⟩

-- One byte of a number, above what was read before it.
theorem decodeVarint_byte {data : Bytes} {left index read : Nat} {byte : UInt8}
    (hbyte : data[index]? = some byte) (hread : read < 128 ^ index) :
    decodeVarint data (left + 1) index read =
      if byte.toNat < 128 then .ok (read + byte.toNat * 128 ^ index, index + 1)
      else decodeVarint data left (index + 1) (read + byte.toNat % 128 * 128 ^ index) := by
  simp only [decodeVarint, hbyte, low_bits, above_eq_add _ hread, top_bit byte.toNat_lt]
  by_cases hlast : byte.toNat < 128
  · rw [if_pos hlast, if_pos hlast, Nat.mod_eq_of_lt hlast]
  · rw [if_neg hlast, if_neg hlast]

theorem add_group_lt {read index : Nat} (group : Nat) (hread : read < 128 ^ index) :
    read + group % 128 * 128 ^ index < 128 ^ (index + 1) := by
  have hgroup : group % 128 < 128 := Nat.mod_lt _ (by decide)
  calc read + group % 128 * 128 ^ index
      < 128 ^ index + group % 128 * 128 ^ index := Nat.add_lt_add_right hread _
    _ = (group % 128 + 1) * 128 ^ index := by ring
    _ ≤ 128 * 128 ^ index := Nat.mul_le_mul_right _ hgroup
    _ = 128 ^ (index + 1) := by ring

-- What is encoded is a varint, and none of the number is shorter.
theorem encodeVarint_varint {left value : Nat} {bytes : Bytes}
    (h : encodeVarint left value = .ok bytes) : Varint bytes value ∧ bytes.length ≤ left ∧
      ∀ other, Varint other value → bytes.length ≤ other.length := by
  induction left generalizing value bytes with
  | zero => cases h
  | succ left ih =>
      by_cases hlast : value < 128
      · obtain rfl := Except.ok.inj ((encodeVarint_last hlast).symm.trans h)
        have hbyte : (UInt8.ofNat (value &&& 0x7F)).toNat = value := by
          rw [group_toNat, Nat.mod_eq_of_lt hlast]
        exact ⟨.last hlast hbyte, by simp, fun other hother => hother.length_pos⟩
      · rw [encodeVarint_more hlast] at h
        cases hencoded : encodeVarint left (value / 128) with
        | error error =>
            rw [hencoded] at h
            cases h
        | ok tail =>
            rw [hencoded] at h
            obtain rfl := Except.ok.inj h
            obtain ⟨htail, hlength, hshortest⟩ := ih hencoded
            refine ⟨.more (continued_toNat value) htail, Nat.succ_le_succ hlength, ?_⟩
            intro other hother
            cases hother with
            | last hother _ => exact absurd hother hlast
            | more _ hrest => exact Nat.succ_le_succ (hshortest _ hrest)

-- What is read is a varint above what was read before it.
theorem exists_varint {data : Bytes} {left index read number used : Nat}
    (hread : read < 128 ^ index) (h : decodeVarint data left index read = .ok (number, used)) :
    ∃ bytes value, bytes <+: data.drop index ∧ Varint bytes value ∧
      bytes.length ≤ left ∧ used = index + bytes.length ∧
      number = read + value * 128 ^ index := by
  induction left generalizing index read with
  | zero => cases h
  | succ left ih =>
      cases hbyte : data[index]? with
      | none =>
          simp only [decodeVarint, hbyte] at h
          cases h
      | some byte =>
          have hdrop : data.drop index = byte :: data.drop (index + 1) := by
            obtain ⟨hlength, rfl⟩ := List.getElem?_eq_some_iff.mp hbyte
            exact List.drop_eq_getElem_cons hlength
          rw [decodeVarint_byte hbyte hread] at h
          by_cases hlast : byte.toNat < 128
          · rw [if_pos hlast] at h
            obtain ⟨rfl, rfl⟩ := Prod.mk.inj (Except.ok.inj h)
            refine ⟨[byte], byte.toNat, ?_, .last hlast rfl, by simp, rfl, rfl⟩
            rw [hdrop]
            exact List.prefix_append [byte] _
          · rw [if_neg hlast] at h
            obtain ⟨rest, value, hprefix, hrest, hle, rfl, rfl⟩ :=
              ih (add_group_lt byte.toNat hread) h
            have hbound := byte.toNat_lt
            have hvalue : (byte.toNat % 128 + value * 128) / 128 = value := by omega
            refine ⟨byte :: rest, byte.toNat % 128 + value * 128, ?_,
              .more (by omega) (hvalue.symm ▸ hrest), by simpa using hle, ?_, by ring⟩
            · rw [hdrop]
              exact (List.prefix_cons_inj byte).mpr hprefix
            · rw [List.length_cons]
              omega

-- A varint that is short enough is read behind anything and before anything.
theorem decodeVarint_varint {bytes : Bytes} {left value : Nat} (h : Varint bytes value)
    (hleft : bytes.length ≤ left) (before rest : Bytes) {read : Nat}
    (hread : read < 128 ^ before.length) :
    decodeVarint (before ++ bytes ++ rest) left before.length read =
      .ok (read + value * 128 ^ before.length, before.length + bytes.length) := by
  obtain ⟨left, rfl⟩ := Nat.exists_eq_add_one_of_ne_zero (h.length_pos.trans_le hleft).ne'
  induction h generalizing left before read with
  | @last byte value hlast hbyte =>
      have hhead : (before ++ [byte] ++ rest)[before.length]? = some byte := by simp
      rw [decodeVarint_byte hhead hread, hbyte, if_pos hlast]
      rfl
  | @more byte tail value hbyte htail ih =>
      have hhead : (before ++ byte :: tail ++ rest)[before.length]? = some byte := by simp
      have hmod : byte.toNat % 128 = value % 128 := by omega
      have htailLeft : tail.length ≤ left := Nat.le_of_succ_le_succ hleft
      obtain ⟨left, rfl⟩ :=
        Nat.exists_eq_add_one_of_ne_zero (htail.length_pos.trans_le htailLeft).ne'
      have hlater := ih (before ++ [byte]) (by simpa using add_group_lt byte.toNat hread) left
        htailLeft
      have hvalue : read + value % 128 * 128 ^ before.length +
          value / 128 * 128 ^ (before.length + 1) = read + value * 128 ^ before.length := by
        calc read + value % 128 * 128 ^ before.length + value / 128 * 128 ^ (before.length + 1)
            = read + (value % 128 + 128 * (value / 128)) * 128 ^ before.length := by ring
          _ = read + value * 128 ^ before.length := by rw [Nat.mod_add_div]
      rw [decodeVarint_byte hhead hread, if_neg (by omega)]
      simp only [List.append_assoc, List.length_append, List.length_singleton, List.cons_append,
        List.nil_append, hmod, hvalue] at hlater ⊢
      rw [hlater, List.length_cons, Nat.add_assoc, Nat.add_comm 1]

-- A length that is refused is refused for the bytes that were read.
theorem decodeVarint_refused {data : Bytes} {left index value : Nat} {message : String}
    (h : decodeVarint data left index value = .error (.refused message)) {other : Bytes}
    (hother : ∀ i < index + left, i < data.length → other[i]? = data[i]?) :
    decodeVarint other left index value = .error (.refused message) := by
  induction left generalizing index value with
  | zero => exact h
  | succ left ih =>
      simp only [decodeVarint] at h ⊢
      cases hbyte : data[index]? with
      | none =>
          rw [hbyte] at h
          cases h
      | some byte =>
          have hlength := (List.getElem?_eq_some_iff.mp hbyte).1
          rw [hother index (by omega) hlength, hbyte]
          rw [hbyte] at h
          dsimp only at h ⊢
          split at h
          · cases h
          · rename_i hmore
            rw [if_neg hmore]
            exact ih h fun i hi hlength => hother i (by omega) hlength

theorem decodeVarint_incomplete {data : Bytes} {left index value : Nat} {message : String}
    (h : decodeVarint data left index value = .error (.incompleteFrame message)) :
    data.length < index + left := by
  induction left generalizing index value with
  | zero => cases h
  | succ left ih =>
      simp only [decodeVarint] at h
      split at h
      · rename_i hnone
        have hle := List.getElem?_eq_none_iff.mp hnone
        omega
      · split at h
        · cases h
        · have hlt := ih h
          omega

end Varint

section Frame

theorem command_toBytesBig {command : Nat} (h : command < 2 ^ 16) :
    fromBytesBig (toBytesBig 2 command) = command := by
  simp only [toBytesBig, fromBytesBig, List.foldl_cons, List.foldl_nil, UInt8.toNat_ofNat']
  omega

-- The magic and the length decide that data cannot begin with a frame.
def FRAME_HEAD_BYTES : Nat := MAGIC.length + MAX_VARINT_BYTES

-- No frame is longer than this, with a length of as many bytes as it may take.
def MAX_FRAME_BYTES : Nat := FRAME_HEAD_BYTES + MAX_PAYLOAD_BYTES

-- A body is the flag, the two bytes of the command and the payload.
def Frame.body (frame : Frame) : Bytes :=
  frame.flag :: toBytesBig 2 frame.command ++ frame.payload

def Frame.ofBody (body : Bytes) : Frame :=
  { command := fromBytesBig ((body.drop 1).take 2), payload := body.drop 3, flag := body.headD 0 }

theorem decodeFrame_of_error {behind : Bytes} {error : ProtocolError}
    (h : decodeVarint behind MAX_VARINT_BYTES 0 0 = .error error) :
    decodeFrame (MAGIC ++ behind) = .error error := by
  unfold decodeFrame
  rw [if_neg (by simp), if_neg (by simp [List.isPrefixOf_iff_prefix]), List.drop_left, h]

-- What a length in any spelling comes to.
theorem decodeFrame_of_varint {length : Bytes} {number : Nat} (hlength : Varint length number)
    (hshort : length.length ≤ MAX_VARINT_BYTES) (rest : Bytes) :
    decodeFrame (MAGIC ++ length ++ rest) =
      if number > MAX_PAYLOAD_BYTES then
        .error (.refused "declared frame length exceeds the permitted maximum")
      else if number < 3 then
        .error (.refused "declared frame length is too small to hold a command")
      else if rest.length < number then .error (.incompleteFrame "frame body is truncated")
      else .ok (.ofBody (rest.take number), MAGIC.length + length.length + number) := by
  have hvarint : decodeVarint (length ++ rest) MAX_VARINT_BYTES 0 0 =
      .ok (number, length.length) := by
    have hread := decodeVarint_varint hlength hshort [] rest (Nat.one_pos : 0 < 128 ^ 0)
    simpa using hread
  have hbehind : (MAGIC ++ (length ++ rest)).drop (MAGIC.length + length.length) = rest := by
    rw [← List.append_assoc, ← List.length_append, List.drop_left]
  have htruncated : (MAGIC ++ (length ++ rest)).length < MAGIC.length + length.length + number ↔
      rest.length < number := by
    simp only [List.length_append]
    omega
  rw [List.append_assoc]
  unfold decodeFrame
  rw [if_neg (by simp), if_neg (by simp [List.isPrefixOf_iff_prefix]), List.drop_left, hvarint]
  dsimp only
  rw [hbehind]
  simp only [htruncated]
  rfl

-- Data begin with the magic and a length, or they are shorter than these, or they are refused
-- whatever follows.
theorem decodeFrame_cases (data : Bytes) :
    (∃ length number rest, data = MAGIC ++ length ++ rest ∧ Varint length number ∧
        length.length ≤ MAX_VARINT_BYTES) ∨
      (∃ message, decodeFrame data = .error (.incompleteFrame message) ∧
        data.length < FRAME_HEAD_BYTES) ∨
      ∃ message, decodeFrame data = .error (.refused message) ∧
        ∀ other, data.take FRAME_HEAD_BYTES <+: other →
          decodeFrame other = .error (.refused message) := by
  have hhead : FRAME_HEAD_BYTES = MAGIC.length + MAX_VARINT_BYTES := rfl
  by_cases hshort : data.length < MAGIC.length
  · refine .inr (.inl ⟨"magic is truncated", ?_, by omega⟩)
    rw [decodeFrame, if_pos hshort]
  by_cases hmagic : MAGIC <+: data
  · obtain ⟨behind, rfl⟩ := hmagic
    cases hvarint : decodeVarint behind MAX_VARINT_BYTES 0 0 with
    | ok found =>
        obtain ⟨length, number, ⟨rest, rfl⟩, hnumber, hlength, -, -⟩ :=
          exists_varint Nat.one_pos hvarint
        exact .inl ⟨length, number, rest, (List.append_assoc _ _ _).symm, hnumber, hlength⟩
    | error error =>
        have hdecode := decodeFrame_of_error hvarint
        cases error with
        | incompleteFrame message =>
            have hlt := decodeVarint_incomplete hvarint
            refine .inr (.inl ⟨message, hdecode, ?_⟩)
            rw [List.length_append]
            omega
        | refused message =>
            refine .inr (.inr ⟨message, hdecode, fun other hother => ?_⟩)
            rw [hhead, List.take_length_add_append] at hother
            obtain ⟨later, rfl⟩ := hother
            rw [List.append_assoc]
            refine decodeFrame_of_error (decodeVarint_refused hvarint fun i hi hlength => ?_)
            rw [List.getElem?_append_left (by rw [List.length_take]; omega),
              List.getElem?_take_of_lt (by omega)]
  · refine .inr (.inr ⟨"frame does not start with the protocol magic", ?_, fun other hother => ?_⟩)
    · rw [decodeFrame, if_neg hshort, if_pos (by simpa [List.isPrefixOf_iff_prefix] using hmagic)]
    · have hlength := hother.length_le
      rw [List.length_take] at hlength
      have hother : ¬MAGIC <+: other := by
        intro hstarts
        refine hmagic ((List.prefix_of_prefix_length_le hstarts hother ?_).trans
          (List.take_prefix _ _))
        rw [List.length_take]
        omega
      rw [decodeFrame, if_neg (by omega),
        if_pos (by simpa [List.isPrefixOf_iff_prefix] using hother)]

-- What a frame is decoded from: the magic, a length in any spelling, and as many bytes.
theorem decodeFrame_eq_ok {data : Bytes} {frame : Frame} {consumed : Nat}
    (h : decodeFrame data = .ok (frame, consumed)) :
    ∃ length body rest, data = MAGIC ++ length ++ body ++ rest ∧ Varint length body.length ∧
      length.length ≤ MAX_VARINT_BYTES ∧ 3 ≤ body.length ∧ body.length ≤ MAX_PAYLOAD_BYTES ∧
      consumed = (MAGIC ++ length ++ body).length ∧ frame = .ofBody body := by
  rcases decodeFrame_cases data with ⟨length, number, behind, rfl, hlength, hshort⟩ |
    ⟨message, herror, -⟩ | ⟨message, herror, -⟩
  · rw [decodeFrame_of_varint hlength hshort] at h
    split at h
    · cases h
    split at h
    · cases h
    split at h
    · cases h
    rename_i hmax hmin hall
    obtain ⟨rfl, rfl⟩ := Prod.mk.inj (Except.ok.inj h)
    have hbody : (behind.take number).length = number :=
      List.length_take_of_le (Nat.le_of_not_lt hall)
    refine ⟨length, behind.take number, behind.drop number, ?_, hbody.symm ▸ hlength, hshort,
      by omega, by omega, ?_, rfl⟩
    · rw [List.append_assoc _ (behind.take number), List.take_append_drop]
    · rw [List.length_append, List.length_append, hbody]
  · cases herror.symm.trans h
  · cases herror.symm.trans h

-- A declared length is followed by as many bytes as it says.
theorem decodeFrame_framed {length body : Bytes} (hlength : Varint length body.length)
    (hshort : length.length ≤ MAX_VARINT_BYTES) (rest : Bytes) :
    decodeFrame (MAGIC ++ length ++ body ++ rest) =
      if body.length > MAX_PAYLOAD_BYTES then
        .error (.refused "declared frame length exceeds the permitted maximum")
      else if body.length < 3 then
        .error (.refused "declared frame length is too small to hold a command")
      else .ok (.ofBody body, (MAGIC ++ length ++ body).length) := by
  have hall : ¬(body ++ rest).length < body.length := by
    rw [List.length_append]
    omega
  rw [List.append_assoc _ body, decodeFrame_of_varint hlength hshort, if_neg hall,
    List.take_left, List.length_append, List.length_append]

theorem decodeFrame_stable {data : Bytes} {frame : Frame} {consumed : Nat}
    (h : decodeFrame data = .ok (frame, consumed)) {other : Bytes}
    (hother : data.take consumed <+: other) : decodeFrame other = .ok (frame, consumed) := by
  obtain ⟨length, body, rest, rfl, hlength, hshort, -, -, rfl, rfl⟩ := decodeFrame_eq_ok h
  rw [List.take_left] at hother
  obtain ⟨later, rfl⟩ := hother
  rw [decodeFrame_framed hlength hshort] at h ⊢
  exact h

theorem Frame.body_length (frame : Frame) : frame.body.length = frame.payload.length + 3 := by
  simp [body, toBytesBig]

theorem Frame.ofBody_body {frame : Frame} (hcommand : frame.command < 2 ^ 16) :
    .ofBody frame.body = frame := by
  have hread : fromBytesBig ((frame.body.drop 1).take 2) = frame.command :=
    command_toBytesBig hcommand
  rw [ofBody, hread]
  rfl

theorem Frame.body_ofBody {body : Bytes} (hbody : 3 ≤ body.length) :
    (ofBody body).body = body ∧ (ofBody body).command < 2 ^ 16 := by
  obtain ⟨flag, high, low, payload, rfl⟩ : ∃ flag high low payload,
      body = flag :: high :: low :: payload := by
    rcases body with _ | ⟨flag, _ | ⟨high, _ | ⟨low, payload⟩⟩⟩
    · simp at hbody
    · simp at hbody
    · simp at hbody
    · exact ⟨flag, high, low, payload, rfl⟩
  have hhigh := high.toNat_lt
  have hlow := low.toNat_lt
  have hcommand : fromBytesBig [high, low] = high.toNat * 256 + low.toNat := by
    simp [fromBytesBig]
  have hfirst : (high.toNat * 256 + low.toNat) / 256 ^ 1 % 256 = high.toNat := by omega
  have hsecond : (high.toNat * 256 + low.toNat) / 256 ^ 0 % 256 = low.toNat := by omega
  simp only [ofBody, Frame.body, List.headD_cons, List.drop_succ_cons, List.drop_zero,
    List.take_succ_cons, List.take_zero, hcommand, toBytesBig, hfirst, hsecond,
    UInt8.ofNat_toNat, List.cons_append, List.nil_append, true_and]
  omega

theorem Frame.encode_eq {frame : Frame} (h : frame.payload.length ≤ MAX_PAYLOAD_BYTES) :
    frame.encode = (encodeVarint MAX_VARINT_BYTES frame.body.length).map fun length =>
      MAGIC ++ length ++ frame.body := by
  rw [encode, if_neg (Nat.not_lt.mpr h)]
  rfl

theorem Frame.encode_ok {frame : Frame} {encoded : Bytes} (h : frame.encode = .ok encoded) :
    frame.payload.length ≤ MAX_PAYLOAD_BYTES ∧ ∃ length,
      encodeVarint MAX_VARINT_BYTES frame.body.length = .ok length ∧
      encoded = MAGIC ++ length ++ frame.body := by
  by_cases hpayload : frame.payload.length ≤ MAX_PAYLOAD_BYTES
  · rw [encode_eq hpayload] at h
    cases hlength : encodeVarint MAX_VARINT_BYTES frame.body.length with
    | error error =>
        rw [hlength] at h
        cases h
    | ok length =>
        rw [hlength] at h
        exact ⟨hpayload, length, rfl, (Except.ok.inj h).symm⟩
  · rw [encode, if_pos (Nat.lt_of_not_le hpayload)] at h
    cases h

theorem Frame.encode_succeeds {frame : Frame}
    (h : frame.payload.length ≤ MAX_PAYLOAD_BYTES) : ∃ encoded, frame.encode = .ok encoded := by
  have hbody : frame.body.length < 128 ^ MAX_VARINT_BYTES := by
    simp only [body_length, MAX_VARINT_BYTES, MAX_PAYLOAD_BYTES] at h ⊢
    omega
  obtain ⟨length, hlength⟩ : ∃ length, encodeVarint MAX_VARINT_BYTES _ = .ok length :=
    encodeVarint_ok hbody
  rw [encode_eq h, hlength]
  exact ⟨_, rfl⟩

theorem decodeFrame_encode {frame : Frame} {encoded : Bytes} (hcommand : frame.command < 2 ^ 16)
    (hencode : frame.encode = .ok encoded) (rest : Bytes) :
    decodeFrame (encoded ++ rest) =
      if frame.payload.length ≤ MAX_PAYLOAD_BYTES - 3 then .ok (frame, encoded.length)
      else .error (.refused "declared frame length exceeds the permitted maximum") := by
  obtain ⟨-, length, hlength, rfl⟩ := Frame.encode_ok hencode
  obtain ⟨hvarint, hshort, -⟩ := encodeVarint_varint hlength
  have hmin : ¬frame.payload.length + 3 < 3 := by omega
  rw [decodeFrame_framed hvarint hshort, Frame.ofBody_body hcommand, frame.body_length,
    if_neg hmin]
  by_cases hshort : frame.payload.length ≤ MAX_PAYLOAD_BYTES - 3
  · have hmax : ¬frame.payload.length + 3 > MAX_PAYLOAD_BYTES := by
      simp only [MAX_PAYLOAD_BYTES] at hshort ⊢
      omega
    rw [if_pos hshort, if_neg hmax]
  · have hmax : frame.payload.length + 3 > MAX_PAYLOAD_BYTES := by
      simp only [MAX_PAYLOAD_BYTES] at hshort ⊢
      omega
    rw [if_neg hshort, if_pos hmax]

theorem decodeFrame_refused {data : Bytes} {message : String}
    (h : decodeFrame data = .error (.refused message)) {other : Bytes}
    (hother : data.take FRAME_HEAD_BYTES <+: other) :
    decodeFrame other = .error (.refused message) := by
  rcases decodeFrame_cases data with ⟨length, number, behind, rfl, hlength, hshort⟩ |
    ⟨own, herror, -⟩ | ⟨own, herror, hstays⟩
  · have hhead : MAGIC ++ length <+: other := by
      refine (List.prefix_of_prefix_length_le (List.prefix_append _ behind)
        (List.take_prefix FRAME_HEAD_BYTES _) ?_).trans hother
      simp only [FRAME_HEAD_BYTES, List.length_take, List.length_append]
      omega
    obtain ⟨later, rfl⟩ := hhead
    rw [decodeFrame_of_varint hlength hshort] at h ⊢
    split at h
    · rename_i hmax
      rw [if_pos hmax]
      exact h
    rename_i hmax
    rw [if_neg hmax]
    split at h
    · rename_i hmin
      rw [if_pos hmin]
      exact h
    split at h
    · cases h
    · cases h
  · cases herror.symm.trans h
  · obtain rfl : own = message := by simpa using herror.symm.trans h
    exact hstays other hother

theorem decodeFrame_incomplete {data : Bytes} {message : String}
    (h : decodeFrame data = .error (.incompleteFrame message)) :
    data.length < MAX_FRAME_BYTES := by
  rcases decodeFrame_cases data with ⟨length, number, behind, rfl, hlength, hshort⟩ |
    ⟨own, -, hhead⟩ | ⟨own, herror, -⟩
  · rw [decodeFrame_of_varint hlength hshort] at h
    split at h
    · cases h
    split at h
    · cases h
    split at h
    · simp only [MAX_FRAME_BYTES, FRAME_HEAD_BYTES, List.length_append]
      omega
    · cases h
  · exact hhead.trans_le (Nat.le_add_right _ _)
  · cases herror.symm.trans h

theorem decodeFrame_consumed_le {data : Bytes} {frame : Frame} {consumed : Nat}
    (h : decodeFrame data = .ok (frame, consumed)) : consumed ≤ MAX_FRAME_BYTES := by
  obtain ⟨length, body, rest, -, -, hshort, -, hmax, rfl, -⟩ := decodeFrame_eq_ok h
  simp only [MAX_FRAME_BYTES, FRAME_HEAD_BYTES, List.length_append]
  omega

-- The sender bounds the payload and the receiver the declared length, which counts the flag
-- and the command as well.
theorem round_trip_iff {frame : Frame} {encoded : Bytes} (hcommand : frame.command < 2 ^ 16)
    (hencode : frame.encode = .ok encoded) :
    (∀ rest, decodeFrame (encoded ++ rest) = .ok (frame, encoded.length)) ↔
      frame.payload.length ≤ MAX_PAYLOAD_BYTES - 3 := by
  constructor
  · intro h
    by_contra hlong
    have hread := h []
    rw [decodeFrame_encode hcommand hencode, if_neg hlong] at hread
    cases hread
  · intro hshort rest
    rw [decodeFrame_encode hcommand hencode, if_pos hshort]

theorem round_trip_iff_status :
    (∀ rest, decodeFrame ([0x00, 0x00, 0x00, 0x03, 0x04, 0x00, 0x00, 0x90, 0x02] ++ rest) =
      .ok ({ command := 0x0090, payload := [0x02] }, 9)) ↔ 1 ≤ MAX_PAYLOAD_BYTES - 3 :=
  @round_trip_iff { command := 0x0090, payload := [0x02] }
    [0x00, 0x00, 0x00, 0x03, 0x04, 0x00, 0x00, 0x90, 0x02] (by decide) (by decide +kernel)

-- The longest payload the sender takes, which the receiver refuses.
theorem longest_payload_refused : ∃ encoded,
    Frame.encode { command := 0x0093, payload := List.replicate 2048 0x00 } = .ok encoded ∧
      decodeFrame encoded =
        .error (.refused "declared frame length exceeds the permitted maximum") := by
  obtain ⟨encoded, hencoded⟩ := Frame.encode_succeeds
    (show List.length (Frame.payload { command := 0x0093, payload := List.replicate 2048 0x00 }) ≤
      MAX_PAYLOAD_BYTES by rw [List.length_replicate]; decide)
  refine ⟨encoded, hencoded, ?_⟩
  have hread := decodeFrame_encode (by decide) hencoded []
  rw [List.append_nil, List.length_replicate, if_neg (by decide)] at hread
  exact hread

end Frame

end Homeflow.Bestway
