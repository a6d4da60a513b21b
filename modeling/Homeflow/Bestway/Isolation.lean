import Homeflow.Bestway.Control

namespace Homeflow.Bestway

-- Two locations that have a bit in common.
def Location.Overlaps : Location → Location → Prop
  | .bit offset place, .bit other otherPlace => offset = other ∧ place = otherPlace
  | location, other => location.offset = other.offset

-- A reported block with the control values of a request put back into it.
def DatapointProfile.splice (profile : DatapointProfile) (payload attrVals : Bytes) : Bytes :=
  let start := (profile.controlValuesOffset.getD 0).toNat
  payload.take start ++ attrVals ++ payload.drop (start + attrVals.length)

-- A control request for the datapoint neither changes nor flags another one.
def Isolated (profile : DatapointProfile) (datapoint : Datapoint) : Prop :=
  ∀ value payload decoded attrFlags attrVals, profile.decode payload = .ok decoded →
    profile.encodeControl datapoint value payload = .ok (some (attrFlags, attrVals)) →
    (∃ after, profile.decode (profile.splice payload attrVals) = .ok after ∧
      ∀ other, other ≠ datapoint → after other = decoded other) ∧
    ∀ other, other ≠ datapoint → ∀ flagBit : Nat,
      profile.controlFlagBits.get? other = some (flagBit : Int) → attrFlags ≠ 1 <<< flagBit

-- No other datapoint has a bit or the flag of this one.
def Separate (profile : DatapointProfile) (datapoint : Datapoint) : Prop :=
  ∀ other, other ≠ datapoint →
    (∀ location otherLocation, profile.locations.get? datapoint = some location →
      profile.locations.get? other = some otherLocation → ¬location.Overlaps otherLocation) ∧
    ∀ flagBit, profile.controlFlagBits.get? datapoint = some flagBit →
      profile.controlFlagBits.get? other ≠ some flagBit

section Location

theorem mask_testBit (place : Fin 8) (bit : Nat) :
    ((1 : UInt8) <<< UInt8.ofNat place.val).toNat.testBit bit = decide (place.val = bit) := by
  have hmask : ((1 : UInt8) <<< UInt8.ofNat place.val).toNat = 2 ^ place.val := by
    revert place
    decide
  rw [hmask, Nat.testBit_two_pow]

-- A value written to one bit is read there, and nowhere else in the byte.
theorem put_testBit (offset : Nat) (place : Fin 8) (value : Value) (raw : UInt8) {bit : Nat}
    (hbit : bit < 8) : ((Location.bit offset place).put value raw).toNat.testBit bit =
      if place.val = bit then value.truth else raw.toNat.testBit bit := by
  have hones : (0xFF : UInt8).toNat.testBit bit = true := by
    have hall : (0xFF : UInt8).toNat = 2 ^ 8 - 1 := rfl
    rw [hall, Nat.testBit_two_pow_sub_one]
    simpa using hbit
  simp only [Location.put]
  by_cases htruth : value.truth = true
  · rw [if_pos htruth, UInt8.toNat_or, Nat.testBit_or, mask_testBit]
    by_cases hplace : place.val = bit <;> simp [hplace, htruth]
  · rw [if_neg htruth, UInt8.toNat_and, UInt8.toNat_xor, Nat.testBit_and, Nat.testBit_xor,
      mask_testBit, hones]
    by_cases hplace : place.val = bit <;> simp [hplace, htruth]

theorem readLocation_bit (payload : Bytes) (offset : Nat) (place : Fin 8) :
    DatapointProfile.readLocation payload (.bit offset place) =
      .bool ((payload.getD offset 0).toNat.testBit place.val) := by
  simp only [DatapointProfile.readLocation, Nat.testBit, bne, beq_eq_decide,
    Nat.and_comm 1, decide_not]

theorem getD_modify (payload : Bytes) (change : UInt8 → UInt8) {index : Nat}
    (hindex : index < payload.length) (offset : Nat) :
    (payload.modify index change).getD offset 0 =
      if index = offset then change (payload.getD offset 0) else payload.getD offset 0 := by
  simp only [List.getD_eq_getElem?_getD, List.getElem?_modify]
  by_cases heq : index = offset
  · subst heq
    simp [List.getElem?_eq_getElem hindex]
  · simp [heq]

theorem readLocation_modify {payload : Bytes} {location other : Location} {value : Value}
    (hoffset : location.offset < payload.length) (hoverlap : ¬location.Overlaps other) :
    DatapointProfile.readLocation (payload.modify location.offset (location.put value)) other =
      DatapointProfile.readLocation payload other := by
  by_cases hsame : location.offset = other.offset
  · cases location with
    | byte offset => exact absurd hsame (by cases other <;> exact hoverlap)
    | bit offset place =>
        cases other with
        | byte otherOffset => exact absurd hsame hoverlap
        | bit otherOffset otherPlace =>
            have hplace : place.val ≠ otherPlace.val := fun heq =>
              hoverlap ⟨hsame, Fin.ext heq⟩
            simp only [Location.offset] at hsame hoffset
            subst hsame
            rw [readLocation_bit, readLocation_bit, Location.offset, getD_modify _ _ hoffset,
              if_pos rfl, put_testBit _ _ _ _ otherPlace.isLt, if_neg hplace]
  · have hkept := getD_modify payload (location.put value) hoffset other.offset
    rw [if_neg hsame] at hkept
    cases other with
    | byte otherOffset => exact congrArg (fun byte : UInt8 => Value.int byte.toNat) hkept
    | bit otherOffset otherPlace =>
        rw [readLocation_bit, readLocation_bit]
        exact congrArg (fun byte : UInt8 => Value.bool (byte.toNat.testBit otherPlace)) hkept

end Location

section Splice

variable {profile : DatapointProfile} {datapoint : Datapoint} {payload : Bytes}

theorem modify_within (first middle last : Bytes) (change : UInt8 → UInt8) {index : Nat}
    (h : index < middle.length) :
    (first ++ middle ++ last).modify (first.length + index) change =
      first ++ middle.modify index change ++ last := by
  refine List.ext_getElem? fun i => ?_
  simp only [List.getElem?_modify, List.getElem?_append, List.length_append, List.length_modify]
  by_cases hfirst : i < first.length
  · have hne : first.length + index ≠ i := by omega
    simp [hfirst, Nat.lt_add_right, hne]
  · by_cases hmiddle : i < first.length + middle.length
    · have hsame : first.length + index = i ↔ index = i - first.length := by omega
      simp [hfirst, hmiddle, hsame]
    · have hne : first.length + index ≠ i := by omega
      simp [hmiddle, hne]

-- The request put back is the block with one byte changed.
theorem splice_eq_modify (block : DatapointProfile.Block profile datapoint payload.length)
    (change : UInt8 → UInt8) :
    profile.splice payload (((payload.take block.stop).drop block.start).modify
      (block.location.offset - block.start) change) =
      payload.modify block.location.offset change := by
  have hstart := block.start_le
  have hindex := block.index_lt
  have hstop := block.stop_le
  have hvalues := block.values_length
  have hfirst : (payload.take block.start).length = block.start := by
    rw [List.length_take]
    omega
  have hwhole : payload.take block.start ++ (payload.take block.stop).drop block.start ++
      payload.drop block.stop = payload := by
    have htake : payload.take block.start = (payload.take block.stop).take block.start := by
      rw [List.take_take, Nat.min_eq_left (by omega)]
    rw [htake, List.take_append_drop, List.take_append_drop]
  have hchanged := modify_within (payload.take block.start)
    ((payload.take block.stop).drop block.start) (payload.drop block.stop) change
    (hvalues.symm ▸ hindex)
  rw [hwhole, hfirst, Nat.add_sub_of_le hstart] at hchanged
  rw [hchanged]
  simp only [DatapointProfile.splice, block.offset_eq, Option.getD_some, Int.toNat_natCast,
    List.length_modify, hvalues]
  rw [Nat.add_sub_of_le (by omega)]

theorem decode_modify {decoded : Datapoint → Option Value}
    (h : profile.decode payload = .ok decoded) (index : Nat) (change : UInt8 → UInt8) :
    profile.decode (payload.modify index change) = .ok fun other =>
      (profile.locations.get? other).map
        (DatapointProfile.readLocation (payload.modify index change)) := by
  rw [DatapointProfile.decode_eq_ok_iff] at h ⊢
  exact ⟨by simpa using h.1, by simpa using h.2.1, rfl⟩

end Splice

section Isolated

variable {profile : DatapointProfile} {datapoint : Datapoint}

theorem isolated_of_separate (h : Separate profile datapoint) : Isolated profile datapoint := by
  intro value payload decoded attrFlags attrVals hdecode hencode
  obtain ⟨-, block, -, rfl, rfl⟩ := DatapointProfile.encodeControl_of_ok hencode
  have hoffset : block.location.offset < payload.length :=
    Nat.lt_of_lt_of_le block.offset_lt block.stop_le
  obtain ⟨-, -, rfl⟩ := DatapointProfile.decode_eq_ok_iff.mp hdecode
  rw [splice_eq_modify]
  refine ⟨⟨_, decode_modify hdecode _ _, fun other hother => ?_⟩,
    fun other hother flagBit hflagBit heq => ?_⟩
  · dsimp only
    cases hlocation : profile.locations.get? other with
    | none => rfl
    | some location =>
        exact congrArg some (readLocation_modify hoffset
          ((h other hother).1 _ location block.location_eq hlocation))
  · rw [Nat.one_shiftLeft, Nat.one_shiftLeft] at heq
    obtain rfl := Nat.pow_right_injective (le_refl 2) heq
    exact (h other hother).2 _ block.flagBit_eq hflagBit

-- A value that changes all bits of a location that are clear.
def Location.filled : Location → Value
  | .byte _ => .int 0xFF
  | .bit _ _ => .bool true

theorem Location.filled_fits (location : Location) : location.Fits location.filled := by
  cases location with
  | byte offset => exact ⟨Int.natCast_nonneg 0xFF, le_refl (0xFF : Int)⟩
  | bit offset place => trivial

theorem put_filled_byte (offset : Nat) :
    (Location.byte offset).put (Location.byte offset).filled 0 = 0xFF := rfl

theorem put_filled_bit (offset : Nat) (place : Fin 8) :
    (Location.bit offset place).put (Location.bit offset place).filled 0 =
      (1 : UInt8) <<< UInt8.ofNat place.val := UInt8.zero_or

theorem readLocation_filled {payload : Bytes} {location other : Location}
    (hoffset : location.offset < payload.length) (hclear : payload.getD location.offset 0 = 0)
    (hoverlap : location.Overlaps other) :
    DatapointProfile.readLocation
        (payload.modify location.offset (location.put location.filled)) other ≠
      DatapointProfile.readLocation payload other := by
  have hchanged := getD_modify payload (location.put location.filled) hoffset location.offset
  rw [if_pos rfl, hclear] at hchanged
  cases location with
  | byte offset =>
      rw [put_filled_byte] at hchanged
      cases other with
      | byte otherOffset =>
          obtain rfl : offset = otherOffset := hoverlap
          simp only [Location.offset, DatapointProfile.readLocation] at hchanged hclear ⊢
          rw [hchanged, hclear]
          decide
      | bit otherOffset otherPlace =>
          obtain rfl : offset = otherOffset := hoverlap
          rw [readLocation_bit, readLocation_bit]
          simp only [Location.offset] at hchanged hclear ⊢
          rw [hchanged, hclear]
          revert otherPlace
          decide
  | bit offset place =>
      rw [put_filled_bit] at hchanged
      cases other with
      | byte otherOffset =>
          obtain rfl : offset = otherOffset := hoverlap
          simp only [Location.offset, DatapointProfile.readLocation] at hchanged hclear ⊢
          rw [hchanged, hclear]
          clear hchanged hoffset
          revert place
          decide
      | bit otherOffset otherPlace =>
          obtain ⟨rfl, rfl⟩ := hoverlap
          rw [readLocation_bit, readLocation_bit]
          simp only [Location.offset] at hchanged hclear ⊢
          rw [hchanged, hclear]
          clear hchanged hoffset
          revert place
          decide

theorem separate_of_isolated (hwrite : profile.mayWrite datapoint = true) {length : Nat}
    (block : DatapointProfile.Block profile datapoint length)
    (h : Isolated profile datapoint) : Separate profile datapoint := by
  let payload : Bytes := List.replicate (max length profile.shortest) 0
  have hlength : payload.length = max length profile.shortest := List.length_replicate
  have hclear (index : Nat) : payload.getD index 0 = 0 := by
    simp only [payload, List.getD_eq_getElem?_getD, List.getElem?_replicate]
    split <;> rfl
  obtain ⟨decoded, hdecode⟩ := DatapointProfile.decodes_iff.mpr
    (hlength.symm ▸ Nat.le_max_right length profile.shortest)
  let whole := block.longer (hlength.symm ▸ Nat.le_max_left length profile.shortest)
  have hoffset : block.location.offset < payload.length :=
    Nat.lt_of_lt_of_le whole.offset_lt whole.stop_le
  obtain ⟨⟨after, hafter, hothers⟩, hflags⟩ := h block.location.filled payload decoded _ _ hdecode
    (DatapointProfile.encodeControl_of_block hwrite whole (Location.filled_fits _))
  rw [splice_eq_modify, decode_modify hdecode] at hafter
  obtain rfl := Except.ok.inj hafter
  obtain ⟨-, -, rfl⟩ := DatapointProfile.decode_eq_ok_iff.mp hdecode
  refine fun other hother => ⟨fun location otherLocation hlocation hotherLocation hoverlap => ?_,
    fun flagBit hflagBit hsame => ?_⟩
  · obtain rfl := Option.some.inj (hlocation.symm.trans block.location_eq)
    have hread := hothers other hother
    dsimp only at hread
    rw [hotherLocation] at hread
    exact readLocation_filled hoffset (hclear _) hoverlap (Option.some.inj hread)
  · obtain rfl := Option.some.inj (hflagBit.symm.trans block.flagBit_eq)
    exact hflags other hother _ hsame rfl

-- A layout may give two datapoints one bit, a byte and a bit of it, or one flag.
theorem isolated_iff (profile : DatapointProfile) (datapoint : Datapoint) :
    Isolated profile datapoint ↔
      (profile.mayWrite datapoint = true →
        (∃ length, Nonempty (DatapointProfile.Block profile datapoint length)) →
        Separate profile datapoint) := by
  constructor
  · rintro h hwrite ⟨length, ⟨block⟩⟩
    exact separate_of_isolated hwrite block h
  · intro h value payload decoded attrFlags attrVals hdecode hencode
    obtain ⟨hwrite, block, -⟩ := DatapointProfile.encodeControl_of_ok hencode
    exact isolated_of_separate (h hwrite ⟨_, ⟨block⟩⟩) value payload decoded attrFlags attrVals
      hdecode hencode

end Isolated

-- A layout that puts the filter pump on the bit of the heater, of which only the heater is
-- released.
def sharedBit : DatapointProfile :=
  { AIRJET_19BYTE_PROFILE with
    locations := ⟨[(.heater, .bit 1 1), (.filterPump, .bit 1 1)], by decide⟩
    trusted := true
    writable := [.heater]
    offsets_lt := by decide
    writable_known := by decide }

theorem heater_switches_pump : ¬Isolated sharedBit .heater := by
  intro h
  have hseparate := separate_of_isolated (by decide)
    (⟨1, 14, 1, .bit 1 1, rfl, rfl, by decide, by decide, by decide, by decide, by decide⟩ :
      DatapointProfile.Block sharedBit .heater 19) h
  exact (hseparate .filterPump (by decide)).1 (.bit 1 1) (.bit 1 1) (by decide) (by decide)
    ⟨rfl, rfl⟩

end Homeflow.Bestway
