import Homeflow.Bestway.Isolation

namespace Homeflow.Bestway

-- What a location shows once a value has been written to it.
def Location.shown (value : Value) : Location → Value
  | .byte _ => .int value.number
  | .bit _ _ => .bool value.truth

-- The values differ from the block in the located byte or bit at most.
def Location.ChangesOnly (index : Nat) (block attrVals : Bytes) : Location → Prop
  | .byte _ => ∀ other, other ≠ index → attrVals[other]? = block[other]?
  | .bit _ place =>
      (∀ other, other ≠ index → attrVals[other]? = block[other]?) ∧
        ∀ bit < 8, bit ≠ place.val →
          (attrVals.getD index 0).toNat.testBit bit = (block.getD index 0).toNat.testBit bit

-- What is asked of a control request that is returned for a layout with this block.
structure Changes (profile : DatapointProfile) (datapoint : Datapoint) (value : Value)
    (payload : Bytes) (attrFlags : Nat) (attrVals : Bytes) (start span flagBit : Int)
    (location : Location) : Prop where
  offset_eq : profile.controlValuesOffset = some start
  span_eq : profile.controlValuesLength = some span
  flagBit_eq : profile.controlFlagBits.get? datapoint = some flagBit
  location_eq : profile.locations.get? datapoint = some location
  start_nonneg : 0 ≤ start
  flags : 0 ≤ flagBit ∧ attrFlags = 2 ^ flagBit.toNat
  length : (attrVals.length : Int) = span
  only : location.ChangesOnly (location.offset - start).toNat
    (slice payload start (start + span)) attrVals
  read : DatapointProfile.readLocation (profile.splice payload attrVals) location =
    location.shown value
  -- A block that fits the layout still fits it, and decodes to the value.
  decoded : (∃ decoded, profile.decode payload = .ok decoded) →
    ∃ after, profile.decode (profile.splice payload attrVals) = .ok after ∧
      after datapoint = some (location.shown value)

-- A control request changes exactly the field it is for.
def ChangesOneField (profile : DatapointProfile) (datapoint : Datapoint) (value : Value)
    (payload : Bytes) : Prop :=
  ∀ attrFlags attrVals,
    profile.encodeControl datapoint value payload = .ok (some (attrFlags, attrVals)) →
    profile.mayWrite datapoint = true ∧ ∃ start span flagBit location,
      Changes profile datapoint value payload attrFlags attrVals start span flagBit location

section Location

variable {location : Location} {value : Value} {payload : Bytes}

theorem changesOnly_modify {index : Nat} (hindex : index < payload.length) :
    location.ChangesOnly index payload (payload.modify index (location.put value)) := by
  have hothers : ∀ other, other ≠ index →
      (payload.modify index (location.put value))[other]? = payload[other]? := by
    intro other hne
    rw [List.getElem?_modify]
    simp [Ne.symm hne]
  cases location with
  | byte offset => exact hothers
  | bit offset place =>
      refine ⟨hothers, fun bit hbit hne => ?_⟩
      rw [getD_modify _ _ hindex, if_pos rfl, put_testBit _ _ _ _ hbit, if_neg (Ne.symm hne)]

theorem readLocation_put (hoffset : location.offset < payload.length)
    (hfits : location.Fits value) :
    DatapointProfile.readLocation (payload.modify location.offset (location.put value)) location =
      location.shown value := by
  have hput := getD_modify payload (location.put value) hoffset location.offset
  rw [if_pos rfl] at hput
  cases location with
  | byte offset =>
      obtain ⟨hlow, hhigh⟩ := hfits
      have hnumber : ((UInt8.ofNat value.number.toNat).toNat : Int) = value.number := by
        rw [UInt8.toNat_ofNat']
        omega
      simp only [DatapointProfile.readLocation, Location.shown, Location.offset] at hput ⊢
      rw [hput, Location.put, hnumber]
  | bit offset place =>
      rw [readLocation_bit, Location.shown]
      simp only [Location.offset] at hput ⊢
      rw [hput, put_testBit _ _ _ _ place.isLt, if_pos rfl]

end Location

section Block

variable {profile : DatapointProfile} {datapoint : Datapoint} {value : Value} {payload : Bytes}

-- The end of the block is where the layout says, unless that is before the start of the
-- data: then it is counted from the end.
theorem DatapointProfile.Block.stop_eq {length : Nat} (block : Block profile datapoint length)
    (hend : 0 ≤ block.start + block.span) : (block.stop : Int) = block.start + block.span := by
  rw [stop, sliceIndex, if_neg (by omega)]
  omega

theorem changes_of_block (block : DatapointProfile.Block profile datapoint payload.length)
    (hend : 0 ≤ block.start + block.span) (hfits : block.location.Fits value) :
    Changes profile datapoint value payload (1 <<< block.flagBit)
      (((payload.take block.stop).drop block.start).modify
        (block.location.offset - block.start) (block.location.put value))
      block.start block.span block.flagBit block.location := by
  have hvalues := block.values_length
  have hindex := block.index_lt
  have hstop := block.stop_eq hend
  have hoffset : block.location.offset < payload.length :=
    Nat.lt_of_lt_of_le block.offset_lt block.stop_le
  have hread := readLocation_put hoffset hfits
  refine ⟨block.offset_eq, block.span_eq, block.flagBit_eq, block.location_eq,
    Int.natCast_nonneg _, ⟨Int.natCast_nonneg _, ?_⟩, ?_, ?_, ?_, ?_⟩
  · rw [Nat.one_shiftLeft, Int.toNat_natCast]
  · rw [List.length_modify, hvalues]
    omega
  · have hblock : slice payload block.start (block.start + block.span) =
        (payload.take block.stop).drop block.start := slice_natCast _ _ _
    have hplace : ((block.location.offset : Int) - block.start).toNat =
        block.location.offset - block.start := by omega
    rw [hblock, hplace]
    exact changesOnly_modify (hvalues.symm ▸ hindex)
  · rw [splice_eq_modify]
    exact hread
  · rintro ⟨decoded, hdecode⟩
    rw [splice_eq_modify]
    refine ⟨_, decode_modify hdecode _ _, ?_⟩
    rw [block.location_eq, Option.map_some, hread]

end Block

-- A control request changes its field and nothing else as long as the end of the block is
-- not counted from the end of the payload.
theorem changes_one_field_iff (profile : DatapointProfile) (datapoint : Datapoint)
    (value : Value) (payload : Bytes) :
    ChangesOneField profile datapoint value payload ↔
      (profile.mayWrite datapoint = true →
        ∀ block : DatapointProfile.Block profile datapoint payload.length,
          block.location.Fits value → 0 ≤ block.start + block.span) := by
  constructor
  · intro h hwrite block hfits
    obtain ⟨-, start, span, flagBit, location, hchanges⟩ := h _ _
      (DatapointProfile.encodeControl_of_block hwrite block hfits)
    have hspan := hchanges.length
    obtain rfl := Option.some.inj (hchanges.span_eq.symm.trans block.span_eq)
    rw [List.length_modify, block.values_length] at hspan
    have hindex := block.index_lt
    have hstop := block.stop_le
    by_contra hend
    rw [DatapointProfile.Block.stop, sliceIndex, if_pos (by omega)] at hspan hindex hstop
    omega
  · intro h attrFlags attrVals hencode
    obtain ⟨hwrite, block, hfits, rfl, rfl⟩ := DatapointProfile.encodeControl_of_ok hencode
    exact ⟨hwrite, _, _, _, _, changes_of_block block (h hwrite block hfits) hfits⟩

-- A layout whose block of control values is two bytes shorter than nothing.
def negativeLength : DatapointProfile :=
  { AIRJET_19BYTE_PROFILE with
    controlValuesLength := some (-2)
    trusted := true
    writable := [.heater, .bubbles]
    writable_known := by decide }

-- The whole status block but for its first and its last byte goes out as control values.
theorem negative_length_sends_block :
    ¬ChangesOneField negativeLength .heater (.bool true) (List.replicate 19 0) := by
  intro h
  obtain ⟨-, start, span, flagBit, location, hchanges⟩ := h (1 <<< 1)
    ((List.replicate 17 (0 : UInt8)).modify 0 fun _ => 2) (by decide +kernel)
  have hspan := hchanges.span_eq
  have hlength := hchanges.length
  cases hspan
  simp at hlength

end Homeflow.Bestway
