import Homeflow.Bestway.Layout

namespace Homeflow.Bestway

section Slice

-- Where an index of a slice points in data of this length.
def sliceIndex (position : Int) (length : Nat) : Nat :=
  (if position < 0 then max (position + length) 0 else position).toNat

theorem slice_eq (data : Bytes) (start stop : Int) :
    slice data start stop =
      (data.take (sliceIndex stop data.length)).drop (sliceIndex start data.length) := rfl

theorem sliceIndex_le {position : Int} {length : Nat} (h : position ≤ length) :
    sliceIndex position length ≤ length := by
  unfold sliceIndex
  split <;> omega

-- An index that lies inside a slice shows that the slice does not start before the data: a
-- negative start counts from the end, and leaves too little.
theorem slice_inside {data : Bytes} {start stop : Int} {offset : Nat} (hstop : stop ≤ data.length)
    (hoffset : 0 ≤ offset - start) (h : offset - start < (slice data start stop).length) :
    0 ≤ start ∧ offset < sliceIndex stop data.length := by
  simp only [slice_eq, List.length_drop, List.length_take, sliceIndex] at h ⊢
  by_cases hneg : start < 0
  · rw [if_pos hneg] at h
    split at h <;> omega
  · rw [if_neg hneg] at h
    split at h
    · rename_i hend
      rw [if_pos hend]
      omega
    · rename_i hend
      rw [if_neg hend]
      omega

theorem slice_natCast (data : Bytes) (start : Nat) (stop : Int) :
    slice data start stop = (data.take (sliceIndex stop data.length)).drop start := by
  have hstart : ¬(start : Int) < 0 := by omega
  rw [slice_eq]
  simp only [sliceIndex, if_neg hstart, Int.toNat_natCast]

end Slice

section Location

-- The values that fit a location, and what such a value makes of its byte.
def Location.Fits (value : Value) : Location → Prop
  | .byte _ => 0 ≤ value.number ∧ value.number ≤ 0xFF
  | .bit _ _ => True

def Location.put (value : Value) : Location → UInt8 → UInt8
  | .byte _, _ => UInt8.ofNat value.number.toNat
  | .bit _ place, raw =>
      let mask := (1 : UInt8) <<< UInt8.ofNat place.val
      if value.truth then raw ||| mask else raw &&& (0xFF ^^^ mask)

theorem writeLocation_eq_ok_iff {datapoint : Datapoint} {values written : Bytes} {index : Nat}
    {value : Value} {location : Location} :
    DatapointProfile.writeLocation datapoint values index value location = .ok written ↔
      location.Fits value ∧ written = values.modify index (location.put value) := by
  cases location with
  | bit offset bit =>
      simp only [DatapointProfile.writeLocation, Location.Fits, true_and, Except.ok.injEq]
      exact ⟨Eq.symm, Eq.symm⟩
  | byte offset =>
      have hset : values.modify index ((Location.byte offset).put value) =
          values.set index (UInt8.ofNat value.number.toNat) :=
        (List.set_eq_modify _ _ _).symm
      simp only [DatapointProfile.writeLocation, Location.Fits, hset]
      split
      · rename_i hfits
        simp only [reduceCtorEq, false_iff, not_and]
        exact fun h => absurd h hfits
      · rename_i hfits
        rw [not_not] at hfits
        rw [Except.ok.injEq]
        exact ⟨fun h => ⟨hfits, h.symm⟩, fun h => h.2.symm⟩

end Location

namespace DatapointProfile

variable {profile : DatapointProfile} {datapoint : Datapoint} {value : Value} {payload : Bytes}

-- A status block is decoded when it has the length the layout asks for and every location.
theorem decode_eq_ok_iff {decoded : Datapoint → Option Value} :
    profile.decode payload = .ok decoded ↔
      profile.minimumPayloadLength ≤ payload.length ∧
        (∀ entry ∈ profile.locations.entries, entry.2.offset < payload.length) ∧
        decoded = fun datapoint =>
          (profile.locations.get? datapoint).map (readLocation payload) := by
  unfold decode
  by_cases hlength : payload.length < profile.minimumPayloadLength
  · rw [if_pos hlength]
    simp only [reduceCtorEq, false_iff]
    omega
  · rw [if_neg hlength]
    split
    · rename_i entry hfind
      simp only [reduceCtorEq, false_iff, not_and]
      intro _ hall
      have hoffset := List.find?_some hfind
      have hentry := hall entry (List.mem_of_find?_eq_some hfind)
      simp only [decide_eq_true_eq] at hoffset
      omega
    · rename_i hnone
      rw [List.find?_eq_none] at hnone
      constructor
      · intro h
        refine ⟨by omega, fun entry hentry => ?_, (Except.ok.inj h).symm⟩
        simpa using hnone entry hentry
      · rintro ⟨-, -, rfl⟩
        rfl

-- The part of a reported block that a control request for a datapoint echoes, with the flag
-- and the location of the datapoint in it.
structure Block (profile : DatapointProfile) (datapoint : Datapoint) (length : Nat) where
  start : Nat
  span : Int
  flagBit : Nat
  location : Location
  offset_eq : profile.controlValuesOffset = some (start : Int)
  span_eq : profile.controlValuesLength = some span
  flagBit_eq : profile.controlFlagBits.get? datapoint = some (flagBit : Int)
  location_eq : profile.locations.get? datapoint = some location
  within : start + span ≤ length
  start_le : start ≤ location.offset
  offset_lt : location.offset < sliceIndex (start + span) length

def Block.stop {length : Nat} (block : Block profile datapoint length) : Nat :=
  sliceIndex (block.start + block.span) length

theorem Block.stop_le {length : Nat} (block : Block profile datapoint length) :
    block.stop ≤ length := sliceIndex_le block.within

theorem Block.index_lt {length : Nat} (block : Block profile datapoint length) :
    block.location.offset - block.start < block.stop - block.start := by
  have hstart := block.start_le
  have hoffset : block.location.offset < block.stop := block.offset_lt
  omega

theorem Block.values_length (block : Block profile datapoint payload.length) :
    ((payload.take block.stop).drop block.start).length = block.stop - block.start := by
  rw [List.length_drop, List.length_take, Nat.min_eq_left block.stop_le]

-- What a control request is when there is one.
theorem encodeControl_of_ok {attrFlags : Nat} {attrVals : Bytes}
    (h : profile.encodeControl datapoint value payload = .ok (some (attrFlags, attrVals))) :
    profile.mayWrite datapoint = true ∧
      ∃ block : Block profile datapoint payload.length,
        block.location.Fits value ∧ attrFlags = 1 <<< block.flagBit ∧
        attrVals = ((payload.take block.stop).drop block.start).modify
          (block.location.offset - block.start) (block.location.put value) := by
  unfold encodeControl at h
  simp only [bind, Except.bind, pure, Except.pure, throw, throwThe, MonadExceptOf.throw] at h
  split at h
  · cases h
  rename_i hwrite
  split at h
  case h_2 => cases h
  rename_i start span hblock
  split at h
  · cases h
  rename_i hwithin
  split at h
  case h_2 => cases h
  rename_i flagBit hflagBit
  split at h
  case h_2 => cases h
  rename_i location hlocation
  split at h
  · cases h
  rename_i hinside
  split at h
  · cases h
  rename_i written hwritten
  split at h
  · cases h
  rename_i hflag
  rw [not_not] at hwrite hinside
  rw [Int.not_lt] at hwithin hflag
  obtain ⟨rfl, rfl⟩ := Prod.mk.inj (Option.some.inj (Except.ok.inj h))
  obtain ⟨hoffset, hspan⟩ := Prod.mk.inj hblock
  obtain ⟨hstart, hstop⟩ := slice_inside hwithin hinside.1 hinside.2
  obtain ⟨hfits, rfl⟩ := writeLocation_eq_ok_iff.mp hwritten
  obtain ⟨start, rfl⟩ := Int.eq_ofNat_of_zero_le hstart
  obtain ⟨flagBit, rfl⟩ := Int.eq_ofNat_of_zero_le hflag
  have hindex : ((location.offset : Int) - start).toNat = location.offset - start := by omega
  refine ⟨hwrite, ⟨start, span, flagBit, location, hoffset, hspan, hflagBit, hlocation, hwithin,
    by omega, hstop⟩, hfits, rfl, ?_⟩
  rw [slice_natCast, hindex]
  rfl

theorem negative_of_encodeControl (h : profile.encodeControl datapoint value payload = .ok none) :
    ∃ flagBit < 0, profile.controlFlagBits.get? datapoint = some flagBit := by
  unfold encodeControl at h
  simp only [bind, Except.bind, pure, Except.pure, throw, throwThe, MonadExceptOf.throw] at h
  split at h
  · cases h
  split at h
  case h_2 => cases h
  split at h
  · cases h
  split at h
  case h_2 => cases h
  rename_i flagBit hflagBit
  split at h
  case h_2 => cases h
  split at h
  · cases h
  split at h
  · cases h
  split at h
  · next hflag => exact ⟨flagBit, hflag, hflagBit⟩
  · cases h

theorem encodeControl_of_block (hwrite : profile.mayWrite datapoint = true)
    (block : Block profile datapoint payload.length) (hfits : block.location.Fits value) :
    profile.encodeControl datapoint value payload =
      .ok (some (1 <<< block.flagBit, ((payload.take block.stop).drop block.start).modify
        (block.location.offset - block.start) (block.location.put value))) := by
  obtain ⟨start, span, flagBit, location, hoffset, hspan, hflagBit, hlocation, hwithin, hstart,
    hstop⟩ := block
  have hlength : (slice payload start (start + span)).length =
      sliceIndex (start + span) payload.length - start := by
    rw [slice_natCast, List.length_drop, List.length_take, Nat.min_eq_left (sliceIndex_le hwithin)]
  have hinside : 0 ≤ (location.offset : Int) - start ∧
      (location.offset : Int) - start < (slice payload start (start + span)).length := by
    rw [hlength]
    omega
  have hindex : ((location.offset : Int) - start).toNat = location.offset - start := by omega
  have hwritten : writeLocation datapoint (slice payload start (start + span))
      ((location.offset : Int) - start).toNat value location = .ok _ :=
    writeLocation_eq_ok_iff.mpr ⟨hfits, rfl⟩
  have hflag : ¬(flagBit : Int) < 0 := by omega
  unfold encodeControl
  simp only [bind, Except.bind, pure, Except.pure, hwrite, hoffset, hspan, hflagBit, hlocation,
    not_true, if_false, if_neg (Int.not_lt.mpr hwithin), hinside, and_self, hwritten, hflag]
  rw [slice_natCast, hindex]
  rfl

-- The shortest status block that is decoded.
def shortest (profile : DatapointProfile) : Nat :=
  profile.locations.values.foldr (fun location length => max (location.offset + 1) length)
    profile.minimumPayloadLength

theorem shortest_le_iff (profile : DatapointProfile) (length : Nat) :
    profile.shortest ≤ length ↔ profile.minimumPayloadLength ≤ length ∧
      ∀ entry ∈ profile.locations.entries, entry.2.offset < length := by
  have hfold (locations : List Location) (least : Nat) :
      locations.foldr (fun location length => max (location.offset + 1) length) least ≤ length ↔
        least ≤ length ∧ ∀ location ∈ locations, location.offset < length := by
    induction locations with
    | nil => simp
    | cons location locations ih =>
        simp only [List.foldr_cons, Nat.max_le, ih, List.forall_mem_cons, Nat.succ_le_iff]
        exact and_left_comm
  rw [shortest, hfold]
  rw [OrderedDict.values, List.forall_mem_map]

theorem decodes_iff : (∃ decoded, profile.decode payload = .ok decoded) ↔
    profile.shortest ≤ payload.length := by
  simp only [decode_eq_ok_iff, shortest_le_iff]
  constructor
  · rintro ⟨decoded, hminimum, hoffsets, -⟩
    exact ⟨hminimum, hoffsets⟩
  · rintro ⟨hminimum, hoffsets⟩
    exact ⟨_, hminimum, hoffsets, rfl⟩

-- A longer block holds it as well.
def Block.longer {length other : Nat} (block : Block profile datapoint length)
    (h : length ≤ other) : Block profile datapoint other :=
  { block with
    within := by
      have hwithin := block.within
      omega
    offset_lt := by
      have hoffset := block.offset_lt
      unfold sliceIndex at hoffset ⊢
      split at hoffset <;> split <;> omega }

end DatapointProfile

end Homeflow.Bestway
