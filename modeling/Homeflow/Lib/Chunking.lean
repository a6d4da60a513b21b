import Homeflow.Lib.Framing

-- A stream of symbols that arrives in chunks, and the frames a reader hands out of it.

namespace Decoder

variable {β φ : Type*}

-- The first symbols settle whether data can begin with a frame at all, and frames are short.
structure Settles (decoder : Decoder β φ) (head bound : Nat) : Prop where
  malformed : ∀ data other, decoder.decode data = .malformed → data.take head <+: other →
    decoder.decode other = .malformed
  incomplete : ∀ data, decoder.decode data = .incomplete → data.length ≤ bound
  frame : ∀ data value consumed, decoder.decode data = .frame value consumed → consumed ≤ bound

-- A reader keeps what is left of the last frame for the next chunk. Malformed data end it,
-- and the frames that came before them in the same chunk are lost.
def read (decoder : Decoder β φ) (buffer : List β) : List (List β) → Drained β φ
  | [] => ⟨[], buffer, false⟩
  | chunk :: chunks =>
      let drained := decoder.drain (buffer ++ chunk)
      if drained.malformed then ⟨[], drained.rest, true⟩
      else
        let later := read decoder drained.rest chunks
        { later with frames := drained.frames ++ later.frames }

variable {decoder : Decoder β φ} {head bound : Nat}

section Drain

variable (decoder) in
-- The frames and what is left make up the data.
theorem drain_flatten (data : List β) :
    ((decoder.drain data).frames.map Prod.snd).flatten ++ (decoder.drain data).rest = data := by
  induction data using drain_induction decoder with
  | incomplete data hdrain => rw [hdrain]; rfl
  | malformed data hdata hdecode => rw [drain_malformed hdata hdecode]; rfl
  | frame data value consumed hdecode hle ih =>
      rw [drain_frame hdecode]
      simp only [List.map_cons, List.flatten_cons, List.append_assoc, ih, List.take_append_drop]

-- Each frame is decoded from its own symbols.
theorem decode_of_mem_drain {data : List β} {entry : φ × List β}
    (h : entry ∈ (decoder.drain data).frames) :
    decoder.decode entry.2 = .frame entry.1 entry.2.length := by
  induction data using drain_induction decoder with
  | incomplete data hdrain =>
      rw [hdrain] at h
      cases h
  | malformed data hdata hdecode =>
      rw [drain_malformed hdata hdecode] at h
      cases h
  | frame data value consumed hdecode hle ih =>
      rw [drain_frame hdecode] at h
      rcases List.mem_cons.mp h with rfl | h
      · rw [decoder.stable data value consumed _ hdecode List.prefix_rfl, List.length_take,
          Nat.min_eq_left hle]
      · exact ih h

variable (decoder) in
-- What is left is drained already.
theorem drain_rest (data : List β) :
    decoder.drain (decoder.drain data).rest =
      ⟨[], (decoder.drain data).rest, (decoder.drain data).malformed⟩ := by
  induction data using drain_induction decoder with
  | incomplete data hdrain => rw [hdrain]; exact hdrain
  | malformed data hdata hdecode =>
      rw [drain_malformed hdata hdecode]
      exact drain_malformed hdata hdecode
  | frame data value consumed hdecode hle ih => rw [drain_frame hdecode]; exact ih

-- What is left is nothing, or it waits for more, unless it is malformed.
theorem decode_rest {data : List β} (hsound : (decoder.drain data).malformed = false) :
    (decoder.drain data).rest = [] ∨
      decoder.decode (decoder.drain data).rest = .incomplete := by
  have hrest := drain_rest decoder data
  rw [hsound] at hrest
  by_cases hnil : (decoder.drain data).rest = []
  · exact .inl hnil
  · cases hdecode : decoder.decode (decoder.drain data).rest with
    | incomplete => exact .inr rfl
    | malformed => cases hrest.symm.trans (drain_malformed hnil hdecode)
    | frame value consumed => cases hrest.symm.trans (drain_frame hdecode)

theorem decode_rest_malformed {data : List β}
    (hmalformed : (decoder.drain data).malformed = true) :
    (decoder.drain data).rest ≠ [] ∧ decoder.decode (decoder.drain data).rest = .malformed := by
  have hrest := drain_rest decoder data
  rw [hmalformed] at hrest
  refine ⟨fun hnil => ?_, ?_⟩
  · rw [hnil] at hrest
    cases hrest
  · cases hdecode : decoder.decode (decoder.drain data).rest with
    | incomplete => cases hrest.symm.trans (drain_incomplete hdecode)
    | malformed => rfl
    | frame value consumed => cases hrest.symm.trans (drain_frame hdecode)

theorem rest_length_le (h : decoder.Settles head bound) {data : List β}
    (hsound : (decoder.drain data).malformed = false) :
    (decoder.drain data).rest.length ≤ bound := by
  rcases decode_rest hsound with hnil | hincomplete
  · simp [hnil]
  · exact h.incomplete _ hincomplete

-- Nothing that follows mends malformed data.
theorem drain_append_malformed (h : decoder.Settles head bound) {data : List β} (more : List β)
    (hmalformed : (decoder.drain data).malformed = true) :
    decoder.drain (data ++ more) =
      ⟨(decoder.drain data).frames, (decoder.drain data).rest ++ more, true⟩ := by
  induction data using drain_induction decoder with
  | incomplete data hdrain =>
      rw [hdrain] at hmalformed
      cases hmalformed
  | malformed data hdata hdecode =>
      have hwhole := h.malformed data (data ++ more) hdecode
        ((List.take_prefix _ _).trans (List.prefix_append _ _))
      rw [drain_malformed hdata hdecode, drain_malformed (by simp [hdata]) hwhole]
  | frame data value consumed hdecode hle ih =>
      have hwhole := decoder.stable data value consumed (data ++ more) hdecode
        ((List.take_prefix _ _).trans (List.prefix_append _ _))
      rw [drain_frame hdecode] at hmalformed
      rw [drain_frame hdecode, drain_frame hwhole, List.take_append_of_le_length hle,
        List.drop_append_of_le_length hle, ih hmalformed]

theorem sound_of_append (h : decoder.Settles head bound) {data more : List β}
    (hsound : (decoder.drain (data ++ more)).malformed = false) :
    (decoder.drain data).malformed = false := by
  cases hdata : (decoder.drain data).malformed with
  | false => rfl
  | true =>
      rw [drain_append_malformed h more hdata] at hsound
      cases hsound

-- What follows sound data is drained together with what was left of these.
theorem drain_append {data : List β} (more : List β)
    (hsound : (decoder.drain data).malformed = false) :
    decoder.drain (data ++ more) =
      { decoder.drain ((decoder.drain data).rest ++ more) with
        frames := (decoder.drain data).frames ++
          (decoder.drain ((decoder.drain data).rest ++ more)).frames } := by
  induction data using drain_induction decoder with
  | incomplete data hdrain => rw [hdrain]; rfl
  | malformed data hdata hdecode =>
      rw [drain_malformed hdata hdecode] at hsound
      cases hsound
  | frame data value consumed hdecode hle ih =>
      have hwhole := decoder.stable data value consumed (data ++ more) hdecode
        ((List.take_prefix _ _).trans (List.prefix_append _ _))
      rw [drain_frame hdecode] at hsound
      rw [drain_frame hdecode, drain_frame hwhole, List.take_append_of_le_length hle,
        List.drop_append_of_le_length hle, ih hsound]
      rfl

-- Frames one after the other are drained one after the other.
theorem drain_frames (entries : List (φ × List β)) (rest : List β)
    (h : ∀ entry ∈ entries, decoder.decode entry.2 = .frame entry.1 entry.2.length) :
    decoder.drain ((entries.map Prod.snd).flatten ++ rest) =
      { decoder.drain rest with frames := entries ++ (decoder.drain rest).frames } := by
  induction entries with
  | nil => rfl
  | cons entry entries ih =>
      have hwhole := decoder.stable entry.2 entry.1 entry.2.length
        (entry.2 ++ ((entries.map Prod.snd).flatten ++ rest)) (h entry List.mem_cons_self)
        ((List.take_prefix _ _).trans (List.prefix_append _ _))
      have hrest := ih fun other hother => h other (List.mem_cons_of_mem _ hother)
      rw [List.map_cons, List.flatten_cons, List.append_assoc, drain_frame hwhole, List.drop_left,
        List.take_left, hrest]
      rfl

end Drain

section Read

-- Sound chunks give what all of their data give at once.
theorem read_eq_drain (h : decoder.Settles head bound) {buffer : List β}
    (hbuffer : decoder.drain buffer = ⟨[], buffer, false⟩) (chunks : List (List β))
    (hsound : (decoder.drain (buffer ++ chunks.flatten)).malformed = false) :
    decoder.read buffer chunks = decoder.drain (buffer ++ chunks.flatten) := by
  induction chunks generalizing buffer with
  | nil => rw [List.flatten_nil, List.append_nil, hbuffer]; rfl
  | cons chunk chunks ih =>
      rw [List.flatten_cons, ← List.append_assoc] at hsound ⊢
      cases hchunk : (decoder.drain (buffer ++ chunk)).malformed with
      | true =>
          rw [drain_append_malformed h _ hchunk] at hsound
          cases hsound
      | false =>
          rw [drain_append _ hchunk] at hsound ⊢
          have hrest := drain_rest decoder (buffer ++ chunk)
          rw [hchunk] at hrest
          simp only [read, hchunk, Bool.false_eq_true, if_false]
          rw [ih hrest hsound]

-- Whether a reader stops does not depend on the chunks.
theorem read_malformed (h : decoder.Settles head bound) {buffer : List β}
    (hbuffer : decoder.drain buffer = ⟨[], buffer, false⟩) (chunks : List (List β)) :
    (decoder.read buffer chunks).malformed =
      (decoder.drain (buffer ++ chunks.flatten)).malformed := by
  induction chunks generalizing buffer with
  | nil => rw [List.flatten_nil, List.append_nil, hbuffer]; rfl
  | cons chunk chunks ih =>
      rw [List.flatten_cons, ← List.append_assoc]
      cases hchunk : (decoder.drain (buffer ++ chunk)).malformed with
      | true =>
          rw [drain_append_malformed h _ hchunk]
          simp only [read, hchunk, if_true]
      | false =>
          have hrest := drain_rest decoder (buffer ++ chunk)
          rw [hchunk] at hrest
          rw [drain_append _ hchunk]
          simp only [read, hchunk, Bool.false_eq_true, if_false]
          exact ih hrest

-- No chunks give more than all of the data at once.
theorem read_prefix {buffer : List β}
    (hbuffer : decoder.drain buffer = ⟨[], buffer, false⟩) (chunks : List (List β)) :
    (decoder.read buffer chunks).frames <+:
      (decoder.drain (buffer ++ chunks.flatten)).frames := by
  induction chunks generalizing buffer with
  | nil => exact List.nil_prefix
  | cons chunk chunks ih =>
      rw [List.flatten_cons, ← List.append_assoc]
      cases hchunk : (decoder.drain (buffer ++ chunk)).malformed with
      | true =>
          simp only [read, hchunk, if_true]
          exact List.nil_prefix
      | false =>
          have hrest := drain_rest decoder (buffer ++ chunk)
          rw [hchunk] at hrest
          rw [drain_append _ hchunk]
          simp only [read, hchunk, Bool.false_eq_true, if_false]
          exact (List.prefix_append_right_inj _).mpr (ih hrest)

theorem read_append {buffer : List β} (first second : List (List β))
    (hsound : (decoder.read buffer first).malformed = false) :
    decoder.read buffer (first ++ second) =
      { decoder.read (decoder.read buffer first).rest second with
        frames := (decoder.read buffer first).frames ++
          (decoder.read (decoder.read buffer first).rest second).frames } := by
  induction first generalizing buffer with
  | nil => rfl
  | cons chunk chunks ih =>
      cases hchunk : (decoder.drain (buffer ++ chunk)).malformed with
      | true =>
          simp only [read, hchunk, if_true] at hsound
          cases hsound
      | false =>
          simp only [List.cons_append, read, hchunk, Bool.false_eq_true, if_false] at hsound ⊢
          rw [ih hsound, List.append_assoc]

-- Chunks that are one frame each give these frames.
theorem read_frames {entries : List (φ × List β)}
    (h : ∀ entry ∈ entries, decoder.decode entry.2 = .frame entry.1 entry.2.length) :
    decoder.read [] (entries.map Prod.snd) = ⟨entries, [], false⟩ := by
  induction entries with
  | nil => rfl
  | cons entry entries ih =>
      have hentry := drain_frames [entry] []
        (by simpa using h entry List.mem_cons_self)
      simp only [List.map_cons, List.map_nil, List.flatten_cons, List.flatten_nil,
        List.append_nil, drain_nil] at hentry
      simp only [List.map_cons, read, List.nil_append, hentry, Bool.false_eq_true, if_false,
        ih fun other hother => h other (List.mem_cons_of_mem _ hother)]
      rfl

section Loss

variable {limit : Nat}

theorem singletons_flatten (data : List β) : (data.map fun symbol => [symbol]).flatten = data := by
  induction data with
  | nil => rfl
  | cons symbol data ih => rw [List.map_cons, List.flatten_cons, ih]; rfl

-- One chunk for each frame loses none.
theorem exists_read_all (h : decoder.Settles head bound) (hlimit : bound + head ≤ limit)
    (hpos : 0 < limit) (data : List β) :
    ∃ chunks : List (List β), chunks.flatten = data ∧ (∀ chunk ∈ chunks, chunk.length ≤ limit) ∧
      (decoder.read [] chunks).frames = (decoder.drain data).frames := by
  have hown : ∀ entry ∈ (decoder.drain data).frames,
      decoder.decode entry.2 = .frame entry.1 entry.2.length := fun _ => decode_of_mem_drain
  have hfirst := read_frames hown
  refine ⟨(decoder.drain data).frames.map Prod.snd ++
    (decoder.drain data).rest.map fun symbol => [symbol], ?_, ?_, ?_⟩
  · rw [List.flatten_append, singletons_flatten, drain_flatten decoder]
  · intro chunk hchunk
    rcases List.mem_append.mp hchunk with hchunk | hchunk
    · obtain ⟨entry, hentry, rfl⟩ := List.mem_map.mp hchunk
      have hle := h.frame _ _ _ (hown entry hentry)
      omega
    · obtain ⟨symbol, -, rfl⟩ := List.mem_map.mp hchunk
      exact hpos
  · rw [read_append _ _ (by rw [hfirst]), hfirst]
    have hprefix : (decoder.read [] ((decoder.drain data).rest.map fun symbol => [symbol])).frames
        <+: (decoder.drain ([] ++ _)).frames := read_prefix drain_nil _
    rw [List.nil_append, singletons_flatten, drain_rest] at hprefix
    rw [List.prefix_nil.mp hprefix, List.append_nil]

-- A chunk that ends a frame and turns malformed loses the frame.
theorem exists_read_fewer (h : decoder.Settles head bound) (hlimit : bound + head ≤ limit)
    (hpos : 0 < limit) {data : List β} (hmalformed : (decoder.drain data).malformed = true)
    (hframes : (decoder.drain data).frames ≠ []) :
    ∃ chunks : List (List β), chunks.flatten = data ∧ (∀ chunk ∈ chunks, chunk.length ≤ limit) ∧
      (decoder.read [] chunks).frames = (decoder.drain data).frames.dropLast := by
  have hown : ∀ entry ∈ (decoder.drain data).frames,
      decoder.decode entry.2 = .frame entry.1 entry.2.length := fun _ => decode_of_mem_drain
  have hflatten := drain_flatten decoder data
  obtain ⟨-, hdecode⟩ := decode_rest_malformed hmalformed
  obtain ⟨before, last, hsplit⟩ : ∃ before last, (decoder.drain data).frames = before ++ [last] :=
    ⟨_, _, (List.dropLast_concat_getLast hframes).symm⟩
  rw [hsplit] at hown hflatten ⊢
  generalize (decoder.drain data).rest = rest at *
  have hhead : decoder.decode (rest.take head) = .malformed :=
    h.malformed rest _ hdecode List.prefix_rfl
  have hlost : (decoder.drain (last.2 ++ rest.take head)).malformed = true := by
    have hlast := drain_frames [last] (rest.take head)
      (by simpa using hown last (by simp))
    simp only [List.map_cons, List.map_nil, List.flatten_cons, List.flatten_nil,
      List.append_nil] at hlast
    rw [hlast]
    by_cases hnil : rest.take head = []
    -- Then no data could begin with a frame.
    · rw [hnil] at hhead
      have hnone := h.malformed [] last.2 hhead (by simp)
      cases hnone.symm.trans (hown last (by simp))
    · rw [drain_malformed hnil hhead]
  have hfirst := read_frames fun entry hentry =>
    hown entry (List.mem_append_left [last] hentry)
  refine ⟨before.map Prod.snd ++ (last.2 ++ rest.take head) ::
    (rest.drop head).map fun symbol => [symbol], ?_, ?_, ?_⟩
  · rw [List.flatten_append, List.flatten_cons, singletons_flatten, ← hflatten]
    simp
  · intro chunk hchunk
    rcases List.mem_append.mp hchunk with hchunk | hchunk
    · obtain ⟨entry, hentry, rfl⟩ := List.mem_map.mp hchunk
      have hle := h.frame _ _ _ (hown entry (List.mem_append_left _ hentry))
      omega
    · rcases List.mem_cons.mp hchunk with rfl | hchunk
      · have hle := h.frame _ _ _ (hown last (by simp))
        rw [List.length_append, List.length_take]
        omega
      · obtain ⟨symbol, -, rfl⟩ := List.mem_map.mp hchunk
        exact hpos
  · rw [read_append _ _ (by rw [hfirst]), hfirst]
    simp [read, hlost]

end Loss

end Read

end Decoder
