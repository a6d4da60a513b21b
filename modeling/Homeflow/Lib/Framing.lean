import Mathlib.Data.List.Basic
import Mathlib.Tactic.Common

-- Frames cut from the head of a stream of symbols as it arrives.

-- What the symbols received so far begin with.
inductive Verdict (φ : Type*) where
  | incomplete
  | malformed
  | frame (value : φ) (consumed : Nat)

-- A frame is decided by its own symbols, whatever comes after them.
structure Decoder (β φ : Type*) where
  decode : List β → Verdict φ
  consumed_pos : ∀ data value consumed, decode data = .frame value consumed → 0 < consumed
  consumed_le : ∀ data value consumed, decode data = .frame value consumed →
    consumed ≤ data.length
  stable : ∀ data value consumed other, decode data = .frame value consumed →
    data.take consumed <+: other → decode other = .frame value consumed

-- The frames cut off, each with its symbols, and what is left.
structure Drained (β φ : Type*) where
  frames : List (φ × List β)
  rest : List β
  malformed : Bool

namespace Decoder

variable {β φ : Type*} (decoder : Decoder β φ)

def drainFor : Nat → List β → Drained β φ
  | 0, data => ⟨[], data, false⟩
  | fuel + 1, data =>
      if data = [] then ⟨[], [], false⟩
      else
        match decoder.decode data with
        | .incomplete => ⟨[], data, false⟩
        | .malformed => ⟨[], data, true⟩
        | .frame value consumed =>
            let drained := drainFor fuel (data.drop consumed)
            { drained with frames := (value, data.take consumed) :: drained.frames }

-- Every frame consumes something, so there are no more than symbols.
def drain (data : List β) : Drained β φ := decoder.drainFor data.length data

variable {decoder}

theorem drainFor_congr {first second : Nat} {data : List β} (hfirst : data.length ≤ first)
    (hsecond : data.length ≤ second) :
    decoder.drainFor first data = decoder.drainFor second data := by
  induction first generalizing second data with
  | zero =>
      obtain rfl := List.length_eq_zero_iff.mp (Nat.le_zero.mp hfirst)
      cases second <;> rfl
  | succ first ih =>
      cases second with
      | zero =>
          obtain rfl := List.length_eq_zero_iff.mp (Nat.le_zero.mp hsecond)
          rfl
      | succ second =>
          simp only [drainFor]
          split
          · rfl
          · cases hdecode : decoder.decode data with
            | incomplete | malformed => rfl
            | frame value consumed =>
                have hpos := decoder.consumed_pos data value consumed hdecode
                dsimp only
                have hleft : (data.drop consumed).length ≤ first := by
                  rw [List.length_drop]
                  omega
                have hright : (data.drop consumed).length ≤ second := by
                  rw [List.length_drop]
                  omega
                rw [ih hleft hright]

@[simp] theorem drain_nil : decoder.drain [] = ⟨[], [], false⟩ := rfl

theorem drain_incomplete {data : List β} (hdecode : decoder.decode data = .incomplete) :
    decoder.drain data = ⟨[], data, false⟩ := by
  cases data with
  | nil => rfl
  | cons head tail => simp [drain, drainFor, hdecode]

theorem drain_malformed {data : List β} (hdata : data ≠ [])
    (hdecode : decoder.decode data = .malformed) :
    decoder.drain data = ⟨[], data, true⟩ := by
  cases data with
  | nil => exact absurd rfl hdata
  | cons head tail => simp [drain, drainFor, hdecode]

theorem drain_frame {data : List β} {value : φ} {consumed : Nat}
    (hdecode : decoder.decode data = .frame value consumed) :
    decoder.drain data =
      { decoder.drain (data.drop consumed) with
        frames := (value, data.take consumed) ::
          (decoder.drain (data.drop consumed)).frames } := by
  have hpos := decoder.consumed_pos data value consumed hdecode
  have hle := decoder.consumed_le data value consumed hdecode
  cases data with
  | nil =>
      simp only [List.length_nil] at hle
      omega
  | cons head tail =>
      have hrest : decoder.drainFor tail.length ((head :: tail).drop consumed) =
          decoder.drain ((head :: tail).drop consumed) := by
        refine drainFor_congr ?_ (Nat.le_refl _)
        simp only [List.length_drop, List.length_cons]
        omega
      rw [← hrest]
      simp [drain, drainFor, hdecode]

variable (decoder) in
-- What holds of data whose head is no frame, and of data with one frame more, holds of all.
theorem drain_induction {motive : List β → Prop}
    (incomplete : ∀ data, decoder.drain data = ⟨[], data, false⟩ → motive data)
    (malformed : ∀ data, data ≠ [] → decoder.decode data = .malformed → motive data)
    (frame : ∀ data value consumed, decoder.decode data = .frame value consumed →
      consumed ≤ data.length → motive (data.drop consumed) → motive data)
    (data : List β) : motive data := by
  induction hlength : data.length using Nat.strongRecOn generalizing data with
  | _ length ih =>
      cases hdecode : decoder.decode data with
      | incomplete => exact incomplete data (drain_incomplete hdecode)
      | malformed =>
          by_cases hdata : data = []
          · subst hdata
            exact incomplete [] drain_nil
          · exact malformed data hdata hdecode
      | frame value consumed =>
          have hpos := decoder.consumed_pos data value consumed hdecode
          have hle := decoder.consumed_le data value consumed hdecode
          exact frame data value consumed hdecode hle
            (ih (data.drop consumed).length (by rw [List.length_drop]; omega) _ rfl)

-- What is cut off a first part of the data is cut off all of it.
theorem mem_drain_append {data more : List β} {entry : φ × List β}
    (h : entry ∈ (decoder.drain data).frames) : entry ∈ (decoder.drain (data ++ more)).frames := by
  induction data using drain_induction decoder with
  | incomplete data hdrain =>
      rw [hdrain] at h
      cases h
  | malformed data hdata hdecode =>
      rw [drain_malformed hdata hdecode] at h
      cases h
  | frame data value consumed hdecode hle ih =>
      have hwhole := decoder.stable data value consumed (data ++ more) hdecode
        ((List.take_prefix _ _).trans (List.prefix_append _ _))
      rw [drain_frame hdecode] at h
      rw [drain_frame hwhole, List.take_append_of_le_length hle,
        List.drop_append_of_le_length hle]
      rcases List.mem_cons.mp h with rfl | h
      · exact List.mem_cons_self
      · exact List.mem_cons_of_mem _ (ih h)

section Clear

variable (decoder) in
-- No frame of the kind can come out of the data but one that ends in a late symbol.
def Clear (kind : φ → Prop) (late : β → Prop) (data : List β) : Prop :=
  ∃ early rest, data = early ++ rest ∧ (∀ symbol ∈ rest, late symbol) ∧
    ∀ entry ∈ (decoder.drain early).frames, ¬kind entry.1

variable {kind : φ → Prop} {late : β → Prop} {data : List β}

theorem clear_of_late (h : ∀ symbol ∈ data, late symbol) : decoder.Clear kind late data :=
  ⟨[], data, rfl, h, by simp⟩

theorem clear_of_drain (h : ∀ entry ∈ (decoder.drain data).frames, ¬kind entry.1) :
    decoder.Clear kind late data :=
  ⟨data, [], (List.append_nil _).symm, by simp, h⟩

theorem Clear.append (h : decoder.Clear kind late data) {more : List β}
    (hmore : ∀ symbol ∈ more, late symbol) : decoder.Clear kind late (data ++ more) := by
  obtain ⟨early, rest, rfl, hrest, hframes⟩ := h
  refine ⟨early, rest ++ more, List.append_assoc _ _ _, fun symbol hsymbol => ?_, hframes⟩
  rcases List.mem_append.mp hsymbol with hsymbol | hsymbol
  · exact hrest symbol hsymbol
  · exact hmore symbol hsymbol

theorem Clear.left {more : List β} (h : decoder.Clear kind late (data ++ more)) :
    decoder.Clear kind late data := by
  obtain ⟨early, rest, hsplit, hrest, hframes⟩ := h
  rcases List.append_eq_append_iff.mp hsplit with ⟨tail, rfl, -⟩ | ⟨tail, rfl, rfl⟩
  · exact clear_of_drain fun entry hentry => hframes entry (mem_drain_append hentry)
  · exact ⟨early, tail, rfl, fun symbol hsymbol => hrest symbol (List.mem_append_left _ hsymbol),
      hframes⟩

-- One frame off clear data leaves clear data, and is not of the kind unless it ends late.
theorem Clear.drop (h : decoder.Clear kind late data) {received : List β} {value : φ}
    {consumed : Nat} (hreceived : received <+: data)
    (hdecode : decoder.decode received = .frame value consumed) :
    (kind value → ∃ symbol ∈ (received.take consumed).getLast?, late symbol) ∧
      decoder.Clear kind late (data.drop consumed) := by
  obtain ⟨early, rest, rfl, hrest, hframes⟩ := h
  have hpos := decoder.consumed_pos received value consumed hdecode
  have hle := decoder.consumed_le received value consumed hdecode
  have htake : received.take consumed = (early ++ rest).take consumed := by
    obtain ⟨tail, htail⟩ := hreceived
    rw [← htail, List.take_append_of_le_length hle]
  by_cases hearly : consumed ≤ early.length
  · have hown : received.take consumed <+: early := by
      rw [htake, List.take_append_of_le_length hearly]
      exact List.take_prefix _ _
    have hagain := decoder.stable received value consumed early hdecode hown
    rw [drain_frame hagain] at hframes
    refine ⟨fun hkind => absurd hkind (hframes _ List.mem_cons_self), early.drop consumed, rest,
      List.drop_append_of_le_length hearly, hrest, fun entry hentry => ?_⟩
    exact hframes entry (List.mem_cons_of_mem _ hentry)
  · have hlength : consumed ≤ early.length + rest.length := by
      rw [← List.length_append]
      exact Nat.le_trans hle hreceived.length_le
    have hlast : ∃ symbol, (rest.take (consumed - early.length)).getLast? = some symbol := by
      cases hrestTake : (rest.take (consumed - early.length)).getLast? with
      | some symbol => exact ⟨symbol, rfl⟩
      | none =>
          have hempty := congrArg List.length (List.getLast?_eq_none_iff.mp hrestTake)
          simp only [List.length_take, List.length_nil] at hempty
          omega
    obtain ⟨symbol, hsymbol⟩ := hlast
    refine ⟨fun _ => ⟨symbol, ?_, ?_⟩, clear_of_late fun other hother => hrest other ?_⟩
    · rw [htake, List.take_append, List.getLast?_append, hsymbol]
      rfl
    · exact hrest symbol (List.mem_of_mem_take (List.mem_of_getLast? hsymbol))
    · rw [List.drop_append, List.drop_eq_nil_of_le (by omega), List.nil_append] at hother
      exact List.mem_of_mem_drop hother

-- Draining a first part of clear data leaves clear data with what follows it.
theorem Clear.drain {more : List β} (h : decoder.Clear kind late (data ++ more)) :
    (∀ entry ∈ (decoder.drain data).frames, kind entry.1 →
        ∃ symbol ∈ entry.2.getLast?, late symbol) ∧
      decoder.Clear kind late ((decoder.drain data).rest ++ more) := by
  induction data using drain_induction decoder with
  | incomplete data hdrain =>
      rw [hdrain]
      exact ⟨by simp, h⟩
  | malformed data hdata hdecode =>
      rw [drain_malformed hdata hdecode]
      exact ⟨by simp, h⟩
  | frame data value consumed hdecode hle ih =>
      obtain ⟨hlate, hclear⟩ := h.drop (List.prefix_append data more) hdecode
      rw [List.drop_append_of_le_length hle] at hclear
      obtain ⟨hframes, hrest⟩ := ih hclear
      rw [drain_frame hdecode]
      refine ⟨fun entry hentry hkind => ?_, hrest⟩
      rcases List.mem_cons.mp hentry with rfl | hentry
      · exact hlate hkind
      · exact hframes entry hentry hkind

end Clear

end Decoder
