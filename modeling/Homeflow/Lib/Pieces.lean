import Mathlib.Data.List.Basic
import Mathlib.Data.List.TakeWhile
import Mathlib.Tactic.Common

-- Regular expressions that are a row of character classes, each with bounds.
namespace Pieces

variable {α : Type*}

-- As many characters of a class as there are, within bounds.
structure Piece (α : Type*) where
  holds : α → Bool
  least : Nat := 1
  most : Option Nat := some 1

def Piece.run (piece : Piece α) (text : List α) : List α :=
  match piece.most with
  | none => text.takeWhile piece.holds
  | some most => (text.takeWhile piece.holds).take most

-- What is left behind the pieces at the head of a text. A piece gives nothing back.
def behind : List (Piece α) → List α → Option (List α)
  | [], text => some text
  | piece :: pieces, text =>
      if piece.least ≤ (piece.run text).length then
        behind pieces (text.drop (piece.run text).length)
      else none

section Run

variable {piece : Piece α} {text segment : List α} {cut : α}

theorem run_isPrefix (piece : Piece α) (text : List α) : piece.run text <+: text := by
  unfold Piece.run
  split
  · exact List.takeWhile_prefix _
  · exact (List.take_prefix _ _).trans (List.takeWhile_prefix _)

theorem run_append_drop (piece : Piece α) (text : List α) :
    piece.run text ++ text.drop (piece.run text).length = text :=
  List.prefix_iff_eq_append.mp (run_isPrefix piece text)

theorem holds_of_mem_run {char : α} (h : char ∈ piece.run text) : piece.holds char = true := by
  unfold Piece.run at h
  split at h
  · exact List.mem_takeWhile_imp h
  · exact List.mem_takeWhile_imp (List.mem_of_mem_take h)

-- A character outside the class ends the run.
theorem run_cut (hcut : piece.holds cut = false) (segment rest : List α) :
    piece.run (segment ++ cut :: rest) = piece.run segment := by
  have htake : (segment ++ cut :: rest).takeWhile piece.holds =
      segment.takeWhile piece.holds := by
    rw [List.takeWhile_append, List.takeWhile_cons_of_neg (by simp [hcut]), List.append_nil]
    split
    · next hall => exact ((List.takeWhile_prefix _).eq_of_length hall).symm
    · rfl
  unfold Piece.run
  rw [htake]

-- A run that does not come to the end of a text does not mind how the text goes on.
theorem run_append_of_lt (h : (piece.run segment).length < segment.length) (rest : List α) :
    piece.run (segment ++ rest) = piece.run segment := by
  rcases hmost : piece.most with _ | most
  · simp only [Piece.run, hmost] at h ⊢
    rw [List.takeWhile_append, if_neg h.ne]
  · simp only [Piece.run, hmost, List.length_take] at h ⊢
    rw [List.takeWhile_append]
    split
    · next hall =>
      rw [(List.takeWhile_prefix _).eq_of_length hall]
      exact List.take_append_of_le_length (by omega)
    · rfl

-- A run of a whole text goes on as far as its bound lets it.
theorem run_append_of_eq (h : piece.run segment = segment) (rest : List α) :
    ∃ more, piece.run (segment ++ rest) = segment ++ more := by
  rcases hmost : piece.most with _ | most
  · simp only [Piece.run, hmost] at h ⊢
    rw [List.takeWhile_append, if_pos (by rw [h])]
    exact ⟨_, rfl⟩
  · simp only [Piece.run, hmost] at h ⊢
    have hlength : (segment.takeWhile piece.holds).length = segment.length := by
      have hle := List.length_take_le' most (segment.takeWhile piece.holds)
      rw [h] at hle
      exact Nat.le_antisymm (List.takeWhile_prefix _).length_le hle
    rw [(List.takeWhile_prefix _).eq_of_length hlength] at h
    rw [List.takeWhile_append, if_pos hlength, List.take_append, h]
    exact ⟨_, rfl⟩

end Run

section Behind

variable {piece : Piece α} {pieces : List (Piece α)} {text segment rest : List α} {cut : α}

theorem behind_cons_eq_some : behind (piece :: pieces) text = some rest ↔
    piece.least ≤ (piece.run text).length ∧
      behind pieces (text.drop (piece.run text).length) = some rest := by
  rw [behind, Option.ite_none_right_eq_some]

-- What is found is of the classes, and each piece that must be there finds something.
theorem behind_token (h : behind pieces text = some rest) : ∃ token, text = token ++ rest ∧
    (∀ char ∈ token, ∃ piece ∈ pieces, piece.holds char = true) ∧
      ∀ piece ∈ pieces, 0 < piece.least → ∃ char ∈ token, piece.holds char = true := by
  induction pieces generalizing text with
  | nil =>
      obtain rfl := Option.some.inj h
      exact ⟨[], by simp⟩
  | cons piece pieces ih =>
      obtain ⟨hleast, hbehind⟩ := behind_cons_eq_some.mp h
      obtain ⟨token, htoken, hclasses, htaken⟩ := ih hbehind
      refine ⟨piece.run text ++ token, ?_, fun char hchar => ?_, ?_⟩
      · rw [List.append_assoc, ← htoken, run_append_drop]
      · rcases List.mem_append.mp hchar with hrun | hlater
        · exact ⟨piece, List.mem_cons_self, holds_of_mem_run hrun⟩
        · obtain ⟨other, hother, hholds⟩ := hclasses char hlater
          exact ⟨other, List.mem_cons_of_mem _ hother, hholds⟩
      · intro other hother hpositive
        rcases List.mem_cons.mp hother with rfl | hother
        · obtain ⟨char, hchar⟩ := List.exists_mem_of_length_pos (hpositive.trans_le hleast)
          exact ⟨char, List.mem_append_left _ hchar, holds_of_mem_run hchar⟩
        · obtain ⟨char, hchar, hholds⟩ := htaken other hother hpositive
          exact ⟨char, List.mem_append_right _ hchar, hholds⟩

-- Pieces that find nothing before a cut need nothing.
theorem least_eq_zero_of_cut (hplain : ∀ piece ∈ pieces, piece.holds cut = false)
    (h : (behind pieces (cut :: rest)).isSome) : ∀ piece ∈ pieces, piece.least = 0 := by
  obtain ⟨found, hfound⟩ := Option.isSome_iff_exists.mp h
  induction pieces with
  | nil => simp
  | cons piece pieces ih =>
      obtain ⟨hleast, hbehind⟩ := behind_cons_eq_some.mp hfound
      have hrun : piece.run (cut :: rest) = [] := by
        rw [← List.nil_append (cut :: rest), run_cut (hplain piece List.mem_cons_self)]
        exact List.prefix_nil.mp (run_isPrefix piece [])
      rw [hrun] at hleast hbehind
      refine List.forall_mem_cons.mpr ⟨Nat.le_zero.mp hleast, ?_⟩
      exact ih (fun other hother => hplain other (List.mem_cons_of_mem _ hother))
        (Option.isSome_iff_exists.mpr ⟨found, hbehind⟩) hbehind

theorem behind_isSome_of_least (hleast : ∀ piece ∈ pieces, piece.least = 0) (text : List α) :
    (behind pieces text).isSome := by
  induction pieces generalizing text with
  | nil => rfl
  | cons piece pieces ih =>
      obtain ⟨hzero, hrest⟩ := List.forall_mem_cons.mp hleast
      rw [behind, if_pos (by omega)]
      exact ih hrest _

-- What is found before a cut is found whatever comes in place of the cut.
theorem behind_isSome_of_cut (hplain : ∀ piece ∈ pieces, piece.holds cut = false)
    (h : (behind pieces (segment ++ cut :: rest)).isSome) (other : List α) :
    (behind pieces (segment ++ other)).isSome := by
  induction pieces generalizing segment with
  | nil => rfl
  | cons piece pieces ih =>
      obtain ⟨hpiece, hpieces⟩ := List.forall_mem_cons.mp hplain
      obtain ⟨found, hfound⟩ := Option.isSome_iff_exists.mp h
      obtain ⟨hleast, hbehind⟩ := behind_cons_eq_some.mp hfound
      have hshorter := (run_isPrefix piece segment).length_le
      rw [run_cut hpiece, List.drop_append_of_le_length hshorter] at hbehind
      rw [run_cut hpiece] at hleast
      have hsome := Option.isSome_iff_exists.mpr ⟨found, hbehind⟩
      rcases Nat.lt_or_eq_of_le hshorter with hlt | heq
      · rw [behind, run_append_of_lt hlt, if_pos hleast, List.drop_append_of_le_length hshorter]
        exact ih hpieces hsome
      · have hwhole := (run_isPrefix piece segment).eq_of_length heq
        obtain ⟨more, hmore⟩ := run_append_of_eq hwhole other
        rw [heq, List.drop_length] at hsome
        have hoptional := least_eq_zero_of_cut hpieces hsome
        rw [behind, hmore, if_pos (by rw [List.length_append]; omega)]
        exact behind_isSome_of_least hoptional _

-- If the last piece ends before the cut, the same is found whatever comes in its place.
theorem behind_cut (hplain : ∀ piece ∈ pieces, piece.holds cut = false) {found : List α}
    (h : behind pieces (segment ++ cut :: rest) = some found) :
    ∃ left, found = left ++ cut :: rest ∧
      (left ≠ [] → ∀ other, behind pieces (segment ++ other) = some (left ++ other)) := by
  induction pieces generalizing segment with
  | nil =>
      obtain rfl := Option.some.inj h
      exact ⟨segment, rfl, fun _ _ => rfl⟩
  | cons piece pieces ih =>
      obtain ⟨hpiece, hpieces⟩ := List.forall_mem_cons.mp hplain
      obtain ⟨hleast, hbehind⟩ := behind_cons_eq_some.mp h
      have hshorter := (run_isPrefix piece segment).length_le
      rw [run_cut hpiece, List.drop_append_of_le_length hshorter] at hbehind
      rw [run_cut hpiece] at hleast
      obtain ⟨left, rfl, hleft⟩ := ih hpieces hbehind
      refine ⟨left, rfl, fun hne other => ?_⟩
      have hlt : (piece.run segment).length < segment.length := by
        refine Nat.lt_of_le_of_ne hshorter fun heq => hne ?_
        rw [heq, List.drop_length] at hbehind
        obtain ⟨token, htoken, -⟩ := behind_token hbehind
        have hlength := congrArg List.length htoken
        simp only [List.nil_append, List.length_append] at hlength
        exact List.length_eq_zero_iff.mp (by omega)
      rw [behind, run_append_of_lt hlt, if_pos hleast, List.drop_append_of_le_length hshorter]
      exact hleft hne other

theorem token_eq {token more : List α}
    (h : (token ++ rest).drop (piece.run (token ++ rest)).length = more ++ rest) :
    token = piece.run (token ++ rest) ++ more := by
  have hwhole : token ++ rest = piece.run (token ++ rest) ++ more ++ rest := by
    rw [List.append_assoc, ← h, run_append_drop]
  exact List.append_cancel_right hwhole

-- What is found ends in the class of a last piece that must be there.
theorem behind_last {before : List (Piece α)} {token : List α} (hleast : 0 < piece.least)
    (h : behind (before ++ [piece]) (token ++ rest) = some rest) :
    ∀ char ∈ token.getLast?, piece.holds char = true := by
  induction before generalizing token with
  | nil =>
      obtain ⟨-, hbehind⟩ := behind_cons_eq_some.mp h
      have htoken := @token_eq _ piece rest token [] (Option.some.inj hbehind)
      intro char hchar
      rw [List.append_nil] at htoken
      exact holds_of_mem_run (htoken ▸ List.mem_of_getLast? hchar)
  | cons first before ih =>
      obtain ⟨-, hbehind⟩ := behind_cons_eq_some.mp h
      obtain ⟨more, hmore, -, htaken⟩ := behind_token hbehind
      obtain ⟨char, hchar, -⟩ := htaken piece (List.mem_append_right _ List.mem_cons_self) hleast
      rw [hmore] at hbehind
      intro last hlast
      refine ih hbehind last ?_
      rwa [token_eq hmore, List.getLast?_append_of_ne_nil _ (List.ne_nil_of_mem hchar)] at hlast

-- Behind a run without a bound comes nothing of its class, unless optional pieces that are
-- no part of a word came between.
theorem behind_follow {word : α → Bool} {before optional : List (Piece α)} {token : List α}
    (hmost : piece.most = none) (hleast : 0 < piece.least)
    (hoptional : ∀ other ∈ optional, ∀ char, other.holds char = true → word char = false)
    (h : behind (before ++ piece :: optional) (token ++ rest) = some rest)
    (hword : ∀ char ∈ token.getLast?, word char = true) :
    ∀ char ∈ rest.head?, piece.holds char = false := by
  induction before generalizing token with
  | nil =>
      obtain ⟨-, hbehind⟩ := behind_cons_eq_some.mp h
      obtain ⟨more, hmore, hclasses, -⟩ := behind_token hbehind
      have hsplit := token_eq hmore
      have hnothing : more = [] := by
        rcases List.eq_nil_or_concat more with hnil | ⟨init, last, rfl⟩
        · exact hnil
        · rw [List.concat_eq_append] at hsplit hclasses
          obtain ⟨other, hother, hholds⟩ :=
            hclasses last (List.mem_append_right _ (List.mem_singleton_self _))
          have hlast : last ∈ token.getLast? := by
            rw [hsplit, ← List.append_assoc, List.getLast?_concat]
            rfl
          cases (hword last hlast).symm.trans (hoptional other hother last hholds)
      intro char hchar
      rw [hnothing, List.nil_append] at hmore
      have hrun : piece.run (token ++ rest) = (token ++ rest).takeWhile piece.holds := by
        simp [Piece.run, hmost]
      have hdrop : rest = (token ++ rest).dropWhile piece.holds := by
        have hwhole : (token ++ rest).takeWhile piece.holds ++ rest =
            (token ++ rest).takeWhile piece.holds ++ (token ++ rest).dropWhile piece.holds := by
          rw [List.takeWhile_append_dropWhile, ← hrun]
          nth_rewrite 2 [← hmore]
          exact run_append_drop piece _
        exact List.append_cancel_left hwhole
      have hhead := List.head?_dropWhile_not piece.holds (token ++ rest)
      rw [← hdrop, hchar] at hhead
      exact hhead
  | cons first before ih =>
      obtain ⟨-, hbehind⟩ := behind_cons_eq_some.mp h
      obtain ⟨more, hmore, -, htaken⟩ := behind_token hbehind
      obtain ⟨char, hchar, -⟩ := htaken piece (List.mem_append_right _ List.mem_cons_self) hleast
      rw [hmore] at hbehind
      refine ih hbehind fun last hlast => hword last ?_
      rwa [token_eq hmore, List.getLast?_append_of_ne_nil _ (List.ne_nil_of_mem hchar)]

end Behind

end Pieces
