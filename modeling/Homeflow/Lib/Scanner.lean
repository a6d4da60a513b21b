import Homeflow.Lib.Pieces
import Mathlib.Data.List.Induction

-- A text in which a mark is put, from left to right, in place of what patterns find.
namespace Scanner

open Pieces

variable {α : Type*}

-- A pattern begins where no word goes on. A closed one also ends where none does.
structure Pattern (α : Type*) where
  pieces : List (Piece α)
  closed : Bool := false

section Scan

variable (word : α → Bool) (mark : List α) (pattern : Pattern α)

-- What is left of a text behind an occurrence at its head.
def Pattern.find (previous : Option α) (text : List α) : Option (List α) :=
  if previous.any word then none
  else (behind pattern.pieces text).filter fun rest => !(pattern.closed && rest.head?.any word)

-- The rest of a text, after so many characters that belong to an occurrence still.
def substitute : Nat → Option α → List α → List α
  | _, _, [] => []
  | skip + 1, _, char :: rest => substitute skip (some char) rest
  | 0, previous, char :: rest =>
      match pattern.find word previous (char :: rest) with
      | none => char :: substitute 0 (some char) rest
      | some left => mark ++ substitute (rest.length - left.length) (some char) rest

-- The pattern does not occur in the text.
def Absent : Option α → List α → Prop
  | _, [] => True
  | previous, char :: rest =>
      pattern.find word previous (char :: rest) = none ∧ Absent (some char) rest

-- What an occurrence can begin with.
def Pattern.first (char : α) : Bool := pattern.pieces.head?.any fun piece => piece.holds char

end Scan

section Substitute

variable {word : α → Bool} {mark : List α} {pattern : Pattern α} {previous : Option α}
  {text token rest left : List α}

theorem find_eq_some : pattern.find word previous text = some left ↔
    previous.any word = false ∧ behind pattern.pieces text = some left ∧
      (pattern.closed = true → left.head?.any word = false) := by
  unfold Pattern.find
  cases previous.any word <;> cases pattern.closed <;> simp [Option.filter_eq_some_iff]

theorem find_congr {shown : Option α} (h : shown.any word = previous.any word) :
    pattern.find word shown text = pattern.find word previous text := by
  unfold Pattern.find
  rw [h]

theorem substitute_of_absent (h : Absent word pattern previous text) :
    substitute word mark pattern 0 previous text = text := by
  induction text generalizing previous with
  | nil => rfl
  | cons char rest ih =>
      rw [substitute, h.1]
      exact congrArg _ (ih h.2)

theorem substitute_skip (previous : Option α) (token rest : List α) :
    substitute word mark pattern token.length previous (token ++ rest) =
      substitute word mark pattern 0 (token.getLast?.or previous) rest := by
  induction token generalizing previous with
  | nil => rfl
  | cons char token ih =>
      rw [List.length_cons, List.cons_append, substitute, ih, List.getLast?_cons]
      cases token.getLast? <;> rfl

theorem substitute_found (hne : token ≠ [])
    (h : pattern.find word previous (token ++ rest) = some rest) :
    substitute word mark pattern 0 previous (token ++ rest) =
      mark ++ substitute word mark pattern 0 token.getLast? rest := by
  obtain ⟨char, token, rfl⟩ := List.exists_cons_of_ne_nil hne
  have hskip := @substitute_skip _ word mark pattern (some char) token rest
  have hlength : (token ++ rest).length - rest.length = token.length := by simp
  rw [List.cons_append] at h ⊢
  rw [substitute, h]
  dsimp only
  rw [hlength, hskip, List.getLast?_cons]
  cases token.getLast? <;> rfl

-- The text keeps its beginning up to an occurrence, which no word goes on to.
theorem substitute_split (previous : Option α) (text : List α) :
    substitute word mark pattern 0 previous text = text ∨
      ∃ front back after, text = front ++ back ∧
        substitute word mark pattern 0 previous text = front ++ mark ++ after ∧
        (front.getLast?.or previous).any word = false := by
  induction text generalizing previous with
  | nil => exact .inl rfl
  | cons char rest ih =>
      rw [substitute]
      cases hfind : pattern.find word previous (char :: rest) with
      | some left =>
          exact .inr ⟨[], char :: rest, _, rfl, rfl, (find_eq_some.mp hfind).1⟩
      | none =>
          rcases ih (some char) with hsame | ⟨front, back, after, rfl, hfront, hword⟩
          · exact .inl (congrArg _ hsame)
          · refine .inr ⟨char :: front, back, after, rfl, congrArg _ hfront, ?_⟩
            rw [List.getLast?_cons]
            cases hlast : front.getLast? <;> simpa [hlast] using hword

end Substitute

section Sound

variable (word : α → Bool) (opening closing : α) (inner : List α)

-- A pattern that begins with a word, that no part of a bracketed mark fits, and that ends
-- with a word if it is closed.
structure Pattern.Sound (pattern : Pattern α) : Prop where
  begins : ∃ piece pieces, pattern.pieces = piece :: pieces ∧ 0 < piece.least ∧
    ∀ char, piece.holds char = true → word char = true
  plain : ∀ piece ∈ pattern.pieces, piece.holds opening = false ∧ piece.holds closing = false
  foreign : ∃ piece ∈ pattern.pieces, 0 < piece.least ∧
    ∀ char ∈ inner, piece.holds char = false
  ends : pattern.closed = true → ∃ before piece, pattern.pieces = before ++ [piece] ∧
    0 < piece.least ∧ ∀ char, piece.holds char = true → word char = true

-- Where an occurrence of the second pattern ends in a word, none of the first begins.
def Stops (first second : Pattern α) : Prop :=
  second.closed = true ∨ ∃ before piece optional, second.pieces = before ++ piece :: optional ∧
    piece.most = none ∧ 0 < piece.least ∧
    (∀ other ∈ optional, ∀ char, other.holds char = true → word char = false) ∧
    ∀ char, first.first char = true → piece.holds char = true

variable {word opening closing inner} {first second : Pattern α} {previous : Option α}
  {text token rest left segment : List α} {char : α}

theorem Pattern.Sound.word_of_first (h : first.Sound word opening closing inner)
    (hfirst : first.first char = true) : word char = true := by
  obtain ⟨piece, pieces, hpieces, -, hword⟩ := h.begins
  rw [Pattern.first, hpieces] at hfirst
  exact hword char hfirst

theorem Pattern.Sound.not_first_opening (h : first.Sound word opening closing inner) :
    first.first opening = false := by
  obtain ⟨piece, pieces, hpieces, -, -⟩ := h.begins
  rw [Pattern.first, hpieces]
  exact (h.plain piece (hpieces ▸ List.mem_cons_self)).1

theorem Pattern.Sound.first_of_find (h : first.Sound word opening closing inner)
    (hfind : first.find word previous (char :: text) = some left) : first.first char = true := by
  obtain ⟨piece, pieces, hpieces, hleast, -⟩ := h.begins
  obtain ⟨-, hbehind, -⟩ := find_eq_some.mp hfind
  rw [hpieces] at hbehind
  obtain ⟨hlength, -⟩ := behind_cons_eq_some.mp hbehind
  have hwhole := run_append_drop piece (char :: text)
  cases hrun : piece.run (char :: text) with
  | nil =>
      rw [hrun] at hlength
      exact absurd (hleast.trans_le hlength) (lt_irrefl _)
  | cons head more =>
      rw [hrun, List.cons_append] at hwhole
      obtain rfl : head = char := (List.cons.inj hwhole).1
      rw [Pattern.first, hpieces]
      exact holds_of_mem_run (hrun ▸ List.mem_cons_self)

-- No occurrence begins inside the mark.
theorem Pattern.Sound.find_mark (h : first.Sound word opening closing inner)
    (hsegment : ∀ char ∈ segment, char = opening ∨ char ∈ inner) (previous : Option α)
    (rest : List α) : first.find word previous (segment ++ closing :: rest) = none := by
  refine Option.eq_none_iff_forall_ne_some.mpr fun found hfind => ?_
  obtain ⟨-, hbehind, -⟩ := find_eq_some.mp hfind
  obtain ⟨more, rfl, -⟩ := behind_cut (fun piece hpiece => (h.plain piece hpiece).2) hbehind
  obtain ⟨token, htoken, -, htaken⟩ := behind_token hbehind
  obtain ⟨piece, hpiece, hleast, hforeign⟩ := h.foreign
  obtain ⟨char, hchar, hholds⟩ := htaken piece hpiece hleast
  have hmem : char ∈ segment := by
    have hsplit : segment = token ++ more := by
      rw [← List.append_assoc] at htoken
      exact List.append_cancel_right htoken
    exact hsplit ▸ List.mem_append_left _ hchar
  rcases hsegment char hmem with rfl | hinner
  · cases hholds.symm.trans (h.plain piece hpiece).1
  · cases hholds.symm.trans (hforeign char hinner)

theorem Pattern.Sound.absent_mark (h : first.Sound word opening closing inner)
    (hsegment : ∀ char ∈ segment, char = opening ∨ char ∈ inner)
    (hrest : Absent word first (some closing) rest) (previous : Option α) :
    Absent word first previous (segment ++ closing :: rest) := by
  induction segment generalizing previous with
  | nil => exact ⟨@Pattern.Sound.find_mark _ _ _ _ _ _ [] h (by simp) previous rest, hrest⟩
  | cons char segment ih =>
      exact ⟨h.find_mark hsegment previous rest,
        ih (fun other hother => hsegment other (List.mem_cons_of_mem _ hother)) _⟩

-- Behind an occurrence that ends in a word the next cannot begin.
theorem Stops.not_first (h : Stops word first second)
    (hfirst : first.Sound word opening closing inner)
    (hfind : second.find word previous (token ++ rest) = some rest)
    (hword : token.getLast?.any word = true) : ∀ char ∈ rest.head?, first.first char = false := by
  obtain ⟨-, hbehind, hclosed⟩ := find_eq_some.mp hfind
  intro char hchar
  refine Bool.eq_false_iff.mpr fun hbegins => ?_
  rcases h with hends | ⟨before, piece, optional, hpieces, hmost, hleast, hoptional, hholds⟩
  · have hboundary := hclosed hends
    rw [hchar, Option.any_some, hfirst.word_of_first hbegins] at hboundary
    cases hboundary
  · rw [hpieces] at hbehind
    have hlast : ∀ last ∈ token.getLast?, word last = true := by
      intro last hlast
      rwa [hlast] at hword
    cases (hholds char hbegins).symm.trans
      (behind_follow hmost hleast hoptional hbehind hlast char hchar)

-- What an occurrence at the head of a text with a mark in it is made of stands before the mark.
theorem Pattern.Sound.find_front (h : first.Sound word opening closing inner)
    {front back after : List α} (hfront : front.getLast?.any word = false)
    (hfind : (first.find word previous (front ++ opening :: after)).isSome) :
    (first.find word previous (front ++ back)).isSome := by
  obtain ⟨found, hfound⟩ := Option.isSome_iff_exists.mp hfind
  obtain ⟨hprevious, hbehind, hclosed⟩ := find_eq_some.mp hfound
  have hplain : ∀ piece ∈ first.pieces, piece.holds opening = false :=
    fun piece hpiece => (h.plain piece hpiece).1
  cases hend : first.closed with
  | false =>
      obtain ⟨other, hother⟩ := Option.isSome_iff_exists.mp
        (behind_isSome_of_cut hplain (Option.isSome_iff_exists.mpr ⟨found, hbehind⟩) back)
      exact Option.isSome_iff_exists.mpr
        ⟨other, find_eq_some.mpr ⟨hprevious, hother, by simp [hend]⟩⟩
  | true =>
      obtain ⟨more, rfl, hmore⟩ := behind_cut hplain hbehind
      have hne : more ≠ [] := by
        rintro rfl
        obtain ⟨before, piece, hpieces, hleast, hword⟩ := h.ends hend
        rw [hpieces] at hbehind
        obtain ⟨token, htoken, -, htaken⟩ := behind_token hbehind
        obtain ⟨char, hchar, -⟩ := htaken piece (by simp) hleast
        have hsame : front = token := List.append_cancel_right htoken
        obtain ⟨last, hlast⟩ := Option.isSome_iff_exists.mp
          (List.getLast?_isSome.mpr (hsame ▸ List.ne_nil_of_mem hchar : front ≠ []))
        have hheld := behind_last hleast hbehind last hlast
        rw [hlast, Option.any_some, hword last hheld] at hfront
        cases hfront
      refine Option.isSome_iff_exists.mpr
        ⟨more ++ back, find_eq_some.mpr ⟨hprevious, hmore hne back, fun _ => ?_⟩⟩
      obtain ⟨head, tail, rfl⟩ := List.exists_cons_of_ne_nil hne
      exact hclosed hend

-- What is found where no mark was put was found there before.
theorem Pattern.Sound.found_before (h : first.Sound word opening closing inner)
    (hnone : second.find word previous (char :: rest) = none)
    (hfind : (first.find word previous (char ::
      substitute word (opening :: inner ++ [closing]) second 0 (some char) rest)).isSome) :
    (first.find word previous (char :: rest)).isSome := by
  have hsplit := @substitute_split _ word (opening :: inner ++ [closing]) second previous
    (char :: rest)
  rw [substitute, hnone] at hsplit
  dsimp only at hsplit
  rcases hsplit with hkept | ⟨front, back, after, hback, hfront, hword⟩
  · rwa [hkept] at hfind
  · obtain ⟨found, hfound⟩ := Option.isSome_iff_exists.mp hfind
    have hbegins := h.first_of_find hfound
    rw [hback]
    rw [hfront] at hfind
    have hne : front ≠ [] := by
      rintro rfl
      obtain rfl : char = opening := (List.cons.inj hfront).1
      rw [h.not_first_opening] at hbegins
      cases hbegins
    obtain ⟨last, hlast⟩ := Option.isSome_iff_exists.mp (List.getLast?_isSome.mpr hne)
    rw [hlast, Option.some_or, ← hlast] at hword
    rw [List.append_assoc, List.append_assoc, List.cons_append] at hfind
    exact h.find_front hword hfind

-- Wherever the first pattern occurs, the second does.
def Covered (word : α → Bool) (first second : Pattern α) : Option α → List α → Prop
  | _, [] => True
  | previous, char :: rest =>
      ((first.find word previous (char :: rest)).isSome →
        (second.find word previous (char :: rest)).isSome) ∧
      Covered word first second (some char) rest

theorem covered_self (pattern : Pattern α) (previous : Option α) (text : List α) :
    Covered word pattern pattern previous text := by
  induction text generalizing previous with
  | nil => trivial
  | cons char rest ih => exact ⟨id, ih _⟩

theorem covered_of_absent (h : Absent word first previous text) :
    Covered word first second previous text := by
  induction text generalizing previous with
  | nil => trivial
  | cons char rest ih => exact ⟨fun hsome => by simp [h.1] at hsome, ih h.2⟩

theorem covered_drop (token : List α)
    (h : Covered word first second previous (token ++ rest)) :
    Covered word first second (token.getLast?.or previous) rest := by
  induction token generalizing previous with
  | nil => exact h
  | cons char token ih =>
      have hlater := ih h.2
      rw [List.getLast?_cons]
      cases hlast : token.getLast? <;> simpa [hlast] using hlater

-- Putting the mark in place of what the second pattern finds makes no occurrence of the first.
theorem absent_substitute (hclosing : word closing = false)
    (hfirst : first.Sound word opening closing inner)
    (hsecond : second.Sound word opening closing inner) (hstops : Stops word first second)
    {shown : Option α} (hcovered : Covered word first second previous text)
    (hshown : shown.any word = previous.any word ∨
      shown.any word = false ∧ ∀ char ∈ text.head?, first.first char = false) :
    Absent word first shown
      (substitute word (opening :: inner ++ [closing]) second 0 previous text) := by
  induction hlength : text.length using Nat.strong_induction_on
    generalizing text previous shown with
  | _ length ih =>
  subst hlength
  cases text with
  | nil => trivial
  | cons char rest =>
      cases hfind : second.find word previous (char :: rest) with
      | some left =>
          obtain ⟨token, htoken, -, htaken⟩ := behind_token (find_eq_some.mp hfind).2.1
          obtain ⟨piece, hpiece, hleast, -⟩ := hsecond.foreign
          obtain ⟨taken, htakenMem, -⟩ := htaken piece hpiece hleast
          have hne : token ≠ [] := List.ne_nil_of_mem htakenMem
          rw [htoken] at hfind hcovered ⊢
          rw [substitute_found hne hfind, List.append_assoc, List.singleton_append]
          refine hfirst.absent_mark (fun other hother => List.mem_cons.mp hother) ?_ shown
          have hdropped := covered_drop token hcovered
          obtain ⟨last, hlast⟩ := Option.isSome_iff_exists.mp (List.getLast?_isSome.mpr hne)
          rw [hlast, Option.some_or] at hdropped
          rw [hlast]
          refine ih left.length ?_ hdropped ?_ rfl
          · rw [htoken, List.length_append]
            have hpositive := List.length_pos_iff.mpr hne
            omega
          · cases hword : word last with
            | false => exact .inl (by simp [hclosing, hword])
            | true =>
                refine .inr ⟨by simp [hclosing], ?_⟩
                exact hstops.not_first hfirst hfind (by simp [hlast, hword])
      | none =>
          have hlater : Absent word first (some char)
              (substitute word (opening :: inner ++ [closing]) second 0 (some char) rest) :=
            ih rest.length (by simp) hcovered.2 (.inl rfl) rfl
          rw [substitute, hfind]
          refine ⟨Option.eq_none_iff_forall_ne_some.mpr fun found hfound => ?_, hlater⟩
          have hbegins := hfirst.first_of_find hfound
          have hsame : shown.any word = previous.any word :=
            hshown.resolve_right fun h => by simp [h.2 char rfl] at hbegins
          rw [find_congr hsame] at hfound
          have hbefore := hfirst.found_before hfind (Option.isSome_iff_exists.mpr ⟨found, hfound⟩)
          have hoccurs := hcovered.1 hbefore
          rw [hfind] at hoccurs
          cases hoccurs

end Sound

section Substitutions

variable (word : α → Bool) (mark : List α) (patterns : List (Pattern α))

-- One pattern after the other.
def substitutions (text : List α) : List α :=
  patterns.foldl (fun text pattern => substitute word mark pattern 0 none text) text

variable {word mark patterns} {text : List α}

theorem substitutions_of_absent (h : ∀ pattern ∈ patterns, Absent word pattern none text) :
    substitutions word mark patterns text = text := by
  induction patterns with
  | nil => rfl
  | cons pattern patterns ih =>
      obtain ⟨hpattern, hpatterns⟩ := List.forall_mem_cons.mp h
      rw [substitutions, List.foldl_cons, substitute_of_absent hpattern]
      exact ih hpatterns

variable {opening closing : α} {inner : List α}

theorem absent_substitutions (hclosing : word closing = false)
    (hsound : ∀ pattern ∈ patterns, pattern.Sound word opening closing inner)
    (hself : ∀ pattern ∈ patterns, Stops word pattern pattern)
    (hstops : patterns.Pairwise (Stops word)) (text : List α) :
    ∀ pattern ∈ patterns, Absent word pattern none
      (substitutions word (opening :: inner ++ [closing]) patterns text) := by
  induction patterns using List.reverseRecOn with
  | nil => simp
  | append_singleton patterns last ih =>
      obtain ⟨hpatterns, -, hlater⟩ := List.pairwise_append.mp hstops
      have hbefore := ih
        (fun pattern hpattern => hsound pattern (List.mem_append_left _ hpattern))
        (fun pattern hpattern => hself pattern (List.mem_append_left _ hpattern)) hpatterns
      have hlast : last ∈ patterns ++ [last] := List.mem_append_right _ List.mem_cons_self
      intro pattern hpattern
      rw [substitutions, List.foldl_concat]
      refine absent_substitute hclosing (hsound pattern hpattern) (hsound last hlast)
        ?_ ?_ (.inl rfl)
      · rcases List.mem_append.mp hpattern with hold | hnew
        · exact hlater pattern hold last List.mem_cons_self
        · exact List.mem_singleton.mp hnew ▸ hself last hlast
      · rcases List.mem_append.mp hpattern with hold | hnew
        · exact covered_of_absent (hbefore pattern hold)
        · obtain rfl := List.mem_singleton.mp hnew
          exact covered_self pattern none _

-- What has been scrubbed once stays as it is.
theorem substitutions_idem (hclosing : word closing = false)
    (hsound : ∀ pattern ∈ patterns, pattern.Sound word opening closing inner)
    (hself : ∀ pattern ∈ patterns, Stops word pattern pattern)
    (hstops : patterns.Pairwise (Stops word)) (text : List α) :
    substitutions word (opening :: inner ++ [closing]) patterns
        (substitutions word (opening :: inner ++ [closing]) patterns text) =
      substitutions word (opening :: inner ++ [closing]) patterns text :=
  substitutions_of_absent (absent_substitutions hclosing hsound hself hstops text)

-- The mark itself stays as it is.
theorem substitutions_mark
    (hsound : ∀ pattern ∈ patterns, pattern.Sound word opening closing inner) :
    substitutions word (opening :: inner ++ [closing]) patterns (opening :: inner ++ [closing]) =
      opening :: inner ++ [closing] :=
  substitutions_of_absent fun pattern hpattern =>
    (hsound pattern hpattern).absent_mark (fun _ hchar => List.mem_cons.mp hchar)
      (show Absent word pattern (some closing) [] from trivial) none

end Substitutions

end Scanner
