import Mathlib.Data.List.Infix
import Mathlib.Tactic.Common

-- Texts that are joined, and in which a mark stands, from left to right, in place of a word.
namespace Replace

variable {α : Type*}

section Join

variable {sep : List α}

theorem mem_intercalate {cells : List (List α)} {char : α}
    (h : char ∈ sep.intercalate cells) : char ∈ sep ∨ ∃ cell ∈ cells, char ∈ cell := by
  induction cells with
  | nil => cases h
  | cons cell cells ih =>
      by_cases hnil : cells = []
      · subst hnil
        rw [List.intercalate_singleton] at h
        exact .inr ⟨cell, List.mem_cons_self, h⟩
      · rw [List.intercalate_cons_of_ne_nil hnil, List.mem_append, List.mem_append] at h
        rcases h with (hcell | hsep) | hlater
        · exact .inr ⟨cell, List.mem_cons_self, hcell⟩
        · exact .inl hsep
        · rcases ih hlater with hsep | ⟨other, hother, hchar⟩
          · exact .inl hsep
          · exact .inr ⟨other, List.mem_cons_of_mem _ hother, hchar⟩

theorem intercalate_append {first second : List (List α)} (hfirst : first ≠ [])
    (hsecond : second ≠ []) :
    sep.intercalate (first ++ second) =
      sep.intercalate first ++ sep ++ sep.intercalate second := by
  induction first with
  | nil => exact absurd rfl hfirst
  | cons cell cells ih =>
      by_cases hnil : cells = []
      · subst hnil
        rw [List.singleton_append, List.intercalate_cons_of_ne_nil hsecond,
          List.intercalate_singleton]
      · rw [List.cons_append, List.intercalate_cons_of_ne_nil (by simp [hnil]), ih hnil,
          List.intercalate_cons_of_ne_nil hnil]
        simp only [List.append_assoc]

theorem intercalate_part {part cells : List (List α)} (h : part <:+: cells) :
    sep.intercalate part <:+: sep.intercalate cells := by
  obtain ⟨front, behind, rfl⟩ := h
  by_cases hpart : part = []
  · subst hpart
    exact List.nil_infix
  have hfirst : sep.intercalate (front ++ part) <:+: sep.intercalate (front ++ part ++ behind) := by
    by_cases hbehind : behind = []
    · subst hbehind
      rw [List.append_nil]
    · rw [intercalate_append (by simp [hpart]) hbehind, List.append_assoc]
      exact (List.prefix_append _ _).isInfix
  refine List.IsInfix.trans ?_ hfirst
  by_cases hfront : front = []
  · subst hfront
    rw [List.nil_append]
  · rw [intercalate_append hfront hpart]
    exact (List.suffix_append _ _).isInfix

end Join

section Replace

variable [DecidableEq α] (word mark : List α)

-- The first argument is how much of a word that was replaced is still to be passed over.
def replaceFrom : Nat → List α → List α
  | _, [] => []
  | skip + 1, _ :: rest => replaceFrom skip rest
  | 0, char :: rest =>
      if word <+: char :: rest then mark ++ replaceFrom (word.length - 1) rest
      else char :: replaceFrom 0 rest

def replace (text : List α) : List α := replaceFrom word mark 0 text

variable {word mark} {text rest : List α}

theorem replaceFrom_eq_drop (skip : Nat) (text : List α) :
    replaceFrom word mark skip text = replace word mark (text.drop skip) := by
  induction skip generalizing text with
  | zero => rfl
  | succ skip ih =>
      cases text with
      | nil => rfl
      | cons char rest => rw [replaceFrom, ih, List.drop_succ_cons]

theorem replace_found (hword : word ≠ []) (rest : List α) :
    replace word mark (word ++ rest) = mark ++ replace word mark rest := by
  obtain ⟨char, tail, rfl⟩ := List.exists_cons_of_ne_nil hword
  have hfound : char :: tail <+: char :: (tail ++ rest) := List.prefix_append (char :: tail) rest
  rw [List.cons_append, replace, replaceFrom, if_pos hfound, replaceFrom_eq_drop,
    List.length_cons, Nat.add_sub_cancel, List.drop_left]

theorem replace_kept {char : α} (h : ¬word <+: char :: rest) :
    replace word mark (char :: rest) = char :: replace word mark rest := by
  rw [replace, replaceFrom, if_neg h]
  rfl

variable (word) in
-- A text is nothing, a word and a text, or a character no word begins with and a text.
theorem replace_induction (hword : word ≠ []) {motive : List α → Prop} (nil : motive [])
    (found : ∀ rest, motive rest → motive (word ++ rest))
    (kept : ∀ char rest, ¬word <+: char :: rest → motive rest → motive (char :: rest))
    (text : List α) : motive text := by
  induction hlength : text.length using Nat.strongRecOn generalizing text with
  | _ length ih =>
      subst hlength
      cases text with
      | nil => exact nil
      | cons char rest =>
          by_cases hprefix : word <+: char :: rest
          · obtain ⟨behind, hbehind⟩ := hprefix
            have hpos := List.length_pos_iff.mpr hword
            rw [← hbehind, List.length_append] at ih
            rw [← hbehind]
            exact found behind (ih behind.length (by omega) behind rfl)
          · exact kept char rest hprefix (ih rest.length (Nat.lt_succ_self _) rest rfl)

end Replace

-- A word no part of which is taken for a part of the mark.
structure Unlike (mark word : List α) : Prop where
  mark_head : ∀ char ∈ mark.head?, char ∉ word
  word_head : ∀ char ∈ word.head?, char ∉ mark
  mark_ne_nil : mark ≠ []
  word_ne_nil : word ≠ []

section Unlike

variable {word mark other text part : List α}

-- What stands in a text behind a mark does not reach into the mark.
theorem Unlike.infix_append (h : Unlike mark other) (hoccurs : other <:+: mark ++ text) :
    other <:+: text := by
  obtain ⟨char, tail, rfl⟩ := List.exists_cons_of_ne_nil h.word_ne_nil
  have houtside : char ∉ mark := h.word_head char rfl
  clear h
  induction mark with
  | nil => exact hoccurs
  | cons head mark ih =>
      rw [List.cons_append, List.infix_cons_iff] at hoccurs
      rcases hoccurs with hprefix | hoccurs
      · obtain ⟨rfl, -⟩ := List.cons_prefix_cons.mp hprefix
        exact absurd List.mem_cons_self houtside
      · exact ih hoccurs fun hmem => houtside (List.mem_cons_of_mem _ hmem)

variable [DecidableEq α]

-- Up to the first mark the text is as it was.
theorem prefix_of_prefix_replace (hword : word ≠ []) (hmark : mark ≠ [])
    (hpart : ∀ char ∈ mark.head?, char ∉ part) (h : part <+: replace word mark text) :
    part <+: text := by
  induction text using replace_induction word hword generalizing part with
  | nil => exact h
  | found rest ih =>
      obtain ⟨first, later, rfl⟩ := List.exists_cons_of_ne_nil hmark
      rw [replace_found hword, List.cons_append] at h
      cases part with
      | nil => exact List.nil_prefix
      | cons char part =>
          obtain ⟨rfl, -⟩ := List.cons_prefix_cons.mp h
          exact absurd List.mem_cons_self (hpart char rfl)
  | kept char rest hkept ih =>
      rw [replace_kept hkept] at h
      cases part with
      | nil => exact List.nil_prefix
      | cons head part =>
          obtain ⟨rfl, hlater⟩ := List.cons_prefix_cons.mp h
          refine List.cons_prefix_cons.mpr ⟨rfl, ih (fun char hchar hmem => ?_) hlater⟩
          exact hpart char hchar (List.mem_cons_of_mem _ hmem)

-- No word comes up that was not there before.
theorem Unlike.infix_of_infix_replace (h : Unlike mark other) (hword : word ≠ [])
    (hoccurs : other <:+: replace word mark text) : other <:+: text := by
  induction text using replace_induction word hword with
  | nil => exact hoccurs
  | found rest ih =>
      rw [replace_found hword] at hoccurs
      exact (ih (h.infix_append hoccurs)).trans (List.suffix_append word rest).isInfix
  | kept char rest hkept ih =>
      have hreplaced := hoccurs
      rw [replace_kept hkept, List.infix_cons_iff, ← replace_kept hkept] at hreplaced
      rcases hreplaced with hprefix | hrest
      · exact (prefix_of_prefix_replace hword h.mark_ne_nil h.mark_head hprefix).isInfix
      · exact (ih hrest).trans (List.suffix_cons char rest).isInfix

-- The word itself is gone.
theorem Unlike.not_infix_replace (h : Unlike mark word) (text : List α) :
    ¬word <:+: replace word mark text := by
  have hword := h.word_ne_nil
  induction text using replace_induction word hword with
  | nil => exact fun hoccurs => hword (List.infix_nil.mp hoccurs)
  | found rest ih =>
      rw [replace_found hword]
      exact fun hoccurs => ih (h.infix_append hoccurs)
  | kept char rest hkept ih =>
      intro hoccurs
      rw [replace_kept hkept, List.infix_cons_iff, ← replace_kept hkept] at hoccurs
      rcases hoccurs with hprefix | hrest
      · exact hkept (prefix_of_prefix_replace hword h.mark_ne_nil h.mark_head hprefix)
      · exact ih hrest

end Unlike

end Replace
