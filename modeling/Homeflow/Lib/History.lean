import Mathlib.Data.List.Induction
import Mathlib.Tactic.Common

namespace History

variable {ε : Type*} {what : List ε → ε → Prop} {history before after : List ε} {label last : ε}

-- The last label of a history is the one that is picked out, or comes after it.
theorem concat_eq_iff : history ++ [last] = before ++ label :: after ↔
    (history = before ∧ last = label ∧ after = []) ∨
      ∃ rest, history = before ++ label :: rest ∧ after = rest ++ [last] := by
  constructor
  · intro hsplit
    rcases List.eq_nil_or_concat after with rfl | ⟨rest, final, rfl⟩
    · obtain ⟨rfl, hlast⟩ := List.append_inj' hsplit rfl
      exact .inl ⟨rfl, List.singleton_inj.mp hlast, rfl⟩
    · have hshorter : history ++ [last] = (before ++ label :: rest) ++ [final] := by
        rw [hsplit, List.concat_eq_append, List.append_assoc, List.cons_append]
      obtain ⟨rfl, hfinal⟩ := List.append_inj' hshorter rfl
      exact .inr ⟨rest, rfl, by rw [List.concat_eq_append, hfinal]⟩
  · rintro (⟨rfl, rfl, rfl⟩ | ⟨rest, rfl, rfl⟩)
    · rfl
    · rw [List.append_assoc, List.cons_append]

-- At some point of a history this comes after all that came before.
def Happens (what : List ε → ε → Prop) (history : List ε) : Prop :=
  ∃ before label after, history = before ++ label :: after ∧ what before label

-- Everything in a history comes after such a past.
def Always (what : List ε → ε → Prop) (history : List ε) : Prop :=
  ∀ before label after, history = before ++ label :: after → what before label

theorem not_happens_nil : ¬Happens what [] := by
  rintro ⟨before, label, after, hsplit, -⟩
  simp at hsplit

theorem always_nil : Always what [] := by
  intro before label after hsplit
  simp at hsplit

theorem happens_concat :
    Happens what (history ++ [label]) ↔ Happens what history ∨ what history label := by
  constructor
  · rintro ⟨before, last, after, hsplit, hwhat⟩
    rcases concat_eq_iff.mp hsplit with ⟨rfl, rfl, -⟩ | ⟨rest, rfl, -⟩
    · exact .inr hwhat
    · exact .inl ⟨before, last, rest, rfl, hwhat⟩
  · rintro (⟨before, last, after, rfl, hwhat⟩ | hwhat)
    · exact ⟨before, last, after ++ [label], by simp, hwhat⟩
    · exact ⟨history, label, [], rfl, hwhat⟩

theorem Happens.concat (h : Happens what history) (label : ε) :
    Happens what (history ++ [label]) :=
  happens_concat.mpr (.inl h)

theorem Always.concat (h : Always what history) (hlabel : what history label) :
    Always what (history ++ [label]) := by
  intro before last after hsplit
  rcases concat_eq_iff.mp hsplit with ⟨rfl, rfl, -⟩ | ⟨rest, rfl, -⟩
  · exact hlabel
  · exact h before last rest rfl

theorem Always.shorten (h : Always what history) (hfront : before <+: history) :
    Always what before := by
  obtain ⟨rest, rfl⟩ := hfront
  rintro earlier last later rfl
  exact h earlier last (later ++ rest) (by simp)

-- What holds after any past that contains a history can go on after it.
theorem Always.append (h : Always what history)
    (hafter : ∀ more last, what (history ++ more) last) (later : List ε) :
    Always what (history ++ later) := by
  induction later using List.reverseRecOn with
  | nil => simpa using h
  | append_singleton later last ih =>
      rw [← List.append_assoc]
      exact ih.concat (hafter later last)

-- The last entry of a kind: one that nothing of that kind comes after.
def Latest (kind : ε → Prop) (history : List ε) (entry : ε) : Prop :=
  ∃ before after, history = before ++ entry :: after ∧ kind entry ∧ ∀ other ∈ after, ¬kind other

variable {kind : ε → Prop} {entry : ε}

theorem not_latest_nil : ¬Latest kind [] entry := by
  rintro ⟨before, after, hsplit, -⟩
  simp at hsplit

theorem latest_concat_of_kind (hlast : kind last) :
    Latest kind (history ++ [last]) entry ↔ entry = last := by
  constructor
  · rintro ⟨before, after, hsplit, -, hafter⟩
    rcases concat_eq_iff.mp hsplit with ⟨-, rfl, -⟩ | ⟨rest, -, rfl⟩
    · rfl
    · exact absurd hlast (hafter last (List.mem_append_right _ List.mem_cons_self))
  · rintro rfl
    exact ⟨history, [], rfl, hlast, fun _ hnone => absurd hnone List.not_mem_nil⟩

theorem latest_concat_of_not (hlast : ¬kind last) :
    Latest kind (history ++ [last]) entry ↔ Latest kind history entry := by
  constructor
  · rintro ⟨before, after, hsplit, hkind, hafter⟩
    rcases concat_eq_iff.mp hsplit with ⟨-, rfl, -⟩ | ⟨rest, rfl, rfl⟩
    · exact absurd hkind hlast
    · exact ⟨before, rest, rfl, hkind,
        fun other hother => hafter other (List.mem_append_left _ hother)⟩
  · rintro ⟨before, after, rfl, hkind, hafter⟩
    refine ⟨before, after ++ [last], by simp, hkind, fun other hother => ?_⟩
    rcases List.mem_append.mp hother with hold | hnew
    · exact hafter other hold
    · exact List.mem_singleton.mp hnew ▸ hlast

theorem Latest.holds (h : Latest kind history entry) : kind entry := by
  obtain ⟨_, _, _, hkind, _⟩ := h
  exact hkind

theorem exists_latest (h : ∃ entry ∈ history, kind entry) : ∃ entry, Latest kind history entry := by
  induction history using List.reverseRecOn with
  | nil => simp at h
  | append_singleton history last ih =>
      by_cases hlast : kind last
      · exact ⟨last, (latest_concat_of_kind hlast).mpr rfl⟩
      · simp only [latest_concat_of_not hlast]
        obtain ⟨entry, hentry, hkind⟩ := h
        rcases List.mem_append.mp hentry with hold | hnew
        · exact ih ⟨entry, hold, hkind⟩
        · exact absurd (List.mem_singleton.mp hnew ▸ hkind) hlast

theorem latest_congr {other : ε → Prop} (h : ∀ entry, kind entry ↔ other entry) :
    Latest kind history entry ↔ Latest other history entry := by
  obtain rfl : kind = other := funext fun entry => propext (h entry)
  rfl

section LastSome

variable {α : Type*} (read : ε → Option α)

-- What the last entry that can be read says.
def lastSome (history : List ε) : Option α := (history.filterMap read).getLast?

theorem lastSome_concat :
    lastSome read (history ++ [last]) = (read last <|> lastSome read history) := by
  unfold lastSome
  rw [List.filterMap_append]
  cases hread : read last with
  | none => simp [hread]
  | some value => simp [hread]

-- Where every entry can be read, the last of all says it.
theorem lastSome_some (value : ε → α) :
    lastSome (fun entry => some (value entry)) history = history.getLast?.map value := by
  rw [lastSome, List.filterMap_eq_map', List.getLast?_map]

theorem lastSome_map {β : Type*} (value : α → β) :
    lastSome (fun entry => (read entry).map value) history =
      (lastSome read history).map value := by
  rw [lastSome, ← List.map_filterMap, List.getLast?_map, lastSome]

theorem lastSome_eq_none_iff :
    lastSome read history = none ↔ ∀ entry ∈ history, read entry = none := by
  rw [lastSome, List.getLast?_eq_none_iff, List.filterMap_eq_nil_iff]

end LastSome

end History
