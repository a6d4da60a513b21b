import Mathlib.Data.List.Basic
import Mathlib.Data.List.Induction
import Mathlib.Tactic.Common

-- The records written under the keys of a table, oldest first.
namespace Journal

variable {κ ρ : Type*} [DecidableEq κ] (key : ρ → κ)

def latest (journal : List ρ) (sought : κ) : Option ρ :=
  journal.reverse.find? fun record => key record = sought

-- Only the first record under a key may be open.
def Closes (closed : ρ → Prop) (journal : List ρ) : Prop :=
  journal.Pairwise fun earlier later => key later = key earlier → closed later

-- Nothing is written under a key once a closed record is.
def Final (closed : ρ → Prop) (journal : List ρ) : Prop :=
  journal.Pairwise fun earlier later => key later = key earlier → ¬closed earlier

variable {key} {closed : ρ → Prop} {journal : List ρ}

@[simp] theorem latest_nil (sought : κ) : latest key [] sought = none := rfl

theorem latest_concat (record : ρ) (sought : κ) :
    latest key (journal ++ [record]) sought =
      if key record = sought then some record else latest key journal sought := by
  by_cases h : key record = sought <;> simp [latest, h]

theorem mem_of_latest {sought : κ} {record : ρ} (h : latest key journal sought = some record) :
    record ∈ journal ∧ key record = sought := by
  have hkey := List.find?_some h
  exact ⟨List.mem_reverse.mp (List.mem_of_find?_eq_some h), by simpa using hkey⟩

omit [DecidableEq κ] in
theorem closes_concat {record : ρ} :
    Closes key closed (journal ++ [record]) ↔
      Closes key closed journal ∧
        ∀ earlier ∈ journal, key record = key earlier → closed record := by
  simp [Closes, List.pairwise_append]

omit [DecidableEq κ] in
theorem final_concat {record : ρ} :
    Final key closed (journal ++ [record]) ↔
      Final key closed journal ∧
        ∀ earlier ∈ journal, key record = key earlier → ¬closed earlier := by
  simp [Final, List.pairwise_append]

-- An open record that is still the latest is the only one under its key.
theorem eq_of_latest_open (hcloses : Closes key closed journal) {sought : κ} {record : ρ}
    (hlatest : latest key journal sought = some record) (hopen : ¬closed record) :
    ∀ other ∈ journal, key other = sought → other = record := by
  induction journal using List.reverseRecOn with
  | nil => simp
  | append_singleton journal last ih =>
      obtain ⟨hinit, hlast⟩ := closes_concat.mp hcloses
      rw [latest_concat] at hlatest
      intro other hother hkey
      rw [List.mem_append, List.mem_singleton] at hother
      split at hlatest
      · rename_i hsought
        obtain rfl := Option.some.inj hlatest
        rcases hother with hother | rfl
        · exact absurd (hlast other hother (hsought.trans hkey.symm)) hopen
        · rfl
      · rename_i hsought
        rcases hother with hother | rfl
        · exact ih hinit hlatest other hother hkey
        · exact absurd hkey hsought

-- Once a closed record is written, the latest one is closed.
theorem latest_closed (hcloses : Closes key closed journal) {record : ρ}
    (hmem : record ∈ journal) (hclosed : closed record) :
    ∃ last, latest key journal (key record) = some last ∧ closed last := by
  induction journal using List.reverseRecOn with
  | nil => simp at hmem
  | append_singleton journal last ih =>
      obtain ⟨hinit, hlast⟩ := closes_concat.mp hcloses
      rw [List.mem_append, List.mem_singleton] at hmem
      rw [latest_concat]
      split
      · rename_i hkey
        refine ⟨last, rfl, ?_⟩
        rcases hmem with hmem | rfl
        · exact hlast record hmem hkey
        · exact hclosed
      · rename_i hkey
        rcases hmem with hmem | rfl
        · exact ih hinit hmem
        · exact absurd rfl hkey

theorem countP_closed_le_one [DecidablePred closed] (hfinal : Final key closed journal)
    (sought : κ) :
    journal.countP (fun record => key record = sought ∧ closed record) ≤ 1 := by
  induction journal using List.reverseRecOn with
  | nil => simp
  | append_singleton journal last ih =>
      obtain ⟨hinit, hlast⟩ := final_concat.mp hfinal
      rw [List.countP_append, List.countP_singleton]
      split
      · rename_i h
        have hnone : journal.countP (fun record => key record = sought ∧ closed record) = 0 := by
          rw [List.countP_eq_zero]
          intro earlier hearlier
          simp only [decide_eq_true_eq, not_and]
          intro hkey
          have hsought : key last = sought := (of_decide_eq_true h).1
          exact hlast earlier hearlier (hsought.trans hkey.symm)
        omega
      · exact ih hinit

end Journal
