import Mathlib.Data.List.MinMax

namespace TrafficCone.FirstMaximumSelection

variable {α β : Type*} [LinearOrder β]

theorem argmax_of_split {rank : α → β} {before after : List α} {best : α}
    (hbefore : ∀ entry ∈ before, rank entry < rank best)
    (hafter : ∀ entry ∈ after, rank entry ≤ rank best) :
    (before ++ best :: after).argmax rank = some best := by
  induction after using List.reverseRecOn with
  | nil =>
      rw [List.argmax_concat]
      cases hleader : before.argmax rank with
      | none => rfl
      | some leader => simp [hbefore leader (List.argmax_mem hleader)]
  | append_singleton after last ih =>
      have hlast : ¬ rank best < rank last := not_lt.mpr (hafter last (by simp))
      rw [← List.cons_append, ← List.append_assoc, List.argmax_concat,
        ih fun entry hentry => hafter entry (by simp [hentry])]
      simp [hlast]

theorem exists_split_of_argmax {rank : α → β} {entries : List α} {best : α}
    (hbest : entries.argmax rank = some best) :
    ∃ before after, entries = before ++ best :: after ∧
      (∀ entry ∈ before, rank entry < rank best) ∧
      (∀ entry ∈ after, rank entry ≤ rank best) := by
  induction entries using List.reverseRecOn with
  | nil => simp at hbest
  | append_singleton entries last ih =>
      rw [List.argmax_concat] at hbest
      cases hleader : entries.argmax rank with
      | none =>
          have hnil : entries = [] := List.argmax_eq_none.mp hleader
          have hlast : last = best := by simpa [hleader] using hbest
          exact ⟨[], [], by simp [hnil, hlast], by simp, by simp⟩
      | some leader =>
          simp only [hleader] at hbest
          by_cases hlast : rank leader < rank last
          · have heq : last = best := by simpa [hlast] using hbest
            subst heq
            refine ⟨entries, [], rfl, ?_, by simp⟩
            intro entry hentry
            exact lt_of_le_of_lt (List.le_of_mem_argmax hentry hleader) hlast
          · have heq : leader = best := by simpa [hlast] using hbest
            subst heq
            obtain ⟨before, after, hsplit, hbefore, hafter⟩ := ih hleader
            refine ⟨before, after ++ [last], by simp [hsplit], hbefore, ?_⟩
            intro entry hentry
            rcases List.mem_append.mp hentry with hentry | hentry
            · exact hafter entry hentry
            · rw [List.mem_singleton.mp hentry]
              exact not_lt.mp hlast

/-- The first of the admissible entries that no admissible entry outranks. -/
def firstMaximum (admissible : α → Bool) (rank : α → β) (entries : List α) : Option α :=
  (entries.filter admissible).argmax rank

theorem firstMaximum_eq_none_iff (admissible : α → Bool) (rank : α → β) (entries : List α) :
    firstMaximum admissible rank entries = none ↔
      ∀ entry ∈ entries, admissible entry = false := by
  rw [firstMaximum, List.argmax_eq_none, List.filter_eq_nil_iff]
  simp

theorem firstMaximum_eq_some_iff (admissible : α → Bool) (rank : α → β) (entries : List α)
    (best : α) :
    firstMaximum admissible rank entries = some best ↔
      ∃ before after, entries = before ++ best :: after ∧ admissible best = true ∧
        (∀ entry ∈ before, admissible entry = true → rank entry < rank best) ∧
        (∀ entry ∈ after, admissible entry = true → rank entry ≤ rank best) := by
  constructor
  · intro hbest
    obtain ⟨before, after, hsplit, hbefore, hafter⟩ := exists_split_of_argmax hbest
    obtain ⟨before', rest, hentries, hbefore', hrest⟩ := List.filter_eq_append_iff.mp hsplit
    obtain ⟨skipped, after', hrest', hskipped, hadmissible, hafter'⟩ :=
      List.filter_eq_cons_iff.mp hrest
    refine ⟨before' ++ skipped, after', by simp [hentries, hrest'], hadmissible, ?_, ?_⟩
    · intro entry hentry hadmitted
      rcases List.mem_append.mp hentry with hentry | hentry
      · exact hbefore entry (hbefore' ▸ List.mem_filter.mpr ⟨hentry, hadmitted⟩)
      · exact absurd hadmitted (hskipped entry hentry)
    · intro entry hentry hadmitted
      exact hafter entry (hafter' ▸ List.mem_filter.mpr ⟨hentry, hadmitted⟩)
  · rintro ⟨before, after, rfl, hadmissible, hbefore, hafter⟩
    rw [firstMaximum, List.filter_append, List.filter_cons_of_pos hadmissible]
    apply argmax_of_split
    · intro entry hentry
      exact hbefore entry (List.mem_filter.mp hentry).1 (List.mem_filter.mp hentry).2
    · intro entry hentry
      exact hafter entry (List.mem_filter.mp hentry).1 (List.mem_filter.mp hentry).2

/-- Keep the best admissible entry seen so far; a later one replaces it only by
a strictly greater rank. -/
def keepBest (admissible : α → Bool) (rank : α → β) (best : Option α) (entry : α) : Option α :=
  if admissible entry then
    match best with
    | none => some entry
    | some leader => if rank leader < rank entry then some entry else some leader
  else best

theorem foldl_keepBest (admissible : α → Bool) (rank : α → β) (entries : List α) :
    entries.foldl (keepBest admissible rank) none = firstMaximum admissible rank entries := by
  induction entries using List.reverseRecOn with
  | nil => rfl
  | append_singleton entries last ih =>
      rw [List.foldl_append, ih, List.foldl_cons, List.foldl_nil]
      unfold keepBest
      by_cases hlast : admissible last = true
      · simp only [hlast, if_true, firstMaximum, List.filter_append, List.filter_cons_of_pos,
          List.filter_nil, List.argmax_concat]
        cases (entries.filter admissible).argmax rank <;> rfl
      · simp [hlast, firstMaximum]

end TrafficCone.FirstMaximumSelection
