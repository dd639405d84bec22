import Mathlib.Data.List.Induction
import Mathlib.Data.List.Nodup

namespace TrafficCone.KeyedReplacing

variable {ρ κ : Type} {key : ρ → κ} {rows : List ρ}

/-- A row after which there is no other with its key. -/
def Latest (key : ρ → κ) (rows : List ρ) (row : ρ) : Prop :=
  ∃ before after, rows = before ++ row :: after ∧ ∀ other ∈ after, key other ≠ key row

theorem Latest.mem {row : ρ} (h : Latest key rows row) : row ∈ rows := by
  obtain ⟨before, after, rfl, -⟩ := h
  simp

theorem latest_concat_iff {last row : ρ} :
    Latest key (rows ++ [last]) row ↔ row = last ∨ (Latest key rows row ∧ key last ≠ key row) := by
  constructor
  · rintro ⟨before, after, hrows, hafter⟩
    rcases List.eq_nil_or_concat' after with rfl | ⟨between, other, rfl⟩
    · have hlast := (List.append_inj' hrows rfl).2
      exact Or.inl (List.head_eq_of_cons_eq hlast).symm
    · rw [← List.cons_append, ← List.append_assoc] at hrows
      obtain ⟨rfl, hlast⟩ := List.append_inj' hrows rfl
      obtain rfl := List.head_eq_of_cons_eq hlast
      refine Or.inr ⟨⟨before, between, rfl, ?_⟩, hafter last (by simp)⟩
      intro other hother
      exact hafter other (List.mem_append_left _ hother)
  · rintro (rfl | ⟨⟨before, after, rfl, hafter⟩, hlast⟩)
    · exact ⟨rows, [], rfl, by simp⟩
    · refine ⟨before, after ++ [last], by simp, ?_⟩
      intro other hother
      rcases List.mem_append.mp hother with hother | hother
      · exact hafter other hother
      · rwa [List.mem_singleton.mp hother]

/-- Rows whose keys are all different replace nothing. -/
theorem latest_of_nodup (h : (rows.map key).Nodup) {row : ρ} (hrow : row ∈ rows) :
    Latest key rows row := by
  obtain ⟨before, after, rfl⟩ := List.append_of_mem hrow
  refine ⟨before, after, rfl, ?_⟩
  intro other hother hsame
  rw [List.map_append, List.map_cons] at h
  have hunique := (List.nodup_cons.mp (List.nodup_append.mp h).2.1).1
  exact hunique (hsame ▸ List.mem_map_of_mem hother)

variable [DecidableEq κ]

/-- Put a row behind the others, in the place of those with its key. -/
def replace (key : ρ → κ) (rows : List ρ) (row : ρ) : List ρ :=
  rows.filter (fun other => key other ≠ key row) ++ [row]

/-- What is left when all rows have been put in their turn. -/
def replaceAll (key : ρ → κ) (rows : List ρ) : List ρ := rows.foldl (replace key) []

theorem map_replace {σ : Type} (key : ρ → κ) (column : σ → κ) (f : ρ → σ)
    (h : ∀ row, column (f row) = key row) (rows : List ρ) (row : ρ) :
    (replace key rows row).map f = replace column (rows.map f) (f row) := by
  simp [replace, List.filter_map, Function.comp_def, h]

theorem replaceAll_concat (key : ρ → κ) (rows : List ρ) (row : ρ) :
    replaceAll key (rows ++ [row]) = replace key (replaceAll key rows) row := by
  simp [replaceAll]

theorem mem_replaceAll_iff {row : ρ} : row ∈ replaceAll key rows ↔ Latest key rows row := by
  induction rows using List.reverseRecOn with
  | nil => simp [replaceAll, Latest]
  | append_singleton rows last ih =>
      rw [replaceAll_concat, latest_concat_iff, ← ih]
      simp only [replace, List.mem_append, List.mem_filter, List.mem_singleton, decide_eq_true_eq]
      rw [or_comm, ne_comm]

end TrafficCone.KeyedReplacing
