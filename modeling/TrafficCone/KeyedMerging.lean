import Mathlib.Data.List.Nodup

namespace TrafficCone.KeyedMerging

variable {ρ κ ι : Type}

/-- `merged` has all of the rows, and those of the new ones whose key no row has. -/
def Merged (key : ρ → κ) (rows new merged : List ρ) : Prop :=
  ∀ row, row ∈ merged ↔ row ∈ rows ∨ (row ∈ new ∧ ∀ other ∈ rows, key other ≠ key row)

/-- A new row can be merged without giving an identifier to a second row. -/
def Admitted (key : ρ → κ) (identifier : ρ → ι) (rows : List ρ) (row : ρ) : Prop :=
  (∃ other ∈ rows, key other = key row) ∨ ∀ other ∈ rows, identifier other ≠ identifier row

/-- No row has the key of the new one under another identifier. -/
def Agrees (key : ρ → κ) (identifier : ρ → ι) (rows : List ρ) (row : ρ) : Prop :=
  ∀ other ∈ rows, key other = key row → identifier other = identifier row

variable {key : ρ → κ} {identifier : ρ → ι} {rows new merged : List ρ}

theorem Merged.of_perm {other : List ρ} (hmerged : Merged key rows new merged)
    (hperm : new.Perm other) : Merged key rows other merged := by
  intro found
  rw [hmerged found, hperm.mem_iff]

theorem found_iff_agrees (hmerged : Merged key rows new merged) (hkeys : (rows.map key).Nodup)
    {row : ρ} (hrow : row ∈ new) :
    (∃ found ∈ merged, identifier found = identifier row ∧ key found = key row) ↔
      Agrees key identifier rows row := by
  constructor
  · rintro ⟨found, hfound, hidentifier, hkey⟩ other hother hsame
    rcases (hmerged found).mp hfound with hold | ⟨-, hnew⟩
    · rw [List.inj_on_of_nodup_map hkeys hother hold (hsame.trans hkey.symm), hidentifier]
    · exact absurd (hsame.trans hkey.symm) (hnew other hother)
  · intro hagrees
    by_cases hpresent : ∃ other ∈ rows, key other = key row
    · obtain ⟨other, hother, hsame⟩ := hpresent
      exact ⟨other, (hmerged other).mpr (Or.inl hother), hagrees other hother hsame, hsame⟩
    · have habsent : ∀ other ∈ rows, key other ≠ key row := by
        intro other hother hsame
        exact hpresent ⟨other, hother, hsame⟩
      exact ⟨row, (hmerged row).mpr (Or.inr ⟨hrow, habsent⟩), rfl, rfl⟩

/-- Where all new rows are admitted, an identifier in use keeps its row. -/
theorem mem_rows_of_identifier (hmerged : Merged key rows new merged)
    (hadmitted : ∀ row ∈ new, Admitted key identifier rows row) {found other : ρ}
    (hfound : found ∈ merged) (hother : other ∈ rows)
    (h : identifier found = identifier other) : found ∈ rows := by
  rcases (hmerged found).mp hfound with hold | ⟨hnew, habsent⟩
  · exact hold
  · rcases hadmitted found hnew with ⟨same, hsame, hkey⟩ | hunused
    · exact absurd hkey (habsent same hsame)
    · exact absurd h.symm (hunused other hother)

theorem identifier_mem_merged_iff (hmerged : Merged key rows new merged)
    (hidentifiers : (new.map identifier).Nodup) {row : ρ} (hrow : row ∈ new) :
    (∃ found ∈ merged, identifier found = identifier row) ↔
      (∃ found ∈ rows, identifier found = identifier row) ∨
        ∀ other ∈ rows, key other ≠ key row := by
  constructor
  · rintro ⟨found, hfound, h⟩
    rcases (hmerged found).mp hfound with hold | ⟨hnew, habsent⟩
    · exact Or.inl ⟨found, hold, h⟩
    · rw [List.inj_on_of_nodup_map hidentifiers hnew hrow h] at habsent
      exact Or.inr habsent
  · rintro (⟨found, hfound, h⟩ | habsent)
    · exact ⟨found, (hmerged found).mpr (Or.inl hfound), h⟩
    · exact ⟨row, (hmerged row).mpr (Or.inr ⟨hrow, habsent⟩), rfl⟩

end TrafficCone.KeyedMerging
