import TrafficCone.IntegrityChecks

namespace TrafficCone.RequiredComponents

open TrafficCone.Outcomes
open TrafficCone.StoreModels
open TrafficCone.LinkedCrates
open TrafficCone.BackupArchives
open TrafficCone.IntegrityRecords
open TrafficCone.IntegrityChecks

/-- A check that passes has verified a record of every component of Traffic Cone. -/
def VerifiesEveryComponent (crates : Crates) (files : Files) (host : Host) (rowOrder : RowOrder)
    (store : Store) : Prop :=
  (verifyAll crates files host rowOrder store).1 = .ok () →
    ∀ database master, store = .unlocked database master →
      ∀ name ∈ components, ∃ record ∈ database.integrity,
        record.component = name ∧ hashFile crates files record.path = .ok record.sha256

def EveryComponentRecorded (database : Database) : Prop :=
  ∀ name ∈ components, ∃ record ∈ database.integrity, record.component = name

/-- The check goes through the records there are, and does not look for the ones there
should be. -/
theorem verifiesEveryComponent_iff (crates : Crates) (files : Files) (host : Host)
    (rowOrder : RowOrder) (store : Store) :
    VerifiesEveryComponent crates files host rowOrder store ↔
      ∀ database master, store = .unlocked database master →
        EveryComponentRecorded database ∨
          ∃ record ∈ database.integrity,
            hashFile crates files record.path ≠ .ok record.sha256 := by
  rw [VerifiesEveryComponent, verifyAll_eq_ok_iff]
  constructor
  · rintro hverifies database master rfl
    by_cases hall : ∀ record ∈ database.integrity, Unmodified crates files record
    · refine Or.inl ?_
      intro name hname
      obtain ⟨record, hrecord, hcomponent, -⟩ :=
        hverifies ⟨database, master, rfl, hall⟩ database master rfl name hname
      exact ⟨record, hrecord, hcomponent⟩
    · push Not at hall
      exact Or.inr hall
  · rintro hcondition ⟨_, _, hstore, hall⟩ database master rfl name hname
    obtain ⟨rfl, rfl⟩ := Store.unlocked.inj hstore
    rcases hcondition database master rfl with hrecorded | ⟨record, hrecord, hmodified⟩
    · obtain ⟨record, hrecord, hcomponent⟩ := hrecorded name hname
      exact ⟨record, hrecord, hcomponent, hall record hrecord⟩
    · exact absurd (hall record hrecord) hmodified

/-- A store that has just been created passes the check. -/
theorem created_store_passes :
    ¬ VerifiesEveryComponent plainCrates (fun _ => .ok []) { unixNow := 0, newId := fun _ => "" }
      storedOrder (.unlocked {} []) := by
  intro hverifies
  obtain ⟨record, hrecord, -⟩ := hverifies rfl {} [] rfl "coned" (by decide)
  exact absurd hrecord List.not_mem_nil

end TrafficCone.RequiredComponents
