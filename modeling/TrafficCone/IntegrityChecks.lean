import TrafficCone.BackupArchives
import TrafficCone.IntegrityRecords
import TrafficCone.KeyedReplacing

namespace TrafficCone.IntegrityChecks

open TrafficCone.Outcomes
open TrafficCone.StoreModels
open TrafficCone.LinkedCrates
open TrafficCone.HexadecimalText
open TrafficCone.KeyedReplacing
open TrafficCone.DatabaseTables
open TrafficCone.BackupArchives
open TrafficCone.IntegrityRecords

/-- What reading the file at a path gives. -/
abbrev Files : Type := String → Except String Bytes

def hashFile (crates : Crates) (files : Files) (path : String) : Outcome StoreError String := do
  let bytes ← (Outcome.ofExcept (files path)).mapErr .io
  pure (hexEncode (crates.sha256 bytes))

/-- Record the hash of a component's binary. The clock and the generator of ids are
those of the host at the time of the call. -/
def record (crates : Crates) (files : Files) (host : Host) (component path version : String) :
    Effect Store StoreError Unit :=
  withConn do
    let sha256 ← Effect.lift (hashFile crates files path)
    let id ← newId host
    -- The columns of the statement do not include `verified_at`.
    integrity.insertOrReplace
      { id := id
        component := component
        path := path
        sha256 := sha256
        version := version
        recordedAt := host.unixNow
        verifiedAt := none }

def modified (record : IntegrityRecord) (actual : String) : StoreError :=
  .integrityFailure (record.component ++ " at " ++ record.path ++
    " has been modified (expected " ++ record.sha256 ++ ", found " ++ actual ++ ")")

def verifyRecord (crates : Crates) (files : Files) (record : IntegrityRecord) :
    Outcome StoreError Unit := do
  let actual ← hashFile crates files record.path
  if actual ≠ record.sha256 then .err (modified record actual) else pure ()

def verifyRecords (crates : Crates) (files : Files) :
    List IntegrityRecord → Outcome StoreError Unit
  | [] => pure ()
  | record :: records => do
      verifyRecord crates files record
      verifyRecords crates files records

def verifiedRecord (now : Int) (record : IntegrityRecord) : IntegrityRecord :=
  { record with verifiedAt := some now }

/-- `UPDATE integrity SET verified_at = now`, which has no condition. -/
def markVerified (now : Int) : Effect Session StoreError Unit := fun session =>
  (.ok (),
    { session with
      database := integrity.withRows session.database
        ((integrity.rows session.database).map (verifiedRecord now)) })

/-- Check every record there is, in the order in which they are listed. -/
def verifyAll (crates : Crates) (files : Files) (host : Host) (rowOrder : RowOrder) :
    Effect Store StoreError Unit := do
  let records ← Effect.reads (listIn rowOrder)
  Effect.lift (verifyRecords crates files records)
  withConn (markVerified host.unixNow)

/-- The file at the path of the record has the recorded hash. -/
def Unmodified (crates : Crates) (files : Files) (record : IntegrityRecord) : Prop :=
  hashFile crates files record.path = .ok record.sha256

def verifiedDatabase (now : Int) (database : Database) : Database :=
  { database with integrity := database.integrity.map (verifiedRecord now) }

section Specifications

variable {crates : Crates} {files : Files}

theorem hashFile_eq_ok_iff {path sha256 : String} :
    hashFile crates files path = .ok sha256 ↔
      ∃ bytes, files path = .ok bytes ∧ hexEncode (crates.sha256 bytes) = sha256 := by
  rw [hashFile]
  cases files path <;> simp

theorem hashFile_ne_panicked (path : String) : hashFile crates files path ≠ .panicked := by
  rw [hashFile]
  cases files path <;> simp

theorem record_of_unreadable {path error : String} (h : files path = .error error) (host : Host)
    (component version : String) (database : Database) (master : Bytes) :
    record crates files host component path version (.unlocked database master) =
      (.err (.io error), .unlocked database master) := by
  have hread : hashFile crates files path = .err (.io error) := by
    rw [hashFile, h]
    rfl
  rw [record, hread]
  rfl

/-- The id is the only unique column of the table. -/
theorem insertOrReplace_integrity (row : IntegrityRecord) (session : Session) :
    integrity.insertOrReplace row session =
      (.ok (),
        { session with
          database :=
            { session.database with
              integrity := replace (·.id) session.database.integrity row } }) := by
  simp [Table.insertOrReplace, Table.append, Table.clashes, integrity, replace]

/-- Only a record with the same id is replaced, whatever its component and path. -/
theorem record_of_readable {path : String} {contents : Bytes} (h : files path = .ok contents)
    (host : Host) (component version : String) (database : Database) (master : Bytes) :
    record crates files host component path version (.unlocked database master) =
      (.ok (),
        .unlocked
          { database with
            integrity := replace (·.id) database.integrity
              { id := host.newId 0
                component := component
                path := path
                sha256 := hexEncode (crates.sha256 contents)
                version := version
                recordedAt := host.unixNow
                verifiedAt := none } }
          master) := by
  have hread : hashFile crates files path = .ok (hexEncode (crates.sha256 contents)) := by
    rw [hashFile, h]
    rfl
  have hnew : newId host { database := database, drawn := 0 } =
      (.ok (host.newId 0), { database := database, drawn := 1 }) := rfl
  rw [record, hread, Effect.lift_ok_bind]
  simp only [withConn, Effect.bind_of_ok hnew, insertOrReplace_integrity]

theorem verifyRecord_eq_ok_iff {record : IntegrityRecord} :
    verifyRecord crates files record = .ok () ↔ Unmodified crates files record := by
  rw [verifyRecord, Unmodified]
  cases hashFile crates files record.path with
  | err error => simp
  | panicked => simp
  | ok actual =>
      rw [Outcome.ok_bind, Outcome.ok.injEq]
      by_cases hsame : actual = record.sha256 <;> simp [hsame]

theorem verifyRecord_ne_panicked (record : IntegrityRecord) :
    verifyRecord crates files record ≠ .panicked := by
  rw [verifyRecord]
  cases hread : hashFile crates files record.path with
  | err error => simp
  | panicked => exact absurd hread (hashFile_ne_panicked record.path)
  | ok actual =>
      rw [Outcome.ok_bind]
      split <;> simp

theorem verifyRecords_of_unmodified {records : List IntegrityRecord}
    (h : ∀ record ∈ records, Unmodified crates files record) :
    verifyRecords crates files records = .ok () := by
  induction records with
  | nil => rfl
  | cons record records ih =>
      rw [verifyRecords, verifyRecord_eq_ok_iff.mpr (h record List.mem_cons_self),
        Outcome.ok_bind]
      apply ih
      intro other hother
      exact h other (List.mem_cons_of_mem record hother)

/-- A failure is that of the first record that does not pass. -/
theorem verifyRecords_of_modified {records : List IntegrityRecord}
    (h : ∃ record ∈ records, ¬ Unmodified crates files record) :
    ∃ before record after error, records = before ++ record :: after ∧
      (∀ passed ∈ before, Unmodified crates files passed) ∧
      verifyRecord crates files record = .err error ∧
      verifyRecords crates files records = .err error := by
  induction records with
  | nil => simp at h
  | cons first records ih =>
      rw [verifyRecords]
      cases hfirst : verifyRecord crates files first with
      | panicked => exact absurd hfirst (verifyRecord_ne_panicked first)
      | err error => exact ⟨[], first, records, error, rfl, by simp, hfirst, rfl⟩
      | ok _ =>
          have hpassed := verifyRecord_eq_ok_iff.mp hfirst
          obtain ⟨failing, hmem, hfailing⟩ := h
          have hrest : failing ∈ records := by
            rcases List.mem_cons.mp hmem with rfl | hrest
            · exact absurd hpassed hfailing
            · exact hrest
          obtain ⟨before, record, after, error, rfl, hbefore, herror, hresult⟩ :=
            ih ⟨failing, hrest, hfailing⟩
          refine ⟨first :: before, record, after, error, rfl, ?_, herror, hresult⟩
          intro passed hmem
          rcases List.mem_cons.mp hmem with rfl | hmem
          · exact hpassed
          · exact hbefore passed hmem

theorem verifyAll_locked (host : Host) (rowOrder : RowOrder) :
    verifyAll crates files host rowOrder .locked = (.err .locked, .locked) := rfl

theorem verifyAll_unlocked (host : Host) (rowOrder : RowOrder) (database : Database)
    (master : Bytes) :
    verifyAll crates files host rowOrder (.unlocked database master) =
      match verifyRecords crates files (rowOrder.order database.integrity) with
      | .ok _ => (.ok (), .unlocked (verifiedDatabase host.unixNow database) master)
      | .err error => (.err error, .unlocked database master)
      | .panicked => (.panicked, .unlocked database master) := by
  rw [verifyAll, Effect.bind_of_ok (show Effect.reads (listIn rowOrder)
    (.unlocked database master) = (.ok (rowOrder.order database.integrity), _) from rfl)]
  cases hverified : verifyRecords crates files (rowOrder.order database.integrity) with
  | ok _ => rfl
  | err error => rfl
  | panicked => rfl

theorem verifyAll_of_unmodified {database : Database}
    (h : ∀ record ∈ database.integrity, Unmodified crates files record) (host : Host)
    (rowOrder : RowOrder) (master : Bytes) :
    verifyAll crates files host rowOrder (.unlocked database master) =
      (.ok (), .unlocked (verifiedDatabase host.unixNow database) master) := by
  rw [verifyAll_unlocked, verifyRecords_of_unmodified]
  intro record hrecord
  exact h record (rowOrder.mem_iff.mp hrecord)

/-- The error is that of a record in the table, and the store is left as it was. -/
theorem verifyAll_of_modified {database : Database}
    (h : ∃ record ∈ database.integrity, ¬ Unmodified crates files record) (host : Host)
    (rowOrder : RowOrder) (master : Bytes) :
    ∃ record ∈ database.integrity, ∃ error,
      verifyRecord crates files record = .err error ∧
        verifyAll crates files host rowOrder (.unlocked database master) =
          (.err error, .unlocked database master) := by
  obtain ⟨failing, hmem, hfailing⟩ := h
  obtain ⟨before, record, after, error, hrows, -, herror, hresult⟩ :=
    verifyRecords_of_modified ⟨failing, rowOrder.mem_iff.mpr hmem, hfailing⟩
  refine ⟨record, rowOrder.mem_iff.mp (by simp [hrows]), error, herror, ?_⟩
  rw [verifyAll_unlocked, hresult]

/-- The check passes exactly on an open store none of whose records is out of date. -/
theorem verifyAll_eq_ok_iff {host : Host} {rowOrder : RowOrder} {store : Store} :
    (verifyAll crates files host rowOrder store).1 = .ok () ↔
      ∃ database master, store = .unlocked database master ∧
        ∀ record ∈ database.integrity, Unmodified crates files record := by
  cases store with
  | locked => simp [verifyAll_locked]
  | unlocked database master =>
      by_cases hall : ∀ record ∈ database.integrity, Unmodified crates files record
      · rw [verifyAll_of_unmodified hall]
        exact ⟨fun _ => ⟨database, master, rfl, hall⟩, fun _ => rfl⟩
      · push Not at hall
        obtain ⟨-, -, error, -, hresult⟩ := verifyAll_of_modified hall host rowOrder master
        rw [hresult]
        constructor
        · intro h
          cases h
        · rintro ⟨_, _, hstore, hpassed⟩
          obtain ⟨rfl, rfl⟩ := Store.unlocked.inj hstore
          obtain ⟨record, hmem, hmodified⟩ := hall
          exact absurd (hpassed record hmem) hmodified

/-- A check that does not pass ends with an error, after which the store is as before. -/
theorem verifyAll_of_not_ok {host : Host} {rowOrder : RowOrder} {store : Store}
    (h : (verifyAll crates files host rowOrder store).1 ≠ .ok ()) :
    ∃ error, verifyAll crates files host rowOrder store = (.err error, store) := by
  cases store with
  | locked => exact ⟨.locked, rfl⟩
  | unlocked database master =>
      by_cases hall : ∀ record ∈ database.integrity, Unmodified crates files record
      · exact absurd (by rw [verifyAll_of_unmodified hall]) h
      · push Not at hall
        obtain ⟨-, -, error, -, hresult⟩ := verifyAll_of_modified hall host rowOrder master
        exact ⟨error, hresult⟩

end Specifications

end TrafficCone.IntegrityChecks
