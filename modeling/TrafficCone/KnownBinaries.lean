import TrafficCone.IntegrityChecks
import TrafficCone.PidRouting

namespace TrafficCone.KnownBinaries

open TrafficCone.Outcomes
open TrafficCone.StoreModels
open TrafficCone.LinkedCrates
open TrafficCone.HexadecimalText
open TrafficCone.ProcReaders
open TrafficCone.ProcessMonitoring hiding hashFile
open TrafficCone.PidRouting
open TrafficCone.BackupArchives
open TrafficCone.IntegrityRecords
open TrafficCone.IntegrityChecks

/-- `load_known_hashes`, with the order in which the database lists the records. -/
def loadKnownHashesIn (rowOrder : RowOrder) (store : Store) : Outcome String KnownHashes := do
  let records ← (listIn rowOrder store).mapErr fun error =>
    "failed to load integrity records: " ++ error.toText
  pure (records.foldl (fun known record => Function.update known record.path (some record.sha256))
    fun _ => none)

theorem loadKnownHashesIn_storedOrder (store : Store) :
    loadKnownHashesIn storedOrder store = loadKnownHashes store := rfl

theorem loadKnownHashesIn_unlocked (rowOrder : RowOrder) (database : Database) (master : Bytes) :
    loadKnownHashesIn rowOrder (.unlocked database master) =
      .ok (lastRecorded (rowOrder.order database.integrity)) := by
  rw [← foldl_update_eq_lastRecorded]
  rfl

theorem lastRecorded_isSome_iff {records : List IntegrityRecord} {path : String} :
    (lastRecorded records path).isSome ↔ ∃ record ∈ records, record.path = path := by
  simp [lastRecorded, List.find?_isSome]

theorem exists_record_of_lastRecorded {records : List IntegrityRecord} {path sha256 : String}
    (h : lastRecorded records path = some sha256) :
    ∃ record ∈ records, record.path = path ∧ record.sha256 = sha256 := by
  obtain ⟨record, hfound, hsha256⟩ := Option.map_eq_some_iff.mp h
  refine ⟨record, ?_, ?_, hsha256⟩
  · exact List.mem_reverse.mp (List.mem_of_find?_eq_some hfound)
  · simpa using List.find?_some hfound

def recordsIn : Store → List IntegrityRecord
  | .locked => []
  | .unlocked database _ => database.integrity

/-- The keys are the recorded paths, and each has the hash of its file. -/
structure RecordedBinaries (crates : Crates) (files : Files) (records : List IntegrityRecord)
    (known : KnownHashes) : Prop where
  keys : ∀ path, (known path).isSome ↔ ∃ record ∈ records, record.path = path
  hashes : ∀ path sha256, known path = some sha256 → hashFile crates files path = .ok sha256

/-- Whoever connects is accepted exactly as a process of the daemon's own user that runs a
recorded binary, with the hash that its file had when the daemon started. -/
def AuthorisesRecorded (crates : Crates) (atStartup : Files) (records : List IntegrityRecord)
    (known : KnownHashes) : Prop :=
  ∀ system ourUid pid uid cache cache' process,
    verifyTrafficConeBinary crates system ourUid pid uid known cache = (.ok process, cache') ↔
      uid = ourUid ∧ resolve crates system pid cache = (.ok process, cache') ∧
        (∃ record ∈ records, record.path = process.exePath) ∧
          hashFile crates atStartup process.exePath = .ok process.exeHash

section Loading

variable {crates : Crates} {files : Files} {records : List IntegrityRecord} {known : KnownHashes}

/-- Every record of a path has passed, so it does not matter which of them is the last. -/
theorem recordedBinaries_lastRecorded (h : ∀ record ∈ records, Unmodified crates files record) :
    RecordedBinaries crates files records (lastRecorded records) where
  keys _ := lastRecorded_isSome_iff
  hashes path sha256 hlast := by
    obtain ⟨record, hrecord, rfl, rfl⟩ := exists_record_of_lastRecorded hlast
    exact h record hrecord

theorem RecordedBinaries.of_same_paths {others : List IntegrityRecord}
    (h : RecordedBinaries crates files records known)
    (hpaths : ∀ path, (∃ record ∈ others, record.path = path) ↔
      ∃ record ∈ records, record.path = path) :
    RecordedBinaries crates files others known where
  keys path := (h.keys path).trans (hpaths path).symm
  hashes := h.hashes

theorem RecordedBinaries.of_same_files {others : Files}
    (h : RecordedBinaries crates files records known)
    (hfiles : ∀ record ∈ records, others record.path = files record.path) :
    RecordedBinaries crates others records known where
  keys := h.keys
  hashes path sha256 hknown := by
    obtain ⟨record, hrecord, rfl⟩ := (h.keys path).mp (by simp [hknown])
    rw [hashFile, hfiles record hrecord]
    exact h.hashes record.path sha256 hknown

theorem RecordedBinaries.known_iff (h : RecordedBinaries crates files records known)
    {path sha256 : String} :
    known path = some sha256 ↔
      (∃ record ∈ records, record.path = path) ∧ hashFile crates files path = .ok sha256 := by
  rw [← h.keys path]
  cases hknown : known path with
  | none => simp
  | some found =>
      rw [h.hashes path found hknown]
      simp

theorem RecordedBinaries.authorises (h : RecordedBinaries crates files records known) :
    AuthorisesRecorded crates files records known := by
  intro system ourUid pid uid cache cache' process
  rw [verifyTrafficConeBinary_eq_ok_iff, h.known_iff]

theorem path_recorded_verified_iff (now : Int) (path : String) :
    (∃ record ∈ records.map (verifiedRecord now), record.path = path) ↔
      ∃ record ∈ records, record.path = path := by
  simp [verifiedRecord]

/-- The map that is loaded from the store which the check leaves, whichever record of a
path is listed last. -/
theorem recordedBinaries_of_passed {database : Database}
    (h : ∀ record ∈ database.integrity, Unmodified crates files record) (rowOrder : RowOrder)
    (now : Int) :
    RecordedBinaries crates files database.integrity
      (lastRecorded (rowOrder.order (verifiedDatabase now database).integrity)) := by
  have hunmodified : ∀ record ∈ rowOrder.order (verifiedDatabase now database).integrity,
      Unmodified crates files record := by
    intro record hrecord
    obtain ⟨original, horiginal, rfl⟩ := List.mem_map.mp (rowOrder.mem_iff.mp hrecord)
    exact h original horiginal
  apply (recordedBinaries_lastRecorded hunmodified).of_same_paths
  intro path
  simp only [rowOrder.mem_iff]
  exact (path_recorded_verified_iff now path).symm

end Loading

/-- The check at startup and the map loaded behind it authorise exactly the recorded
binaries; a check that fails leaves every record as it was. -/
theorem startup_authorises_recorded (crates : Crates) (atCheck atLoad : Files) (host : Host)
    (checkOrder loadOrder : RowOrder) {store checked : Store} {outcome : Outcome StoreError Unit}
    (hcheck : verifyAll crates atCheck host checkOrder store = (outcome, checked)) :
    (outcome = .ok () →
      (∀ record ∈ recordsIn store, atLoad record.path = atCheck record.path) →
        ∃ known, loadKnownHashesIn loadOrder checked = .ok known ∧
          RecordedBinaries crates atLoad (recordsIn store) known ∧
            AuthorisesRecorded crates atCheck (recordsIn store) known) ∧
      ∀ error, outcome = .err error → checked = store := by
  constructor
  · rintro rfl hfiles
    obtain ⟨database, master, rfl, hunmodified⟩ :=
      verifyAll_eq_ok_iff.mp (congrArg Prod.fst hcheck)
    rw [verifyAll_of_unmodified hunmodified] at hcheck
    obtain rfl := (Prod.mk.inj hcheck).2
    have hrecorded := recordedBinaries_of_passed hunmodified loadOrder host.unixNow
    exact ⟨_, loadKnownHashesIn_unlocked loadOrder _ master, hrecorded.of_same_files hfiles,
      hrecorded.authorises⟩
  · rintro error rfl
    obtain ⟨other, hresult⟩ := verifyAll_of_not_ok (by rw [hcheck]; simp)
    rw [hresult] at hcheck
    exact (Prod.mk.inj hcheck).2.symm

/-- One path, recorded for two components. -/
def sharedPathDatabase : Database :=
  { integrity :=
      [{ id := "1"
         component := "cone"
         path := "/usr/bin/cone"
         sha256 := hexEncode (plainCrates.sha256 [7])
         version := "0.1.0"
         recordedAt := 10
         verifiedAt := none },
       { id := "2"
         component := "coned"
         path := "/usr/bin/cone"
         sha256 := hexEncode (plainCrates.sha256 [7])
         version := "0.1.0"
         recordedAt := 10
         verifiedAt := none }] }

theorem shared_path_is_authorised :
    ∃ known,
      loadKnownHashesIn storedOrder
          (verifyAll plainCrates (fun _ => .ok [7]) { unixNow := 20, newId := fun _ => "" }
            storedOrder (.unlocked sharedPathDatabase [])).2 = .ok known ∧
        RecordedBinaries plainCrates (fun _ => .ok [7]) sharedPathDatabase.integrity known ∧
          AuthorisesRecorded plainCrates (fun _ => .ok [7]) sharedPathDatabase.integrity known := by
  have hcheck := Effect.eq_of_fst (show (verifyAll plainCrates (fun _ => .ok [7])
    { unixNow := 20, newId := fun _ => "" } storedOrder (.unlocked sharedPathDatabase [])).1 =
      .ok () by decide)
  exact (startup_authorises_recorded plainCrates _ _ _ storedOrder storedOrder hcheck).1 rfl
    fun _ _ => rfl

end TrafficCone.KnownBinaries
