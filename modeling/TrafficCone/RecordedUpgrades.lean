import Mathlib.Logic.Function.Basic
import TrafficCone.IntegrityChecks
import TrafficCone.KeyedReplacing

namespace TrafficCone.RecordedUpgrades

open TrafficCone.Outcomes
open TrafficCone.StoreModels
open TrafficCone.LinkedCrates
open TrafficCone.HexadecimalText
open TrafficCone.KeyedReplacing
open TrafficCone.DatabaseTables
open TrafficCone.BackupArchives
open TrafficCone.IntegrityRecords
open TrafficCone.IntegrityChecks

/-- What happens on the machine: the file at a path becomes another (it is installed,
upgraded, tampered with or removed), a component is recorded, or all records are
checked. -/
inductive Event where
  | change (path : String) (found : Except String Bytes)
  | record (host : Host) (component path version : String)
  | verify (host : Host) (rowOrder : RowOrder)

structure Machine where
  files : Files
  store : Store

def step (crates : Crates) (machine : Machine) : Event → Machine
  | .change path found => { machine with files := Function.update machine.files path found }
  | .record host component path version =>
      { machine with
        store := (record crates machine.files host component path version machine.store).2 }
  | .verify host rowOrder =>
      { machine with store := (verifyAll crates machine.files host rowOrder machine.store).2 }

/-- The history of a store in which nothing has been recorded yet. -/
def run (crates : Crates) (files : Files) (database : Database) (master : Bytes)
    (history : List Event) : Machine :=
  history.foldl (step crates)
    { files := files, store := .unlocked { database with integrity := [] } master }

/-- A recording that was made, with the contents that the file had at that time. -/
structure Recording where
  id : String
  component : String
  path : String
  version : String
  contents : Bytes
  recordedAt : Int
  deriving DecidableEq

def fileChanged (files : Files) : Event → Files
  | .change path found => Function.update files path found
  | .record _ _ _ _ => files
  | .verify _ _ => files

def filesAfter (files : Files) (history : List Event) : Files := history.foldl fileChanged files

/-- A file that cannot be read is not recorded. -/
def recorded (files : Files) : Event → List Recording
  | .change _ _ => []
  | .record host component path version =>
      match files path with
      | .ok contents =>
          [{ id := host.newId 0
             component := component
             path := path
             version := version
             contents := contents
             recordedAt := host.unixNow }]
      | .error _ => []
  | .verify _ _ => []

def recordings (files : Files) : List Event → List Recording
  | [] => []
  | event :: history => recorded files event ++ recordings (fileChanged files event) history

def Unchanged (files : Files) (recording : Recording) : Prop :=
  files recording.path = .ok recording.contents

def SameHash (crates : Crates) (files : Files) (recording : Recording) : Prop :=
  hashFile crates files recording.path = .ok (hexEncode (crates.sha256 recording.contents))

/-- No component has been recorded again after this recording. -/
def LatestOfComponent (files : Files) (history : List Event) (recording : Recording) : Prop :=
  Latest (·.component) (recordings files history) recording

/-- The id of this recording has not been drawn a second time. -/
def StillInTable (files : Files) (history : List Event) (recording : Recording) : Prop :=
  Latest (·.id) (recordings files history) recording

def LatestUnchanged (files : Files) (history : List Event) : Prop :=
  ∀ recording, LatestOfComponent files history recording →
    Unchanged (filesAfter files history) recording

/-- Recording a component again supersedes its earlier recordings: the check after the
history passes while the files are as they were last recorded, and fails once one of
them has changed. -/
def ChecksLatestRecordings (crates : Crates) (files : Files) (database : Database)
    (master : Bytes) (history : List Event) : Prop :=
  ∀ host rowOrder,
    let machine := run crates files database master history
    let outcome := (verifyAll crates machine.files host rowOrder machine.store).1
    (LatestUnchanged files history → outcome = .ok ()) ∧
      (¬ LatestUnchanged files history → ∃ error, outcome = .err error)

section Runs

variable {crates : Crates} {files : Files}

def rowOf (crates : Crates) (recording : Recording) : IntegrityRecord :=
  { id := recording.id
    component := recording.component
    path := recording.path
    sha256 := hexEncode (crates.sha256 recording.contents)
    version := recording.version
    recordedAt := recording.recordedAt
    verifiedAt := none }

def unverified (record : IntegrityRecord) : IntegrityRecord := { record with verifiedAt := none }

/-- The table holds the past recordings, of which only those with the same id have
replaced each other. -/
def Holds (crates : Crates) (past : List Recording) (store : Store) : Prop :=
  ∃ database master, store = .unlocked database master ∧
    database.integrity.map unverified = (replaceAll (·.id) past).map (rowOf crates)

theorem holds_step {machine : Machine} {past : List Recording}
    (h : Holds crates past machine.store) (event : Event) :
    Holds crates (past ++ recorded machine.files event) (step crates machine event).store := by
  obtain ⟨database, master, hstore, hrows⟩ := h
  cases event with
  | change path found =>
      rw [recorded, List.append_nil]
      exact ⟨database, master, hstore, hrows⟩
  | record host component path version =>
      rw [recorded, step, hstore]
      cases hread : machine.files path with
      | error error =>
          rw [record_of_unreadable hread]
          exact ⟨database, master, rfl, by rw [hrows, List.append_nil]⟩
      | ok contents =>
          rw [record_of_readable hread]
          refine ⟨_, master, rfl, ?_⟩
          rw [replaceAll_concat]
          dsimp only
          rw [map_replace (·.id) (·.id) unverified fun _ => rfl,
            map_replace (·.id) (·.id) (rowOf crates) fun _ => rfl, hrows]
          rfl
  | verify host rowOrder =>
      rw [recorded, List.append_nil, step, hstore]
      by_cases hall : ∀ record ∈ database.integrity, Unmodified crates machine.files record
      · rw [verifyAll_of_unmodified hall]
        refine ⟨_, master, rfl, ?_⟩
        rw [← hrows, verifiedDatabase, List.map_map]
        rfl
      · push Not at hall
        obtain ⟨-, -, error, -, hresult⟩ := verifyAll_of_modified hall host rowOrder master
        rw [hresult]
        exact ⟨database, master, rfl, hrows⟩

theorem step_files (crates : Crates) (machine : Machine) (event : Event) :
    (step crates machine event).files = fileChanged machine.files event := by
  cases event <;> rfl

theorem run_concat (crates : Crates) (files : Files) (database : Database) (master : Bytes)
    (history : List Event) (event : Event) :
    run crates files database master (history ++ [event]) =
      step crates (run crates files database master history) event := by
  rw [run, List.foldl_append]
  rfl

theorem filesAfter_concat (files : Files) (history : List Event) (event : Event) :
    filesAfter files (history ++ [event]) = fileChanged (filesAfter files history) event := by
  rw [filesAfter, List.foldl_append]
  rfl

theorem recordings_concat (files : Files) (history : List Event) (event : Event) :
    recordings files (history ++ [event]) =
      recordings files history ++ recorded (filesAfter files history) event := by
  induction history generalizing files with
  | nil => simp [recordings, filesAfter]
  | cons first history ih =>
      rw [List.cons_append, recordings, ih, recordings, List.append_assoc]
      rfl

theorem run_files (crates : Crates) (files : Files) (database : Database) (master : Bytes)
    (history : List Event) :
    (run crates files database master history).files = filesAfter files history := by
  induction history using List.reverseRecOn with
  | nil => rfl
  | append_singleton history event ih =>
      rw [run_concat, step_files, ih, filesAfter_concat]

theorem holds_run (crates : Crates) (files : Files) (database : Database) (master : Bytes)
    (history : List Event) :
    Holds crates (recordings files history) (run crates files database master history).store := by
  induction history using List.reverseRecOn with
  | nil => exact ⟨_, master, rfl, rfl⟩
  | append_singleton history event ih =>
      rw [run_concat, recordings_concat, ← run_files crates files database master]
      exact holds_step ih event

/-- What the check after a history depends on: every recording that is still in the
table, whether or not its component has been recorded again. -/
theorem verified_iff (crates : Crates) (files : Files) (database : Database) (master : Bytes)
    (history : List Event) (host : Host) (rowOrder : RowOrder) :
    (verifyAll crates (filesAfter files history) host rowOrder
        (run crates files database master history).store).1 = .ok () ↔
      ∀ recording, StillInTable files history recording →
        SameHash crates (filesAfter files history) recording := by
  obtain ⟨found, passphrase, hstore, hrows⟩ := holds_run crates files database master history
  have hchecked :
      (∀ record ∈ found.integrity, Unmodified crates (filesAfter files history) record) ↔
        ∀ record ∈ found.integrity.map unverified,
          Unmodified crates (filesAfter files history) record := by
    rw [List.forall_mem_map]
    rfl
  rw [hstore, verifyAll_eq_ok_iff]
  simp only [Store.unlocked.injEq]
  constructor
  · rintro ⟨_, _, ⟨rfl, rfl⟩, hall⟩ recording hrecording
    rw [hchecked, hrows, List.forall_mem_map] at hall
    exact hall recording (mem_replaceAll_iff.mpr hrecording)
  · intro hall
    refine ⟨found, passphrase, ⟨rfl, rfl⟩, ?_⟩
    rw [hchecked, hrows, List.forall_mem_map]
    intro recording hrecording
    exact hall recording (mem_replaceAll_iff.mp hrecording)

theorem failed_iff (crates : Crates) (files : Files) (database : Database) (master : Bytes)
    (history : List Event) (host : Host) (rowOrder : RowOrder) :
    (∃ error, (verifyAll crates (filesAfter files history) host rowOrder
        (run crates files database master history).store).1 = .err error) ↔
      ∃ recording, StillInTable files history recording ∧
        ¬ SameHash crates (filesAfter files history) recording := by
  have hpassed := verified_iff crates files database master history host rowOrder
  constructor
  · rintro ⟨error, herror⟩
    rw [herror] at hpassed
    by_contra hnone
    push Not at hnone
    have hok := hpassed.mpr hnone
    cases hok
  · rintro ⟨recording, hstill, hother⟩
    obtain ⟨error, herror⟩ := verifyAll_of_not_ok
      fun hok => hother (hpassed.mp hok recording hstill)
    exact ⟨error, by rw [herror]⟩

theorem Unchanged.sameHash {recording : Recording} (h : Unchanged files recording) :
    SameHash crates files recording :=
  hashFile_eq_ok_iff.mpr ⟨recording.contents, h, rfl⟩

/-- A component that was last recorded with another hash than its file has now is
noticed, as long as no id is drawn twice. -/
theorem modified_component_is_refused {history : List Event}
    (hids : ((recordings files history).map (·.id)).Nodup) {recording : Recording}
    (hlatest : LatestOfComponent files history recording)
    (hmodified : ¬ SameHash crates (filesAfter files history) recording) (database : Database)
    (master : Bytes) (host : Host) (rowOrder : RowOrder) :
    ∃ error, (verifyAll crates (filesAfter files history) host rowOrder
      (run crates files database master history).store).1 = .err error := by
  apply (failed_iff crates files database master history host rowOrder).mpr
  exact ⟨recording, latest_of_nodup hids hlatest.mem, hmodified⟩

/-- Once a path has been recorded with two hashes, no check passes any more, whatever
happens in between. -/
theorem refused_once_rerecorded {history : List Event}
    (hids : ((recordings files history).map (·.id)).Nodup) {first second : Recording}
    (hfirst : first ∈ recordings files history) (hsecond : second ∈ recordings files history)
    (hpath : first.path = second.path)
    (hhash : hexEncode (crates.sha256 first.contents) ≠ hexEncode (crates.sha256 second.contents))
    (database : Database) (master : Bytes) (host : Host) (rowOrder : RowOrder) :
    ∃ error, (verifyAll crates (filesAfter files history) host rowOrder
      (run crates files database master history).store).1 = .err error := by
  apply (failed_iff crates files database master history host rowOrder).mpr
  by_cases hsame : SameHash crates (filesAfter files history) first
  · refine ⟨second, latest_of_nodup hids hsecond, ?_⟩
    intro hother
    rw [SameHash, ← hpath, hsame] at hother
    exact hhash (Outcome.ok.inj hother)
  · exact ⟨first, latest_of_nodup hids hfirst, hsame⟩

end Runs

/-- Records are told apart by their random ids alone: an earlier recording of a component
stays in the table, and the check passes only where its file still has its hash. -/
theorem checksLatestRecordings_iff (crates : Crates) (files : Files) (database : Database)
    (master : Bytes) (history : List Event) :
    ChecksLatestRecordings crates files database master history ↔
      (LatestUnchanged files history →
        ∀ recording, StillInTable files history recording →
          ¬ LatestOfComponent files history recording →
            SameHash crates (filesAfter files history) recording) ∧
      (¬ LatestUnchanged files history →
        ∃ recording, StillInTable files history recording ∧
          ¬ SameHash crates (filesAfter files history) recording) := by
  simp only [ChecksLatestRecordings, run_files, verified_iff, failed_iff]
  constructor
  · intro h
    obtain ⟨hpass, hfail⟩ := h { unixNow := 0, newId := fun _ => "" } storedOrder
    refine ⟨?_, hfail⟩
    intro hunchanged recording hstill _
    exact hpass hunchanged recording hstill
  · rintro ⟨hpass, hfail⟩ host rowOrder
    refine ⟨?_, hfail⟩
    intro hunchanged recording hstill
    by_cases hlatest : LatestOfComponent files history recording
    · exact (hunchanged recording hlatest).sameHash
    · exact hpass hunchanged recording hstill hlatest

def noFiles : Files := fun _ => .error "No such file or directory (os error 2)"

def hostAt (now : Int) (id : String) : Host where
  unixNow := now
  newId _ := id

def upgradedOnce : List Event :=
  [.change "/usr/bin/coned" (.ok [1]),
    .record (hostAt 10 "first") "coned" "/usr/bin/coned" "0.1.0",
    .change "/usr/bin/coned" (.ok [2]),
    .record (hostAt 20 "second") "coned" "/usr/bin/coned" "0.2.0"]

/-- The daemon is installed and recorded, then upgraded and recorded again: the first
record stays and no longer passes. -/
theorem upgraded_component_is_refused :
    ¬ ChecksLatestRecordings plainCrates noFiles {} [] upgradedOnce := by
  intro hchecks
  have hunchanged : LatestUnchanged noFiles upgradedOnce := by
    intro recording hlatest
    have hmem := mem_replaceAll_iff.mpr hlatest
    have hlast : replaceAll (·.component) (recordings noFiles upgradedOnce) =
        (recordings noFiles upgradedOnce).drop 1 := by
      decide
    rw [hlast] at hmem
    obtain rfl := List.mem_singleton.mp hmem
    rfl
  have hpassed := (hchecks (hostAt 30 "unused") storedOrder).1 hunchanged
  exact absurd hpassed (by decide)

end TrafficCone.RecordedUpgrades
