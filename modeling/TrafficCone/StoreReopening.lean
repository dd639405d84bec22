import TrafficCone.DaemonStartup
import TrafficCone.RestrictionSoundness

namespace TrafficCone.StoreReopening

open TrafficCone.Outcomes
open TrafficCone.StoreModels
open TrafficCone.LinkedCrates
open TrafficCone.IntegrityChecks
open TrafficCone.CrashConditions
open TrafficCone.DaemonStartup
open TrafficCone.FirstUnlock (databaseKey)

section Uses

/-- `Password::interact`, whose error is passed on as it is. -/
def promptMaster (around : Surroundings) : Outcome Failure String :=
  match DaemonEnvironment.var around.environment "CONE_PASSPHRASE" with
  | .ok pass => .ok pass
  | .error _ => (Outcome.ofExcept around.readPassword).mapErr fun error => .returned [error]

/-- How `cone` opens the store for the commands that do without the daemon. -/
def openStoreDirect (crates : Crates) (around : Surroundings) :
    Effect Machine Failure Store := do
  let path ← getStorePath around
  let passphrase ← Effect.lift (promptMaster around)
  unlockAt crates around.salt path passphrase

/-- What happens to the stores of a machine: the daemon is started, a command opens a store,
or a process that has one open commits a change to its database. -/
inductive Use where
  | starts (around : Surroundings)
  | opens (around : Surroundings)
  | commits (path : String) (database : Database)

def next (crates : Crates) (machine : Machine) : Use → Machine
  | .starts around => (startUp crates around machine).2
  | .opens around => (openStoreDirect crates around machine).2
  | .commits path database =>
      machine.setStore path ((machine.stores path).committed database)

/-- The database but for the times of the last checks, which a start writes. -/
def unchecked (database : Database) : Database :=
  { database with
    integrity := database.integrity.map fun record => { record with verifiedAt := none } }

end Uses

section Locks

variable {crates : Crates}

/-- A database under this key, with its salt, that is the given one but for the checks. -/
def Holds (salt : Bytes) (key : String) (shown : Database) (files : StoreFiles) : Prop :=
  files.salt = some salt ∧
    ∃ database, files.contents = some (key, database) ∧ unchecked database = unchecked shown

variable {salt : Bytes} {key : String} {shown : Database} {files : StoreFiles}

theorem Holds.committed (h : Holds salt key shown files) {database other : Database}
    (hsame : unchecked database = unchecked other) :
    Holds salt key other (files.committed database) := by
  obtain ⟨hsalt, found, hcontents, -⟩ := h
  exact ⟨hsalt, database, by rw [StoreFiles.committed, hcontents]; rfl, hsame⟩

/-- Whoever tries to open a database that is there changes nothing. -/
theorem Holds.unlock (h : Holds salt key shown files) (crates : Crates) (access : SaltAccess)
    (passphrase : Bytes) :
    (unlock crates access passphrase files).2 = files ∧
      ((∃ store, (unlock crates access passphrase files).1 = .ok store) ↔
        access.read = .ok () ∧ databaseKey crates passphrase salt = .ok key) ∧
      ∀ store, (unlock crates access passphrase files).1 = .ok store →
        ∃ database, store = .unlocked database passphrase ∧
          unchecked database = unchecked shown := by
  obtain ⟨hsalt, database, hcontents, hshown⟩ := h
  have hdrawn : files.salt.getD access.drawn = salt := by rw [hsalt, Option.getD_some]
  have hdatabase : files.database = database := by rw [StoreFiles.database, hcontents]; rfl
  have hsame : salted access files = files := by rw [salted, hdrawn, ← hsalt]
  have hgranted : access.Granted files ↔ access.read = .ok () := by
    constructor
    · intro hgranted
      exact hgranted.read (by simp [hsalt])
    · intro hread
      exact ⟨fun _ => hread, fun hnone => by simp [hsalt] at hnone⟩
  by_cases hopens : access.read = .ok () ∧ databaseKey crates passphrase salt = .ok key
  · have hfound : ∀ found, files.contents = some found → found.1 = key := by
      intro found hfound
      rw [hcontents] at hfound
      rw [← Option.some.inj hfound]
    have hopened : DaemonStartup.unlock crates access passphrase files =
        (.ok (.unlocked files.database passphrase), files) := by
      refine unlock_eq_ok_iff.mpr
        ⟨hgranted.mpr hopens.1, key, hdrawn ▸ hopens.2, hfound, rfl, ?_⟩
      rw [hsame, hdatabase, ← hcontents]
    rw [hopened]
    refine ⟨rfl, iff_of_true ⟨_, rfl⟩ hopens, ?_⟩
    intro store hstore
    exact ⟨files.database, (Outcome.ok.inj hstore).symm, by rw [hdatabase, hshown]⟩
  · have hrefused : ∀ store, (DaemonStartup.unlock crates access passphrase files).1 ≠
        .ok store := by
      intro store hstore
      obtain ⟨hread, found, hfoundKey, hfound, -, -⟩ :=
        unlock_eq_ok_iff.mp (Effect.eq_of_fst hstore)
      rw [hdrawn, ← hfound _ hcontents] at hfoundKey
      exact hopens ⟨hgranted.mp hread, hfoundKey⟩
    obtain ⟨error, left, hfailed, hkeeps⟩ := unlock_of_failed hrefused
    have hleft : ({ files with salt := left } : StoreFiles) = files := by
      have hkept : left = some salt := hkeeps salt hsalt
      rw [hkept, ← hsalt]
    refine ⟨by rw [hfailed, hleft], iff_of_false ?_ hopens, ?_⟩
    · rintro ⟨store, hstore⟩
      exact hrefused store hstore
    · intro store hstore
      exact absurd hstore (hrefused store)

variable {path : String}

/-- The same of one of the stores of a machine. -/
def HoldsAt (path : String) (salt : Bytes) (key : String) (shown : Database)
    (machine : Machine) : Prop :=
  Holds salt key shown (machine.stores path)

theorem HoldsAt.setStore {machine : Machine} (h : HoldsAt path salt key shown machine)
    {other : String} (hfiles : other = path → Holds salt key shown files) :
    HoldsAt path salt key shown (machine.setStore other files) := by
  by_cases hpath : other = path
  · subst hpath
    rw [HoldsAt, stores_setStore_self]
    exact hfiles rfl
  · rw [HoldsAt, stores_setStore_of_ne _ _ (Ne.symm hpath)]
    exact h

end Locks

section Reopening

variable {crates : Crates} {machine opened : Machine} {access : SaltAccess}
  {path passphrase : String} {first : Database} {master : Bytes}

end Reopening

section Desk

open TrafficCone.IntegrityRecords (storedOrder)
open TrafficCone.RestrictionSoundness (appOnlyDatabase)

def fullAccess : SaltAccess where
  drawn := List.replicate 32 1
  read := .ok ()
  write := .ok ()

/-- A user without a home directory, who types the passphrase. -/
def desk (typed : String) : Surroundings where
  environment := fun _ => none
  uid := 1000
  setDumpable := .ok ()
  createDirAll := fun _ => .ok ()
  readPassword := .ok typed
  salt := fullAccess
  host := { unixNow := 30, newId := fun _ => "" }
  files := fun _ => .error "No such file or directory (os error 2)"
  checkOrder := storedOrder
  loadOrder := storedOrder

def emptyMachine : Machine :=
  { dumpable := true, directories := [], stores := fun _ => noFilesYet }

def deskPath : String := "/tmp/.local/share/cone/store.db"

def firstOpening : Outcome Failure Store × Machine :=
  unlockAt plainCrates fullAccess deskPath "first" emptyMachine

end Desk

end TrafficCone.StoreReopening
