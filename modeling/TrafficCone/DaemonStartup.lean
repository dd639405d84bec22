import TrafficCone.CrashConditions
import TrafficCone.DaemonEnvironment
import TrafficCone.FirstUnlock
import TrafficCone.KnownBinaries

namespace TrafficCone.DaemonStartup

open TrafficCone.Outcomes
open TrafficCone.StoreModels
open TrafficCone.HexadecimalText
open TrafficCone.LinkedCrates
open TrafficCone.PidRouting
open TrafficCone.BackupArchives
open TrafficCone.IntegrityRecords
open TrafficCone.IntegrityChecks
open TrafficCone.KnownBinaries
open TrafficCone.DaemonEnvironment
open TrafficCone.CrashConditions
open TrafficCone.FirstUnlock hiding World Event

section Unlocking

/-- The files of a store: its salt, and its database with the key it is encrypted under, which
an empty one does not have yet. -/
structure StoreFiles where
  salt : Option Bytes
  contents : Option (String × Database)
  deriving DecidableEq, Repr

def noFilesYet : StoreFiles := { salt := none, contents := none }

/-- What `random_salt` gives, should it be called, and how the system answers when the salt is
read or written. A write that fails may leave a file with so many of the bytes. -/
structure SaltAccess where
  drawn : Bytes
  read : Except String Unit
  write : Except (String × Option Nat) Unit

def loadOrCreateDbSalt (access : SaltAccess) : Effect StoreFiles StoreError Bytes := fun files =>
  match files.salt with
  | some salt =>
      match access.read with
      | .ok _ => (.ok salt, files)
      | .error error => (.err (.io error), files)
  | none =>
      match access.write with
      | .ok _ => (.ok access.drawn, { files with salt := some access.drawn })
      | .error (error, written) =>
          (.err (.io error), { files with salt := written.map access.drawn.take })

/-- `db::open`: what is empty is given the key, and the schema. -/
def openDatabase (key : String) : Effect StoreFiles StoreError Database := fun files =>
  match files.contents with
  | none => (.ok {}, { files with contents := some (key, {}) })
  | some (found, database) =>
      if found = key then (.ok database, files) else (.err notADatabase, files)

def unlock (crates : Crates) (access : SaltAccess) (passphrase : Bytes) :
    Effect StoreFiles StoreError Store := do
  let salt ← loadOrCreateDbSalt access
  let key ← Effect.lift (databaseKey crates passphrase salt)
  let database ← openDatabase key
  pure (.unlocked database passphrase)

end Unlocking

section Surroundings

/-- How the process ends without a server: `main` returns an error with its causes, or the
process exits after a message on its standard error. -/
inductive Failure where
  | returned (chain : List String)
  | exited (code : Nat) (printed : String)
  deriving DecidableEq, Repr

/-- `Context::context`. -/
def context (text cause : String) : Failure := .returned [text, cause]

/-- What a process finds around it: its environment and user, how the system answers its
calls, what is typed, and the clock and the files at the check. -/
structure Surroundings where
  environment : Environment
  uid : Nat
  setDumpable : Except String Unit
  createDirAll : String → Except String Unit
  readPassword : Except String String
  salt : SaltAccess
  host : Host
  files : Files
  checkOrder : RowOrder
  loadOrder : RowOrder

/-- What starting changes: whether the process can be dumped and traced, the directories
there are, and the files of the store at each path. -/
structure Machine where
  dumpable : Bool
  directories : List String
  stores : String → StoreFiles

def Machine.setStore (machine : Machine) (path : String) (files : StoreFiles) : Machine :=
  { machine with stores := Function.update machine.stores path files }

/-- The files of one store are what the call works on. -/
def atStore {ε α : Type} (path : String) (call : Effect StoreFiles ε α) : Effect Machine ε α :=
  fun machine =>
    let result := call (machine.stores path)
    (result.1, machine.setStore path result.2)

/-- The database is another one now, under the same key. -/
def StoreFiles.committed (files : StoreFiles) (database : Database) : StoreFiles :=
  { files with contents := files.contents.map fun found => (found.1, database) }

/-- What has been done to an unlocked store is in its files. -/
def StoreFiles.saved (files : StoreFiles) : Store → StoreFiles
  | .locked => files
  | .unlocked database _ => files.committed database

end Surroundings

section Steps

def rootRefusal : String :=
  "Traffic Cone refuses to start as root.\n" ++
    "coned is a user service and must run as a normal user.\n" ++
    "Check your systemd service configuration."

def checkNotRoot (uid : Nat) : Outcome String Unit :=
  if uid = 0 then .err rootRefusal else .ok ()

def hardenProcess (around : Surroundings) : Effect Machine String Unit := fun machine =>
  match around.setDumpable with
  | .ok _ => (.ok (), { machine with dumpable := false })
  | .error errno =>
      (.err ("prctl(PR_SET_DUMPABLE, 0) failed: " ++ errno ++
        " — coned cannot run without this protection"), machine)

def dataHome (environment : Environment) : String :=
  match var environment "XDG_DATA_HOME" with
  | .ok text => text
  | .error _ =>
      let home :=
        match var environment "HOME" with
        | .ok text => text
        | .error _ => "/tmp"
      home ++ "/.local/share"

def storeDirectory (environment : Environment) : String := dataHome environment ++ "/cone"

def storePath (environment : Environment) : String :=
  storeDirectory environment ++ "/store.db"

def getStorePath (around : Surroundings) : Effect Machine Failure String := fun machine =>
  let dir := storeDirectory around.environment
  match around.createDirAll dir with
  | .ok _ =>
      (.ok (storePath around.environment),
        { machine with directories := dir :: machine.directories })
  | .error error => (.err (context "Failed to create store directory" error), machine)

def promptPassphrase (around : Surroundings) : Outcome Failure String :=
  match var around.environment "CONE_PASSPHRASE" with
  | .ok pass => .ok pass
  | .error _ =>
      (Outcome.ofExcept around.readPassword).mapErr (context "Failed to read passphrase")

def unlockAt (crates : Crates) (access : SaltAccess) (path passphrase : String) :
    Effect Machine Failure Store :=
  Effect.mapErr
    (fun error => context "Failed to unlock store — wrong passphrase?" error.toText)
    (atStore path (unlock crates access (asBytes passphrase)))

def integrityFailed (error : StoreError) : Failure :=
  .exited 1 ("\nTraffic Cone integrity check failed: " ++ error.toText ++ "\n" ++
    "Your keys have not been accessed.\n" ++
    "Please reinstall Traffic Cone from a verified source.\n")

/-- The check writes to the store that it passes on. -/
def checkIntegrity (crates : Crates) (around : Surroundings) (path : String) (store : Store) :
    Effect Machine Failure Store := fun machine =>
  match verifyAll crates around.files around.host around.checkOrder store with
  | (.ok _, checked) =>
      (.ok checked, machine.setStore path ((machine.stores path).saved checked))
  | (.err error, _) => (.err (integrityFailed error), machine)
  | (.panicked, _) => (.panicked, machine)

/-- What the two servers are started with. -/
structure Serving where
  path : String
  store : Store
  knownHashes : KnownHashes

/-- `main`, up to the start of the servers. -/
def startUp (crates : Crates) (around : Surroundings) : Effect Machine Failure Serving := do
  Effect.lift ((checkEnvironment around.environment).mapErr (context "Environment check failed"))
  Effect.lift ((checkNotRoot around.uid).mapErr (context "Root check failed"))
  Effect.mapErr (context "Process hardening failed") (hardenProcess around)
  let path ← getStorePath around
  let passphrase ← Effect.lift (promptPassphrase around)
  let store ← unlockAt crates around.salt path passphrase
  let checked ← checkIntegrity crates around path store
  let knownHashes ← Effect.lift ((loadKnownHashesIn around.loadOrder checked).mapErr
    (context "Failed to load integrity records from store"))
  pure { path := path, store := checked, knownHashes := knownHashes }

end Steps

section Unlocked

variable {crates : Crates} {access : SaltAccess} {passphrase : Bytes} {files after : StoreFiles}

theorem databaseKey_ne_panicked (crates : Crates) (passphrase salt : Bytes) :
    databaseKey crates passphrase salt ≠ .panicked := by
  rw [databaseKey, deriveKey]
  cases crates.hashPasswordInto passphrase salt <;> simp

/-- What the store shows once it is open. -/
def StoreFiles.database (files : StoreFiles) : Database :=
  (files.contents.map (·.2)).getD {}

/-- The salt, if there is one, is not written over. -/
def KeepsSalt (before after : StoreFiles) : Prop :=
  ∀ salt, before.salt = some salt → after.salt = some salt

theorem openDatabase_eq_ok_iff {key : String} {database : Database} :
    openDatabase key files = (.ok database, after) ↔
      (∀ found, files.contents = some found → found.1 = key) ∧ database = files.database ∧
        after = { files with contents := some (key, files.database) } := by
  obtain ⟨salt, contents⟩ := files
  cases contents with
  | none => simp [openDatabase, StoreFiles.database, eq_comm]
  | some found =>
      obtain ⟨other, database'⟩ := found
      by_cases hkey : other = key
      · subst hkey
        simp [openDatabase, StoreFiles.database, eq_comm]
      · simp [openDatabase, hkey]

theorem openDatabase_of_failed {key : String} (h : ∀ database, (openDatabase key files).1 ≠
    .ok database) : openDatabase key files = (.err notADatabase, files) := by
  rw [openDatabase] at h ⊢
  rcases hcontents : files.contents with _ | ⟨found, database⟩
  · rw [hcontents] at h
    exact absurd rfl (h {})
  · rw [hcontents] at h
    by_cases hkey : found = key
    · simp [hkey] at h
    · simp [hkey]

/-- A salt can be read where there is one, and written where there is none. -/
structure SaltAccess.Granted (access : SaltAccess) (files : StoreFiles) : Prop where
  read : files.salt ≠ none → access.read = .ok ()
  write : files.salt = none → access.write = .ok ()

theorem loadOrCreateDbSalt_of_granted (h : access.Granted files) :
    loadOrCreateDbSalt access files =
      (.ok (files.salt.getD access.drawn),
        { files with salt := some (files.salt.getD access.drawn) }) := by
  obtain ⟨salt, contents⟩ := files
  cases salt with
  | none => simp [loadOrCreateDbSalt, h.write rfl]
  | some salt => simp [loadOrCreateDbSalt, h.read]

theorem loadOrCreateDbSalt_of_denied (h : ¬ access.Granted files) :
    ∃ error salt, loadOrCreateDbSalt access files = (.err error, { files with salt := salt }) ∧
      KeepsSalt files { files with salt := salt } := by
  obtain ⟨salt, contents⟩ := files
  cases salt with
  | none =>
      rcases hwrite : access.write with ⟨error, written⟩ | _
      · exact ⟨.io error, written.map access.drawn.take, by simp [loadOrCreateDbSalt, hwrite],
          nofun⟩
      · exact absurd ⟨fun hsome => absurd rfl hsome, fun _ => hwrite⟩ h
  | some salt =>
      rcases hread : access.read with error | _
      · exact ⟨.io error, some salt, by simp [loadOrCreateDbSalt, hread], fun _ hsalt => hsalt⟩
      · exact absurd ⟨fun _ => hread, nofun⟩ h

theorem keepsSalt_getD (drawn : Bytes) (files : StoreFiles)
    (contents : Option (String × Database)) :
    KeepsSalt files { salt := some (files.salt.getD drawn), contents := contents } := by
  intro salt hsalt
  simp [hsalt]

/-- The files with the salt that is used. -/
def salted (access : SaltAccess) (files : StoreFiles) : StoreFiles :=
  { files with salt := some (files.salt.getD access.drawn) }

theorem unlock_of_granted (h : access.Granted files) (crates : Crates) (passphrase : Bytes) :
    unlock crates access passphrase files =
      match databaseKey crates passphrase (files.salt.getD access.drawn) with
      | .ok key =>
          ((openDatabase key (salted access files)).1.andThen
              fun database => .ok (.unlocked database passphrase),
            (openDatabase key (salted access files)).2)
      | .err error => (.err error, salted access files)
      | .panicked => (.panicked, salted access files) := by
  rw [unlock, Effect.bind_of_ok (loadOrCreateDbSalt_of_granted h)]
  cases databaseKey crates passphrase (files.salt.getD access.drawn) with
  | err error => rfl
  | panicked => rfl
  | ok key =>
      rw [Effect.lift_ok_bind, ← salted]
      dsimp only
      rcases hopened : openDatabase key (salted access files) with ⟨database | error | _, middle⟩
      · rw [Effect.bind_of_ok hopened]
        rfl
      · rw [Effect.bind_of_err hopened]
        rfl
      · rw [Effect.bind_of_panicked hopened]
        rfl

theorem unlock_eq_ok_iff_of_granted (h : access.Granted files) {store : Store} :
    unlock crates access passphrase files = (.ok store, after) ↔
      ∃ key, databaseKey crates passphrase (files.salt.getD access.drawn) = .ok key ∧
        (∀ found, files.contents = some found → found.1 = key) ∧
          store = .unlocked files.database passphrase ∧
            after = { salted access files with contents := some (key, files.database) } := by
  rw [unlock_of_granted h]
  cases hkey : databaseKey crates passphrase (files.salt.getD access.drawn) with
  | err error => simp
  | panicked => simp
  | ok key =>
      simp only [Outcome.ok.injEq, exists_eq_left']
      have hiff := @openDatabase_eq_ok_iff (salted access files)
      constructor
      · intro h
        rcases hopened : openDatabase key (salted access files) with
          ⟨database | error | _, middle⟩
        · rw [hopened] at h
          obtain ⟨hfound, rfl, rfl⟩ := hiff.mp hopened
          obtain ⟨hstore, rfl⟩ := Prod.mk.inj h
          exact ⟨hfound, (Outcome.ok.inj hstore).symm, rfl⟩
        · rw [hopened] at h
          cases (Prod.mk.inj h).1
        · rw [hopened] at h
          cases (Prod.mk.inj h).1
      · rintro ⟨hfound, rfl, rfl⟩
        rw [hiff.mpr ⟨hfound, rfl, rfl⟩]
        rfl

theorem unlock_of_denied (h : ¬ access.Granted files) (crates : Crates) (passphrase : Bytes) :
    ∃ error salt, unlock crates access passphrase files =
        (.err error, { files with salt := salt }) ∧
      KeepsSalt files { files with salt := salt } := by
  obtain ⟨error, salt, hdenied, hkeeps⟩ := loadOrCreateDbSalt_of_denied h
  exact ⟨error, salt, Effect.bind_of_err hdenied, hkeeps⟩

/-- A store that has been unlocked opens with the passphrase if its salt can be had, and shows
what it did. -/
theorem unlock_eq_ok_iff {store : Store} :
    unlock crates access passphrase files = (.ok store, after) ↔
      access.Granted files ∧
        ∃ key, databaseKey crates passphrase (files.salt.getD access.drawn) = .ok key ∧
          (∀ found, files.contents = some found → found.1 = key) ∧
            store = .unlocked files.database passphrase ∧
              after = { salted access files with contents := some (key, files.database) } := by
  by_cases hgranted : access.Granted files
  · rw [unlock_eq_ok_iff_of_granted hgranted, and_iff_right hgranted]
  · obtain ⟨error, salt, hdenied, -⟩ := unlock_of_denied hgranted crates passphrase
    simp [hdenied, hgranted]

/-- A refused opening has done no more than to write a salt where there was none. -/
theorem unlock_of_failed
    (h : ∀ store, (unlock crates access passphrase files).1 ≠ .ok store) :
    ∃ error salt, unlock crates access passphrase files =
        (.err error, { files with salt := salt }) ∧
      KeepsSalt files { files with salt := salt } := by
  by_cases hgranted : access.Granted files
  · have hkeeps : KeepsSalt files (salted access files) := keepsSalt_getD access.drawn files _
    rw [unlock_of_granted hgranted] at h ⊢
    cases hkey : databaseKey crates passphrase (files.salt.getD access.drawn) with
    | err error => exact ⟨error, _, rfl, hkeeps⟩
    | panicked => exact absurd hkey (databaseKey_ne_panicked crates passphrase _)
    | ok key =>
        rw [hkey] at h
        have hfailed : ∀ database, (openDatabase key (salted access files)).1 ≠ .ok database := by
          intro database hopened
          dsimp only at h
          rw [hopened] at h
          exact h _ rfl
        refine ⟨notADatabase, _, ?_, hkeeps⟩
        dsimp only
        rw [openDatabase_of_failed hfailed]
        rfl
  · exact unlock_of_denied hgranted crates passphrase

/-- The disk as the steps of several processes see it. -/
def forgotten (files : StoreFiles) : Disk :=
  { salt := files.salt, database := files.contents.map (·.1) }

/-- A process that is alone takes the steps of `unlock` one after the other. -/
theorem proceed_of_unlock (h : access.Granted files) (crates : Crates) (passphrase : Bytes) :
    [Action.loadOrCreateDbSalt access.drawn, .openDatabase, .createSchema].foldl
        (fun (reached : Disk × Stage) action =>
          proceed crates passphrase reached.1 reached.2 action)
        (forgotten files, .tested files.salt.isSome) =
      (forgotten (unlock crates access passphrase files).2,
        .returned ((unlock crates access passphrase files).1.andThen fun _ => .ok ())) := by
  have hsalted : proceed crates passphrase (forgotten files) (.tested files.salt.isSome)
      (.loadOrCreateDbSalt access.drawn) =
        (forgotten (salted access files), .salted (files.salt.getD access.drawn)) := by
    obtain ⟨salt, contents⟩ := files
    cases salt <;> rfl
  rw [List.foldl_cons, hsalted, unlock_of_granted h]
  cases hkey : databaseKey crates passphrase (files.salt.getD access.drawn) with
  | err error => simp [proceed, hkey, Outcome.andThen]
  | panicked => simp [proceed, hkey, Outcome.andThen]
  | ok key =>
      rcases hcontents : files.contents with _ | ⟨found, database⟩
      · simp [proceed, hkey, openDatabase, opens, forgotten, salted, hcontents, Outcome.andThen]
      · by_cases hfound : found = key
        · simp [proceed, hkey, hfound, openDatabase, opens, forgotten, salted, hcontents,
            Outcome.andThen]
        · simp [proceed, hkey, hfound, openDatabase, opens, forgotten, salted, hcontents,
            Outcome.andThen]

end Unlocked

section Contract

variable {crates : Crates} {around : Surroundings} {machine : Machine}

/-- The first three steps have passed. -/
structure Cleared (around : Surroundings) : Prop where
  environment : checkEnvironment around.environment = .ok ()
  user : around.uid ≠ 0
  dumpable : around.setDumpable = .ok ()

/-- The files of the store that is served, before the start. -/
def servedFiles (around : Surroundings) (machine : Machine) : StoreFiles :=
  machine.stores (storePath around.environment)

/-- Everything that a start depends on is as it has to be. -/
structure Startable (crates : Crates) (around : Surroundings) (machine : Machine) : Prop where
  cleared : Cleared around
  directory : around.createDirAll (storeDirectory around.environment) = .ok ()
  salt : around.salt.Granted (servedFiles around machine)
  opens : ∃ passphrase key, promptPassphrase around = .ok passphrase ∧
    databaseKey crates (asBytes passphrase)
        ((servedFiles around machine).salt.getD around.salt.drawn) = .ok key ∧
      ∀ found, (servedFiles around machine).contents = some found → found.1 = key
  unmodified : ∀ record ∈ (servedFiles around machine).database.integrity,
    Unmodified crates around.files record

/-- A start that fails was not to succeed. It has not passed the first three steps and has
done nothing, or nobody can trace it any more and every database is as it was. -/
structure Spared (crates : Crates) (around : Surroundings) (machine after : Machine) : Prop where
  failed : ¬ Startable crates around machine
  left : (¬ Cleared around ∧ after = machine) ∨
    (Cleared around ∧ after.dumpable = false ∧ ∀ path,
      KeepsSalt (machine.stores path) (after.stores path) ∧
        (after.stores path).contents = (machine.stores path).contents)

/-- The steps behind the third one begin like this. -/
structure Hardened (around : Surroundings) (machine now : Machine) : Prop where
  cleared : Cleared around
  dumpable : now.dumpable = false
  stores : now.stores = machine.stores

/-- The store is open and has this database, and nothing but its files has been touched. -/
structure Opened (crates : Crates) (around : Surroundings) (machine : Machine)
    (passphrase : String) (database : Database) (now : Machine) : Prop where
  cleared : Cleared around
  dumpable : now.dumpable = false
  directory : around.createDirAll (storeDirectory around.environment) = .ok ()
  prompted : promptPassphrase around = .ok passphrase
  salt : around.salt.Granted (servedFiles around machine)
  files : ∃ key,
    databaseKey crates (asBytes passphrase)
        ((servedFiles around machine).salt.getD around.salt.drawn) = .ok key ∧
      (∀ found, (servedFiles around machine).contents = some found → found.1 = key) ∧
        now.stores (storePath around.environment) =
          { salted around.salt (servedFiles around machine) with contents := some (key, database) }
  others : ∀ path ≠ storePath around.environment, now.stores path = machine.stores path

/-- What a start that succeeds has seen to. -/
structure Served (crates : Crates) (around : Surroundings) (machine : Machine)
    (serving : Serving) (after : Machine) : Prop where
  path : serving.path = storePath around.environment
  opened : ∃ passphrase,
    serving.store = .unlocked
        (verifiedDatabase around.host.unixNow (servedFiles around machine).database)
        (asBytes passphrase) ∧
      Opened crates around machine passphrase
        (verifiedDatabase around.host.unixNow (servedFiles around machine).database) after
  unmodified : ∀ record ∈ (servedFiles around machine).database.integrity,
    Unmodified crates around.files record
  known : RecordedBinaries crates around.files (servedFiles around machine).database.integrity
    serving.knownHashes
  loaded : loadKnownHashesIn around.loadOrder serving.store = .ok serving.knownHashes

theorem Hardened.spared {now : Machine} (h : Hardened around machine now)
    (hfailed : ¬ Startable crates around machine) : Spared crates around machine now := by
  refine ⟨hfailed, Or.inr ⟨h.cleared, h.dumpable, fun path => ?_⟩⟩
  rw [h.stores]
  exact ⟨fun _ hsalt => hsalt, rfl⟩

theorem Opened.keepsSalt {passphrase : String} {database : Database} {now : Machine}
    (h : Opened crates around machine passphrase database now) :
    KeepsSalt (servedFiles around machine) (now.stores (storePath around.environment)) := by
  obtain ⟨key, -, -, hfiles⟩ := h.files
  rw [hfiles]
  exact keepsSalt_getD around.salt.drawn _ _

theorem spared_of_unchecked (h : ¬ Cleared around) : Spared crates around machine machine :=
  ⟨fun hstartable => h hstartable.cleared, Or.inl ⟨h, rfl⟩⟩

theorem meets_check {check : Outcome String Unit} {text : String} {passed earlier : Prop}
    (hpassed : check = .ok () ↔ passed) (hcleared : Cleared around → passed)
    (hpanic : check ≠ .panicked) :
    Meets (Effect.lift (check.mapErr (context text))) (fun now => now = machine ∧ earlier)
      (fun _ now => now = machine ∧ earlier ∧ passed) fun _ => Spared crates around machine := by
  apply meets_of_cases
  rintro now ⟨rfl, hearlier⟩
  cases hcheck : check with
  | ok _ => exact Or.inl ⟨(), now, rfl, rfl, hearlier, hpassed.mp hcheck⟩
  | err error =>
      refine Or.inr ⟨context text error, now, rfl, spared_of_unchecked fun hclear => ?_⟩
      rw [hpassed.mpr (hcleared hclear)] at hcheck
      cases hcheck
  | panicked => exact absurd hcheck hpanic

theorem checkNotRoot_eq_ok_iff {uid : Nat} : checkNotRoot uid = .ok () ↔ uid ≠ 0 := by
  rw [checkNotRoot]
  split <;> simp_all

theorem checkNotRoot_ne_panicked (uid : Nat) : checkNotRoot uid ≠ .panicked := by
  rw [checkNotRoot]
  split <;> simp

theorem checkEach_ne_panicked (environment : Environment) (names : List String) :
    checkEach environment names ≠ .panicked := by
  induction names with
  | nil => simp [checkEach]
  | cons name names ih =>
      rw [checkEach]
      split
      · simp
      · exact ih

theorem meets_hardenProcess :
    Meets (Effect.mapErr (context "Process hardening failed") (hardenProcess around))
      (fun now => now = machine ∧ checkEnvironment around.environment = .ok () ∧ around.uid ≠ 0)
      (fun _ => Hardened around machine) fun _ => Spared crates around machine := by
  apply meets_of_cases
  rintro now ⟨rfl, henvironment, huser⟩
  cases hdumpable : around.setDumpable with
  | ok _ =>
      refine Or.inl ⟨(), { now with dumpable := false }, ?_, ⟨henvironment, huser, hdumpable⟩,
        rfl, rfl⟩
      simp [Effect.mapErr, hardenProcess, hdumpable]
  | error errno =>
      have hrefused : ∃ error, hardenProcess around now = (.err error, now) := by
        simp [hardenProcess, hdumpable]
      obtain ⟨error, hrefused⟩ := hrefused
      refine Or.inr ⟨context "Process hardening failed" error, now, ?_,
        spared_of_unchecked fun hcleared => ?_⟩
      · rw [Effect.mapErr, hrefused, Outcome.mapErr_err]
      · rw [hcleared.dumpable] at hdumpable
        cases hdumpable

theorem meets_getStorePath :
    Meets (getStorePath around) (Hardened around machine)
      (fun path now => (path = storePath around.environment ∧
          around.createDirAll (storeDirectory around.environment) = .ok ()) ∧
        Hardened around machine now)
      fun _ => Spared crates around machine := by
  apply meets_of_cases
  intro now hnow
  cases hdirectory : around.createDirAll (storeDirectory around.environment) with
  | ok _ =>
      have hmade : getStorePath around now = (.ok (storePath around.environment),
          { now with
            directories := storeDirectory around.environment :: now.directories }) := by
        simp only [getStorePath, hdirectory]
      exact Or.inl ⟨_, _, hmade, ⟨rfl, rfl⟩, hnow.cleared, hnow.dumpable, hnow.stores⟩
  | error error =>
      have hfailed : getStorePath around now =
          (.err (context "Failed to create store directory" error), now) := by
        simp only [getStorePath, hdirectory]
      refine Or.inr ⟨_, now, hfailed, hnow.spared fun hstartable => ?_⟩
      rw [hstartable.directory] at hdirectory
      cases hdirectory

theorem promptPassphrase_ne_panicked (around : Surroundings) :
    promptPassphrase around ≠ .panicked := by
  rw [promptPassphrase]
  split
  · simp
  · cases around.readPassword <;> simp

theorem meets_promptPassphrase :
    Meets (Effect.lift (promptPassphrase around)) (Hardened around machine)
      (fun passphrase now => promptPassphrase around = .ok passphrase ∧
        Hardened around machine now)
      fun _ => Spared crates around machine := by
  apply meets_of_cases
  intro now hnow
  cases hprompted : promptPassphrase around with
  | ok passphrase => exact Or.inl ⟨passphrase, now, rfl, rfl, hnow⟩
  | err failure =>
      refine Or.inr ⟨failure, now, rfl, hnow.spared fun hstartable => ?_⟩
      obtain ⟨passphrase, -, hprompt, -⟩ := hstartable.opens
      rw [hprompt] at hprompted
      cases hprompted
  | panicked => exact absurd hprompted (promptPassphrase_ne_panicked around)

@[simp] theorem stores_setStore_self (machine : Machine) (path : String) (files : StoreFiles) :
    (machine.setStore path files).stores path = files := by
  simp [Machine.setStore]

theorem stores_setStore_of_ne (machine : Machine) {path other : String} (files : StoreFiles)
    (h : other ≠ path) : (machine.setStore path files).stores other = machine.stores other := by
  simp [Machine.setStore, h]

theorem unlockAt_eq (crates : Crates) (access : SaltAccess) (path passphrase : String)
    (machine : Machine) :
    unlockAt crates access path passphrase machine =
      ((unlock crates access (asBytes passphrase) (machine.stores path)).1.mapErr fun error =>
          context "Failed to unlock store — wrong passphrase?" error.toText,
        machine.setStore path
          (unlock crates access (asBytes passphrase) (machine.stores path)).2) := rfl

theorem unlockAt_of_unlock {access : SaltAccess} {path passphrase : String}
    {outcome : Outcome StoreError Store} {before files : StoreFiles}
    (hbefore : machine.stores path = before)
    (h : unlock crates access (asBytes passphrase) before = (outcome, files)) :
    unlockAt crates access path passphrase machine =
      (outcome.mapErr fun error =>
          context "Failed to unlock store — wrong passphrase?" error.toText,
        machine.setStore path files) := by
  rw [unlockAt_eq, hbefore, h]

theorem meets_unlockAt {passphrase : String}
    (hdirectory : around.createDirAll (storeDirectory around.environment) = .ok ())
    (hprompted : promptPassphrase around = .ok passphrase) :
    Meets (unlockAt crates around.salt (storePath around.environment) passphrase)
      (Hardened around machine)
      (fun store now =>
        store = .unlocked (servedFiles around machine).database (asBytes passphrase) ∧
          Opened crates around machine passphrase (servedFiles around machine).database now)
      fun _ => Spared crates around machine := by
  apply meets_of_cases
  intro now hnow
  have hfiles : now.stores (storePath around.environment) = servedFiles around machine := by
    rw [hnow.stores, servedFiles]
  by_cases hopens : ∃ store, (unlock crates around.salt (asBytes passphrase)
      (servedFiles around machine)).1 = .ok store
  · obtain ⟨store, hstore⟩ := hopens
    have hunlocked := Effect.eq_of_fst hstore
    obtain ⟨hsalt, key, hkey, hfound, hshown, hafter⟩ := unlock_eq_ok_iff.mp hunlocked
    rw [hafter] at hunlocked
    refine Or.inl ⟨store, _, unlockAt_of_unlock hfiles hunlocked, hshown, hnow.cleared,
      hnow.dumpable, hdirectory, hprompted, hsalt,
      ⟨key, hkey, hfound, stores_setStore_self _ _ _⟩, ?_⟩
    intro path hpath
    rw [stores_setStore_of_ne _ _ hpath, hnow.stores]
  · obtain ⟨error, salt, hfailed, hkeeps⟩ :=
      unlock_of_failed fun store hstore => hopens ⟨store, hstore⟩
    refine Or.inr ⟨_, _, unlockAt_of_unlock hfiles hfailed, ?_,
      Or.inr ⟨hnow.cleared, hnow.dumpable, fun path => ?_⟩⟩
    · intro hstartable
      obtain ⟨typed, key, htyped, hkey, hfound⟩ := hstartable.opens
      obtain rfl := Outcome.ok.inj (hprompted.symm.trans htyped)
      exact hopens ⟨_, congrArg Prod.fst
        (unlock_eq_ok_iff.mpr ⟨hstartable.salt, key, hkey, hfound, rfl, rfl⟩)⟩
    by_cases hpath : path = storePath around.environment
    · subst hpath
      rw [stores_setStore_self]
      exact ⟨hkeeps, rfl⟩
    · rw [stores_setStore_of_ne _ _ hpath, hnow.stores]
      exact ⟨fun _ hsalt => hsalt, rfl⟩

/-- An empty store has no records that could be out of date. -/
theorem contents_of_modified {now : Machine} {passphrase : String}
    (hopened : Opened crates around machine passphrase (servedFiles around machine).database now)
    (hmodified : ¬ ∀ record ∈ (servedFiles around machine).database.integrity,
      Unmodified crates around.files record) :
    (now.stores (storePath around.environment)).contents =
      (servedFiles around machine).contents := by
  obtain ⟨key, -, hfound, hfiles⟩ := hopened.files
  rw [hfiles]
  cases hcontents : (servedFiles around machine).contents with
  | none =>
      refine absurd ?_ hmodified
      rw [StoreFiles.database, hcontents]
      intro record hrecord
      cases hrecord
  | some found =>
      rw [StoreFiles.database, hcontents, ← hfound found hcontents]
      rfl

theorem checkIntegrity_of_passed {store checked : Store} {path : String}
    (h : verifyAll crates around.files around.host around.checkOrder store = (.ok (), checked)) :
    checkIntegrity crates around path store machine =
      (.ok checked, machine.setStore path ((machine.stores path).saved checked)) := by
  rw [checkIntegrity, h]

theorem checkIntegrity_of_failed {store after : Store} {path : String} {error : StoreError}
    (h : verifyAll crates around.files around.host around.checkOrder store = (.err error, after)) :
    checkIntegrity crates around path store machine = (.err (integrityFailed error), machine) := by
  rw [checkIntegrity, h]

theorem meets_checkIntegrity {passphrase : String} :
    Meets
      (checkIntegrity crates around (storePath around.environment)
        (.unlocked (servedFiles around machine).database (asBytes passphrase)))
      (Opened crates around machine passphrase (servedFiles around machine).database)
      (fun checked now =>
        checked = .unlocked
          (verifiedDatabase around.host.unixNow (servedFiles around machine).database)
          (asBytes passphrase) ∧
        (∀ record ∈ (servedFiles around machine).database.integrity,
          Unmodified crates around.files record) ∧
        Opened crates around machine passphrase
          (verifiedDatabase around.host.unixNow (servedFiles around machine).database) now)
      fun _ => Spared crates around machine := by
  apply meets_of_cases
  intro now hnow
  by_cases hpassed : ∀ record ∈ (servedFiles around machine).database.integrity,
      Unmodified crates around.files record
  · refine Or.inl ⟨_, _, checkIntegrity_of_passed (verifyAll_of_unmodified hpassed _ _ _), rfl,
      hpassed, hnow.cleared, hnow.dumpable, hnow.directory, hnow.prompted, hnow.salt, ?_, ?_⟩
    · obtain ⟨key, hkey, hfound, hfiles⟩ := hnow.files
      refine ⟨key, hkey, hfound, ?_⟩
      rw [stores_setStore_self, hfiles]
      rfl
    · intro path hpath
      rw [stores_setStore_of_ne _ _ hpath]
      exact hnow.others path hpath
  · obtain ⟨error, hfailed⟩ := @verifyAll_of_not_ok crates around.files around.host
      around.checkOrder (.unlocked (servedFiles around machine).database (asBytes passphrase))
      fun hok => by
        obtain ⟨database, master, hstore, hall⟩ := verifyAll_eq_ok_iff.mp hok
        obtain ⟨rfl, rfl⟩ := Store.unlocked.inj hstore
        exact hpassed hall
    refine Or.inr ⟨_, _, checkIntegrity_of_failed hfailed,
      fun hstartable => hpassed hstartable.unmodified,
      Or.inr ⟨hnow.cleared, hnow.dumpable, fun path => ?_⟩⟩
    by_cases hpath : path = storePath around.environment
    · subst hpath
      exact ⟨hnow.keepsSalt, contents_of_modified hnow hpassed⟩
    · rw [hnow.others path hpath]
      exact ⟨fun _ hsalt => hsalt, rfl⟩

theorem meets_startUp (crates : Crates) (around : Surroundings) (machine : Machine) :
    Meets (startUp crates around) (· = machine) (Served crates around machine)
      fun _ => Spared crates around machine := by
  have henvironment := @meets_check crates around machine (checkEnvironment around.environment)
    "Environment check failed" _ True Iff.rfl (·.environment)
    (checkEach_ne_panicked around.environment dangerous)
  refine (henvironment.weaken fun _ hs => ⟨hs, trivial⟩).bind fun _ => ?_
  refine Meets.bind (meets_check checkNotRoot_eq_ok_iff (·.user)
    (checkNotRoot_ne_panicked around.uid)) fun _ => ?_
  refine Meets.bind (meets_hardenProcess.weaken fun _ hs => ⟨hs.1, hs.2.1.2, hs.2.2⟩) fun _ => ?_
  refine meets_getStorePath.bind fun path => meets_of_fact ?_
  rintro ⟨rfl, hdirectory⟩
  refine meets_promptPassphrase.bind fun passphrase => meets_of_fact fun hprompted => ?_
  refine (meets_unlockAt hdirectory hprompted).bind fun store => meets_of_fact ?_
  rintro rfl
  refine meets_checkIntegrity.bind fun checked => meets_of_fact ?_
  rintro rfl
  refine meets_of_fact fun hpassed => ?_
  rw [loadKnownHashesIn_unlocked]
  exact meets_pure fun now hnow => ⟨rfl, ⟨passphrase, rfl, hnow⟩, hpassed,
    recordedBinaries_of_passed hpassed around.loadOrder around.host.unixNow,
    loadKnownHashesIn_unlocked _ _ _⟩

theorem serves_iff_startable (crates : Crates) (around : Surroundings) (machine : Machine) :
    (∃ serving, (startUp crates around machine).1 = .ok serving) ↔
      Startable crates around machine := by
  have hmeets := meets_startUp crates around machine
  constructor
  · rintro ⟨serving, hserving⟩
    have hserved := hmeets.returned machine rfl serving _ (Effect.eq_of_fst hserving)
    obtain ⟨passphrase, -, hopened⟩ := hserved.opened
    obtain ⟨key, hkey, hfound, -⟩ := hopened.files
    exact ⟨hopened.cleared, hopened.directory, hopened.salt,
      ⟨passphrase, key, hopened.prompted, hkey, hfound⟩, hserved.unmodified⟩
  · intro hstartable
    rcases hcall : startUp crates around machine with ⟨serving | failure | _, after⟩
    · exact ⟨serving, rfl⟩
    · exact absurd hstartable (hmeets.failed machine rfl failure after hcall).failed
    · exact absurd hcall (hmeets.noPanic machine rfl after)

end Contract

end TrafficCone.DaemonStartup
