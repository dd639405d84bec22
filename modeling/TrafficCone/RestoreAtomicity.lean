import Mathlib.Data.List.Infix
import TrafficCone.FailingStatements
import TrafficCone.RestoredTables

namespace TrafficCone.RestoreAtomicity

open TrafficCone.Outcomes
open TrafficCone.StoreModels
open TrafficCone.HexadecimalText
open TrafficCone.IndependentLoading
open TrafficCone.StatementFailures
open TrafficCone.DatabaseTables
open TrafficCone.TableLoading
open TrafficCone.BackupArchives
open TrafficCone.BackupRestoring
open TrafficCone.BackupRoundTrip
open TrafficCone.RestoredTables
open TrafficCone.FailingStatements

section Databases

/-- No row has been changed or removed, and there is no new one but in the tables that a
restore fills. -/
structure AddsEntries (before after : Database) : Prop where
  certs : before.certs <+: after.certs
  keys : before.keys <+: after.keys
  sshKeys : before.sshKeys <+: after.sshKeys
  caCerts : before.caCerts <+: after.caCerts
  apps : before.apps <+: after.apps
  routes : before.routes <+: after.routes
  sshRoutes : before.sshRoutes <+: after.sshRoutes
  integrity : before.integrity = after.integrity
  auditLog : before.auditLog = after.auditLog

theorem AddsEntries.refl (database : Database) : AddsEntries database database where
  certs := List.prefix_refl _
  keys := List.prefix_refl _
  sshKeys := List.prefix_refl _
  caCerts := List.prefix_refl _
  apps := List.prefix_refl _
  routes := List.prefix_refl _
  sshRoutes := List.prefix_refl _
  integrity := rfl
  auditLog := rfl

theorem AddsEntries.trans {first second third : Database} (h : AddsEntries first second)
    (h' : AddsEntries second third) : AddsEntries first third where
  certs := h.certs.trans h'.certs
  keys := h.keys.trans h'.keys
  sshKeys := h.sshKeys.trans h'.sshKeys
  caCerts := h.caCerts.trans h'.caCerts
  apps := h.apps.trans h'.apps
  routes := h.routes.trans h'.routes
  sshRoutes := h.sshRoutes.trans h'.sshRoutes
  integrity := h.integrity.trans h'.integrity
  auditLog := h.auditLog.trans h'.auditLog

theorem AddsEntries.eq {first second : Database} (h : AddsEntries first second)
    (h' : AddsEntries second first) : first = second := by
  cases first
  cases second
  rw [Database.mk.injEq]
  exact ⟨antisymm h.certs h'.certs, antisymm h.keys h'.keys, antisymm h.sshKeys h'.sshKeys,
    antisymm h.caCerts h'.caCerts, antisymm h.apps h'.apps, antisymm h.routes h'.routes,
    antisymm h.sshRoutes h'.sshRoutes, h.integrity, h.auditLog⟩

instance : IsPartialOrder Database AddsEntries where
  refl := AddsEntries.refl
  trans _ _ _ := AddsEntries.trans
  antisymm _ _ := AddsEntries.eq

/-- The rows of the table are among those that a restore adds. -/
def Restorable {ρ : Type} (table : Table ρ) : Prop :=
  ∀ row session, AddsEntries session.database (table.append row session).database

theorem restorable_certs : Restorable certs := fun _ session =>
  { AddsEntries.refl session.database with certs := List.prefix_append _ _ }

theorem restorable_keys : Restorable keys := fun _ session =>
  { AddsEntries.refl session.database with keys := List.prefix_append _ _ }

theorem restorable_sshKeys : Restorable sshKeys := fun _ session =>
  { AddsEntries.refl session.database with sshKeys := List.prefix_append _ _ }

theorem restorable_caCerts : Restorable caCerts := fun _ session =>
  { AddsEntries.refl session.database with caCerts := List.prefix_append _ _ }

theorem restorable_apps : Restorable apps := fun _ session =>
  { AddsEntries.refl session.database with apps := List.prefix_append _ _ }

theorem restorable_routes : Restorable routes := fun _ session =>
  { AddsEntries.refl session.database with routes := List.prefix_append _ _ }

theorem restorable_sshRoutes : Restorable sshRoutes := fun _ session =>
  { AddsEntries.refl session.database with sshRoutes := List.prefix_append _ _ }

end Databases

section Steps

variable {failures : Failures} {α ρ : Type} {table : Table ρ}

theorem append_ne {row : ρ} {session : Session} :
    (table.append row session).database ≠ session.database := by
  intro h
  have hlength := congrArg (fun database => (table.rows database).length) h
  simp [Table.append, table.rows_withRows] at hlength

theorem grows_statement {call : Effect Session StoreError α}
    (h : ∀ session, AddsEntries session.database (call session).2.database) :
    Grows (fun attempt : Attempt Session => attempt.state.database) AddsEntries
      (statement failures call) := by
  intro attempt
  cases hfailure : failures attempt.issued with
  | some message =>
      rw [statement_of_some hfailure]
      exact AddsEntries.refl _
  | none =>
      rw [statement_of_none hfailure]
      exact h attempt.state

theorem grows_insert (htable : Restorable table) (row : ρ) :
    Grows (fun attempt : Attempt Session => attempt.state.database) AddsEntries
      (statement failures (table.insert row)) := by
  apply grows_statement
  intro session
  rw [table.insert_snd_database]
  split
  · exact htable row session
  · exact AddsEntries.refl _

theorem grows_insertOrIgnore (htable : Restorable table) (row : ρ) :
    Grows (fun attempt : Attempt Session => attempt.state.database) AddsEntries
      (statement failures (table.insertOrIgnore row)) := by
  apply grows_statement
  intro session
  rw [table.insertOrIgnore_snd_database]
  split
  · exact htable row session
  · exact AddsEntries.refl _

/-- The insertion of an entry fails before it has changed anything unless it fits, and changes
something if it does. -/
structure Inserts (failures : Failures) (insert : α → Effect (Attempt Session) StoreError Unit)
    (fits : Database → α → Prop) : Prop where
  grows : ∀ entry, Grows (fun attempt : Attempt Session => attempt.state.database) AddsEntries
    (insert entry)
  refuses : ∀ attempt entry,
    failures attempt.issued ≠ none ∨ ¬ fits attempt.state.database entry →
      FailsInPlace (fun other : Attempt Session => other.state.database) (insert entry) attempt
  moves : ∀ attempt entry, failures attempt.issued = none → fits attempt.state.database entry →
    (insert entry attempt).2.state.database ≠ attempt.state.database

theorem inserts_statement (htable : Restorable table)
    (hreferences : ∀ database row, table.references database row = true) (row : α → ρ) :
    Inserts failures (fun entry => statement failures (table.insert (row entry)))
      (fun database entry => table.conflict database (row entry) = none) where
  grows entry := grows_insert htable (row entry)
  refuses attempt entry h := by
    have hfails : InsertFails failures table (row entry) attempt :=
      h.imp_right fun hconflict hadmitted => hconflict hadmitted.1
    obtain ⟨error, hcall⟩ := statement_insert_of_fails hfails
    rw [FailsInPlace, hcall]
    exact ⟨⟨error, rfl⟩, rfl⟩
  moves attempt entry hfailure hconflict := by
    have hadmitted : ¬ InsertFails failures table (row entry) attempt := by
      rw [InsertFails, not_or, not_not, not_not]
      exact ⟨hfailure, hconflict, hreferences _ _⟩
    rw [statement_insert_of_not_fails hadmitted]
    exact append_ne

theorem unlessExistsUnder_of_found {existing : Database → Bool}
    {insert : Effect (Attempt Session) StoreError Unit} {attempt : Attempt Session}
    (h : failures attempt.issued = none ∧ existing attempt.state.database = true) :
    unlessExistsUnder failures existing insert attempt =
      (.ok 0, { attempt with issued := attempt.issued + 1 }) := by
  have hfound : existsUnder failures existing attempt =
      (.ok true, { attempt with issued := attempt.issued + 1 }) := by
    rw [existsUnder, h.1, h.2]
    rfl
  rw [unlessExistsUnder, Effect.bind_of_ok hfound]
  rfl

theorem unlessExistsUnder_of_not_found {existing : Database → Bool}
    {insert : Effect (Attempt Session) StoreError Unit} {attempt : Attempt Session}
    (h : ¬ (failures attempt.issued = none ∧ existing attempt.state.database = true)) :
    unlessExistsUnder failures existing insert attempt =
      (insert >>= fun _ => pure 1 : Effect (Attempt Session) StoreError Nat)
        { attempt with issued := attempt.issued + 1 } := by
  have hfound : existsUnder failures existing attempt =
      (.ok false, { attempt with issued := attempt.issued + 1 }) := by
    rw [existsUnder]
    cases hfailure : failures attempt.issued with
    | some message => rfl
    | none =>
        have habsent : existing attempt.state.database = false :=
          Bool.not_eq_true _ ▸ fun hexisting => h ⟨hfailure, hexisting⟩
        rw [habsent]
        rfl
  rw [unlessExistsUnder, Effect.bind_of_ok hfound]
  rfl

theorem sorts_unlessExists {existing : α → Database → Bool}
    {insert : α → Effect (Attempt Session) StoreError Unit} {fits : Database → α → Prop}
    (hinserts : Inserts failures insert fits) :
    Sorts Session.database AddsEntries
      (fun entry => unlessExistsUnder failures (existing entry) (insert entry))
      (fun session number entry =>
        ¬ (failures number = none ∧ existing entry session.database = true) ∧
          (failures (number + 1) ≠ none ∨ ¬ fits session.database entry))
      (fun session number entry =>
        failures number = none ∧ existing entry session.database = true) where
  grows entry := by
    apply Grows.bind
    · exact grows_of_unchanged fun _ => rfl
    · intro found
      cases found with
      | true => exact grows_of_unchanged fun _ => rfl
      | false => exact (hinserts.grows entry).bind fun _ => grows_of_unchanged fun _ => rfl
  passes attempt entry hfound := ⟨0, unlessExistsUnder_of_found hfound⟩
  refuses attempt entry h := by
    obtain ⟨⟨error, hfailed⟩, hsame⟩ :=
      hinserts.refuses { attempt with issued := attempt.issued + 1 } entry h.2
    rw [FailsInPlace, unlessExistsUnder_of_not_found h.1,
      Effect.bind_of_err (Effect.eq_of_fst hfailed)]
    exact ⟨⟨error, rfl⟩, hsame⟩
  moves attempt entry hnot habsent := by
    have hfits : failures (attempt.issued + 1) = none ∧ fits attempt.state.database entry := by
      by_contra hcontra
      exact hnot ⟨habsent, not_and_or.mp hcontra⟩
    rw [unlessExistsUnder_of_not_found habsent, Effect.bind_pure_snd]
    exact hinserts.moves _ entry hfits.1 hfits.2

theorem sorts_ignoring {column : String × (ρ → String)} (htable : Restorable table)
    (hunique : table.unique = [column]) (row : α → ρ) :
    Sorts Session.database AddsEntries
      (fun entry => (do
        statement failures (table.insertOrIgnore (row entry))
        pure 1 : Effect (Attempt Session) StoreError Nat))
      (fun session number entry => failures number ≠ none ∨
        (¬ present table column row session entry = true ∧
          ¬ table.references session.database (row entry) = true))
      (fun session number entry =>
        failures number = none ∧ present table column row session entry = true) where
  grows entry := (grows_insertOrIgnore htable _).bind fun _ => grows_of_unchanged fun _ => rfl
  passes attempt entry h := by
    have hcall := @statement_of_none _ _ (table.insertOrIgnore (row entry)) _ h.1
    rw [insertOrIgnore_of_present hunique h.2] at hcall
    exact ⟨1, Effect.bind_of_ok hcall⟩
  refuses attempt entry h := by
    rw [FailsInPlace]
    cases hfailure : failures attempt.issued with
    | some message =>
        rw [Effect.bind_of_err (statement_of_some hfailure)]
        exact ⟨⟨_, rfl⟩, rfl⟩
    | none =>
        obtain ⟨habsent, hreferences⟩ := h.resolve_left fun hnot => hnot hfailure
        have hcall := @statement_of_none _ _ (table.insertOrIgnore (row entry)) _ hfailure
        rw [insertOrIgnore_of_absent hunique habsent, if_neg hreferences] at hcall
        rw [Effect.bind_of_err hcall]
        exact ⟨⟨_, rfl⟩, rfl⟩
  moves attempt entry hnot hpassed := by
    rw [not_or, not_not] at hnot
    obtain ⟨hfailure, hreferred⟩ := hnot
    have habsent : ¬ present table column row attempt.state entry = true :=
      fun h => hpassed ⟨hfailure, h⟩
    have hreferences : table.references attempt.state.database (row entry) = true := by
      by_contra hcontra
      exact hreferred ⟨habsent, hcontra⟩
    have hcall := @statement_of_none _ _ (table.insertOrIgnore (row entry)) _ hfailure
    rw [insertOrIgnore_of_absent hunique habsent, if_pos hreferences] at hcall
    rw [Effect.bind_of_ok hcall]
    exact append_ne

theorem grows_insertKey (host : Host) (entry : BackupCert) :
    Grows (fun attempt : Attempt Session => attempt.state.database) AddsEntries
      (compute (newId host) >>= fun id => statement failures (keys.insert (keyRow entry id))) :=
  Grows.bind (grows_of_unchanged fun _ => rfl) fun _ => grows_insert restorable_keys _

theorem inserts_certAndKey (host : Host) :
    Inserts failures (insertCertAndKeyUnder failures host) (fun database entry =>
      (∃ bytes, hexDecode entry.certDer = .ok bytes) ∧
        certs.conflict database (restoredCert entry) = none) where
  grows entry := by
    apply Grows.bind
    · exact grows_of_unchanged fun _ => rfl
    · intro certDer
      exact (grows_insert restorable_certs _).bind fun _ => grows_insertKey host entry
  refuses attempt entry h := by
    rw [FailsInPlace, insertCertAndKeyUnder]
    cases hdecoded : hexDecode entry.certDer with
    | error error => exact ⟨⟨_, rfl⟩, rfl⟩
    | ok bytes =>
        have hfails : InsertFails failures certs (restoredCert entry) attempt :=
          h.imp_right fun hfits hadmitted => hfits ⟨⟨bytes, hdecoded⟩, hadmitted.1⟩
        obtain ⟨error, hcall⟩ := statement_insert_of_fails hfails
        rw [Outcome.ofExcept_ok, Outcome.mapErr_ok, Effect.lift_ok_bind,
          certRow_of_decoded hdecoded, Effect.bind_of_err hcall]
        exact ⟨⟨error, rfl⟩, rfl⟩
  moves attempt entry hfailure hfits := by
    obtain ⟨⟨bytes, hdecoded⟩, hconflict⟩ := hfits
    have hadmitted : ¬ InsertFails failures certs (restoredCert entry) attempt := by
      rw [InsertFails, not_or, not_not, not_not]
      exact ⟨hfailure, hconflict, rfl⟩
    rw [insertCertAndKeyUnder, hdecoded, Outcome.ofExcept_ok, Outcome.mapErr_ok,
      Effect.lift_ok_bind, certRow_of_decoded hdecoded,
      Effect.bind_of_ok (statement_insert_of_not_fails hadmitted)]
    -- The certificate is in, and what follows does not take it out.
    intro hsame
    have hlater := @grows_insertKey failures host entry
      { state := certs.append (restoredCert entry) attempt.state, issued := attempt.issued + 1 }
    dsimp only at hlater
    rw [hsame] at hlater
    exact append_ne (hlater.eq (restorable_certs _ _))

end Steps

section Entries

/-- The entries of a payload, whatever their table. -/
inductive Entry where
  | caCert (entry : BackupCaCert)
  | cert (entry : BackupCert)
  | sshKey (entry : BackupSshKey)
  | app (entry : BackupApp)
  | route (entry : BackupRoute)
  | sshRoute (entry : BackupSshRoute)

/-- In the order in which they are restored. -/
def entriesOf (payload : BackupPayload) : List Entry :=
  payload.caCerts.map .caCert ++ payload.certs.map .cert ++ payload.sshKeys.map .sshKey ++
    payload.apps.map .app ++ payload.routes.map .route ++ payload.sshRoutes.map .sshRoute

def Entry.isThere (database : Database) : Entry → Bool
  | .caCert entry => database.caCerts.any fun row => row.fingerprint = entry.fingerprint
  | .cert entry => database.certs.any fun row => row.fingerprint = entry.fingerprint
  | .sshKey entry => database.sshKeys.any fun row => row.id = entry.id
  | .app entry => database.apps.any fun row => row.exePath = entry.exePath
  | .route entry => database.routes.any fun row => row.id = entry.id
  | .sshRoute entry => database.sshRoutes.any fun row => row.id = entry.id

/-- Nothing in the entry stands against its first `INSERT`. -/
def Entry.Fits (database : Database) : Entry → Prop
  | .caCert entry => caCerts.conflict database (caCertRow entry) = none
  | .cert entry => (∃ bytes, hexDecode entry.certDer = .ok bytes) ∧
      certs.conflict database (restoredCert entry) = none
  | .sshKey entry => sshKeys.conflict database (sshKeyRow entry) = none
  | .app entry => apps.conflict database (appRow entry) = none
  | .route entry => routes.references database (routeRow entry) = true
  | .sshRoute entry => sshRoutes.references database (sshRouteRow entry) = true

/-- Whether a query comes before the `INSERT`. -/
def Entry.queried : Entry → Bool
  | .caCert _ | .cert _ | .sshKey _ | .app _ => true
  | .route _ | .sshRoute _ => false

variable (failures : Failures) (host : Host) (database : Database) (number : Nat)

def PassedOver (entry : Entry) : Prop :=
  failures number = none ∧ entry.isThere database = true

/-- The first `INSERT` of the entry fails. -/
def RefusedFirst (entry : Entry) : Prop :=
  match entry.queried with
  | true => ¬ PassedOver failures database number entry ∧
      (failures (number + 1) ≠ none ∨ ¬ entry.Fits database)
  | false => failures number ≠ none ∨
      (¬ entry.isThere database = true ∧ ¬ entry.Fits database)

def Unrecorded : Prop :=
  failures number ≠ none ∨ host.newId 0 ∈ database.auditLog.map (·.id)

/-- The restore fails at the first entry that it does not pass over, with the first `INSERT`
for it; or it passes over all of them and cannot record itself. -/
def FailsUntouched (payload : BackupPayload) : Prop :=
  stops (RefusedFirst failures database) (PassedOver failures database)
    (Unrecorded failures host database) 0 (entriesOf payload)

end Entries

section Restoring

variable {failures : Failures} {host : Host} {payload : BackupPayload} {database : Database}
  {result : RestoreResult}

theorem recordRestoredUnder_of_fails {attempt : Attempt Session}
    (h : InsertFails failures auditLog
      (restoredEntry host result (host.newId attempt.state.drawn))
        { attempt with state := { attempt.state with drawn := attempt.state.drawn + 1 } }) :
    ∃ error, recordRestoredUnder failures host result attempt =
      (.err error,
        { state := { attempt.state with drawn := attempt.state.drawn + 1 }
          issued := attempt.issued + 1 }) := by
  obtain ⟨error, hcall⟩ := statement_insert_of_fails h
  refine ⟨error, ?_⟩
  rw [recordRestoredUnder, Effect.bind_of_ok (show compute (newId host) attempt = _ from rfl)]
  exact Effect.bind_of_err hcall

theorem recordRestoredUnder_of_not_fails {attempt : Attempt Session}
    (h : ¬ InsertFails failures auditLog
      (restoredEntry host result (host.newId attempt.state.drawn))
        { attempt with state := { attempt.state with drawn := attempt.state.drawn + 1 } }) :
    (recordRestoredUnder failures host result attempt).1 = .ok result := by
  rw [recordRestoredUnder, Effect.bind_of_ok (show compute (newId host) attempt = _ from rfl)]
  exact congrArg Prod.fst (Effect.bind_of_ok (statement_insert_of_not_fails h))

theorem stopsAt_recordRestored (result : RestoreResult) :
    StopsAt Session.database AddsEntries (recordRestoredUnder failures host result)
      { database := database, drawn := 0 } (Unrecorded failures host database) := by
  constructor
  · intro attempt error hfailed
    by_cases hfails : InsertFails failures auditLog
      (restoredEntry host result (host.newId attempt.state.drawn))
        { attempt with state := { attempt.state with drawn := attempt.state.drawn + 1 } }
    · obtain ⟨found, hcall⟩ := recordRestoredUnder_of_fails hfails
      rw [hcall]
      exact AddsEntries.refl _
    · rw [recordRestoredUnder_of_not_fails hfails] at hfailed
      cases hfailed
  · intro number
    have hunrecorded : Unrecorded failures host database number ↔
        InsertFails failures auditLog (restoredEntry host result (host.newId 0))
          { state := { database := database, drawn := 1 }, issued := number } := by
      rw [Unrecorded, InsertFails, Table.conflict_eq_none_iff]
      simp [auditLog, restoredEntry]
    rw [hunrecorded, FailsInPlace]
    constructor
    · rintro ⟨⟨error, hfailed⟩, -⟩
      by_contra hnot
      rw [recordRestoredUnder_of_not_fails hnot] at hfailed
      cases hfailed
    · intro hfails
      obtain ⟨error, hcall⟩ := @recordRestoredUnder_of_fails _ _ _
        { state := { database := database, drawn := 0 }, issued := number } hfails
      rw [hcall]
      exact ⟨⟨error, rfl⟩, rfl⟩

theorem stopsAt_restorePayload (payload : BackupPayload) :
    StopsAt Session.database AddsEntries (restorePayloadUnder failures host payload)
      { database := database, drawn := 0 } (fun number =>
        stops (RefusedFirst failures database) (PassedOver failures database)
          (Unrecorded failures host database) number (entriesOf payload)) := by
  rw [entriesOf]
  simp only [List.append_assoc, stops_append, stops_map]
  apply (sorts_unlessExists
    (inserts_statement restorable_caCerts (fun _ _ => rfl) caCertRow)).stopsAt
  intro caCertCount
  apply (sorts_unlessExists (inserts_certAndKey host)).stopsAt
  intro certCount
  apply (sorts_unlessExists
    (inserts_statement restorable_sshKeys (fun _ _ => rfl) sshKeyRow)).stopsAt
  intro sshKeyCount
  apply (sorts_unlessExists
    (inserts_statement restorable_apps (fun _ _ => rfl) appRow)).stopsAt
  intro appCount
  apply (sorts_ignoring restorable_routes rfl routeRow).stopsAt
  intro routeCount
  apply (sorts_ignoring restorable_sshRoutes rfl sshRouteRow).stopsAt
  intro sshRouteCount
  exact stopsAt_recordRestored _

end Restoring

section Stores

variable {codec : BackupCodec} {host : Host} {password : String} {backup : Bytes}
  {failures : Failures} {payload : BackupPayload} {store after : Store} {error : StoreError}

theorem reads_unique {other : BackupPayload} (h : Reads codec password backup payload)
    (h' : Reads codec password backup other) : payload = other := by
  obtain ⟨text, hdecrypted, hparsed⟩ := h
  obtain ⟨found, hfound, hother⟩ := h'
  obtain rfl := Except.ok.inj (hdecrypted.symm.trans hfound)
  exact Except.ok.inj (hparsed.symm.trans hother)

theorem restoreBackupUnder_of_reads (hread : Reads codec password backup payload) :
    restoreBackupUnder failures codec host backup password store =
      withConnUnder (restorePayloadUnder failures host payload) store := by
  obtain ⟨text, hdecrypted, hparsed⟩ := hread
  rw [restoreBackupUnder, ageDecrypt, hdecrypted, Outcome.ofExcept_ok, Outcome.mapErr_ok,
    Effect.lift_ok_bind, hparsed, Outcome.ofExcept_ok, Outcome.mapErr_ok, Effect.lift_ok_bind]

theorem restoreBackupUnder_of_unread (hread : ∀ payload, ¬ Reads codec password backup payload) :
    ∃ error,
      restoreBackupUnder failures codec host backup password store = (.err error, store) := by
  rw [restoreBackupUnder, ageDecrypt]
  cases hdecrypted : codec.decrypt password backup with
  | error error => exact ⟨_, rfl⟩
  | ok text =>
      rw [Outcome.ofExcept_ok, Outcome.mapErr_ok, Effect.lift_ok_bind]
      cases hparsed : codec.fromSlice text with
      | error error => exact ⟨_, rfl⟩
      | ok payload => exact absurd ⟨text, hdecrypted, hparsed⟩ (hread payload)

/-- What a restore can leave when it fails: further rows at the ends of the tables that it
fills. -/
def OnlyAdds : Store → Store → Prop
  | .locked, .locked => True
  | .unlocked before master, .unlocked after other => AddsEntries before after ∧ master = other
  | _, _ => False

def FailsBeforeWriting (failures : Failures) (codec : BackupCodec) (host : Host) (backup : Bytes)
    (password : String) : Store → Prop
  | .locked => True
  | .unlocked database _ => ∀ payload, Reads codec password backup payload →
      FailsUntouched failures host database payload

theorem onlyAdds_refl (store : Store) : OnlyAdds store store := by
  cases store with
  | locked => trivial
  | unlocked database master => exact ⟨AddsEntries.refl database, rfl⟩

/-- A restore that fails has lost no row and has written no log. It has left everything as it
was exactly if it could not begin, or failed with the first `INSERT` that it had to make. -/
theorem failed_restore
    (h : restoreBackupUnder failures codec host backup password store = (.err error, after)) :
    OnlyAdds store after ∧
      (after = store ↔ FailsBeforeWriting failures codec host backup password store) := by
  by_cases hreadable : ∃ payload, Reads codec password backup payload
  · obtain ⟨payload, hread⟩ := hreadable
    rw [restoreBackupUnder_of_reads hread] at h
    cases store with
    | locked =>
        obtain ⟨-, rfl⟩ := Prod.mk.inj h
        exact ⟨trivial, iff_of_true rfl trivial⟩
    | unlocked database master =>
        obtain ⟨hwithin, hinPlace⟩ := @stopsAt_restorePayload failures host database payload
        have huntouched : _ ↔ FailsUntouched failures host database payload := hinPlace 0
        have hcondition : FailsBeforeWriting failures codec host backup password
            (.unlocked database master) ↔ FailsUntouched failures host database payload := by
          constructor
          · exact fun hall => hall payload hread
          · intro hfails other hother
            rwa [← reads_unique hread hother]
        obtain ⟨hfailed, rfl⟩ := Prod.mk.inj h
        refine ⟨⟨hwithin _ error hfailed, rfl⟩, ?_⟩
        rw [hcondition, ← huntouched, FailsInPlace, Store.unlocked.injEq]
        constructor
        · exact fun hsame => ⟨⟨error, hfailed⟩, hsame.1⟩
        · exact fun hsame => ⟨hsame.2, rfl⟩
  · have hread : ∀ payload, ¬ Reads codec password backup payload :=
      fun payload hread => hreadable ⟨payload, hread⟩
    obtain ⟨found, hfailed⟩ :=
      @restoreBackupUnder_of_unread codec host password backup failures store hread
    rw [hfailed] at h
    obtain ⟨-, rfl⟩ := Prod.mk.inj h
    refine ⟨onlyAdds_refl store, iff_of_true rfl ?_⟩
    cases store with
    | locked => trivial
    | unlocked database master => exact fun payload hpayload => absurd hpayload (hread payload)

/-- A backup with a key, and with a route to a certificate that nobody has. -/
def danglingPayload : BackupPayload where
  version := 1
  exportedAt := 50
  certs := []
  sshKeys := officeDatabase.sshKeys.map backupSshKey
  caCerts := []
  apps := []
  routes := [
    { id := "r1", certId := "c9", appId := none, matchType := "hostname", pattern := none
      requireBoth := false, priority := 0, createdAt := 8 }]
  sshRoutes := []

theorem failed_restore_dangling :
    ∃ error after,
      restoreBackupUnder (fun _ => none) (onePayload danglingPayload) countingHost
        (asBytes "pwjson") "pw" (.unlocked {} [1]) = (.err error, after) ∧
      OnlyAdds (.unlocked {} [1]) after ∧
      (after = .unlocked {} [1] ↔
        FailsBeforeWriting (fun _ => none) (onePayload danglingPayload) countingHost
          (asBytes "pwjson") "pw" (.unlocked {} [1])) := by
  have hrun : restoreBackupUnder (fun _ => none) (onePayload danglingPayload) countingHost
      (asBytes "pwjson") "pw" (.unlocked {} [1]) =
        (.err (.database "FOREIGN KEY constraint failed"),
          .unlocked { sshKeys := officeDatabase.sshKeys } [1]) := by
    decide +kernel
  exact ⟨_, _, hrun, failed_restore hrun⟩

/-- The route is refused, and the key stays. -/
theorem key_left_by_failed_restore :
    restoreBackupUnder (fun _ => none) (onePayload danglingPayload) countingHost
        (asBytes "pwjson") "pw" (.unlocked {} [1]) =
      (.err (.database "FOREIGN KEY constraint failed"),
        .unlocked { sshKeys := officeDatabase.sshKeys } [1]) ∧
      ({ sshKeys := officeDatabase.sshKeys } : Database) ≠ {} :=
  ⟨by decide +kernel, by decide⟩

end Stores

end TrafficCone.RestoreAtomicity
