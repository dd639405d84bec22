import TrafficCone.BackupRoundTrip

namespace TrafficCone.ForeignKeyFailures

open TrafficCone.Outcomes
open TrafficCone.StoreModels
open TrafficCone.IndependentLoading
open TrafficCone.DatabaseTables
open TrafficCone.HexadecimalText
open TrafficCone.BackupArchives
open TrafficCone.BackupRestoring
open TrafficCone.BackupRoundTrip

/-- Everything that an entry of the payload refers to is in the payload. -/
structure Closed (payload : BackupPayload) : Prop where
  routeCerts : ∀ route ∈ payload.routes, ∃ cert ∈ payload.certs, cert.id = route.certId
  routeApps : ∀ route ∈ payload.routes, ∀ id, route.appId = some id →
    ∃ app ∈ payload.apps, app.id = id
  sshRouteKeys : ∀ route ∈ payload.sshRoutes, ∃ key ∈ payload.sshKeys, key.id = route.sshKeyId
  sshRouteApps : ∀ route ∈ payload.sshRoutes, ∀ id, route.appId = some id →
    ∃ app ∈ payload.apps, app.id = id

/-- Entries that a restore takes for the same have the same id. -/
structure Consistent (payload : BackupPayload) : Prop where
  certs : ∀ first ∈ payload.certs, ∀ second ∈ payload.certs,
    first.fingerprint = second.fingerprint → first.id = second.id
  apps : ∀ first ∈ payload.apps, ∀ second ∈ payload.apps,
    first.exePath = second.exePath → first.id = second.id

section Sparing

variable {α β ρ : Type} {invariant : Session → Prop}

/-- From a state of the invariant the call does not fail on a foreign key. -/
def Spares (invariant : Session → Prop) (call : Effect Session StoreError α) : Prop :=
  ∀ session, invariant session → (call session).1 ≠ .err Table.foreignKeyFailure

theorem Spares.bind {first : Effect Session StoreError α}
    {next : α → Effect Session StoreError β} (hfirst : Spares invariant first)
    (hkeeps : Effect.Preserves first invariant) (hnext : ∀ value, Spares invariant (next value)) :
    Spares invariant (first >>= next) := by
  intro session hsession hfailed
  rcases Effect.bind_fst_eq_err_iff.mp hfailed with hnow | ⟨value, session', hcall, hlater⟩
  · exact hfirst session hsession hnow
  · exact hnext value session' (hkeeps session value session' hsession hcall) hlater

theorem spares_loadAll {step : α → Effect Session StoreError Nat} {items : List α}
    (hstep : ∀ item ∈ items, Spares invariant (step item))
    (hkeeps : ∀ item, Effect.Preserves (step item) invariant) :
    Spares invariant (loadAll step items) := by
  induction items with
  | nil => exact fun _ _ hfailed => by cases hfailed
  | cons item rest ih =>
      rw [List.forall_mem_cons] at hstep
      apply (hstep.1).bind (hkeeps item)
      intro counted
      apply (ih hstep.2).bind (preserves_loadAll hkeeps rest)
      intro more session _ hfailed
      cases hfailed

theorem uniqueFailure_ne (name column : String) :
    StoreError.database ("UNIQUE constraint failed: " ++ name ++ "." ++ column) ≠
      Table.foreignKeyFailure := by
  intro h
  have hhead := congrArg (fun text => text.toList.head?) (StoreError.database.inj h)
  simp [String.toList_append] at hhead

theorem spares_insert {table : Table ρ} {row : ρ}
    (hreferences : ∀ session, invariant session →
      table.references session.database row = true) :
    Spares invariant (table.insert row) := by
  intro session hsession hfailed
  rw [Table.insert] at hfailed
  cases hunique : table.conflict session.database row with
  | some column =>
      rw [hunique] at hfailed
      exact uniqueFailure_ne _ _ (Outcome.err.inj hfailed)
  | none =>
      rw [hunique] at hfailed
      simp [hreferences session hsession] at hfailed

theorem spares_insertOrIgnore {table : Table ρ} {row : ρ}
    (hreferences : ∀ session, invariant session →
      table.references session.database row = true) :
    Spares invariant (table.insertOrIgnore row) := by
  intro session hsession hfailed
  rw [Table.insertOrIgnore] at hfailed
  cases hunique : table.conflict session.database row with
  | some column => simp [hunique] at hfailed
  | none => simp [hunique, hreferences session hsession] at hfailed

theorem spares_unlessExists (existing : Database → Bool)
    {insert : Effect Session StoreError Unit} (hinsert : Spares invariant insert) :
    Spares invariant (unlessExists existing insert) := by
  intro session hsession hfailed
  rw [unlessExists] at hfailed
  split at hfailed
  · cases hfailed
  · rcases Effect.bind_fst_eq_err_iff.mp hfailed with hnow | ⟨_, session', -, hlater⟩
    · exact hinsert session hsession hnow
    · cases hlater

end Sparing

section Filling

variable {α ρ : Type} {rows : Session → List ρ} {column id : ρ → String} {row : α → ρ}
  {step : α → Effect Session StoreError Nat}

/-- A step that returns has added the row of its entry, unless there was a row with the
same value in a column. -/
def Fills (rows : Session → List ρ) (column : ρ → String) (row : α → ρ)
    (step : α → Effect Session StoreError Nat) : Prop :=
  ∀ entry session counted session', step entry session = (.ok counted, session') →
    (rows session' = rows session ∧ ∃ other ∈ rows session, column other = column (row entry)) ∨
      rows session' = rows session ++ [row entry]

/-- After the loop every entry's id is in the table, if the rows there at its start are
those of entries too. -/
theorem ids_of_loadAll (hfills : Fills rows column row step) {entries all : List α}
    (hentries : ∀ entry ∈ entries, entry ∈ all)
    (hconsistent : ∀ first ∈ all, ∀ second ∈ all,
      column (row first) = column (row second) → id (row first) = id (row second))
    {session session' : Session} {counted : Nat}
    (hknown : ∀ other ∈ rows session, ∃ entry ∈ all,
      column (row entry) = column other ∧ id (row entry) = id other)
    (hrun : loadAll step entries session = (.ok counted, session')) :
    (∀ other ∈ rows session, other ∈ rows session') ∧
      ∀ entry ∈ entries, ∃ other ∈ rows session', id other = id (row entry) := by
  induction entries generalizing session counted with
  | nil =>
      obtain ⟨-, rfl⟩ := Prod.mk.inj hrun
      exact ⟨fun _ hother => hother, by simp⟩
  | cons entry rest ih =>
      rw [List.forall_mem_cons] at hentries
      rw [loadAll] at hrun
      obtain ⟨first, middle, hstep, hrun⟩ := Effect.bind_eq_ok_iff.mp hrun
      obtain ⟨more, last, hrest, hlast⟩ := Effect.bind_eq_ok_iff.mp hrun
      obtain ⟨-, rfl⟩ := Prod.mk.inj hlast
      rcases hfills entry session first middle hstep with ⟨hsame, other, hother, hcolumn⟩ | hadded
      · obtain ⟨hstay, hids⟩ := ih hentries.2 (by rw [hsame]; exact hknown) hrest
        rw [hsame] at hstay
        refine ⟨hstay, List.forall_mem_cons.mpr ⟨⟨other, hstay other hother, ?_⟩, hids⟩⟩
        obtain ⟨source, hsource, hsourceColumn, hsourceId⟩ := hknown other hother
        rw [← hsourceId]
        exact hconsistent source hsource entry hentries.1 (hsourceColumn.trans hcolumn)
      · have hmiddle : ∀ other ∈ rows middle, ∃ entry ∈ all,
            column (row entry) = column other ∧ id (row entry) = id other := by
          intro other hother
          rw [hadded] at hother
          rcases List.mem_append.mp hother with hold | hnew
          · exact hknown other hold
          · obtain rfl := List.mem_singleton.mp hnew
            exact ⟨entry, hentries.1, rfl, rfl⟩
        obtain ⟨hstay, hids⟩ := ih hentries.2 hmiddle hrest
        rw [hadded] at hstay
        refine ⟨fun other hother => hstay other (List.mem_append_left _ hother),
          List.forall_mem_cons.mpr ⟨⟨row entry, hstay _ (by simp), rfl⟩, hids⟩⟩

theorem fills_unlessExists {table : Table ρ}
    (hstep : ∀ entry, step entry = unlessExists
      (fun database => (table.rows database).any fun other => column other = column (row entry))
      (table.insert (row entry))) :
    Fills (fun session => table.rows session.database) column row step := by
  intro entry session counted session' hcall
  rw [hstep, unlessExists] at hcall
  split at hcall
  · rename_i hpresent
    obtain ⟨-, rfl⟩ := Prod.mk.inj hcall
    exact Or.inl ⟨rfl, by simpa using hpresent⟩
  · obtain ⟨_, middle, hinserted, hcounted⟩ := Effect.bind_eq_ok_iff.mp hcall
    obtain ⟨-, rfl⟩ := Prod.mk.inj hcounted
    obtain ⟨-, -, rfl⟩ := table.insert_eq_ok_iff.mp hinserted
    exact Or.inr (table.rows_withRows _ _)

end Filling

section Restoring

variable {host : Host} {payload : BackupPayload}

theorem fills_restoreCert (host : Host) :
    Fills (fun session => session.database.certs) (·.fingerprint) restoredCert
      (restoreCert host) := by
  intro entry session counted session' hcall
  rw [restoreCert, unlessExists] at hcall
  split at hcall
  · rename_i hpresent
    obtain ⟨-, rfl⟩ := Prod.mk.inj hcall
    exact Or.inl ⟨rfl, by simpa [restoredCert, certRow] using hpresent⟩
  · obtain ⟨_, middle, hinserted, hcounted⟩ := Effect.bind_eq_ok_iff.mp hcall
    obtain ⟨-, rfl⟩ := Prod.mk.inj hcounted
    obtain ⟨-, rfl⟩ := of_insertCertAndKey_eq_ok hinserted
    exact Or.inr rfl

theorem spares_insertCertAndKey (host : Host) (entry : BackupCert) :
    Spares (fun _ => True) (insertCertAndKey host entry) := by
  intro session _ hfailed
  rw [insertCertAndKey] at hfailed
  rcases Effect.bind_fst_eq_err_iff.mp hfailed with hnow | ⟨certDer, first, hlift, hfailed⟩
  · rw [Effect.lift, Outcome.mapErr_eq_err_iff] at hnow
    obtain ⟨error, -, herror⟩ := hnow
    cases herror
  rcases Effect.bind_fst_eq_err_iff.mp hfailed with hnow | ⟨_, stored, hcert, hfailed⟩
  · exact @spares_insert _ (fun _ => True) certs _ (fun _ _ => rfl) first trivial hnow
  rcases Effect.bind_fst_eq_err_iff.mp hfailed with hnow | ⟨id, drawn, hid, hfailed⟩
  · cases hnow
  obtain ⟨-, -, rfl⟩ := certs.insert_eq_ok_iff.mp hcert
  obtain ⟨-, rfl⟩ := Prod.mk.inj hid
  -- The key belongs to the certificate that has just been inserted.
  refine @spares_insert _ (fun other => certRow entry certDer ∈ other.database.certs) keys _ ?_ _
    ?_ hfailed
  · intro other hother
    simp only [keys, keyRow, List.any_eq_true, decide_eq_true_eq]
    exact ⟨certRow entry certDer, hother, rfl⟩
  · simp [certs, Table.append]

/-- The ids of the payload that others refer to are in the tables. -/
structure Supplied (payload : BackupPayload) (session : Session) : Prop where
  certs : ∀ entry ∈ payload.certs, ∃ row ∈ session.database.certs, row.id = entry.id
  sshKeys : ∀ entry ∈ payload.sshKeys, ∃ row ∈ session.database.sshKeys, row.id = entry.id
  apps : ∀ entry ∈ payload.apps, ∃ row ∈ session.database.apps, row.id = entry.id

theorem referencesApp_of_supplied {session : Session} (hsupplied : Supplied payload session)
    {appId : Option String}
    (happ : ∀ id, appId = some id → ∃ app ∈ payload.apps, app.id = id) :
    referencesApp session.database appId = true := by
  rw [referencesApp, Option.all_eq_true]
  intro id hid
  obtain ⟨entry, hentry, rfl⟩ := happ id hid
  simpa using hsupplied.apps entry hentry

theorem preserves_restoreRoute (entry : BackupRoute) :
    Effect.Preserves (restoreRoute entry) (Supplied payload) := by
  apply Effect.Preserves.bind
  · exact Table.preserves_insertOrIgnore fun _ hsupplied => { hsupplied with }
  · intro _
    exact Effect.preserves_of_unchanged fun _ => rfl

theorem preserves_restoreSshRoute (entry : BackupSshRoute) :
    Effect.Preserves (restoreSshRoute entry) (Supplied payload) := by
  apply Effect.Preserves.bind
  · exact Table.preserves_insertOrIgnore fun _ hsupplied => { hsupplied with }
  · intro _
    exact Effect.preserves_of_unchanged fun _ => rfl

theorem spares_restoreRoute (hclosed : Closed payload) {entry : BackupRoute}
    (hentry : entry ∈ payload.routes) : Spares (Supplied payload) (restoreRoute entry) := by
  apply Spares.bind
  · apply spares_insertOrIgnore
    intro session hsupplied
    obtain ⟨cert, hcert, hid⟩ := hclosed.routeCerts entry hentry
    have hrow := hsupplied.certs cert hcert
    rw [hid] at hrow
    simp only [routes, routeRow, Bool.and_eq_true]
    exact ⟨by simpa using hrow, referencesApp_of_supplied hsupplied
      (hclosed.routeApps entry hentry)⟩
  · exact Table.preserves_insertOrIgnore fun _ hsupplied => { hsupplied with }
  · intro _ session _ hfailed
    cases hfailed

theorem spares_restoreSshRoute (hclosed : Closed payload) {entry : BackupSshRoute}
    (hentry : entry ∈ payload.sshRoutes) : Spares (Supplied payload) (restoreSshRoute entry) := by
  apply Spares.bind
  · apply spares_insertOrIgnore
    intro session hsupplied
    obtain ⟨key, hkey, hid⟩ := hclosed.sshRouteKeys entry hentry
    have hrow := hsupplied.sshKeys key hkey
    rw [hid] at hrow
    simp only [sshRoutes, sshRouteRow, Bool.and_eq_true]
    exact ⟨by simpa using hrow, referencesApp_of_supplied hsupplied
      (hclosed.sshRouteApps entry hentry)⟩
  · exact Table.preserves_insertOrIgnore fun _ hsupplied => { hsupplied with }
  · intro _ session _ hfailed
    cases hfailed

theorem preserves_restoreCert {invariant : Session → Prop} (entry : BackupCert)
    (hcert : ∀ row session, invariant session → invariant (certs.append row session))
    (hkey : ∀ row session, invariant session → invariant (keys.append row session))
    (hdrawn : ∀ session, invariant session →
      invariant { session with drawn := session.drawn + 1 }) :
    Effect.Preserves (restoreCert host entry) invariant := by
  apply preserves_unlessExists
  intro session result session' hsession hcall
  obtain ⟨-, rfl⟩ := of_insertCertAndKey_eq_ok hcall
  rw [addCert]
  have hstored := hcert (restoredCert entry) session hsession
  exact hkey _ _ (hdrawn _ hstored)

section Loads

variable {session session' : Session} {counted : Nat}

theorem of_load_caCerts {entries : List BackupCaCert}
    (hrun : loadAll restoreCaCert entries session = (.ok counted, session')) :
    session'.database.certs = session.database.certs ∧
      session'.database.sshKeys = session.database.sshKeys ∧
        session'.database.apps = session.database.apps := by
  refine @preserves_loadAll _ _ _ restoreCaCert (fun other : Session =>
    other.database.certs = session.database.certs ∧
      other.database.sshKeys = session.database.sshKeys ∧
        other.database.apps = session.database.apps) ?_ entries session counted session'
    ⟨rfl, rfl, rfl⟩ hrun
  intro entry
  apply preserves_unlessExists
  exact Table.preserves_insert fun _ h => h

theorem of_load_certs {entries : List BackupCert}
    (hrun : loadAll (restoreCert host) entries session = (.ok counted, session')) :
    session'.database.sshKeys = session.database.sshKeys ∧
      session'.database.apps = session.database.apps := by
  refine @preserves_loadAll _ _ _ (restoreCert host) (fun other : Session =>
    other.database.sshKeys = session.database.sshKeys ∧
      other.database.apps = session.database.apps) ?_ entries session counted session'
    ⟨rfl, rfl⟩ hrun
  intro entry
  exact preserves_restoreCert entry (fun _ _ h => h) (fun _ _ h => h) fun _ h => h

theorem of_load_sshKeys {entries : List BackupSshKey}
    (hrun : loadAll restoreSshKey entries session = (.ok counted, session')) :
    session'.database.certs = session.database.certs ∧
      session'.database.apps = session.database.apps := by
  refine @preserves_loadAll _ _ _ restoreSshKey (fun other : Session =>
    other.database.certs = session.database.certs ∧
      other.database.apps = session.database.apps) ?_ entries session counted session'
    ⟨rfl, rfl⟩ hrun
  intro entry
  apply preserves_unlessExists
  exact Table.preserves_insert fun _ h => h

theorem of_load_apps {entries : List BackupApp}
    (hrun : loadAll restoreApp entries session = (.ok counted, session')) :
    session'.database.certs = session.database.certs ∧
      session'.database.sshKeys = session.database.sshKeys := by
  refine @preserves_loadAll _ _ _ restoreApp (fun other : Session =>
    other.database.certs = session.database.certs ∧
      other.database.sshKeys = session.database.sshKeys) ?_ entries session counted session'
    ⟨rfl, rfl⟩ hrun
  intro entry
  apply preserves_unlessExists
  exact Table.preserves_insert fun _ h => h

theorem certIds_of_load (hconsistent : Consistent payload) (hnone : session.database.certs = [])
    (hrun : loadAll (restoreCert host) payload.certs session = (.ok counted, session')) :
    ∀ entry ∈ payload.certs, ∃ row ∈ session'.database.certs, row.id = entry.id :=
  (@ids_of_loadAll _ _ _ _ Cert.id _ _ (fills_restoreCert host) payload.certs payload.certs
    (fun _ h => h) hconsistent.certs _ _ _ (by simp [hnone]) hrun).2

theorem sshKeyIds_of_load (hnone : session.database.sshKeys = [])
    (hrun : loadAll restoreSshKey payload.sshKeys session = (.ok counted, session')) :
    ∀ entry ∈ payload.sshKeys, ∃ row ∈ session'.database.sshKeys, row.id = entry.id :=
  (@ids_of_loadAll _ _ _ _ SshKeyRow.id _ _
    (@fills_unlessExists _ _ SshKeyRow.id sshKeyRow restoreSshKey sshKeys fun _ => rfl)
    payload.sshKeys payload.sshKeys (fun _ h => h) (fun _ _ _ _ h => h) _ _ _
    (by simp [sshKeys, hnone]) hrun).2

theorem appIds_of_load (hconsistent : Consistent payload) (hnone : session.database.apps = [])
    (hrun : loadAll restoreApp payload.apps session = (.ok counted, session')) :
    ∀ entry ∈ payload.apps, ∃ row ∈ session'.database.apps, row.id = entry.id :=
  (@ids_of_loadAll _ _ _ _ App.id _ _
    (@fills_unlessExists _ _ App.exePath appRow restoreApp apps fun _ => rfl)
    payload.apps payload.apps (fun _ h => h) hconsistent.apps _ _ _ (by simp [apps, hnone])
    hrun).2

end Loads

/-- Loading the four tables that others refer to, in their order, supplies every id: each loop
finds its own table as it was at the start, and leaves the earlier ones alone. -/
theorem supplied_of_loads (hconsistent : Consistent payload)
    {first afterCaCerts afterCerts afterSshKeys afterApps : Session} {n m k l : Nat}
    (hcerts : first.database.certs = []) (hsshKeys : first.database.sshKeys = [])
    (happs : first.database.apps = [])
    (hcaCertsRun : loadAll restoreCaCert payload.caCerts first = (.ok n, afterCaCerts))
    (hcertsRun : loadAll (restoreCert host) payload.certs afterCaCerts = (.ok m, afterCerts))
    (hsshKeysRun : loadAll restoreSshKey payload.sshKeys afterCerts = (.ok k, afterSshKeys))
    (happsRun : loadAll restoreApp payload.apps afterSshKeys = (.ok l, afterApps)) :
    Supplied payload afterApps := by
  obtain ⟨hcerts₁, hsshKeys₁, happs₁⟩ := of_load_caCerts hcaCertsRun
  obtain ⟨hsshKeys₂, happs₂⟩ := of_load_certs hcertsRun
  obtain ⟨hcerts₃, happs₃⟩ := of_load_sshKeys hsshKeysRun
  obtain ⟨hcerts₄, hsshKeys₄⟩ := of_load_apps happsRun
  constructor
  · rw [hcerts₄, hcerts₃]
    exact certIds_of_load hconsistent (hcerts₁.trans hcerts) hcertsRun
  · rw [hsshKeys₄]
    exact sshKeyIds_of_load (hsshKeys₂.trans (hsshKeys₁.trans hsshKeys)) hsshKeysRun
  · exact appIds_of_load hconsistent (happs₃.trans (happs₂.trans (happs₁.trans happs))) happsRun

/-- A closed payload restores into an empty store without a failure of a foreign key. -/
theorem restorePayload_fst_ne_foreignKeyFailure (hclosed : Closed payload)
    (hconsistent : Consistent payload) {target : Database} (hempty : Empty target) (drawn : Nat) :
    (restorePayload host payload { database := target, drawn := drawn }).1 ≠
      .err Table.foreignKeyFailure := by
  intro hfailed
  rw [restorePayload] at hfailed
  have hunreferring {ρ : Type} {table : Table ρ} {row : ρ}
      (hreferences : ∀ database, table.references database row = true) :
      Spares (fun _ => True) (table.insert row) :=
    spares_insert fun session _ => hreferences session.database
  have htrivially {α : Type} (call : Effect Session StoreError α) :
      Effect.Preserves call fun _ => True := fun _ _ _ _ _ => trivial
  rcases Effect.bind_fst_eq_err_iff.mp hfailed with hnow | ⟨n, afterCaCerts, hcaCerts, hfailed⟩
  · exact spares_loadAll (fun entry _ => spares_unlessExists _ (hunreferring fun _ => rfl))
      (fun _ => htrivially _) _ trivial hnow
  rcases Effect.bind_fst_eq_err_iff.mp hfailed with hnow | ⟨m, afterCerts, hcerts, hfailed⟩
  · exact spares_loadAll (fun entry _ => spares_unlessExists _ (spares_insertCertAndKey host entry))
      (fun _ => htrivially _) _ trivial hnow
  rcases Effect.bind_fst_eq_err_iff.mp hfailed with hnow | ⟨k, afterSshKeys, hsshKeys, hfailed⟩
  · exact spares_loadAll (fun entry _ => spares_unlessExists _ (hunreferring fun _ => rfl))
      (fun _ => htrivially _) _ trivial hnow
  rcases Effect.bind_fst_eq_err_iff.mp hfailed with hnow | ⟨l, afterApps, happs, hfailed⟩
  · exact spares_loadAll (fun entry _ => spares_unlessExists _ (hunreferring fun _ => rfl))
      (fun _ => htrivially _) _ trivial hnow
  have hsupplied : Supplied payload afterApps :=
    supplied_of_loads hconsistent hempty.certs hempty.sshKeys hempty.apps hcaCerts hcerts hsshKeys
      happs
  refine Spares.bind (spares_loadAll (fun entry hentry => spares_restoreRoute hclosed hentry)
    preserves_restoreRoute) (preserves_loadAll preserves_restoreRoute _) ?_ afterApps hsupplied
    hfailed
  intro routeCount
  refine Spares.bind (spares_loadAll (fun entry hentry => spares_restoreSshRoute hclosed hentry)
    preserves_restoreSshRoute) (preserves_loadAll preserves_restoreSshRoute _) ?_
  intro sshRouteCount session _ hfailed
  rcases Effect.bind_fst_eq_err_iff.mp hfailed with hnow | ⟨id, drawn', -, hfailed⟩
  · cases hnow
  rcases Effect.bind_fst_eq_err_iff.mp hfailed with hnow | ⟨_, stored, -, hfailed⟩
  · exact hunreferring (fun _ => rfl) _ trivial hnow
  · cases hfailed

end Restoring

end TrafficCone.ForeignKeyFailures
