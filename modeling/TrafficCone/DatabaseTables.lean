import TrafficCone.StoreModels

namespace TrafficCone.DatabaseTables

open TrafficCone.Outcomes
open TrafficCone.StoreModels

/-- An open connection: the database, and how many random ids have been drawn. -/
structure Session where
  database : Database
  drawn : Nat

/-- A table of the schema: its columns that are unique, the foreign keys of a row,
and where its rows stand in the database. No table refers to itself. -/
structure Table (ρ : Type) where
  name : String
  unique : List (String × (ρ → String))
  references : Database → ρ → Bool
  rows : Database → List ρ
  withRows : Database → List ρ → Database
  rows_withRows : ∀ database found, rows (withRows database found) = found
  withRows_rows : ∀ database, withRows database (rows database) = database
  withRows_withRows : ∀ database found other,
    withRows (withRows database found) other = withRows database other
  references_withRows : ∀ database found row,
    references (withRows database found) row = references database row

def certs : Table Cert where
  name := "certs"
  unique := [("id", (·.id)), ("fingerprint", (·.fingerprint))]
  references _ _ := true
  rows := (·.certs)
  withRows database found := { database with certs := found }
  rows_withRows _ _ := rfl
  withRows_rows _ := rfl
  withRows_withRows _ _ _ := rfl
  references_withRows _ _ _ := rfl

def keys : Table KeyRow where
  name := "keys"
  unique := [("id", (·.id))]
  references database key := database.certs.any fun cert => cert.id = key.certId
  rows := (·.keys)
  withRows database found := { database with keys := found }
  rows_withRows _ _ := rfl
  withRows_rows _ := rfl
  withRows_withRows _ _ _ := rfl
  references_withRows _ _ _ := rfl

def sshKeys : Table SshKeyRow where
  name := "ssh_keys"
  unique := [("id", (·.id))]
  references _ _ := true
  rows := (·.sshKeys)
  withRows database found := { database with sshKeys := found }
  rows_withRows _ _ := rfl
  withRows_rows _ := rfl
  withRows_withRows _ _ _ := rfl
  references_withRows _ _ _ := rfl

def caCerts : Table CaCert where
  name := "ca_certs"
  unique := [("id", (·.id)), ("fingerprint", (·.fingerprint))]
  references _ _ := true
  rows := (·.caCerts)
  withRows database found := { database with caCerts := found }
  rows_withRows _ _ := rfl
  withRows_rows _ := rfl
  withRows_withRows _ _ _ := rfl
  references_withRows _ _ _ := rfl

def apps : Table App where
  name := "apps"
  unique := [("id", (·.id)), ("exe_path", (·.exePath))]
  references _ _ := true
  rows := (·.apps)
  withRows database found := { database with apps := found }
  rows_withRows _ _ := rfl
  withRows_rows _ := rfl
  withRows_withRows _ _ _ := rfl
  references_withRows _ _ _ := rfl

def referencesApp (database : Database) (appId : Option String) : Bool :=
  appId.all fun id => database.apps.any fun app => app.id = id

def routes : Table RouteRow where
  name := "routes"
  unique := [("id", (·.id))]
  references database route :=
    (database.certs.any fun cert => cert.id = route.certId) && referencesApp database route.appId
  rows := (·.routes)
  withRows database found := { database with routes := found }
  rows_withRows _ _ := rfl
  withRows_rows _ := rfl
  withRows_withRows _ _ _ := rfl
  references_withRows _ _ _ := rfl

def sshRoutes : Table SshRoute where
  name := "ssh_routes"
  unique := [("id", (·.id))]
  references database route :=
    (database.sshKeys.any fun key => key.id = route.sshKeyId) &&
      referencesApp database route.appId
  rows := (·.sshRoutes)
  withRows database found := { database with sshRoutes := found }
  rows_withRows _ _ := rfl
  withRows_rows _ := rfl
  withRows_withRows _ _ _ := rfl
  references_withRows _ _ _ := rfl

def integrity : Table IntegrityRecord where
  name := "integrity"
  unique := [("id", (·.id))]
  references _ _ := true
  rows := (·.integrity)
  withRows database found := { database with integrity := found }
  rows_withRows _ _ := rfl
  withRows_rows _ := rfl
  withRows_withRows _ _ _ := rfl
  references_withRows _ _ _ := rfl

def auditLog : Table AuditEntry where
  name := "audit_log"
  unique := [("id", (·.id))]
  references _ _ := true
  rows := (·.auditLog)
  withRows database found := { database with auditLog := found }
  rows_withRows _ _ := rfl
  withRows_rows _ := rfl
  withRows_withRows _ _ _ := rfl
  references_withRows _ _ _ := rfl

namespace Table

variable {ρ : Type} (table : Table ρ)

/-- The first unique column in which another row has the value of this one. -/
def conflict (database : Database) (row : ρ) : Option String :=
  (table.unique.find? fun column =>
    (table.rows database).any fun other => column.2 other = column.2 row).map (·.1)

def append (row : ρ) (session : Session) : Session :=
  { session with
    database := table.withRows session.database (table.rows session.database ++ [row]) }

def foreignKeyFailure : StoreError := .database "FOREIGN KEY constraint failed"

def insert (row : ρ) : Effect Session StoreError Unit := fun session =>
  match table.conflict session.database row with
  | some column =>
      (.err (.database ("UNIQUE constraint failed: " ++ table.name ++ "." ++ column)), session)
  | none =>
      if table.references session.database row then (.ok (), table.append row session)
      else (.err foreignKeyFailure, session)

/-- `INSERT OR IGNORE INTO`: a row that is not unique is passed over, but a missing
reference is an error. -/
def insertOrIgnore (row : ρ) : Effect Session StoreError Unit := fun session =>
  match table.conflict session.database row with
  | some _ => (.ok (), session)
  | none =>
      if table.references session.database row then (.ok (), table.append row session)
      else (.err foreignKeyFailure, session)

def clashes (row other : ρ) : Bool :=
  table.unique.any fun column => column.2 other = column.2 row

/-- `INSERT OR REPLACE INTO`, for a table to which no other refers: the rows with which
the new one would not be unique are deleted. -/
def insertOrReplace (row : ρ) : Effect Session StoreError Unit := fun session =>
  if table.references session.database row then
    let kept := (table.rows session.database).filter fun other => !table.clashes row other
    (.ok (),
      table.append row { session with database := table.withRows session.database kept })
  else (.err foreignKeyFailure, session)

/-- The rows satisfy the constraints that the schema declares. -/
def Sound (database : Database) : Prop :=
  (∀ column ∈ table.unique, ((table.rows database).map column.2).Nodup) ∧
    ∀ row ∈ table.rows database, table.references database row = true

theorem conflict_eq_none_iff {database : Database} {row : ρ} :
    table.conflict database row = none ↔
      ∀ column ∈ table.unique, column.2 row ∉ (table.rows database).map column.2 := by
  simp [conflict, List.find?_eq_none]

theorem insert_of_refused {row : ρ} {session : Session}
    (h : ¬ (table.conflict session.database row = none ∧
      table.references session.database row = true)) :
    ∃ error, table.insert row session = (.err error, session) := by
  unfold insert
  cases hunique : table.conflict session.database row with
  | some column => exact ⟨_, rfl⟩
  | none => exact ⟨foreignKeyFailure, if_neg fun hreferences => h ⟨hunique, hreferences⟩⟩

theorem insert_of_admitted {row : ρ} {session : Session}
    (hunique : table.conflict session.database row = none)
    (hreferences : table.references session.database row = true) :
    table.insert row session = (.ok (), table.append row session) := by
  simp [insert, hunique, hreferences]

theorem insert_eq_ok_iff {row : ρ} {session session' : Session} {result : Unit} :
    table.insert row session = (.ok result, session') ↔
      table.conflict session.database row = none ∧
        table.references session.database row = true ∧ session' = table.append row session := by
  by_cases h : table.conflict session.database row = none ∧
      table.references session.database row = true
  · rw [table.insert_of_admitted h.1 h.2]
    simp [h, eq_comm]
  · obtain ⟨error, hrefused⟩ := table.insert_of_refused h
    rw [hrefused, ← and_assoc]
    simp [h]

theorem insert_snd_database (row : ρ) (session : Session) :
    (table.insert row session).2.database =
      if table.conflict session.database row = none ∧
          table.references session.database row = true then
        (table.append row session).database
      else session.database := by
  split
  · rename_i h
    rw [table.insert_of_admitted h.1 h.2]
  · rename_i h
    obtain ⟨error, hrefused⟩ := table.insert_of_refused h
    rw [hrefused]

theorem insertOrIgnore_snd_database (row : ρ) (session : Session) :
    (table.insertOrIgnore row session).2.database =
      if table.conflict session.database row = none ∧
          table.references session.database row = true then
        (table.append row session).database
      else session.database := by
  rw [insertOrIgnore]
  cases table.conflict session.database row <;>
    cases table.references session.database row <;> rfl

theorem of_insertOrIgnore_eq_ok {row : ρ} {session session' : Session} {result : Unit}
    (h : table.insertOrIgnore row session = (.ok result, session')) :
    session' = session ∨ session' = table.append row session := by
  rw [insertOrIgnore] at h
  cases hunique : table.conflict session.database row with
  | some column =>
      rw [hunique] at h
      exact Or.inl (Prod.mk.inj h).2.symm
  | none =>
      rw [hunique] at h
      cases hreferences : table.references session.database row with
      | true =>
          rw [hreferences] at h
          exact Or.inr (Prod.mk.inj h).2.symm
      | false =>
          rw [hreferences] at h
          cases (Prod.mk.inj h).1

variable {table}

theorem sound_withRows_append {row : ρ} {database : Database} (hsound : table.Sound database)
    (hunique : table.conflict database row = none)
    (hreferences : table.references database row = true) :
    table.Sound (table.withRows database (table.rows database ++ [row])) := by
  rw [conflict_eq_none_iff] at hunique
  constructor
  · intro column hcolumn
    rw [table.rows_withRows, List.map_append]
    refine List.nodup_append.mpr ⟨hsound.1 column hcolumn, by simp, ?_⟩
    intro value hvalue other hother h
    obtain rfl : other = column.2 row := List.mem_singleton.mp hother
    exact hunique column hcolumn (h ▸ hvalue)
  · intro other hother
    rw [table.rows_withRows] at hother
    rw [table.references_withRows]
    rcases List.mem_append.mp hother with hold | hnew
    · exact hsound.2 other hold
    · rw [List.mem_singleton.mp hnew]
      exact hreferences

theorem preserves_insert {invariant : Session → Prop} {row : ρ}
    (happend : ∀ session, invariant session → invariant (table.append row session)) :
    Effect.Preserves (table.insert row) invariant := by
  intro session result session' hsession hcall
  obtain ⟨-, -, rfl⟩ := table.insert_eq_ok_iff.mp hcall
  exact happend session hsession

theorem preserves_insertOrIgnore {invariant : Session → Prop} {row : ρ}
    (happend : ∀ session, invariant session → invariant (table.append row session)) :
    Effect.Preserves (table.insertOrIgnore row) invariant := by
  intro session result session' hsession hcall
  rcases table.of_insertOrIgnore_eq_ok hcall with rfl | rfl
  · exact hsession
  · exact happend session hsession

/-- Rows may go, as long as what the others refer to stays. -/
theorem sound_of_sublist {database other : Database} (hsound : table.Sound database)
    (hrows : (table.rows other).Sublist (table.rows database))
    (hreferences : ∀ row ∈ table.rows other,
      table.references database row = true → table.references other row = true) :
    table.Sound other := by
  constructor
  · intro column hcolumn
    exact (hsound.1 column hcolumn).sublist (hrows.map column.2)
  · intro row hrow
    exact hreferences row hrow (hsound.2 row (hrows.subset hrow))

end Table

structure WellFormed (database : Database) : Prop where
  certs : certs.Sound database
  keys : keys.Sound database
  sshKeys : sshKeys.Sound database
  caCerts : caCerts.Sound database
  apps : apps.Sound database
  routes : routes.Sound database
  sshRoutes : sshRoutes.Sound database
  integrity : integrity.Sound database
  auditLog : auditLog.Sound database

theorem wellFormed_empty : WellFormed {} where
  certs := ⟨by simp [certs], by simp [certs]⟩
  keys := ⟨by simp [keys], by simp [keys]⟩
  sshKeys := ⟨by simp [sshKeys], by simp [sshKeys]⟩
  caCerts := ⟨by simp [caCerts], by simp [caCerts]⟩
  apps := ⟨by simp [apps], by simp [apps]⟩
  routes := ⟨by simp [routes], by simp [routes]⟩
  sshRoutes := ⟨by simp [sshRoutes], by simp [sshRoutes]⟩
  integrity := ⟨by simp [integrity], by simp [integrity]⟩
  auditLog := ⟨by simp [auditLog], by simp [auditLog]⟩

def OneKeyEach (database : Database) : Prop :=
  ∀ cert ∈ database.certs,
    ∃ key, (database.keys.filter fun key => key.certId = cert.id) = [key]

end TrafficCone.DatabaseTables
