import Mathlib.Logic.Function.Basic
import TrafficCone.CrashConditions
import TrafficCone.DatabaseTables

namespace TrafficCone.SchemaMigration

open TrafficCone.Outcomes
open TrafficCone.StoreModels
open TrafficCone.StatementFailures
open TrafficCone.CrashConditions

section Declarations

inductive ColumnType where
  | text
  | blob
  | integer
  deriving DecidableEq, Repr

inductive DeleteAction where
  | cascade
  | setNull
  deriving DecidableEq, Repr

inductive ColumnConstraint where
  | primaryKey
  | notNull
  | unique
  | references (table column : String) (onDelete : DeleteAction)
  | default (value : Int)
  deriving DecidableEq, Repr

structure Column where
  name : String
  type : ColumnType
  constraints : List ColumnConstraint
  deriving DecidableEq, Repr

structure Declaration where
  name : String
  columns : List Column
  deriving DecidableEq, Repr

def schemaVersion : Declaration where
  name := "schema_version"
  columns := [⟨"version", .integer, [.notNull]⟩]

def certs : Declaration where
  name := "certs"
  columns := [
    ⟨"id", .text, [.primaryKey]⟩,
    ⟨"label", .text, [.notNull]⟩,
    ⟨"cert_der", .blob, [.notNull]⟩,
    ⟨"fingerprint", .text, [.notNull, .unique]⟩,
    ⟨"subject", .text, [.notNull]⟩,
    ⟨"issuer", .text, [.notNull]⟩,
    ⟨"not_before", .integer, [.notNull]⟩,
    ⟨"not_after", .integer, [.notNull]⟩,
    ⟨"created_at", .integer, [.notNull]⟩]

def keys : Declaration where
  name := "keys"
  columns := [
    ⟨"id", .text, [.primaryKey]⟩,
    ⟨"cert_id", .text, [.notNull, .references "certs" "id" .cascade]⟩,
    ⟨"algorithm", .text, [.notNull]⟩,
    ⟨"key_enc", .blob, [.notNull]⟩,
    ⟨"key_salt", .blob, [.notNull]⟩,
    ⟨"key_nonce", .blob, [.notNull]⟩]

def sshKeys : Declaration where
  name := "ssh_keys"
  columns := [
    ⟨"id", .text, [.primaryKey]⟩,
    ⟨"label", .text, [.notNull]⟩,
    ⟨"public_key", .text, [.notNull]⟩,
    ⟨"algorithm", .text, [.notNull]⟩,
    ⟨"key_enc", .blob, [.notNull]⟩,
    ⟨"key_salt", .blob, [.notNull]⟩,
    ⟨"key_nonce", .blob, [.notNull]⟩,
    ⟨"created_at", .integer, [.notNull]⟩]

def caCerts : Declaration where
  name := "ca_certs"
  columns := [
    ⟨"id", .text, [.primaryKey]⟩,
    ⟨"label", .text, [.notNull]⟩,
    ⟨"cert_pem", .text, [.notNull]⟩,
    ⟨"fingerprint", .text, [.notNull, .unique]⟩,
    ⟨"subject", .text, [.notNull]⟩,
    ⟨"not_after", .integer, [.notNull]⟩,
    ⟨"system_file", .text, []⟩,
    ⟨"created_at", .integer, [.notNull]⟩]

def apps : Declaration where
  name := "apps"
  columns := [
    ⟨"id", .text, [.primaryKey]⟩,
    ⟨"label", .text, [.notNull]⟩,
    ⟨"exe_path", .text, [.notNull, .unique]⟩,
    ⟨"exe_hash", .text, [.notNull]⟩,
    ⟨"registered_at", .integer, [.notNull]⟩]

def routes : Declaration where
  name := "routes"
  columns := [
    ⟨"id", .text, [.primaryKey]⟩,
    ⟨"cert_id", .text, [.notNull, .references "certs" "id" .cascade]⟩,
    ⟨"app_id", .text, [.references "apps" "id" .setNull]⟩,
    ⟨"match_type", .text, [.notNull]⟩,
    ⟨"pattern", .text, []⟩,
    ⟨"require_both", .integer, [.notNull, .default 0]⟩,
    ⟨"priority", .integer, [.notNull, .default 0]⟩,
    ⟨"created_at", .integer, [.notNull]⟩]

def sshRoutes : Declaration where
  name := "ssh_routes"
  columns := [
    ⟨"id", .text, [.primaryKey]⟩,
    ⟨"ssh_key_id", .text, [.notNull, .references "ssh_keys" "id" .cascade]⟩,
    ⟨"app_id", .text, [.references "apps" "id" .setNull]⟩,
    ⟨"host_pattern", .text, []⟩,
    ⟨"created_at", .integer, [.notNull]⟩]

def integrity : Declaration where
  name := "integrity"
  columns := [
    ⟨"id", .text, [.primaryKey]⟩,
    ⟨"component", .text, [.notNull]⟩,
    ⟨"path", .text, [.notNull]⟩,
    ⟨"sha256", .text, [.notNull]⟩,
    ⟨"version", .text, [.notNull]⟩,
    ⟨"recorded_at", .integer, [.notNull]⟩,
    ⟨"verified_at", .integer, []⟩]

def auditLog : Declaration where
  name := "audit_log"
  columns := [
    ⟨"id", .text, [.primaryKey]⟩,
    ⟨"event_type", .text, [.notNull]⟩,
    ⟨"cert_id", .text, []⟩,
    ⟨"ssh_key_id", .text, []⟩,
    ⟨"app_id", .text, []⟩,
    ⟨"detail", .text, []⟩,
    ⟨"occurred_at", .integer, [.notNull]⟩]

/-- The tables of the application, in the order in which they are created. -/
def applicationTables : List Declaration :=
  [certs, keys, sshKeys, caCerts, apps, routes, sshRoutes, integrity, auditLog]

theorem eq_of_name_eq : ∀ first ∈ applicationTables, ∀ second ∈ applicationTables,
    first.name = second.name → first = second := by
  decide

theorem name_ne_schemaVersion : ∀ declaration ∈ applicationTables,
    declaration.name ≠ schemaVersion.name := by
  decide

/-- The columns whose values the declaration has be unique. -/
def uniqueColumns (declaration : Declaration) : List String :=
  (declaration.columns.filter fun column =>
    column.constraints.contains .primaryKey || column.constraints.contains .unique).map (·.name)

/-- The tables of rows have the names and the unique columns that are declared. -/
theorem uniqueColumns_applicationTables :
    applicationTables.map (fun declaration => (declaration.name, uniqueColumns declaration)) =
      [(DatabaseTables.certs.name, DatabaseTables.certs.unique.map (·.1)),
        (DatabaseTables.keys.name, DatabaseTables.keys.unique.map (·.1)),
        (DatabaseTables.sshKeys.name, DatabaseTables.sshKeys.unique.map (·.1)),
        (DatabaseTables.caCerts.name, DatabaseTables.caCerts.unique.map (·.1)),
        (DatabaseTables.apps.name, DatabaseTables.apps.unique.map (·.1)),
        (DatabaseTables.routes.name, DatabaseTables.routes.unique.map (·.1)),
        (DatabaseTables.sshRoutes.name, DatabaseTables.sshRoutes.unique.map (·.1)),
        (DatabaseTables.integrity.name, DatabaseTables.integrity.unique.map (·.1)),
        (DatabaseTables.auditLog.name, DatabaseTables.auditLog.unique.map (·.1))] := by
  decide

end Declarations

section Statements

inductive Value where
  | null
  | integer (value : Int)
  | text (value : String)
  | blob (value : Bytes)
  deriving DecidableEq, Repr

structure StoredTable where
  columns : List Column
  rows : List (List Value)
  deriving DecidableEq, Repr

/-- The tables of a database by their names. -/
abbrev Schema : Type := String → Option StoredTable

def createTableIfNotExists (declaration : Declaration) : Effect Schema String Unit := fun schema =>
  (.ok (), Function.update schema declaration.name
    (some ((schema declaration.name).getD { columns := declaration.columns, rows := [] })))

def noSuchTable : String := "no such table: schema_version"

/-- `INSERT INTO schema_version (version) SELECT 0 WHERE NOT EXISTS (...)`. -/
def insertVersion : Effect Schema String Unit := fun schema =>
  match schema schemaVersion.name with
  | none => (.err noSuchTable, schema)
  | some table =>
      (.ok (), if table.rows = [] then
        Function.update schema schemaVersion.name (some { table with rows := [[.integer 0]] })
      else schema)

/-- `SELECT version FROM schema_version`, of which the first row is read. -/
def queryVersion : Effect Schema String Int :=
  Effect.reads fun schema =>
    match schema schemaVersion.name with
    | none => .err noSuchTable
    | some table =>
        match table.rows with
        | [] => .err "Query returned no rows"
        | [.integer version] :: _ => .ok version
        | _ => .err "Invalid column type"

/-- `UPDATE schema_version SET version = 1`. -/
def updateVersion : Effect Schema String Unit := fun schema =>
  match schema schemaVersion.name with
  | none => (.err noSuchTable, schema)
  | some table =>
      (.ok (), Function.update schema schemaVersion.name
        (some { table with rows := table.rows.map fun _ => [.integer 1] }))

/-- The statements that do not come to be executed: a process that is interrupted behind a
statement fails at the next one. -/
abbrev Failures : Type := Nat → Option String

variable (failures : Failures)

def createAll : List Declaration → Effect (Attempt Schema) String Unit
  | [] => pure ()
  | declaration :: declarations => do
      issue failures (createTableIfNotExists declaration)
      createAll declarations

def migration001 : Effect (Attempt Schema) String Unit := createAll failures applicationTables

def migrate : Effect (Attempt Schema) String Unit := do
  issue failures (createTableIfNotExists schemaVersion)
  issue failures insertVersion
  let version ← issue failures queryVersion
  if version < 1 then do
    migration001 failures
    issue failures updateVersion
  else pure ()

/-- One run of `migrate`, on a database as it is. -/
def migrateOnce : Effect Schema String Unit := counted (migrate failures)

end Statements

section Invariant

def AtVersion (version : Int) (schema : Schema) : Prop :=
  schema schemaVersion.name =
    some { columns := schemaVersion.columns, rows := [[.integer version]] }

/-- The table is there with the columns and constraints that are declared. -/
def Created (declaration : Declaration) (schema : Schema) : Prop :=
  ∃ rows, schema declaration.name = some { columns := declaration.columns, rows := rows }

/-- What holds of a database between any two statements. -/
structure Recoverable (schema : Schema) : Prop where
  tables : ∀ declaration ∈ applicationTables,
    schema declaration.name = none ∨ Created declaration schema
  version : schema schemaVersion.name = none ∨
    schema schemaVersion.name = some { columns := schemaVersion.columns, rows := [] } ∨
    AtVersion 0 schema ∨ AtVersion 1 schema
  upgraded : AtVersion 1 schema → ∀ declaration ∈ applicationTables, Created declaration schema

/-- The application tables of the first database, with their rows, are those of the second. -/
def Kept (start schema : Schema) : Prop :=
  ∀ declaration ∈ applicationTables, ∀ table,
    start declaration.name = some table → schema declaration.name = some table

structure Safe (start schema : Schema) : Prop where
  recoverable : Recoverable schema
  kept : Kept start schema

/-- The tables that are declared, and the version they are declared for. -/
structure Migrated (start schema : Schema) : Prop where
  tables : ∀ declaration ∈ applicationTables, Created declaration schema
  version : AtVersion 1 schema
  kept : Kept start schema

theorem Safe.refl {schema : Schema} (h : Recoverable schema) : Safe schema schema :=
  ⟨h, fun _ _ _ htable => htable⟩

theorem Migrated.safe {start schema : Schema} (h : Migrated start schema) : Safe start schema where
  recoverable := {
    tables := fun declaration hmem => Or.inr (h.tables declaration hmem)
    version := Or.inr (Or.inr (Or.inr h.version))
    upgraded := fun _ => h.tables }
  kept := h.kept

/-- A database that differs in the version only. -/
theorem Safe.of_tables_eq {start schema after : Schema} (h : Safe start schema)
    (hsame : ∀ declaration ∈ applicationTables, after declaration.name = schema declaration.name)
    (hversion : after schemaVersion.name = none ∨
      after schemaVersion.name = some { columns := schemaVersion.columns, rows := [] } ∨
      AtVersion 0 after ∨ AtVersion 1 after)
    (hupgraded : AtVersion 1 after → ∀ declaration ∈ applicationTables,
      Created declaration schema) : Safe start after where
  recoverable := {
    tables := fun declaration hmem => by
      rw [Created, hsame declaration hmem]
      exact h.recoverable.tables declaration hmem
    version := hversion
    upgraded := fun hone declaration hmem => by
      rw [Created, hsame declaration hmem]
      exact hupgraded hone declaration hmem }
  kept := fun declaration hmem table htable => by
    rw [hsame declaration hmem]
    exact h.kept declaration hmem table htable

theorem update_schemaVersion {schema : Schema} {table : Option StoredTable} :
    ∀ declaration ∈ applicationTables,
      Function.update schema schemaVersion.name table declaration.name =
        schema declaration.name :=
  fun declaration hmem => Function.update_of_ne (name_ne_schemaVersion declaration hmem) _ _

end Invariant

section Steps

variable {start schema : Schema}

theorem createTable_self {declaration : Declaration} :
    (createTableIfNotExists declaration schema).2 declaration.name =
      some ((schema declaration.name).getD { columns := declaration.columns, rows := [] }) :=
  Function.update_self _ _ _

theorem createTable_of_none {declaration : Declaration} (h : schema declaration.name = none) :
    (createTableIfNotExists declaration schema).2 declaration.name =
      some { columns := declaration.columns, rows := [] } := by
  rw [createTable_self, h]
  rfl

theorem createTable_of_ne {declaration : Declaration} {name : String}
    (h : name ≠ declaration.name) :
    (createTableIfNotExists declaration schema).2 name = schema name :=
  Function.update_of_ne h _ _

theorem createTable_of_some {declaration : Declaration} {name : String} {table : StoredTable}
    (h : schema name = some table) :
    (createTableIfNotExists declaration schema).2 name = some table := by
  by_cases hname : name = declaration.name
  · rw [hname, createTable_self, ← hname, h]
    rfl
  · rw [createTable_of_ne hname, h]

theorem Created.createTable {first second : Declaration} (h : Created first schema) :
    Created first (createTableIfNotExists second schema).2 := by
  obtain ⟨rows, htable⟩ := h
  exact ⟨rows, createTable_of_some htable⟩

theorem createTable_created {declaration : Declaration}
    (h : schema declaration.name = none ∨ Created declaration schema) :
    Created declaration (createTableIfNotExists declaration schema).2 := by
  rcases h with hnone | hcreated
  · exact ⟨[], createTable_of_none hnone⟩
  · exact hcreated.createTable

theorem Safe.createTable (h : Safe start schema) {declaration : Declaration}
    (hmem : declaration ∈ applicationTables) :
    Safe start (createTableIfNotExists declaration schema).2 := by
  have hversion : (createTableIfNotExists declaration schema).2 schemaVersion.name =
      schema schemaVersion.name :=
    createTable_of_ne (name_ne_schemaVersion declaration hmem).symm
  constructor
  · constructor
    · intro other hother
      by_cases hsame : other.name = declaration.name
      · obtain rfl := eq_of_name_eq other hother declaration hmem hsame
        exact Or.inr (createTable_created (h.recoverable.tables other hmem))
      · rw [Created, createTable_of_ne hsame]
        exact h.recoverable.tables other hother
    · rw [AtVersion, AtVersion, hversion]
      exact h.recoverable.version
    · intro hone other hother
      rw [AtVersion, hversion] at hone
      exact (h.recoverable.upgraded hone other hother).createTable
  · intro other hother table htable
    exact createTable_of_some (h.kept other hother table htable)

/-- Behind its creation the table of the version is there, if without a row. -/
theorem Safe.createSchemaVersion (h : Safe start schema) :
    Safe start (createTableIfNotExists schemaVersion schema).2 ∧
      (createTableIfNotExists schemaVersion schema).2 schemaVersion.name ≠ none := by
  rcases hfound : schema schemaVersion.name with _ | table
  · have hempty := createTable_of_none hfound
    refine ⟨h.of_tables_eq update_schemaVersion (Or.inr (Or.inl hempty)) ?_, by simp [hempty]⟩
    intro hone
    rw [AtVersion, hempty] at hone
    simp at hone
  · have hsame : (createTableIfNotExists schemaVersion schema).2 = schema := by
      rw [createTableIfNotExists, hfound]
      exact Function.update_eq_self_iff.mpr hfound.symm
    rw [hsame]
    exact ⟨h, by simp [hfound]⟩

theorem Safe.insertVersion (h : Safe start schema) (hfound : schema schemaVersion.name ≠ none) :
    ∃ after, insertVersion schema = (.ok (), after) ∧ Safe start after ∧
      (AtVersion 0 after ∨ AtVersion 1 after) := by
  rcases h.recoverable.version with hnone | hempty | hversion
  · exact absurd hnone hfound
  · have hzero : AtVersion 0 (Function.update schema schemaVersion.name
        (some { columns := schemaVersion.columns, rows := [[.integer 0]] })) :=
      Function.update_self _ _ _
    refine ⟨_, by rw [SchemaMigration.insertVersion, hempty]; rfl, ?_, Or.inl hzero⟩
    refine h.of_tables_eq update_schemaVersion (Or.inr (Or.inr (Or.inl hzero))) ?_
    intro hone
    rw [AtVersion, hzero] at hone
    simp at hone
  · refine ⟨schema, ?_, h, hversion⟩
    rcases hversion with hzero | hone
    · rw [SchemaMigration.insertVersion, hzero]
      rfl
    · rw [SchemaMigration.insertVersion, hone]
      rfl

theorem queryVersion_of_atVersion {version : Int} (h : AtVersion version schema) :
    queryVersion schema = (.ok version, schema) := by
  rw [queryVersion, Effect.reads, h]

theorem updateVersion_of_atVersion (h : Safe start schema) (hzero : AtVersion 0 schema)
    (htables : ∀ declaration ∈ applicationTables, Created declaration schema) :
    ∃ after, updateVersion schema = (.ok (), after) ∧ Migrated start after := by
  have hone : AtVersion 1 (Function.update schema schemaVersion.name
      (some { columns := schemaVersion.columns, rows := [[.integer 1]] })) :=
    Function.update_self _ _ _
  have hsafe := h.of_tables_eq update_schemaVersion (Or.inr (Or.inr (Or.inr hone)))
    fun _ => htables
  refine ⟨_, by rw [updateVersion, hzero], ?_⟩
  exact ⟨hsafe.recoverable.upgraded hone, hone, hsafe.kept⟩

end Steps

section Runs

/-- A run that fails has been interrupted, and has left the database recoverable. -/
def Crashed (failures : Failures) (start : Schema) (error : String) (schema : Schema) : Prop :=
  (∃ number, failures number = some error) ∧ Safe start schema

variable {failures : Failures} {start : Schema}

/-- The rule of one statement, which does not fail by itself. -/
theorem meets_statement {α : Type} {statement : Effect Schema String α} {pre : Schema → Prop}
    {post : α → Schema → Prop} (hsafe : ∀ schema, pre schema → Safe start schema)
    (hstatement : ∀ schema, pre schema →
      ∃ value after, statement schema = (.ok value, after) ∧ post value after) :
    StatementsMeet (issue failures statement) pre post (Crashed failures start) := by
  apply (meets_of_ok hstatement).issue
  intro number error schema hfails hpre
  exact ⟨⟨number, hfails⟩, hsafe schema hpre⟩

/-- By induction on the tables to come: those not among them have been created. -/
theorem meets_createAll {declarations : List Declaration}
    (hmem : ∀ declaration ∈ declarations, declaration ∈ applicationTables) :
    StatementsMeet (createAll failures declarations)
      (fun schema => Safe start schema ∧ AtVersion 0 schema ∧
        ∀ declaration ∈ applicationTables,
          declaration ∉ declarations → Created declaration schema)
      (fun _ schema => Safe start schema ∧ AtVersion 0 schema ∧
        ∀ declaration ∈ applicationTables, Created declaration schema)
      (Crashed failures start) := by
  induction declarations with
  | nil =>
      apply statementsMeet_pure
      rintro schema ⟨hsafe, hzero, hcreated⟩
      exact ⟨hsafe, hzero, fun declaration hdeclared => hcreated declaration hdeclared (by simp)⟩
  | cons declaration declarations ih =>
      rw [List.forall_mem_cons] at hmem
      have hstatement : StatementsMeet (issue failures (createTableIfNotExists declaration))
          (fun schema => Safe start schema ∧ AtVersion 0 schema ∧
            ∀ other ∈ applicationTables,
              other ∉ declaration :: declarations → Created other schema)
          (fun _ schema => Safe start schema ∧ AtVersion 0 schema ∧
            ∀ other ∈ applicationTables, other ∉ declarations → Created other schema)
          (Crashed failures start) := by
        apply meets_statement fun schema hpre => hpre.1
        rintro schema ⟨hsafe, hzero, hcreated⟩
        refine ⟨(), _, rfl, hsafe.createTable hmem.1, createTable_of_some hzero, ?_⟩
        intro other hother hlater
        by_cases hsame : other = declaration
        · rw [hsame]
          exact createTable_created (hsafe.recoverable.tables declaration hmem.1)
        · exact (hcreated other hother (by simp [hsame, hlater])).createTable
      exact hstatement.bind fun _ => ih hmem.2

theorem meets_upgrade :
    StatementsMeet (do
        migration001 failures
        issue failures updateVersion)
      (fun schema => Safe start schema ∧ AtVersion 0 schema)
      (fun _ schema => Migrated start schema)
      (Crashed failures start) := by
  have htables : StatementsMeet (migration001 failures)
      (fun schema => Safe start schema ∧ AtVersion 0 schema)
      (fun _ schema => Safe start schema ∧ AtVersion 0 schema ∧
        ∀ declaration ∈ applicationTables, Created declaration schema)
      (Crashed failures start) :=
    (meets_createAll fun _ hmem => hmem).weaken fun attempt hpre =>
      ⟨hpre.1, hpre.2, fun _ hmem hnot => absurd hmem hnot⟩
  apply htables.bind
  intro _
  apply meets_statement fun schema hpre => hpre.1
  rintro schema ⟨hsafe, hzero, hcreated⟩
  obtain ⟨after, hupdated, hmigrated⟩ := updateVersion_of_atVersion hsafe hzero hcreated
  exact ⟨(), after, hupdated, hmigrated⟩

theorem meets_migrate :
    StatementsMeet (migrate failures) (fun schema => Safe start schema)
      (fun _ schema => Migrated start schema)
      (Crashed failures start) := by
  have hcreate : StatementsMeet (issue failures (createTableIfNotExists schemaVersion))
      (fun schema => Safe start schema)
      (fun _ schema => Safe start schema ∧ schema schemaVersion.name ≠ none)
      (Crashed failures start) :=
    meets_statement (fun _ hsafe => hsafe) fun schema hsafe =>
      ⟨(), _, rfl, hsafe.createSchemaVersion⟩
  have hinsert : StatementsMeet (issue failures insertVersion)
      (fun schema => Safe start schema ∧ schema schemaVersion.name ≠ none)
      (fun _ schema => Safe start schema ∧
        (AtVersion 0 schema ∨ AtVersion 1 schema))
      (Crashed failures start) :=
    meets_statement (fun _ hpre => hpre.1) fun schema hpre => ⟨(), hpre.1.insertVersion hpre.2⟩
  have hquery : StatementsMeet (issue failures queryVersion)
      (fun schema => Safe start schema ∧
        (AtVersion 0 schema ∨ AtVersion 1 schema))
      (fun version schema => Safe start schema ∧
        (version = 0 ∨ version = 1) ∧ AtVersion version schema)
      (Crashed failures start) := by
    apply meets_statement fun schema hpre => hpre.1
    rintro schema ⟨hsafe, hzero | hone⟩
    · exact ⟨0, schema, queryVersion_of_atVersion hzero, hsafe, Or.inl rfl, hzero⟩
    · exact ⟨1, schema, queryVersion_of_atVersion hone, hsafe, Or.inr rfl, hone⟩
  apply hcreate.bind
  intro _
  apply hinsert.bind
  intro _
  apply hquery.bind
  intro version
  split
  · rename_i hlt
    apply meets_upgrade.weaken
    rintro schema ⟨hsafe, rfl | rfl, hversion⟩
    · exact ⟨hsafe, hversion⟩
    · omega
  · rename_i hnot
    apply statementsMeet_pure
    rintro schema ⟨hsafe, rfl | rfl, hversion⟩
    · omega
    · exact ⟨hsafe.recoverable.upgraded hversion, hversion, hsafe.kept⟩

theorem meets_migrateOnce :
    Meets (migrateOnce failures) (Safe start) (fun _ => Migrated start)
      (Crashed failures start) :=
  meets_migrate.counted

/-- Whether it completes or is interrupted, a run keeps the database safe. -/
theorem safe_migrateOnce {schema : Schema} (h : Safe start schema) :
    Safe start (migrateOnce failures schema).2 :=
  meets_migrateOnce.snd (fun _ _ hmigrated => hmigrated.safe) (fun _ _ hcrashed => hcrashed.2) h

/-- The databases that `migrate` finds. -/
inductive Start : Schema → Prop where
  | empty : Start fun _ => none
  | interrupted {schema : Schema} (failures : Failures) (h : Start schema) :
      Start (migrateOnce failures schema).2
  | complete {schema : Schema}
      (tables : ∀ declaration ∈ applicationTables, Created declaration schema)
      (version : AtVersion 1 schema) : Start schema

theorem Start.recoverable {schema : Schema} (h : Start schema) : Recoverable schema := by
  induction h with
  | empty =>
      constructor
      · exact fun _ _ => Or.inl rfl
      · exact Or.inl rfl
      · exact fun hone => by cases hone
  | @interrupted schema failures _ ih =>
      exact (safe_migrateOnce (Safe.refl ih)).recoverable
  | complete tables version =>
      exact ⟨fun declaration hmem => Or.inr (tables declaration hmem),
        Or.inr (Or.inr (Or.inr version)), fun _ => tables⟩

/-- On a database that is complete `migrate` does nothing. -/
theorem migrateOnce_of_atVersion {schema : Schema} (h : AtVersion 1 schema) :
    migrateOnce (fun _ => none) schema = (.ok (), schema) := by
  have hcreate : createTableIfNotExists schemaVersion schema = (.ok (), schema) := by
    rw [createTableIfNotExists, h]
    exact congrArg _ (Function.update_eq_self_iff.mpr h.symm)
  have hinsert : insertVersion schema = (.ok (), schema) := by
    rw [insertVersion, h]
    rfl
  have hrun : migrate (fun _ => none) { state := schema, issued := 0 } =
      (.ok (), { state := schema, issued := 3 }) := by
    rw [migrate, Effect.bind_of_ok (issue_of_ok rfl hcreate),
      Effect.bind_of_ok (issue_of_ok rfl hinsert),
      Effect.bind_of_ok (issue_of_ok rfl (queryVersion_of_atVersion h))]
    rfl
  rw [migrateOnce, counted, hrun]

/-- Whatever runs have been interrupted, one that is not completes, and one that completes
leaves all tables, the version and the rows that were there, and nothing to do for another. -/
theorem migrate_recovers {start : Schema} (hstart : Start start) (interrupted : List Failures) :
    (∃ final, migrateOnce (fun _ => none)
      (afterCalls (interrupted.map migrateOnce) start) = (.ok (), final)) ∧
    ∀ failures final,
      migrateOnce failures (afterCalls (interrupted.map migrateOnce) start) = (.ok (), final) →
        Migrated start final ∧ migrateOnce (fun _ => none) final = (.ok (), final) := by
  have hsafe : Safe start (afterCalls (interrupted.map migrateOnce) start) := by
    apply afterCalls_invariant _ (Safe.refl hstart.recoverable)
    intro call hcall
    obtain ⟨failures, -, rfl⟩ := List.mem_map.mp hcall
    exact fun schema => safe_migrateOnce
  constructor
  · have hnot : ∀ error schema, ¬ Crashed (fun _ => none) start error schema := by
      rintro error schema ⟨⟨number, hfails⟩, -⟩
      cases hfails
    obtain ⟨⟨⟩, final, hok⟩ := meets_migrateOnce.exists_ok hnot hsafe
    exact ⟨final, hok⟩
  · intro failures final hok
    have hmigrated : Migrated start final := meets_migrateOnce.returned _ hsafe () final hok
    exact ⟨hmigrated, migrateOnce_of_atVersion hmigrated.version⟩

def interruptedAfter (count : Nat) : Failures := fun number =>
  if number = count then some "interrupted" else none

example :
    [certs, keys, sshKeys].map (fun declaration =>
      ((migrateOnce (interruptedAfter 5) fun _ => none).2 declaration.name).isSome) =
        [true, true, false] := by
  decide

def filledRow (declaration : Declaration) : List Value :=
  declaration.columns.map fun column =>
    match column.type with
    | .text => .text "id"
    | .blob => .blob []
    | .integer => .integer 0

def filled : Schema := fun name =>
  if name = schemaVersion.name then
    some { columns := schemaVersion.columns, rows := [[.integer 1]] }
  else (applicationTables.find? (·.name == name)).map fun declaration =>
    { columns := declaration.columns, rows := [filledRow declaration] }

theorem filled_created : ∀ declaration ∈ applicationTables,
    filled declaration.name =
      some { columns := declaration.columns, rows := [filledRow declaration] } := by
  decide

theorem migrate_recovers_twice :
    (∃ final, migrateOnce (fun _ => none)
        (afterCalls ([interruptedAfter 7].map migrateOnce)
          (migrateOnce (interruptedAfter 3) fun _ => none).2) = (.ok (), final) ∧
      AtVersion 1 final) ∧
    (∃ final, migrateOnce (fun _ => none)
        (afterCalls ([interruptedAfter 2].map migrateOnce) filled) = (.ok (), final) ∧
      final certs.name = some { columns := certs.columns, rows := [filledRow certs] }) := by
  constructor
  · obtain ⟨⟨final, hok⟩, hafter⟩ :=
      migrate_recovers (Start.interrupted (interruptedAfter 3) Start.empty) [interruptedAfter 7]
    exact ⟨final, hok, (hafter _ final hok).1.version⟩
  · have hstart : Start filled :=
      Start.complete (fun declaration hmem => ⟨_, filled_created declaration hmem⟩) rfl
    obtain ⟨⟨final, hok⟩, hafter⟩ := migrate_recovers hstart [interruptedAfter 2]
    have hcerts : certs ∈ applicationTables := by decide
    have hkept := (hafter _ final hok).1.kept certs hcerts _ (filled_created certs hcerts)
    exact ⟨final, hok, hkept⟩

end Runs

end TrafficCone.SchemaMigration
