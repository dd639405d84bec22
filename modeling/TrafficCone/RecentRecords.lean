import TrafficCone.AuditTrail

namespace TrafficCone.RecentRecords

open TrafficCone.Outcomes
open TrafficCone.StoreModels
open TrafficCone.LinkedCrates
open TrafficCone.TransducerRuns
open TrafficCone.BackupArchives
open TrafficCone.CertificateImport
open TrafficCone.StoreCommands
open TrafficCone.FileImports
open TrafficCone.PfxTransfers
open TrafficCone.SuccessRecords
open TrafficCone.AuditTrail

section Listing

/-- `ORDER BY occurred_at DESC`. -/
def orderByTime (rows : List AuditEntry) : List AuditEntry :=
  rows.insertionSort fun first second => second.occurredAt ≤ first.occurredAt

def listAuditLog (store : Store) (limit : Nat) : Outcome StoreError (List AuditEntry) := do
  let database ← store.conn
  pure ((orderByTime database.auditLog).take limit)

def twoDigits (number : Nat) : String :=
  if number < 10 then "0" ++ toString number else toString number

/-- Days since the epoch and the time of the day; a time before the epoch wraps around. -/
def formatTimestamp (time : Int) : String :=
  let secs := (time % 2 ^ 64).toNat
  let mins := secs / 60
  let hours := mins / 60
  let days := hours / 24
  toString days ++ "d " ++ twoDigits (hours % 24) ++ ":" ++ twoDigits (mins % 60)

def auditLine (entry : AuditEntry) : String :=
  "[" ++ formatTimestamp entry.occurredAt ++ "] " ++ entry.eventType ++ " " ++
    entry.detail.getD ""

def auditLines (entries : List AuditEntry) : List String :=
  if entries.isEmpty then ["No audit log entries."] else entries.map auditLine

/-- `cone audit`, on the store that the command has opened. -/
def audit (store : Store) (limit : Nat) : Outcome StoreError (List String) := do
  let entries ← listAuditLog store limit
  pure (auditLines entries)

/-- The lines do not show the ids. -/
theorem auditLines_congr {entries others : List AuditEntry}
    (h : entries.map unnumbered = others.map unnumbered) :
    auditLines entries = auditLines others := by
  have hlines : entries.map auditLine = others.map auditLine := by
    have hshown : auditLine = auditLine ∘ unnumbered := rfl
    rw [hshown, ← List.map_map, h, List.map_map]
  have hempty : entries.isEmpty = others.isEmpty := by
    simpa using congrArg List.isEmpty h
  rw [auditLines, auditLines, hlines, hempty]

theorem orderedInsert_of_latest {entry : AuditEntry} {rows : List AuditEntry}
    (h : ∀ row ∈ rows, entry.occurredAt < row.occurredAt) :
    rows.orderedInsert (fun first second => second.occurredAt ≤ first.occurredAt) entry =
      rows ++ [entry] := by
  induction rows with
  | nil => rfl
  | cons row rows ih =>
      have hlater : ¬ row.occurredAt ≤ entry.occurredAt := by
        have hrow := h row List.mem_cons_self
        omega
      rw [List.orderedInsert_cons, if_neg hlater,
        ih fun other hother => h other (List.mem_cons_of_mem row hother)]
      rfl

theorem orderByTime_of_increasing {rows : List AuditEntry}
    (h : rows.Pairwise fun first second => first.occurredAt < second.occurredAt) :
    orderByTime rows = rows.reverse := by
  induction rows with
  | nil => rfl
  | cons row rows ih =>
      obtain ⟨hlater, hrest⟩ := List.pairwise_cons.mp h
      have hsorted := ih hrest
      rw [orderByTime] at hsorted ⊢
      rw [List.insertionSort_cons, hsorted, List.reverse_cons]
      apply orderedInsert_of_latest
      intro other hother
      exact hlater other (List.mem_reverse.mp hother)

end Listing

section Runs

variable {crates : Crates} {parsers : DerParsers} {readers : FileReaders} {writer : PfxWriter}
  {codec : BackupCodec} {order : JoinOrder}

theorem recordsOf_times (call : Host × StoreCall) (store : Store) (answer : Answer) :
    ((recordsOf call store answer).map (·.occurredAt)).Sublist [call.1.unixNow] := by
  obtain ⟨host, storeCall⟩ := call
  cases storeCall with
  | importFile drawn files path passphrase label keyPath =>
      cases answer with
      | imported certId => exact List.Sublist.refl _
      | restored result => exact List.nil_sublist _
      | done => exact List.nil_sublist _
  | deleteCert label =>
      simp only [recordsOf]
      cases getCertByLabel store label with
      | ok cert => exact List.Sublist.refl _
      | err error => exact List.nil_sublist _
      | panicked => exact List.nil_sublist _
  | exportPfx certId exportPassword => exact List.Sublist.refl _
  | createBackup backupPassword => exact List.Sublist.refl _
  | restoreBackup backupData backupPassword =>
      cases answer with
      | imported certId => exact List.nil_sublist _
      | restored result => exact List.Sublist.refl _
      | done => exact List.nil_sublist _
  | appAdd files label exe => exact List.nil_sublist _
  | routeAdd request => exact List.nil_sublist _
  | routeRemove id => exact List.nil_sublist _

theorem run_times (store : Store) (calls : List (Host × StoreCall)) :
    ((run (auditing crates parsers readers writer codec order) store calls).2.map
      (·.occurredAt)).Sublist (calls.map (·.1.unixNow)) := by
  induction calls generalizing store with
  | nil => exact List.Sublist.refl _
  | cons call calls ih =>
      rw [run_cons, List.map_append]
      have hfirst : ((auditing crates parsers readers writer codec order store call).2.map
          (·.occurredAt)).Sublist [call.1.unixNow] := by
        rw [auditing, recording]
        cases (perform crates parsers readers writer codec order call store).1 with
        | ok answer => exact recordsOf_times call store answer
        | err error => exact List.nil_sublist _
        | panicked => exact List.nil_sublist _
      exact hfirst.append (ih _)

/-- After these calls, `cone audit` shows what has succeeded of them with the latest first, if
the clock showed a later second for each entry that was there and for each call. -/
theorem audit_of_run {master : Bytes} {database : Database} {calls : List (Host × StoreCall)}
    (hlog : database.auditLog.Pairwise fun first second => first.occurredAt < second.occurredAt)
    (hclock : (calls.map (·.1.unixNow)).Pairwise (· < ·))
    (hlater : ∀ entry ∈ database.auditLog, ∀ call ∈ calls, entry.occurredAt < call.1.unixNow)
    (limit : Nat) :
    audit (run (auditing crates parsers readers writer codec order) (.unlocked database master)
        calls).1 limit =
      .ok (auditLines ((database.auditLog ++
        (run (auditing crates parsers readers writer codec order) (.unlocked database master)
          calls).2).reverse.take limit)) := by
  obtain ⟨added, hadded, hshown⟩ := @log_of_run crates parsers readers writer codec order
    (.unlocked database master) calls
  obtain ⟨after, hrun⟩ := @unlocked_of_run crates parsers readers writer codec order master
    database calls
  have hentries : after.auditLog = database.auditLog ++ added := by
    rw [hrun] at hadded
    exact hadded
  have htimes : (added.map (·.occurredAt)).Sublist (calls.map (·.1.unixNow)) := by
    have hsame : added.map (·.occurredAt) = (added.map unnumbered).map (·.occurredAt) := by
      rw [List.map_map]
      rfl
    rw [hsame, hshown]
    exact run_times _ calls
  have hincreasing : after.auditLog.Pairwise
      fun first second => first.occurredAt < second.occurredAt := by
    rw [hentries]
    refine List.pairwise_append.mpr ⟨hlog, List.pairwise_map.mp (hclock.sublist htimes), ?_⟩
    intro entry hentry other hother
    obtain ⟨call, hcall, htime⟩ :=
      List.mem_map.mp (htimes.subset (List.mem_map.mpr ⟨other, hother, rfl⟩))
    have hbefore := hlater entry hentry call hcall
    omega
  rw [hrun, audit, listAuditLog, Store.conn_unlocked, Outcome.ok_bind,
    orderByTime_of_increasing hincreasing, hentries, Outcome.pure_eq_ok, Outcome.ok_bind,
    Outcome.pure_eq_ok]
  congr 1
  apply auditLines_congr
  rw [← hshown]
  have hagain : added.map unnumbered = (added.map unnumbered).map unnumbered := by
    rw [List.map_map]
    rfl
  rw [List.map_take, List.map_reverse, List.map_append, List.map_take, List.map_reverse,
    List.map_append, ← hagain]

end Runs

section OfficeCalls

open TrafficCone.CustodyRuns (hostAt officeRandomness lenientParsers)
open TrafficCone.BackupRoundTrip (officeDatabase officePayload onePayload)

def hostAtTime (time : Int) (name : Char) : Host := { hostAt name with unixNow := time }

def officeCalls : List (Host × StoreCall) :=
  [(hostAtTime 60 'm', .importFile officeRandomness (fun _ => .ok (0x30 :: asBytes "pw"))
      "laptop.pfx" "pw" "laptop" none),
    (hostAtTime 61 'x', .exportPfx "m" "second"),
    (hostAtTime 62 'y', .routeRemove "r1"),
    (hostAtTime 120 'z', .deleteCert "office"),
    (hostAtTime 200 'w', .deleteCert "office")]

theorem audit_of_officeCalls :
    audit (run (auditing plainCrates lenientParsers (onePfxReaders laptopChain)
        (onePfx laptopChain) (onePayload officePayload) keyOrder)
      (.unlocked officeDatabase [1]) officeCalls).1 2 =
        .ok ["[0d 00:02] cert_deleted Deleted cert: office",
          "[0d 00:01] cert_exported Exported as PFX"] :=
  (audit_of_run (by decide) (by decide) (by decide) 2).trans (by decide +kernel)

end OfficeCalls

end TrafficCone.RecentRecords
