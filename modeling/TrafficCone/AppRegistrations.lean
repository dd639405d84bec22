import TrafficCone.CertificateRemoval
import TrafficCone.SplitReads

namespace TrafficCone.AppRegistrations

open TrafficCone.Outcomes
open TrafficCone.StoreModels
open TrafficCone.LinkedCrates
open TrafficCone.StoreListing
open TrafficCone.TransducerRuns
open TrafficCone.DatabaseTables
open TrafficCone.BackupArchives
open TrafficCone.IntegrityChecks
open TrafficCone.CertificateImport
open TrafficCone.StoreCommands
open TrafficCone.CommittedStatements
open TrafficCone.CustodyRuns
open TrafficCone.CertificateRemoval (keeps_command)
open TrafficCone.SplitReads (apps_commitAll)

section Commands

/-- What a command prints, and the code with which it exits. -/
structure Printed where
  lines : List String
  exitCode : Nat
  deriving DecidableEq, Repr

def appNotListed (label : String) : CommandError :=
  { message := "App '" ++ label ++ "' not found", cause := none }

/-- The verdict on a binary, given the hash that is expected of it. -/
def judge (crates : Crates) (files : Files) (label exePath exeHash : String) :
    Outcome CommandError Printed := do
  let current ← (hashFile crates files exePath).mapErr CommandError.ofStore
  if current = exeHash then
    pure { lines := ["✓ '" ++ label ++ "' binary matches registered hash"], exitCode := 0 }
  else
    pure
      { lines := ["✗ Hash mismatch for '" ++ label ++ "'!", "  Expected: " ++ exeHash,
          "  Found:    " ++ current]
        exitCode := 1 }

/-- `cone app verify`: the first application in the list that has the label counts. -/
def appVerify (crates : Crates) (files : Files) (label : String) (store : Store) :
    Outcome CommandError Printed := do
  let apps ← (listApps store).mapErr CommandError.ofStore
  let app ← Outcome.ofOption (appNotListed label) (apps.find? fun app => app.label = label)
  judge crates files label app.exePath app.exeHash

end Commands

section Ordering

variable {ρ : Type} {label : ρ → String}

/-- Rows with one label keep their order. -/
theorem filter_orderByLabel (rows : List ρ) (text : String) :
    (orderByLabel label rows).filter (fun row => label row = text) =
      rows.filter fun row => label row = text := by
  have hordered : (rows.filter fun row => label row = text).Pairwise
      fun first second => label first ≤ label second := by
    apply List.pairwise_of_forall_mem_list
    intro first hfirst second hsecond
    rw [List.mem_filter, decide_eq_true_eq] at hfirst hsecond
    simp only [hfirst.2, hsecond.2, String.le_refl]
  have hsublist : (rows.filter fun row => label row = text).Sublist (orderByLabel label rows) :=
    List.sublist_insertionSort hordered List.filter_sublist
  have hfiltered := hsublist.filter fun row => label row = text
  simp only [List.filter_filter, Bool.and_self] at hfiltered
  have hperm : ((orderByLabel label rows).filter fun row => label row = text).Perm
      (rows.filter fun row => label row = text) := (List.perm_insertionSort _ rows).filter _
  exact (hfiltered.eq_of_length hperm.length_eq.symm).symm

theorem find?_orderByLabel (rows : List ρ) (text : String) :
    (orderByLabel label rows).find? (fun row => label row = text) =
      rows.find? fun row => label row = text := by
  rw [← List.head?_filter, ← List.head?_filter, filter_orderByLabel]

end Ordering

section Commits

variable {database : Database} {master : Bytes} {α : Type}

/-- The store is unlocked, and what has been done to its database are statements. -/
def Committed (database : Database) (master : Bytes) (store : Store) : Prop :=
  ∃ statements, store = .unlocked (commitAll database statements) master

theorem committed_withConn {kind : Statement → Bool} {call : Effect Session StoreError α}
    (h : WritesBy kind call) :
    Effect.Keeps (withConn call) (Committed database master) fun _ => True := by
  rintro store ⟨statements, rfl⟩
  obtain ⟨more, -, hdatabase⟩ := h { database := commitAll database statements, drawn := 0 }
  refine ⟨⟨statements ++ more, ?_⟩, fun _ _ => trivial⟩
  rw [commitAll_append]
  exact congrArg (Store.unlocked · master) hdatabase

/-- Whatever the operations do to a store, failed ones included, they do by statements. -/
theorem committed_perform (crates : Crates) (parsers : DerParsers) (codec : BackupCodec)
    (operation : Operation) :
    Effect.Keeps (perform crates parsers codec operation) (Committed database master)
      fun _ => True := by
  cases operation with
  | importCert host drawn certDer keyDer label =>
      apply keeps_command
      apply (Effect.keeps_lift fun _ _ => trivial).bind
      intro metadata _
      apply (Effect.keeps_lift fun _ _ => trivial).bind
      intro algorithm _
      apply (Effect.keeps_reads fun _ _ _ => trivial).bind
      intro found _
      apply (Effect.keeps_lift fun _ _ => trivial).bind
      intro encrypted _
      exact committed_withConn (writesBy_insertImported host certDer label metadata algorithm
        encrypted)
  | deleteCert host label =>
      apply keeps_command
      apply (Effect.keeps_reads fun _ _ _ => trivial).bind
      intro cert _
      exact committed_withConn (writesBy_deleteRecorded host cert.id label)
  | restoreBackup host backupData backupPassword =>
      apply keeps_command
      apply (Effect.keeps_lift fun _ _ => trivial).bind
      intro json _
      apply (Effect.keeps_lift fun _ _ => trivial).bind
      intro payload _
      exact committed_withConn (writesBy_restorePayload host payload)
  | appAdd files host label exe =>
      apply keeps_command
      apply (Effect.keeps_lift fun _ _ => trivial).bind
      intro hash _
      exact keeps_command (committed_withConn (writesBy_insertApp host label exe hash))
  | routeAdd host request =>
      apply keeps_command
      apply (Effect.keeps_reads fun _ _ _ => trivial).bind
      intro cert _
      apply (Effect.keeps_reads fun _ _ _ => trivial).bind
      intro appId _
      exact keeps_command (committed_withConn (writesBy_insertRoute host cert.id appId request))
  | routeRemove id =>
      apply keeps_command
      exact keeps_command (committed_withConn (writesBy_deleteFromRoutes id))

/-- One operation after the other, each on what the one before has left. -/
def performing (crates : Crates) (parsers : DerParsers) (codec : BackupCodec) (store : Store)
    (operation : Operation) : Store :=
  (perform crates parsers codec operation store).2

theorem committed_run (crates : Crates) (parsers : DerParsers) (codec : BackupCodec)
    (operations : List Operation) :
    Committed database master
      (run (quietly (performing crates parsers codec)) (.unlocked database master)
        operations).1 := by
  refine (@run_invariant _ _ _ (quietly (performing crates parsers codec))
    (Committed database master) (fun _ => True) ?_ _ ⟨[], rfl⟩ operations).1
  intro store operation hstore
  exact ⟨(committed_perform crates parsers codec operation store hstore).1, fun _ _ => trivial⟩

end Commits

section Registrations

variable {crates : Crates} {files : Files} {host : Host} {label exe : String}
  {database : Database} {master : Bytes} {lines : List String} {store : Store}

theorem apps_of_appAdd
    (h : appAdd crates files host label exe (.unlocked database master) = (.ok lines, store)) :
    ∃ hash registered after, hashFile crates files exe = .ok hash ∧
      store = .unlocked after master ∧ after.apps = database.apps ++ [registered] ∧
      registered.label = label ∧ registered.exePath = exe ∧ registered.exeHash = hash := by
  obtain ⟨hash, session, hhash, hinsert, hstore⟩ := of_appAdd h
  rw [insertApp] at hinsert
  obtain ⟨id, drawn, hid, hinsert⟩ := Effect.bind_eq_ok_iff.mp hinsert
  obtain ⟨-, rfl⟩ := Prod.mk.inj hid
  obtain ⟨-, -, rfl⟩ := apps.insert_eq_ok_iff.mp hinsert
  exact ⟨hash, registeredApp host id label exe hash, _, hhash, hstore, rfl, rfl, rfl, rfl⟩

/-- The first registration under a label is for good: whatever operations follow, `cone app
verify` judges the binary at that path by the hash that it had then. -/
theorem verdict_of_first_registration (parsers : DerParsers) (codec : BackupCodec)
    (hfirst : ∀ app ∈ database.apps, app.label ≠ label)
    (h : appAdd crates files host label exe (.unlocked database master) = (.ok lines, store)) :
    ∃ hash, hashFile crates files exe = .ok hash ∧
      ∀ operations later,
        appVerify crates later label
            (run (quietly (performing crates parsers codec)) store operations).1 =
          judge crates later label exe hash := by
  obtain ⟨hash, registered, after, hhash, rfl, hafter, hlabel, hpath, hregistered⟩ :=
    apps_of_appAdd h
  refine ⟨hash, hhash, ?_⟩
  intro operations later
  obtain ⟨statements, hstore⟩ := @committed_run after master crates parsers codec operations
  obtain ⟨added, hadded⟩ := apps_commitAll after statements
  have hfound : ((orderByLabel (·.label) (commitAll after statements).apps).find? fun app =>
      app.label = label) = some registered := by
    rw [find?_orderByLabel, hadded, hafter, List.append_assoc, List.find?_append,
      List.find?_eq_none.mpr (by simpa using hfirst)]
    simp [hlabel]
  rw [hstore, appVerify, listApps_unlocked, Outcome.mapErr_ok, Outcome.ok_bind, hfound,
    Outcome.ofOption_some, Outcome.ok_bind, hpath, hregistered]

end Registrations

section Curl

open TrafficCone.BackupRoundTrip (officePayload onePayload)

def curlFiles : Files := fun _ => .ok [5]

theorem curl_is_added :
    (appAdd plainCrates curlFiles (hostAt 'n') "curl" "/opt/curl" (.unlocked {} [1])).1 =
      .ok ["Registered 'curl' at /opt/curl", "Hash: 0500000000000000"] := by
  decide +kernel

theorem verdict_of_curl :
    ∃ hash, hashFile plainCrates curlFiles "/opt/curl" = .ok hash ∧
      ∀ operations later,
        appVerify plainCrates later "curl"
            (run (quietly (performing plainCrates lenientParsers
              (onePayload officePayload)))
              (appAdd plainCrates curlFiles (hostAt 'n') "curl" "/opt/curl"
                (.unlocked {} [1])).2 operations).1 =
          judge plainCrates later "curl" "/opt/curl" hash :=
  verdict_of_first_registration lenientParsers (onePayload officePayload)
    (by simp) (Effect.eq_of_fst curl_is_added)

end Curl

end TrafficCone.AppRegistrations
