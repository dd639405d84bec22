import TrafficCone.CommandInterleavings

namespace TrafficCone.Revocation

open TrafficCone.Outcomes
open TrafficCone.Threads
open TrafficCone.StoreModels
open TrafficCone.StoreListing
open TrafficCone.LinkedCrates
open TrafficCone.ProcReaders
open TrafficCone.ProcessMonitoring
open TrafficCone.PidRouting
open TrafficCone.IpcServing
open TrafficCone.DatabaseTables
open TrafficCone.CertificateImport
open TrafficCone.KeyCustody
open TrafficCone.CommandThreads
open TrafficCone.CertificateStanding
open TrafficCone.ConcurrentCustody
open TrafficCone.CommandInterleavings

variable {ι : Type} [DecidableEq ι] {crates : Crates} {parsers : DerParsers} {master : Bytes}
  {jobs : ι → Job} {database : Database}

omit [DecidableEq ι] in
theorem mem_of_steps {before after : Ledger} {id : String}
    (hsteps : Relation.ReflTransGen (Steps jobs) before after) (h : id ∈ before.2) :
    id ∈ after.2 := by
  refine @invariant_of_steps _ jobs (fun ledger => id ∈ ledger.2) ?_ _ _ hsteps h
  intro i ledger next hstep hmem
  rw [hstep.noted, mem_noteCerts]
  exact Or.inr hmem

/-- A certificate that has been there and is not there any more. -/
theorem exists_gone (hcrates : Deciphers crates) (hwell : WellFormed database)
    (hkeys : OneKeyEach database) (hfresh : Fresh jobs database)
    (earlier between : List (Move Empty ι)) {id : String}
    (hthere : ∃ cert ∈ ((pool crates parsers master jobs database).interleave nothingElse
      earlier).state.certs, cert.id = id)
    (hgone : ∀ cert ∈ ((pool crates parsers master jobs database).interleave nothingElse
      (earlier ++ between)).state.certs, cert.id ≠ id) :
    ∃ ids,
      Lawful crates parsers master jobs
        ((pool crates parsers master jobs database).interleave nothingElse
          (earlier ++ between)) ids ∧
      Orderly jobs (((pool crates parsers master jobs database).interleave nothingElse
        (earlier ++ between)).state, ids) ∧
      Gone id (((pool crates parsers master jobs database).interleave nothingElse
        (earlier ++ between)).state, ids) := by
  obtain ⟨ids, hlawful, horderly, -⟩ :=
    @exists_orderly _ crates parsers master _ _ _ hcrates hwell hkeys hfresh earlier
  have hnoted : id ∈ ids := horderly.covered id (stored_iff.mpr hthere)
  obtain ⟨more, hlawfulLater, hsteps⟩ := hlawful.interleave hfresh between
  have horderlyLater := horderly.steps hsteps
  rw [← Pool.interleave_append] at hlawfulLater hsteps horderlyLater
  refine ⟨more, hlawfulLater, horderlyLater, mem_of_steps hsteps hnoted, ?_⟩
  rw [standing_eq_absent_iff horderlyLater.wellFormed]
  simpa [standing] using hgone

theorem absent_after_removal (hcrates : Deciphers crates) (hwell : WellFormed database)
    (hkeys : OneKeyEach database) (hfresh : Fresh jobs database)
    (earlier between later : List (Move Empty ι)) {id : String}
    (hthere : ∃ cert ∈ ((pool crates parsers master jobs database).interleave nothingElse
      earlier).state.certs, cert.id = id)
    (hgone : ∀ cert ∈ ((pool crates parsers master jobs database).interleave nothingElse
      (earlier ++ between)).state.certs, cert.id ≠ id) :
    let after := ((pool crates parsers master jobs database).interleave nothingElse
      (earlier ++ between ++ later)).state
    WellFormed after ∧ standing after id = .absent := by
  obtain ⟨ids, hlawful, horderly, hnow⟩ :=
    @exists_gone _ _ crates parsers master _ _ hcrates hwell hkeys hfresh earlier between _ hthere
      hgone
  obtain ⟨more, -, hsteps⟩ := hlawful.interleave hfresh later
  have horderlyLater := horderly.steps hsteps
  have hlater := gone_of_steps hsteps hnow
  rw [← Pool.interleave_append] at horderlyLater hlater
  exact ⟨horderlyLater.wellFormed, hlater.2⟩

/-- A certificate that has been removed does not come back, nor do its key and its routes,
whatever is still under way. -/
theorem removed_for_good (hcrates : Deciphers crates) (hwell : WellFormed database)
    (hkeys : OneKeyEach database) (hfresh : Fresh jobs database)
    (earlier between later : List (Move Empty ι)) {id : String}
    (hthere : ∃ cert ∈ ((pool crates parsers master jobs database).interleave nothingElse
      earlier).state.certs, cert.id = id)
    (hgone : ∀ cert ∈ ((pool crates parsers master jobs database).interleave nothingElse
      (earlier ++ between)).state.certs, cert.id ≠ id) :
    let after := ((pool crates parsers master jobs database).interleave nothingElse
      (earlier ++ between ++ later)).state
    (∀ cert ∈ after.certs, cert.id ≠ id) ∧ (∀ key ∈ after.keys, key.certId ≠ id) ∧
      ∀ route ∈ after.routes, route.certId ≠ id := by
  obtain ⟨hwellLater, habsent⟩ := @absent_after_removal _ _ crates parsers master _ _ hcrates
    hwell hkeys hfresh earlier between later _ hthere hgone
  exact nothing_of_absent hwellLater habsent

section Signatures

/-- The signature is the one that comes of the key in this state of the database. -/
def MadeFrom (crates : Crates) (master : Bytes) (data : Bytes) (reply : Reply)
    (database : Database) : Prop :=
  ∀ certId signature, reply = .signature certId signature →
    signData crates (.unlocked database master) certId data = .ok signature

theorem answersBy_signData (certId : String) (data : Bytes) :
    (signDataSteps crates master certId data).AnswersBy fun answer database =>
      signData crates (.unlocked database master) answer.1 data = .ok answer.2 := by
  apply Thread.answersBy_reads
  intro found row answer hrow hanswer
  obtain ⟨signature, hsigned, hanswer⟩ := Outcome.bind_eq_ok_iff.mp hanswer
  obtain rfl := Outcome.ok.inj hanswer
  rw [signData_eq]
  exact Outcome.bind_eq_ok_iff.mpr ⟨row, hrow, hsigned⟩

/-- A request that has decided on a certificate is answered after it has read the key. -/
theorem advance_signData_ne_done (certId : String) (data : Bytes) (found : Database)
    (answer : String × Bytes) :
    (signDataSteps crates master certId data).advance found ≠ .done (.ok answer) := by
  have hadvanced : (signDataSteps crates master certId data).advance found =
      (.done (selectKey certId found) >>= fun row => query fun _ => do
        let signature ← signWithRow crates master data row
        pure (certId, signature)) := rfl
  rw [hadvanced]
  exact Thread.bind_ne_done fun _ => nofun

theorem answersBy_answerSign (system : System) (resolved : Outcome String ProcessEntry)
    (knownHashes : KnownHashes) (pid : Nat) (data : Bytes) :
    (answerSignSteps crates master system resolved knownHashes pid data).AnswersBy
      fun answer database =>
        signData crates (.unlocked database master) answer.1 data = .ok answer.2 := by
  have hlast : ∀ certId answer, signDataSteps crates master certId data ≠ .done (.ok answer) :=
    fun _ _ => nofun
  refine Thread.AnswersBy.bind (fun _ _ => Thread.bind_ne_done fun _ => hlast _ _)
    (fun _ found answer => Thread.advance_bind_ne_done (fun _ => hlast _ answer)
      fun _ => advance_signData_ne_done _ data found answer) ?_
  intro process
  refine Thread.AnswersBy.bind (fun _ => hlast _)
    (fun _ => advance_signData_ne_done _ data) ?_
  intro route
  exact answersBy_signData route.certId data

theorem answersBy_sign (system : System) (resolved : Outcome String ProcessEntry)
    (knownHashes : KnownHashes) (pid : Nat) (data : Bytes) :
    ((Job.sign system resolved knownHashes pid data).steps crates parsers master).AnswersBy
      (MadeFrom crates master data) := by
  apply (answersBy_answerSign system resolved knownHashes pid data).map
  intro answer found hsigned certId signature hreply
  obtain ⟨rfl, rfl⟩ := Reply.signature.inj hreply
  exact hsigned

theorem exists_key_of_signData {certId : String} {data signature : Bytes}
    (h : signData crates (.unlocked database master) certId data = .ok signature) :
    ∃ key ∈ database.keys, key.certId = certId := by
  rw [signData] at h
  obtain ⟨⟨keyDer, algorithm⟩, hkey, -⟩ := Outcome.bind_eq_ok_iff.mp h
  rw [Outcome.mapErr_eq_ok_iff, getPlaintextKey_eq_ok_iff] at hkey
  obtain ⟨row, hrow, -⟩ := hkey
  exact ⟨row, List.mem_of_find?_eq_some hrow, by simpa using List.find?_some hrow⟩

/-- The request has read the row of its key: it has been answered, or its next step answers it. -/
def hasReadKey (reached : Pool Database ι String Reply) (i : ι) : Bool :=
  match ((reached.turn i).threads i).ended with
  | some (.ok _) => true
  | _ => false

/-- Once a certificate has been removed, no request is answered with it that has not read the
key by then, not even one that is under way and has decided on it. -/
theorem no_signature_after_removal (hcrates : Deciphers crates) (hwell : WellFormed database)
    (hkeys : OneKeyEach database) (hfresh : Fresh jobs database)
    (earlier between later : List (Move Empty ι)) {id : String} {i : ι} {system : System}
    {resolved : Outcome String ProcessEntry} {knownHashes : KnownHashes} {pid : Nat}
    {data signature : Bytes} (hjob : jobs i = .sign system resolved knownHashes pid data)
    (hthere : ∃ cert ∈ ((pool crates parsers master jobs database).interleave nothingElse
      earlier).state.certs, cert.id = id)
    (hgone : ∀ cert ∈ ((pool crates parsers master jobs database).interleave nothingElse
      (earlier ++ between)).state.certs, cert.id ≠ id)
    (hpending : hasReadKey ((pool crates parsers master jobs database).interleave nothingElse
      (earlier ++ between)) i = false) :
    ((pool crates parsers master jobs database).interleave nothingElse
      (earlier ++ between ++ later)).threads i ≠ .done (.ok (.signature id signature)) := by
  intro hdone
  have hanswers : ((pool crates parsers master jobs database).threads i).AnswersBy
      (MadeFrom crates master data) := by
    have hthread : (pool crates parsers master jobs database).threads i =
        (jobs i).steps crates parsers master := rfl
    rw [hthread, hjob]
    exact answersBy_sign system resolved knownHashes pid data
  have hstill : (((pool crates parsers master jobs database).interleave nothingElse
      (earlier ++ between)).threads i).AnswersBy (MadeFrom crates master data) :=
    Pool.answersBy_interleave hanswers _
  have hnot : (((pool crates parsers master jobs database).interleave nothingElse
      (earlier ++ between)).turn i).threads i ≠ .done (.ok (.signature id signature)) := by
    intro h
    rw [hasReadKey, h] at hpending
    cases hpending
  rw [Pool.interleave_append] at hdone
  obtain ⟨before, after, -, hmade⟩ := Pool.exists_seen hstill hnot hdone
  obtain ⟨key, hkey, hcertId⟩ := exists_key_of_signData (hmade id signature rfl)
  rw [← Pool.interleave_append] at hkey
  obtain ⟨hwellBefore, habsent⟩ :=
    absent_after_removal hcrates hwell hkeys hfresh earlier between before hthere hgone
  exact (nothing_of_absent hwellBefore habsent).2.1 key hkey hcertId

end Signatures

section OfficeProcesses

open TrafficCone.CustodyRuns (lenientParsers deciphers_plainCrates)
open TrafficCone.BackupRoundTrip (officeDatabase portable_officeDatabase)

/-- The route is added, and the request decides on the certificate. -/
def decidedMoves : List (Move Empty Desk) :=
  [.turn .routing, .turn .routing, .turn .routing, .turn .signing, .turn .signing]

def removalMoves : List (Move Empty Desk) := [.turn .removing, .turn .removing]

theorem removed_for_good_office :
    let after := ((pool plainCrates lenientParsers [1] officeJobs officeDatabase).interleave
      nothingElse (decidedMoves ++ removalMoves ++ [.turn .importing, .turn .signing])).state
    (∀ cert ∈ after.certs, cert.id ≠ "c1") ∧ (∀ key ∈ after.keys, key.certId ≠ "c1") ∧
      ∀ route ∈ after.routes, route.certId ≠ "c1" :=
  removed_for_good deciphers_plainCrates portable_officeDatabase.wellFormed
    portable_officeDatabase.oneKeyEach fresh_officeJobs _ _ _ (by decide +kernel)
    (by decide +kernel)

/-- The same, with a key that can sign. -/
def signingDatabase : Database :=
  { officeDatabase with
    keys := [
      { id := "k1", certId := "c1", algorithm := "EcP256", keyEnc := 3 :: List.replicate 16 0,
        keySalt := List.replicate 16 0, keyNonce := List.replicate 12 0 }] }

theorem wellFormed_signingDatabase : WellFormed signingDatabase := by
  constructor <;> constructor <;> decide

theorem oneKeyEach_signingDatabase : OneKeyEach signingDatabase := by
  simp [OneKeyEach, signingDatabase, officeDatabase]

theorem fresh_signingDatabase : Fresh officeJobs signingDatabase where
  certIds := fresh_officeJobs.certIds
  keyIds := fresh_officeJobs.keyIds
  newCerts := fresh_officeJobs.newCerts
  newKeys i id hid := by
    have hnew := fresh_officeJobs.newKeys i id hid
    simpa [signingDatabase, officeDatabase] using hnew

theorem no_signature_after_removal_office :
    ((pool plainCrates lenientParsers [1] officeJobs signingDatabase).interleave nothingElse
      (decidedMoves ++ removalMoves ++ [.turn .signing, .turn .signing])).threads .signing ≠
        .done (.ok (.signature "c1" [0x30, 6, 2, 1, 3, 2, 1, 3])) :=
  no_signature_after_removal deciphers_plainCrates wellFormed_signingDatabase
    oneKeyEach_signingDatabase fresh_signingDatabase _ _ _ rfl (by decide +kernel)
    (by decide +kernel) (by decide +kernel)

/-- A request that has read the key before the removal is still answered. -/
example : (((pool plainCrates lenientParsers [1] officeJobs signingDatabase).interleave nothingElse
    (decidedMoves ++ [.turn .signing] ++ removalMoves ++ [.turn .signing])).threads
      .signing).ended = some (.ok (.signature "c1" [0x30, 6, 2, 1, 3, 2, 1, 3])) := by
  decide +kernel

/-- Otherwise it ends with an error. -/
example : (((pool plainCrates lenientParsers [1] officeJobs signingDatabase).interleave nothingElse
    (decidedMoves ++ removalMoves ++ [.turn .signing])).threads .signing).ended =
      some (.err "failed to retrieve key: not found: no private key found for cert 'c1'") := by
  decide +kernel

end OfficeProcesses

end TrafficCone.Revocation
