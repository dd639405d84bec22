import TrafficCone.ConcurrentCustody

namespace TrafficCone.CommandInterleavings

open TrafficCone.Outcomes
open TrafficCone.Threads
open TrafficCone.RelyGuarantee
open TrafficCone.StoreModels
open TrafficCone.StoreListing
open TrafficCone.LinkedCrates
open TrafficCone.DatabaseTables
open TrafficCone.BackupArchives
open TrafficCone.CertificateImport
open TrafficCone.KeyCustody
open TrafficCone.CommandThreads
open TrafficCone.CertificateStanding
open TrafficCone.ConcurrentCustody

variable {ι : Type} {crates : Crates} {parsers : DerParsers} {master : Bytes} {jobs : ι → Job}
  {database : Database}

/-- What holds at every moment: the constraints, at most one key for each certificate, and
just one for each that no import is at. -/
structure Orderly (jobs : ι → Job) (ledger : Ledger) : Prop where
  wellFormed : WellFormed ledger.1
  single : ∀ id, (standing ledger.1 id).keys.length ≤ 1
  others : ∀ id, (∀ i, (jobLicence (jobs i)).certId ≠ some id) → Complete id ledger
  covered : ∀ id, (standing ledger.1 id).stored = true → id ∈ ledger.2

theorem orderly_start (hwell : WellFormed database) (hkeys : OneKeyEach database) :
    Orderly jobs (database, noteCerts database []) := by
  have hcomplete : ∀ id, Complete id (database, noteCerts database []) := by
    intro id
    cases hstored : (standing database id).stored with
    | false => exact Or.inl ((standing_eq_absent_iff hwell).mpr hstored)
    | true =>
        obtain ⟨cert, hcert, rfl⟩ := stored_iff.mp hstored
        obtain ⟨key, hkey⟩ := hkeys cert hcert
        exact Or.inr ⟨key, standing_eq_iff.mpr ⟨hstored, hkey⟩⟩
  refine ⟨hwell, ?_, fun id _ => hcomplete id, fun id hstored => mem_noteCerts.mpr (Or.inl hstored)⟩
  intro id
  rcases hcomplete id with habsent | ⟨key, hwhole⟩
  · rw [habsent]
    exact Nat.zero_le 1
  · rw [hwhole]
    exact Nat.le_refl 1

theorem Orderly.guarantee {i : ι} {before after : Ledger}
    (hstep : Guarantee (jobLicence (jobs i)) before after) (h : Orderly jobs before) :
    Orderly jobs after where
  wellFormed := hstep.wellFormed h.wellFormed
  single id := hstep.single id (h.single id)
  others id hid := by
    rcases hstep.untouched id (hid i) with hsame | hgone
    · rw [Complete, hsame]
      exact h.others id hid
    · exact Or.inl hgone
  covered id hstored := by
    rw [hstep.noted, mem_noteCerts]
    exact Or.inl hstored

theorem Orderly.steps {before after : Ledger}
    (hsteps : Relation.ReflTransGen (Steps jobs) before after)
    (h : Orderly jobs before) : Orderly jobs after :=
  invariant_of_steps (fun _ _ _ hstep => Orderly.guarantee hstep) hsteps h

theorem gone_of_steps {before after : Ledger} {id : String}
    (hsteps : Relation.ReflTransGen (Steps jobs) before after) (h : Gone id before) :
    Gone id after :=
  invariant_of_steps (fun _ _ _ hstep => hstep.gone id) hsteps h

def AllStored (ledger : Ledger) : Prop :=
  ∀ id ∈ ledger.2, (standing ledger.1 id).stored = true

/-- Without a command that removes certificates, what has been there is there. -/
theorem allStored_of_steps (hno : ∀ i, (jobLicence (jobs i)).removes = false)
    {before after : Ledger} (hsteps : Relation.ReflTransGen (Steps jobs) before after)
    (h : AllStored before) : AllStored after := by
  refine invariant_of_steps ?_ hsteps h
  intro i ledger next hstep hledger id hid
  rw [hstep.noted, mem_noteCerts] at hid
  rcases hid with hstored | hold
  · exact hstored
  · obtain ⟨cert, hcert, hcertId⟩ := stored_iff.mp (hledger id hold)
    exact stored_iff.mpr ⟨cert, hstep.keeps (hno i) hcert, hcertId⟩

/-- An import that has come to its end leaves its certificate with its key, or removed. -/
theorem complete_of_done {reached : Pool Database ι String Reply} {ids : List String}
    (h : Lawful crates parsers master jobs reached ids) {i : ι} {id : String}
    (hid : (jobLicence (jobs i)).certId = some id) (hdone : (reached.threads i).isDone = true) :
    Complete id (reached.state, ids) := by
  cases hthread : reached.threads i with
  | step change next =>
      rw [hthread] at hdone
      cases hdone
  | done outcome =>
      have hnoted : (reached.noted noteCerts ids).threads i = .done outcome :=
        congrArg (Thread.noted noteCerts) hthread
      have hends := h.ends hnoted
      cases hjob : jobs i with
      | importCert host drawn certDer keyDer label =>
          rw [hjob] at hid hends
          obtain rfl := Option.some.inj hid
          cases outcome with
          | ok reply => exact hends.2.2.imp id fun ⟨key, _, hwhole, _⟩ => ⟨key, hwhole⟩
          | err error => exact hends
          | panicked => exact hends
      | _ =>
          rw [hjob] at hid
          cases hid

variable [DecidableEq ι]

/-- The processes after some of their steps. -/
theorem exists_orderly (hcrates : Deciphers crates) (hwell : WellFormed database)
    (hkeys : OneKeyEach database) (hfresh : Fresh jobs database) (moves : List (Move Empty ι)) :
    ∃ ids,
      Lawful crates parsers master jobs
        ((pool crates parsers master jobs database).interleave nothingElse moves) ids ∧
      Orderly jobs
        (((pool crates parsers master jobs database).interleave nothingElse moves).state, ids) ∧
      Relation.ReflTransGen (Steps jobs) (database, noteCerts database [])
        (((pool crates parsers master jobs database).interleave nothingElse moves).state, ids) := by
  obtain ⟨ids, hlawful, hsteps⟩ :=
    (lawful_pool hcrates hwell hfresh).interleave hfresh moves
  exact ⟨ids, hlawful, (orderly_start hwell hkeys).steps hsteps, hsteps⟩

/-- However the statements of the commands and of the daemon's requests are interleaved, and
wherever processes stop for ever, the constraints hold at every moment, no certificate has two
keys, and one without a key is one whose import has not come to its end. -/
theorem custody_at_every_moment (hcrates : Deciphers crates) (hwell : WellFormed database)
    (hkeys : OneKeyEach database) (hfresh : Fresh jobs database) (moves : List (Move Empty ι)) :
    let reached := (pool crates parsers master jobs database).interleave nothingElse moves
    WellFormed reached.state ∧
      ∀ cert ∈ reached.state.certs,
        (∃ key, (reached.state.keys.filter fun key => key.certId = cert.id) = [key]) ∨
        ((reached.state.keys.filter fun key => key.certId = cert.id) = [] ∧
          ∃ i, (jobLicence (jobs i)).certId = some cert.id ∧
            (reached.threads i).isDone = false) := by
  obtain ⟨ids, hlawful, horderly, -⟩ :=
    @exists_orderly _ crates parsers master _ _ _ hcrates hwell hkeys hfresh moves
  intro reached
  refine ⟨horderly.wellFormed, ?_⟩
  intro cert hcert
  have hstored : (standing reached.state cert.id).stored = true := stored_iff.mpr ⟨cert, hcert, rfl⟩
  have hfound : Complete cert.id (reached.state, ids) →
      ∃ key, (reached.state.keys.filter fun key => key.certId = cert.id) = [key] := by
    rintro (habsent | ⟨key, hwhole⟩)
    · rw [habsent] at hstored
      cases hstored
    · exact ⟨key, (standing_eq_iff.mp hwhole).2⟩
  by_cases howner : ∃ i, (jobLicence (jobs i)).certId = some cert.id
  · obtain ⟨i, hid⟩ := howner
    cases hdone : (reached.threads i).isDone with
    | true => exact Or.inl (hfound (complete_of_done hlawful hid hdone))
    | false =>
        rcases hlist : (standing reached.state cert.id).keys with _ | ⟨key, rest⟩
        · exact Or.inr ⟨hlist, i, hid, hdone⟩
        · have hsingle := horderly.single cert.id
          rw [hlist, List.length_cons] at hsingle
          obtain rfl : rest = [] := List.length_eq_zero_iff.mp (by omega)
          exact Or.inl ⟨key, hlist⟩
  · exact Or.inl (hfound (horderly.others cert.id fun i hid => howner ⟨i, hid⟩))

omit [DecidableEq ι] in
theorem exists_deleteCert {i : ι} (h : (jobLicence (jobs i)).removes = true) :
    ∃ host label, jobs i = .deleteCert host label := by
  cases hjob : jobs i with
  | deleteCert host label => exact ⟨host, label, rfl⟩
  | _ =>
      rw [hjob] at h
      cases h

omit [DecidableEq ι] in
theorem kept_of_done {reached : Pool Database ι String Reply} {ids : List String}
    (h : Lawful crates parsers master jobs reached ids) {i : ι} {host : Host}
    {drawn : KeyRandomness} {certDer keyDer : Bytes} {label : String} {reply : Reply}
    (hjob : jobs i = .importCert host drawn certDer keyDer label)
    (hdone : reached.threads i = .done (.ok reply)) :
    (∃ result, reply = .imported result ∧ result.certId = host.newId 0) ∧
      Kept crates parsers master (host.newId 0) keyDer (reached.state, ids) := by
  have hnoted : (reached.noted noteCerts ids).threads i = .done (.ok reply) :=
    congrArg (Thread.noted noteCerts) hdone
  have hends := h.ends hnoted
  rw [hjob] at hends
  exact hends

/-- An import that has returned has put its key where `get_plaintext_key` finds it, whatever
the other processes have done meanwhile and do later, unless one of them removes
certificates and has removed this one. -/
theorem imported_key_at_hand (hcrates : Deciphers crates) (hwell : WellFormed database)
    (hfresh : Fresh jobs database) (moves : List (Move Empty ι)) {i : ι} {host : Host}
    {drawn : KeyRandomness} {certDer keyDer : Bytes} {label : String} {reply : Reply}
    (hjob : jobs i = .importCert host drawn certDer keyDer label)
    (hdone : ((pool crates parsers master jobs database).interleave nothingElse moves).threads i =
      .done (.ok reply)) :
    let reached := (pool crates parsers master jobs database).interleave nothingElse moves
    (∃ result, reply = .imported result ∧ result.certId = host.newId 0) ∧
      ((∃ algorithm, detectKeyAlgorithm parsers keyDer = .ok algorithm ∧
          getPlaintextKey crates (.unlocked reached.state master) (host.newId 0) =
            .ok (keyDer, algorithm)) ∨
        ((∀ cert ∈ reached.state.certs, cert.id ≠ host.newId 0) ∧
          ∃ j remover removed, jobs j = .deleteCert remover removed)) := by
  obtain ⟨ids, hlawful, hsteps⟩ :=
    (@lawful_pool crates parsers master _ _ _ hcrates hwell hfresh).interleave hfresh moves
  obtain ⟨hreply, hnoted, hkept⟩ := kept_of_done hlawful hjob hdone
  intro reached
  refine ⟨hreply, ?_⟩
  rcases hkept with habsent | ⟨key, algorithm, hwhole, hdetected, hdecrypted, hparsed⟩
  · have hmissing : (standing reached.state (host.newId 0)).stored = false :=
      congrArg Standing.stored habsent
    refine Or.inr ⟨?_, ?_⟩
    · simpa [standing] using hmissing
    · by_contra hnone
      have hno : ∀ j, (jobLicence (jobs j)).removes = false := by
        intro j
        cases hremoves : (jobLicence (jobs j)).removes with
        | false => rfl
        | true =>
            obtain ⟨remover, removed, hdelete⟩ := exists_deleteCert hremoves
            exact absurd ⟨j, remover, removed, hdelete⟩ hnone
      have hstart : AllStored (database, noteCerts database []) := by
        intro id hid
        exact (mem_noteCerts.mp hid).resolve_right List.not_mem_nil
      have hstored := allStored_of_steps hno hsteps hstart (host.newId 0) hnoted
      exact Bool.false_ne_true (hmissing.symm.trans hstored)
  · refine Or.inl ⟨algorithm, hdetected, ?_⟩
    have hfound : getPlaintextKey crates (.unlocked reached.state master) (host.newId 0) = _ :=
      getPlaintextKey_of_whole hwhole
    rw [hfound, hdecrypted, Outcome.ok_bind, hparsed]
    rfl

section OfficeProcesses

open TrafficCone.CustodyRuns (hostAt officeRandomness lenientParsers deciphers_plainCrates)
open TrafficCone.BackupRoundTrip (officeDatabase portable_officeDatabase)

inductive Desk where
  | importing
  | removing
  | routing
  | signing
  deriving DecidableEq, Repr

/-- An import, a removal, a new route and a request to sign, all at once. -/
def officeJobs : Desk → Job
  | .importing => .importCert (hostAt 'm') officeRandomness [0x30, 1] [1, 2] "laptop"
  | .removing => .deleteCert (hostAt 'r') "office"
  | .routing => .routeAdd (hostAt 'o')
      { cert := "office"
        app := some "curl"
        host := none
        ip := none
        requireBoth := false
        priority := 3 }
  | .signing => .sign (ProcReaders.quietSystem [] [])
      (.ok { pid := 7, exePath := "/usr/bin/curl", exeHash := "cc33", startTime := 40 })
      (fun _ => none) 7 [1, 2, 3]

theorem fresh_officeJobs : Fresh officeJobs officeDatabase := by
  have hcert : ∀ i id, (jobLicence (officeJobs i)).certId = some id →
      i = .importing ∧ id = "m" := by
    intro i id hid
    cases i with
    | importing => exact ⟨rfl, (Option.some.inj hid).symm⟩
    | _ => cases hid
  have hkey : ∀ i id, (jobLicence (officeJobs i)).keyId = some id → i = .importing ∧ id = "mm" := by
    intro i id hid
    cases i with
    | importing => exact ⟨rfl, (Option.some.inj hid).symm⟩
    | _ => cases hid
  constructor
  · intro i j id hi hj
    rw [(hcert i id hi).1, (hcert j id hj).1]
  · intro i j id hi hj
    rw [(hkey i id hi).1, (hkey j id hj).1]
  · intro i id hi
    rw [(hcert i id hi).2]
    decide
  · intro i id hi
    rw [(hkey i id hi).2]
    decide

theorem custody_officeJobs :
    let reached := (pool plainCrates lenientParsers [1] officeJobs officeDatabase).interleave
      nothingElse [.turn .importing, .turn .removing, .turn .removing, .turn .signing]
    WellFormed reached.state ∧
      ∀ cert ∈ reached.state.certs,
        (∃ key, (reached.state.keys.filter fun key => key.certId = cert.id) = [key]) ∨
        ((reached.state.keys.filter fun key => key.certId = cert.id) = [] ∧
          ∃ i, (jobLicence (officeJobs i)).certId = some cert.id ∧
            (reached.threads i).isDone = false) :=
  custody_at_every_moment deciphers_plainCrates portable_officeDatabase.wellFormed
    portable_officeDatabase.oneKeyEach fresh_officeJobs _

theorem imported_officeJobs :
    let reached := (pool plainCrates lenientParsers [1] officeJobs officeDatabase).interleave
      nothingElse [.turn .importing, .turn .removing, .turn .importing, .turn .removing,
        .turn .importing, .turn .removing]
    (∃ result, Reply.imported
        { certId := "m"
          summary := "Imported: laptop (EcP256)\n  Subject: CN=office\n  Expires: 100"
          caChain := [] } = .imported result ∧ result.certId = (hostAt 'm').newId 0) ∧
      ((∃ algorithm, detectKeyAlgorithm lenientParsers [1, 2] = .ok algorithm ∧
          getPlaintextKey plainCrates (.unlocked reached.state [1]) ((hostAt 'm').newId 0) =
            .ok ([1, 2], algorithm)) ∨
        ((∀ cert ∈ reached.state.certs, cert.id ≠ (hostAt 'm').newId 0) ∧
          ∃ j remover removed, officeJobs j = .deleteCert remover removed)) :=
  @imported_key_at_hand _ _ _ _ _ _ _ deciphers_plainCrates portable_officeDatabase.wellFormed
    fresh_officeJobs [.turn .importing, .turn .removing, .turn .importing, .turn .removing,
      .turn .importing, .turn .removing] .importing _ _ _ _ _ _ rfl
      (Thread.eq_done_of_ended (by decide +kernel))

end OfficeProcesses

end TrafficCone.CommandInterleavings
