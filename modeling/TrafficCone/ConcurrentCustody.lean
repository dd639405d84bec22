import TrafficCone.CertificateStanding
import TrafficCone.CustodyRuns
import TrafficCone.RelyGuarantee

namespace TrafficCone.ConcurrentCustody

open TrafficCone.Outcomes
open TrafficCone.Threads
open TrafficCone.RelyGuarantee
open TrafficCone.StoreModels
open TrafficCone.StoreListing
open TrafficCone.LinkedCrates
open TrafficCone.DatabaseTables
open TrafficCone.BackupArchives
open TrafficCone.CertificateImport
open TrafficCone.StoreCommands
open TrafficCone.KeyCustody
open TrafficCone.CommittedStatements
open TrafficCone.CommandThreads
open TrafficCone.CertificateStanding

/-- The database, and the ids of all the certificates that have been in it. -/
abbrev Ledger : Type := Database × List String

def noteCerts (database : Database) (ids : List String) : List String :=
  database.certs.map (·.id) ++ ids

/-- The certificate has been in the database, and nothing is left of it. -/
def Gone (id : String) (ledger : Ledger) : Prop :=
  id ∈ ledger.2 ∧ standing ledger.1 id = .absent

/-- What a job may put into the tables, and whether it may take certificates out. -/
structure Licence where
  certId : Option String
  keyId : Option String
  removes : Bool

def importLicence (certId keyId : String) : Licence where
  certId := some certId
  keyId := some keyId
  removes := false

/-- What a job may rely on the others to do. -/
structure Rely (licence : Licence) (before after : Ledger) : Prop where
  wellFormed : WellFormed before.1 → WellFormed after.1
  untouched : ∀ id, licence.certId = some id → Untouched id before.1 after.1
  keyIds : ∀ key ∈ after.1.keys, key ∈ before.1.keys ∨ licence.keyId ≠ some key.id
  noted : after.2 = noteCerts after.1 before.2

/-- What a job does itself in one step. -/
structure Guarantee (licence : Licence) (before after : Ledger) : Prop where
  wellFormed : WellFormed before.1 → WellFormed after.1
  untouched : ∀ id, licence.certId ≠ some id → Untouched id before.1 after.1
  single : ∀ id, (standing before.1 id).keys.length ≤ 1 → (standing after.1 id).keys.length ≤ 1
  keyIds : ∀ key ∈ after.1.keys, key ∈ before.1.keys ∨ licence.keyId = some key.id
  noted : after.2 = noteCerts after.1 before.2
  gone : ∀ id, Gone id before → Gone id after
  keeps : licence.removes = false → before.1.certs ⊆ after.1.certs

theorem mem_noteCerts {id : String} {database : Database} {ids : List String} :
    id ∈ noteCerts database ids ↔ (standing database id).stored = true ∨ id ∈ ids := by
  rw [noteCerts, List.mem_append, List.mem_map, stored_iff]

section Steps

variable {licence : Licence} {before after : Ledger}

theorem gone_of_untouched {id : String} (huntouched : Untouched id before.1 after.1)
    (hnoted : after.2 = noteCerts after.1 before.2) (hgone : Gone id before) : Gone id after := by
  refine ⟨?_, huntouched.absent hgone.2⟩
  rw [hnoted, mem_noteCerts]
  exact Or.inr hgone.1

/-- A step that puts in neither a certificate nor a key is within every guarantee, and others
may rely on it. -/
theorem guarantee_of_untouched (hwell : WellFormed before.1 → WellFormed after.1)
    (huntouched : ∀ id, Untouched id before.1 after.1) (hkeys : after.1.keys ⊆ before.1.keys)
    (hnoted : after.2 = noteCerts after.1 before.2)
    (hkeeps : licence.removes = false → before.1.certs ⊆ after.1.certs) :
    Guarantee licence before after where
  wellFormed := hwell
  untouched id _ := huntouched id
  single id := (huntouched id).single
  keyIds _ hkey := Or.inl (hkeys hkey)
  noted := hnoted
  gone id := gone_of_untouched (huntouched id) hnoted
  keeps := hkeeps

theorem rely_of_untouched (hwell : WellFormed before.1 → WellFormed after.1)
    (huntouched : ∀ id, Untouched id before.1 after.1) (hkeys : after.1.keys ⊆ before.1.keys)
    (hnoted : after.2 = noteCerts after.1 before.2) : Rely licence before after where
  wellFormed := hwell
  untouched id _ := huntouched id
  keyIds _ hkey := Or.inl (hkeys hkey)
  noted := hnoted

/-- What one job guarantees another may rely on, unless they have drawn the same ids. -/
theorem Guarantee.rely {other : Licence} (h : Guarantee licence before after)
    (hcert : ∀ id, other.certId = some id → licence.certId ≠ some id)
    (hkey : ∀ id, other.keyId = some id → licence.keyId ≠ some id) :
    Rely other before after where
  wellFormed := h.wellFormed
  untouched id hid := h.untouched id (hcert id hid)
  keyIds key hmem := by
    rcases h.keyIds key hmem with hold | hown
    · exact Or.inl hold
    · exact Or.inr fun hid => hkey key.id hid hown
  noted := h.noted

variable {condition : Ledger → Prop} {failed : Ledger → Prop}

/-- Such a statement keeps what the others keep. -/
theorem secures_issue {statement : Statement} (hbeside : besideCustody statement = true)
    (hremoves : licence.removes = false → removesCert statement = false)
    (hstable : Stable (Rely licence) condition) :
    Secures (Rely licence) (Guarantee licence) condition
      ((issue statement).noted noteCerts) (fun _ => condition) condition := by
  rw [issue, Thread.noted_atomic]
  apply secures_atomic hstable (fun _ => hstable) hstable
  intro ledger hcondition
  have hchange := change_issueCall statement ledger.1
  have hrely : Rely licence ledger (noteCall noteCerts (issueCall statement) ledger).2 :=
    rely_of_untouched (fun hwell => wellFormed_of_change hwell hchange)
      (untouched_of_change hbeside hchange) (keys_subset_of_change hbeside hchange) rfl
  refine ⟨guarantee_of_untouched hrely.wellFormed (untouched_of_change hbeside hchange)
    (keys_subset_of_change hbeside hchange) rfl
    fun hkeeps => certs_subset_of_change (hremoves hkeeps) hchange, ?_⟩
  have hafter := hstable _ _ hrely hcondition
  cases (noteCall noteCerts (issueCall statement) ledger).1 with
  | ok value => exact hafter
  | err error => exact hafter
  | panicked => exact hafter

theorem secures_query {ε α : Type} (view : Database → Outcome ε α)
    (hstable : Stable (Rely licence) condition) :
    Secures (Rely licence) (Guarantee licence) condition
      ((query view).noted noteCerts) (fun _ => condition) condition := by
  rw [query, Thread.noted_atomic]
  apply secures_atomic hstable (fun _ => hstable) hstable
  intro ledger hcondition
  have hrely : Rely licence ledger (noteCall noteCerts (Effect.reads view) ledger).2 :=
    rely_of_untouched id (fun _ => Or.inl rfl) (List.Subset.refl _) rfl
  refine ⟨guarantee_of_untouched id (fun _ => Or.inl rfl) (List.Subset.refl _) rfl
    fun _ => List.Subset.refl _, ?_⟩
  have hafter := hstable _ _ hrely hcondition
  cases (noteCall noteCerts (Effect.reads view) ledger).1 with
  | ok value => exact hafter
  | err error => exact hafter
  | panicked => exact hafter

end Steps

section Harmless

variable {ε δ α β : Type}

/-- Whatever a job may rely on the others to keep, the thread keeps at each of its steps. -/
def Harmless (removes : Bool) (thread : Thread Database ε α) : Prop :=
  ∀ licence condition, licence.removes = removes → Stable (Rely licence) condition →
    Secures (Rely licence) (Guarantee licence) condition (thread.noted noteCerts)
      (fun _ => condition) condition

variable {removes : Bool}

theorem harmless_done (outcome : Outcome ε α) :
    Harmless removes (.done outcome : Thread Database ε α) :=
  fun _ _ _ hstable => secures_done hstable (fun _ _ _ h => h) fun _ h => h

theorem harmless_issue {statement : Statement} (hbeside : besideCustody statement = true)
    (hremoves : removes = false → removesCert statement = false) :
    Harmless removes (issue statement) := by
  rintro licence condition rfl hstable
  exact secures_issue hbeside hremoves hstable

theorem harmless_query (view : Database → Outcome ε α) : Harmless removes (query view) :=
  fun _ _ _ hstable => secures_query view hstable

theorem Harmless.mapErr {thread : Thread Database ε α} (h : Harmless removes thread)
    (f : ε → δ) : Harmless removes (thread.mapErr f) := by
  intro licence condition hlicence hstable
  rw [Thread.noted_mapErr]
  exact (h licence condition hlicence hstable).mapErr

theorem Harmless.bind {thread : Thread Database ε α} {rest : α → Thread Database ε β}
    (hfirst : Harmless removes thread) (hrest : ∀ value, Harmless removes (rest value)) :
    Harmless removes (thread >>= rest) := by
  intro licence condition hlicence hstable
  rw [Thread.noted_bind]
  exact (hfirst licence condition hlicence hstable).bind fun value =>
    hrest value licence condition hlicence hstable

variable {crates : Crates} {master : Bytes}

theorem harmless_deleteCert (host : Host) (label : String) :
    Harmless true (deleteCertSteps master host label) := by
  apply (harmless_query _).bind
  intro cert
  refine Harmless.bind (harmless_issue (by rfl) nofun) ?_
  intro _
  exact harmless_issue (by rfl) nofun

theorem harmless_appAdd (files : IntegrityChecks.Files) (host : Host) (label exe : String) :
    Harmless false (appAddSteps crates host files label exe) := by
  apply (harmless_done _).bind
  intro hash
  apply ((harmless_issue (by rfl) fun _ => by rfl).mapErr _).bind
  intro _
  exact harmless_done _

theorem harmless_routeAdd (host : Host) (request : RouteRequest) :
    Harmless false (routeAddSteps master host request) := by
  apply (harmless_query _).bind
  intro cert
  apply (harmless_query _).bind
  intro appId
  refine Harmless.bind (Harmless.mapErr ?_ _) fun _ => harmless_done _
  apply (harmless_issue (by rfl) fun _ => by rfl).bind
  intro _
  exact harmless_done _

theorem harmless_routeRemove (id : String) : Harmless false (routeRemoveSteps id) := by
  apply ((harmless_issue (by rfl) fun _ => by rfl).mapErr _).bind
  intro _
  exact harmless_done _

theorem harmless_resolveRoute (exePath remoteHost remoteIp : Option String) :
    Harmless false (resolveRouteSteps master exePath remoteHost remoteIp) := by
  apply (harmless_query _).bind
  intro routes
  apply (harmless_query _).bind
  intro apps
  exact harmless_done _

theorem harmless_tryConnections (process : ProcessMonitoring.ProcessEntry)
    (connections : List ProcReaders.Connection) :
    Harmless false (tryConnectionsSteps master process connections) := by
  induction connections with
  | nil => exact harmless_done _
  | cons connection rest ih =>
      apply ((harmless_resolveRoute _ _ _).mapErr _).bind
      intro certId
      cases certId with
      | some certId => exact harmless_done _
      | none => exact ih

theorem harmless_answerSign (system : ProcReaders.System)
    (resolved : Outcome String ProcessMonitoring.ProcessEntry)
    (knownHashes : PidRouting.KnownHashes) (pid : Nat) (data : Bytes) :
    Harmless false (answerSignSteps crates master system resolved knownHashes pid data) := by
  apply (harmless_done _).bind
  intro process
  refine Harmless.bind ?_ fun route => (harmless_query _).bind fun row => harmless_query _
  unfold routeProcessSteps
  split
  · exact harmless_done _
  · apply (harmless_done _).bind
    intro connections
    apply (harmless_tryConnections process connections).bind
    intro found
    cases found with
    | some route => exact harmless_done _
    | none =>
        apply ((harmless_resolveRoute _ _ _).mapErr _).bind
        intro certId
        cases certId with
        | some certId => exact harmless_done _
        | none => exact harmless_done _

end Harmless

section Importing

variable {certId keyId : String} {crates : Crates} {master : Bytes}

/-- No import has put in the certificate yet. -/
def Prepared (certId keyId : String) (ledger : Ledger) : Prop :=
  WellFormed ledger.1 ∧ standing ledger.1 certId = .absent ∧ certId ∉ ledger.2 ∧
    ∀ key ∈ ledger.1.keys, key.id ≠ keyId

/-- The certificate has been put in, but not its key. -/
def Keyless (certId keyId : String) (ledger : Ledger) : Prop :=
  certId ∈ ledger.2 ∧ (standing ledger.1 certId).keys = [] ∧
    ∀ key ∈ ledger.1.keys, key.id ≠ keyId

/-- The certificate is there with the key, or it has been removed. -/
def InPlace (certId : String) (key : KeyRow) (ledger : Ledger) : Prop :=
  certId ∈ ledger.2 ∧
    (standing ledger.1 certId = .absent ∨ standing ledger.1 certId = .whole key)

/-- The certificate is there with a key, or it is not there. -/
def Complete (certId : String) (ledger : Ledger) : Prop :=
  standing ledger.1 certId = .absent ∨ ∃ key, standing ledger.1 certId = .whole key

theorem keyIds_stable {before after : Ledger}
    (h : Rely (importLicence certId keyId) before after)
    (hkeys : ∀ key ∈ before.1.keys, key.id ≠ keyId) : ∀ key ∈ after.1.keys, key.id ≠ keyId := by
  intro key hkey
  rcases h.keyIds key hkey with hold | hother
  · exact hkeys key hold
  · exact fun hid => hother (by rw [hid, importLicence])

theorem stable_prepared : Stable (Rely (importLicence certId keyId)) (Prepared certId keyId) := by
  rintro before after h ⟨hwell, habsent, hnew, hkeys⟩
  have hafter := (h.untouched certId rfl).absent habsent
  refine ⟨h.wellFormed hwell, hafter, ?_, keyIds_stable h hkeys⟩
  rw [h.noted, mem_noteCerts, hafter]
  rintro (hstored | hnoted)
  · cases hstored
  · exact hnew hnoted

theorem Rely.noted_mem {licence : Licence} {before after : Ledger} {id : String}
    (h : Rely licence before after) (hmem : id ∈ before.2) : id ∈ after.2 := by
  rw [h.noted, mem_noteCerts]
  exact Or.inr hmem

theorem stable_keyless : Stable (Rely (importLicence certId keyId)) (Keyless certId keyId) :=
  fun _ _ h hkeyless =>
    ⟨h.noted_mem hkeyless.1, (h.untouched certId rfl).keys_nil hkeyless.2.1,
      keyIds_stable h hkeyless.2.2⟩

theorem stable_inPlace (key : KeyRow) :
    Stable (Rely (importLicence certId keyId)) (InPlace certId key) := by
  rintro before after h ⟨hmem, hin⟩
  refine ⟨h.noted_mem hmem, ?_⟩
  rcases h.untouched certId rfl with hsame | hgone
  · rw [hsame]
    exact hin
  · exact Or.inl hgone

theorem stable_complete : Stable (Rely (importLicence certId keyId)) (Complete certId) := by
  intro before after h hcomplete
  rcases h.untouched certId rfl with hsame | hgone
  · rw [Complete, hsame]
    exact hcomplete
  · exact Or.inl hgone

theorem complete_of_inPlace {key : KeyRow} {ledger : Ledger} (h : InPlace certId key ledger) :
    Complete certId ledger :=
  h.2.imp id fun hwhole => ⟨key, hwhole⟩

/-- A step that changes nothing. -/
theorem guarantee_unchanged (ledger : Ledger) :
    Guarantee (importLicence certId keyId) ledger (ledger.1, noteCerts ledger.1 ledger.2) :=
  guarantee_of_untouched id (fun _ => Or.inl rfl) (List.Subset.refl _) rfl
    fun _ => List.Subset.refl _

theorem secures_insertCert {row : Cert} (hrow : row.id = certId) :
    Secures (Rely (importLicence certId keyId)) (Guarantee (importLicence certId keyId))
      (Prepared certId keyId) ((issue (.insertCert row)).noted noteCerts)
      (fun _ => Keyless certId keyId) (Complete certId) := by
  rw [issue, Thread.noted_atomic]
  apply secures_atomic stable_prepared (fun _ => stable_keyless) stable_complete
  rintro ledger ⟨hwell, habsent, hnew, hkeys⟩
  have hchange := change_issueCall (.insertCert row) ledger.1
  rcases issueCall_insertCert row ledger.1 with ⟨error, hcall⟩ | hcall
  · simp only [noteCall, hcall]
    exact ⟨guarantee_unchanged ledger, Or.inl habsent⟩
  · rw [hcall] at hchange
    simp only [noteCall, hcall]
    have huntouched : ∀ id, id ≠ certId →
        Untouched id ledger.1 { ledger.1 with certs := ledger.1.certs ++ [row] } := by
      intro id hid
      refine Or.inl ?_
      rw [standing_withCert, hrow, decide_eq_false (Ne.symm hid), Bool.or_false]
    refine ⟨?_, ?_⟩
    · exact
        { wellFormed := fun hbefore => wellFormed_of_change hbefore hchange
          untouched := fun id hid => huntouched id fun h => hid (congrArg some h.symm)
          single := fun id hsingle => by
            rw [standing_withCert]
            exact hsingle
          keyIds := fun _ hkey => Or.inl hkey
          noted := rfl
          gone := fun id hgone => by
            have hid : id ≠ certId := by
              rintro rfl
              exact hnew hgone.1
            exact gone_of_untouched (huntouched id hid) rfl hgone
          keeps := fun _ => List.subset_append_left _ _ }
    · refine ⟨?_, ?_, hkeys⟩
      · rw [mem_noteCerts, standing_withCert, hrow]
        exact Or.inl (by simp)
      · rw [standing_withCert, habsent]
        rfl

theorem secures_insertKey {row : KeyRow} (hcert : row.certId = certId) (hid : row.id = keyId) :
    Secures (Rely (importLicence certId keyId)) (Guarantee (importLicence certId keyId))
      (Keyless certId keyId) ((issue (.insertKey row)).noted noteCerts)
      (fun _ => InPlace certId row) (Complete certId) := by
  subst hcert hid
  rw [issue, Thread.noted_atomic]
  apply secures_atomic stable_keyless (fun _ => stable_inPlace row) stable_complete
  rintro ledger ⟨hmem, hkeyless, hkeys⟩
  have hchange := change_issueCall (.insertKey row) ledger.1
  rcases issueCall_insertKey hkeys with ⟨hstored, error, hcall⟩ | ⟨hstored, hcall⟩
  · simp only [noteCall, hcall]
    exact ⟨guarantee_unchanged ledger, Or.inl (standing_eq_iff.mpr ⟨hstored, hkeyless⟩)⟩
  · rw [hcall] at hchange
    simp only [noteCall, hcall]
    have hwhole : standing { ledger.1 with keys := ledger.1.keys ++ [row] } row.certId =
        .whole row := by
      rw [standing_withKey, hstored, hkeyless, if_pos rfl]
      rfl
    have huntouched : ∀ id, id ≠ row.certId →
        Untouched id ledger.1 { ledger.1 with keys := ledger.1.keys ++ [row] } := by
      intro id hother
      refine Or.inl ?_
      rw [standing_withKey, if_neg (Ne.symm hother), List.append_nil]
    refine ⟨?_, mem_noteCerts.mpr (Or.inr hmem), Or.inr hwhole⟩
    exact
      { wellFormed := fun hbefore => wellFormed_of_change hbefore hchange
        untouched := fun id hother => huntouched id fun h => hother (congrArg some h.symm)
        single := fun id hsingle => by
          by_cases hother : id = row.certId
          · subst hother
            rw [hwhole]
            exact Nat.le_refl 1
          · exact (huntouched id hother).single hsingle
        keyIds := fun key hkey => by
          rcases List.mem_append.mp hkey with hold | hnew
          · exact Or.inl hold
          · exact Or.inr (by rw [List.mem_singleton.mp hnew, importLicence])
        noted := rfl
        gone := fun id hgone => by
          have hother : id ≠ row.certId := by
            rintro rfl
            rw [hgone.2] at hstored
            cases hstored
          exact gone_of_untouched (huntouched id hother) rfl hgone
        keeps := fun _ => List.Subset.refl _ }

/-- The certificate is there with a key that opens to the imported one, or it has been
removed. -/
def Kept (crates : Crates) (parsers : DerParsers) (master : Bytes) (certId : String)
    (keyDer : Bytes) (ledger : Ledger) : Prop :=
  certId ∈ ledger.2 ∧
    (standing ledger.1 certId = .absent ∨
      ∃ key algorithm, standing ledger.1 certId = .whole key ∧
        detectKeyAlgorithm parsers keyDer = .ok algorithm ∧
        decryptKey crates key.keyEnc key.keySalt key.keyNonce master = .ok keyDer ∧
        parseAlgorithm key.algorithm = .ok algorithm)

theorem stable_kept {parsers : DerParsers} {keyDer : Bytes} :
    Stable (Rely (importLicence certId keyId)) (Kept crates parsers master certId keyDer) := by
  rintro before after h ⟨hmem, hkept⟩
  refine ⟨h.noted_mem hmem, ?_⟩
  rcases h.untouched certId rfl with hsame | hgone
  · rw [hsame]
    exact hkept
  · exact Or.inl hgone

theorem secures_insertAudit (entry : AuditEntry) (key : KeyRow) :
    Secures (Rely (importLicence certId keyId)) (Guarantee (importLicence certId keyId))
      (InPlace certId key) ((issue (.insertAudit entry)).noted noteCerts)
      (fun _ => InPlace certId key) (Complete certId) :=
  (secures_issue (by rfl) (fun _ => by rfl) (stable_inPlace key)).weaken
    (fun _ h => h) (fun _ _ h => h) fun _ => complete_of_inPlace

theorem secures_storeCertAndKey (hcrates : Deciphers crates) (parsers : DerParsers)
    (host : Host) (drawn : KeyRandomness) (certDer keyDer : Bytes) (label : String) :
    Secures (Rely (importLicence (host.newId 0) (host.newId 1)))
      (Guarantee (importLicence (host.newId 0) (host.newId 1)))
      (Prepared (host.newId 0) (host.newId 1))
      ((storeCertAndKeySteps crates master host parsers drawn certDer keyDer label).noted
        noteCerts)
      (fun result ledger => result.certId = host.newId 0 ∧
        Kept crates parsers master (host.newId 0) keyDer ledger)
      (Complete (host.newId 0)) := by
  have hnothing : ∀ ledger, Prepared (host.newId 0) (host.newId 1) ledger →
      Complete (host.newId 0) ledger := fun _ h => Or.inl h.2.1
  rw [storeCertAndKeySteps, Thread.noted_bind]
  apply secures_done_bind stable_prepared hnothing
  intro metadata _
  rw [Thread.noted_bind]
  apply secures_done_bind stable_prepared hnothing
  intro algorithm halgorithm
  rw [Thread.noted_bind]
  apply secures_done_bind stable_prepared hnothing
  intro encrypted hencrypted
  rw [Thread.noted_bind]
  apply (secures_insertCert (by rfl)).bind
  intro _
  rw [Thread.noted_bind]
  apply (secures_insertKey (by rfl) (by rfl)).bind
  intro _
  rw [Thread.noted_bind]
  apply (secures_insertAudit _ _).bind
  intro _
  apply secures_pure
  · exact fun before after h hkept => ⟨hkept.1, stable_kept before after h hkept.2⟩
  · intro ledger hin
    refine ⟨rfl, hin.1, hin.2.imp id ?_⟩
    intro hwhole
    exact ⟨_, algorithm, hwhole, halgorithm, decryptKey_of_encryptKey hcrates hencrypted,
      parseAlgorithm_algorithmName algorithm⟩

end Importing

section Jobs

variable {crates : Crates} {parsers : DerParsers} {master : Bytes}

def jobLicence : Job → Licence
  | .importCert host _ _ _ _ => importLicence (host.newId 0) (host.newId 1)
  | .deleteCert _ _ => { certId := none, keyId := none, removes := true }
  | _ => { certId := none, keyId := none, removes := false }

def jobReady : Job → Ledger → Prop
  | .importCert host _ _ _ _ => Prepared (host.newId 0) (host.newId 1)
  | _ => fun _ => True

variable (crates parsers master) in
def jobReturned : Job → Reply → Ledger → Prop
  | .importCert host _ _ keyDer _, reply =>
      fun ledger => (∃ result, reply = .imported result ∧ result.certId = host.newId 0) ∧
        Kept crates parsers master (host.newId 0) keyDer ledger
  | _, _ => fun _ => True

def jobFailed : Job → Ledger → Prop
  | .importCert host _ _ _ _ => Complete (host.newId 0)
  | _ => fun _ => True

theorem stable_true {licence : Licence} : Stable (Rely licence) fun _ => True :=
  fun _ _ _ _ => trivial

/-- A harmless thread that ends with a reply. -/
theorem secures_harmless {licence : Licence} {α : Type} {thread : Thread Database String α}
    (h : Harmless licence.removes thread) (reply : α → Reply) :
    Secures (Rely licence) (Guarantee licence) (fun _ => True)
      ((thread >>= fun value => pure (reply value)).noted noteCerts) (fun _ _ => True)
      fun _ => True :=
  h.bind (fun _ => harmless_done _) licence _ rfl stable_true

theorem secures_job (hcrates : Deciphers crates) (job : Job) :
    Secures (Rely (jobLicence job)) (Guarantee (jobLicence job)) (jobReady job)
      ((job.steps crates parsers master).noted noteCerts) (jobReturned crates parsers master job)
      (jobFailed job) := by
  cases job with
  | importCert host drawn certDer keyDer label =>
      rw [Job.steps, Thread.noted_bind, Thread.noted_mapErr]
      apply (secures_storeCertAndKey hcrates parsers host drawn certDer keyDer label).mapErr.bind
      intro result
      apply secures_pure
      · exact fun before after h hkept => ⟨hkept.1, stable_kept before after h hkept.2⟩
      · exact fun ledger hkept => ⟨⟨result, rfl, hkept.1⟩, hkept.2⟩
  | deleteCert host label => exact secures_harmless ((harmless_deleteCert _ _).mapErr _) _
  | appAdd files host label exe =>
      exact secures_harmless ((harmless_appAdd _ _ _ _).mapErr _) _
  | routeAdd host request => exact secures_harmless ((harmless_routeAdd _ _).mapErr _) _
  | routeRemove id => exact secures_harmless ((harmless_routeRemove _).mapErr _) _
  | sign system resolved knownHashes pid data =>
      exact secures_harmless (harmless_answerSign _ _ _ _ _) _

/-- The ids that the imports draw are neither in the tables nor drawn twice. -/
structure Fresh {ι : Type} (jobs : ι → Job) (database : Database) : Prop where
  certIds : ∀ i j id, (jobLicence (jobs i)).certId = some id →
    (jobLicence (jobs j)).certId = some id → i = j
  keyIds : ∀ i j id, (jobLicence (jobs i)).keyId = some id →
    (jobLicence (jobs j)).keyId = some id → i = j
  newCerts : ∀ i id, (jobLicence (jobs i)).certId = some id →
    ∀ cert ∈ database.certs, cert.id ≠ id
  newKeys : ∀ i id, (jobLicence (jobs i)).keyId = some id → ∀ key ∈ database.keys, key.id ≠ id

variable {ι : Type} {jobs : ι → Job} {database : Database}

theorem jobReady_of_fresh (hwell : WellFormed database) (hfresh : Fresh jobs database) (i : ι) :
    jobReady (jobs i) (database, noteCerts database []) := by
  cases hjob : jobs i with
  | importCert host drawn certDer keyDer label =>
      have hlicence : jobLicence (jobs i) = importLicence (host.newId 0) (host.newId 1) := by
        rw [hjob, jobLicence]
      have hnew := hfresh.newCerts i (host.newId 0) (by rw [hlicence, importLicence])
      have hkeys := hfresh.newKeys i (host.newId 1) (by rw [hlicence, importLicence])
      have hmissing : (standing database (host.newId 0)).stored = false := by
        simpa [standing] using hnew
      refine ⟨hwell, (standing_eq_absent_iff hwell).mpr hmissing, ?_, hkeys⟩
      rw [mem_noteCerts, hmissing]
      rintro (hstored | hnone)
      · cases hstored
      · cases hnone
  | _ => trivial

theorem compatible (hfresh : Fresh jobs database) :
    Compatible (noteEvent noteCerts nothingElse) (fun i => Rely (jobLicence (jobs i)))
      (fun i => Guarantee (jobLicence (jobs i))) where
  threads i j _ _ hij h :=
    h.rely (fun id hj hi => hij (hfresh.certIds i j id hi hj))
      fun id hj hi => hij (hfresh.keyIds i j id hi hj)
  outside _ event := event.elim

/-- The steps that the processes take together. -/
abbrev Steps (jobs : ι → Job) : Ledger → Ledger → Prop :=
  Progress (noteEvent noteCerts nothingElse) fun i => Guarantee (jobLicence (jobs i))

theorem invariant_of_steps {invariant : Ledger → Prop}
    (h : ∀ i before after, Guarantee (jobLicence (jobs i)) before after →
      invariant before → invariant after) {before after : Ledger}
    (hsteps : Relation.ReflTransGen (Steps jobs) before after) (hbefore : invariant before) :
    invariant after :=
  invariant_of_progress h (fun event => event.elim) hsteps hbefore

variable [DecidableEq ι]

variable (crates parsers master jobs) in
/-- Each process will keep its guarantee and end as it should. -/
def Lawful (reached : Pool Database ι String Reply) (ids : List String) : Prop :=
  AllAssured (fun i => Rely (jobLicence (jobs i))) (fun i => Guarantee (jobLicence (jobs i)))
    (fun i => jobReturned crates parsers master (jobs i)) (fun i => jobFailed (jobs i))
    (reached.noted noteCerts ids)

omit [DecidableEq ι] in
theorem lawful_pool (hcrates : Deciphers crates) (hwell : WellFormed database)
    (hfresh : Fresh jobs database) :
    Lawful crates parsers master jobs (pool crates parsers master jobs database)
      (noteCerts database []) :=
  fun i => secures_job hcrates (jobs i) _ (jobReady_of_fresh hwell hfresh i)

/-- Whatever the order in which the processes take their steps. -/
theorem Lawful.interleave {reached : Pool Database ι String Reply} {ids : List String}
    (h : Lawful crates parsers master jobs reached ids) (hfresh : Fresh jobs database)
    (moves : List (Move Empty ι)) :
    ∃ more, Lawful crates parsers master jobs (reached.interleave nothingElse moves) more ∧
      Relation.ReflTransGen (Steps jobs) (reached.state, ids)
        ((reached.interleave nothingElse moves).state, more) := by
  obtain ⟨more, hnoted⟩ := reached.noted_interleave noteCerts nothingElse ids moves
  obtain ⟨hassured, hsteps⟩ := AllAssured.interleave (compatible hfresh) h moves
  rw [hnoted] at hassured hsteps
  exact ⟨more, hassured, hsteps⟩

end Jobs

end TrafficCone.ConcurrentCustody
