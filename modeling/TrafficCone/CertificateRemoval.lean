import TrafficCone.CommittedStatements
import TrafficCone.CustodyRuns

namespace TrafficCone.CertificateRemoval

open TrafficCone.Outcomes
open TrafficCone.StoreModels
open TrafficCone.LinkedCrates
open TrafficCone.TransducerRuns
open TrafficCone.DatabaseTables
open TrafficCone.BackupArchives
open TrafficCone.CertificateImport
open TrafficCone.StoreCommands
open TrafficCone.CommittedStatements
open TrafficCone.CustodyRuns

/-- No certificate is left under the label, nothing that belonged to one that is gone, and
all of the certificates under other labels. -/
structure RemovesLabel (master : Bytes) (label : String) (before after : Database) : Prop where
  absent : ∃ message, getCertByLabel (.unlocked after master) label = .err (.notFound message)
  keysGone : ∀ cert ∈ before.certs, cert ∉ after.certs → ∀ key ∈ after.keys, key.certId ≠ cert.id
  routesGone : ∀ cert ∈ before.certs, cert ∉ after.certs →
    ∀ route ∈ after.routes, route.certId ≠ cert.id
  certsKept : (after.certs.filter fun cert => cert.label ≠ label) =
    before.certs.filter fun cert => cert.label ≠ label
  keysKept : ∀ cert ∈ before.certs, cert.label ≠ label →
    (after.keys.filter fun key => key.certId = cert.id) =
      before.keys.filter fun key => key.certId = cert.id
  routesKept : ∀ cert ∈ before.certs, cert.label ≠ label →
    (after.routes.filter fun route => route.certId = cert.id) =
      before.routes.filter fun route => route.certId = cert.id

/-- One certificate has the label. Nothing in the store demands that. -/
def LabelHeldOnce (label : String) (database : Database) : Prop :=
  ∃ cert, (database.certs.filter fun row => row.label = label) = [cert]

section Reachable

variable {α ε δ : Type}

def StoreWellFormed (master : Bytes) (store : Store) : Prop :=
  ∃ database, store = .unlocked database master ∧ WellFormed database

theorem keeps_withConn {kind : Statement → Bool} {call : Effect Session StoreError α}
    (h : WritesBy kind call) (master : Bytes) :
    Effect.Keeps (withConn call) (StoreWellFormed master) fun _ => True := by
  rintro store ⟨database, rfl, hwell⟩
  obtain ⟨statements, -, hdatabase⟩ := h { database := database, drawn := 0 }
  refine ⟨⟨_, rfl, ?_⟩, fun _ _ => trivial⟩
  rw [hdatabase]
  exact wellFormed_commitAll hwell statements

/-- A command shows what the call behind it returns. -/
theorem keeps_command {invariant : Store → Prop} {shown : ε → δ} {call : Effect Store ε α}
    {β : Type} {returned : α → β} (h : Effect.Keeps call invariant fun _ => True) :
    Effect.Keeps (Effect.mapErr shown call >>= fun value => pure (returned value)) invariant
      fun _ => True :=
  h.mapErr.bind fun _ _ => Effect.keeps_pure trivial

/-- The operations keep the constraints of the schema, also those that fail halfway. -/
theorem keeps_perform (crates : Crates) (parsers : DerParsers) (codec : BackupCodec)
    (master : Bytes) (operation : Operation) :
    Effect.Keeps (perform crates parsers codec operation) (StoreWellFormed master)
      fun _ => True := by
  cases operation with
  | importCert host drawn certDer keyDer label =>
      apply keeps_command
      apply (Effect.keeps_lift fun _ _ => trivial).bind
      intro metadata _
      apply (Effect.keeps_lift fun _ _ => trivial).bind
      intro algorithm _
      apply (Effect.keeps_reads fun _ _ _ => trivial).bind
      intro found _
      apply (Effect.keeps_lift fun _ _ => trivial).bind
      intro encrypted _
      exact keeps_withConn (writesBy_insertImported host certDer label metadata algorithm
        encrypted) master
  | deleteCert host label =>
      apply keeps_command
      apply (Effect.keeps_reads fun _ _ _ => trivial).bind
      intro cert _
      exact keeps_withConn (writesBy_deleteRecorded host cert.id label) master
  | restoreBackup host backupData backupPassword =>
      apply keeps_command
      apply (Effect.keeps_lift fun _ _ => trivial).bind
      intro json _
      apply (Effect.keeps_lift fun _ _ => trivial).bind
      intro payload _
      exact keeps_withConn (writesBy_restorePayload host payload) master
  | appAdd files host label exe =>
      apply keeps_command
      apply (Effect.keeps_lift fun _ _ => trivial).bind
      intro hash _
      exact keeps_command (keeps_withConn (writesBy_insertApp host label exe hash) master)
  | routeAdd host request =>
      apply keeps_command
      apply (Effect.keeps_reads fun _ _ _ => trivial).bind
      intro cert _
      apply (Effect.keeps_reads fun _ _ _ => trivial).bind
      intro appId _
      exact keeps_command
        (keeps_withConn (writesBy_insertRoute host cert.id appId request) master)
  | routeRemove id =>
      apply keeps_command
      exact keeps_command (keeps_withConn (writesBy_deleteFromRoutes id) master)

/-- The store after any run of the operations, whether they succeed or not. -/
def storeAfter (crates : Crates) (parsers : DerParsers) (codec : BackupCodec) (master : Bytes)
    (operations : List Operation) : Store :=
  (run (quietly (History.next crates parsers codec)) (emptyHistory master) operations).1.store

theorem storeWellFormed_storeAfter (crates : Crates) (parsers : DerParsers)
    (codec : BackupCodec) (master : Bytes) (operations : List Operation) :
    StoreWellFormed master (storeAfter crates parsers codec master operations) := by
  refine (@run_invariant _ _ _ (quietly (History.next crates parsers codec))
    (fun history => StoreWellFormed master history.store) (fun _ => True) ?_
    (emptyHistory master) ⟨{}, rfl, wellFormed_empty⟩ operations).1
  intro history operation hhistory
  exact ⟨(keeps_perform crates parsers codec master operation history.store hhistory).1,
    fun _ _ => trivial⟩

end Reachable

section Deletion

variable {host : Host} {label : String} {before after : Database} {master : Bytes} {cert : Cert}

/-- What is left when a deletion has succeeded. -/
structure Deleted (certId : String) (before after : Database) : Prop where
  certs : after.certs = before.certs.filter fun row => row.id ≠ certId
  keys : after.keys = before.keys.filter fun row => row.certId ≠ certId
  routes : after.routes = before.routes.filter fun row => row.certId ≠ certId

theorem deleted_of_deleteCert
    (h : deleteCert host label (.unlocked before master) = (.ok (), .unlocked after master)) :
    ∃ cert ∈ before.certs, cert.label = label ∧ Deleted cert.id before after := by
  obtain ⟨cert, session, hcert, hsession, hstore⟩ := of_deleteCert h
  obtain ⟨rfl, -⟩ := Store.unlocked.inj hstore
  have hfound : (before.certs.find? fun row => row.label = label) = some cert := by
    rw [getCertByLabel] at hcert
    exact Outcome.ofOption_eq_ok_iff.mp hcert
  refine ⟨cert, List.mem_of_find?_eq_some hfound, by simpa using List.find?_some hfound, ?_⟩
  rw [deleteRecorded] at hsession
  obtain ⟨_, middle, hdelete, hsession⟩ := Effect.bind_eq_ok_iff.mp hsession
  obtain ⟨-, rfl⟩ := Prod.mk.inj hdelete
  obtain ⟨id, middle, hid, hsession⟩ := Effect.bind_eq_ok_iff.mp hsession
  obtain ⟨-, rfl⟩ := Prod.mk.inj hid
  obtain ⟨-, -, rfl⟩ := (auditLog.insert_eq_ok_iff).mp hsession
  constructor
  · rfl
  · rfl
  · rfl

theorem cert_eq_of_id_eq (hwell : WellFormed before) {first second : Cert}
    (hfirst : first ∈ before.certs) (hsecond : second ∈ before.certs)
    (h : first.id = second.id) : first = second :=
  List.inj_on_of_nodup_map (hwell.certs.1 ("id", (·.id)) (by simp [certs])) hfirst hsecond h

theorem id_eq_of_removed (hdeleted : Deleted cert.id before after) {other : Cert}
    (hbefore : other ∈ before.certs) (hafter : other ∉ after.certs) : other.id = cert.id := by
  rw [hdeleted.certs, List.mem_filter] at hafter
  by_contra hid
  exact hafter ⟨hbefore, by simpa using hid⟩

theorem id_ne_of_label_ne (hwell : WellFormed before) (hcert : cert ∈ before.certs)
    {other : Cert} (hother : other ∈ before.certs) (h : other.label ≠ cert.label) :
    other.id ≠ cert.id :=
  fun hid => h (congrArg Cert.label (cert_eq_of_id_eq hwell hother hcert hid))

theorem filter_kept {ρ : Type} {rows : List ρ} {owner : ρ → String} {removed kept : String}
    (h : kept ≠ removed) :
    ((rows.filter fun row => owner row ≠ removed).filter fun row => owner row = kept) =
      rows.filter fun row => owner row = kept := by
  rw [List.filter_filter]
  apply List.filter_congr
  intro row _
  by_cases howner : owner row = kept
  · simp [howner, h]
  · simp [howner]

theorem getCertByLabel_notFound_iff :
    (∃ message, getCertByLabel (.unlocked after master) label = .err (.notFound message)) ↔
      ∀ row ∈ after.certs, row.label ≠ label := by
  change (∃ message, Outcome.ofOption _ _ = _) ↔ _
  cases hfound : after.certs.find? fun row => row.label = label with
  | none => simpa [Outcome.ofOption] using hfound
  | some row =>
      have hlabel : row.label = label := by simpa using List.find?_some hfound
      simp only [Outcome.ofOption, reduceCtorEq, exists_false, false_iff, not_forall]
      exact ⟨row, List.mem_of_find?_eq_some hfound, by simp [hlabel]⟩

/-- The certificate goes by its id, so the label goes with it if it is the only one. -/
theorem no_label_left_iff (hwell : WellFormed before) (hcert : cert ∈ before.certs)
    (hlabel : cert.label = label) (hdeleted : Deleted cert.id before after) :
    (∀ row ∈ after.certs, row.label ≠ label) ↔ LabelHeldOnce label before := by
  have hmem : cert ∈ before.certs.filter fun row => row.label = label :=
    List.mem_filter.mpr ⟨hcert, by simpa using hlabel⟩
  constructor
  · intro hnone
    have hsame : ∀ row ∈ before.certs.filter fun row => row.label = label, row = cert := by
      intro row hrow
      obtain ⟨hbefore, hrowLabel⟩ := List.mem_filter.mp hrow
      refine cert_eq_of_id_eq hwell hbefore hcert (id_eq_of_removed hdeleted hbefore ?_)
      exact fun hafter => hnone row hafter (by simpa using hrowLabel)
    have hnodup : (before.certs.filter fun row => row.label = label).Nodup :=
      List.Nodup.filter _
        (List.Nodup.of_map _ (hwell.certs.1 ("id", (·.id)) (by simp [certs])))
    exact ⟨cert, List.perm_singleton.mp ((List.perm_ext_iff_of_nodup hnodup (by simp)).mpr
      fun row => ⟨fun hrow => by simp [hsame row hrow], fun hrow => by
        rw [List.mem_singleton.mp hrow]
        exact hmem⟩)⟩
  · rintro ⟨only, honly⟩ row hrow hrowLabel
    rw [hdeleted.certs, List.mem_filter] at hrow
    rw [honly] at hmem
    have hrowMem : row ∈ before.certs.filter fun row => row.label = label :=
      List.mem_filter.mpr ⟨hrow.1, by simpa using hrowLabel⟩
    rw [honly] at hrowMem
    obtain rfl := List.mem_singleton.mp hmem
    obtain rfl := List.mem_singleton.mp hrowMem
    simp at hrow

theorem removesLabel_of_absent (hwell : WellFormed before) (hcert : cert ∈ before.certs)
    (hlabel : cert.label = label) (hdeleted : Deleted cert.id before after)
    (habsent : ∃ message,
      getCertByLabel (.unlocked after master) label = .err (.notFound message)) :
    RemovesLabel master label before after where
  absent := habsent
  keysGone := by
    intro other hother hgone key hkey
    rw [hdeleted.keys, List.mem_filter] at hkey
    rw [id_eq_of_removed hdeleted hother hgone]
    simpa using hkey.2
  routesGone := by
    intro other hother hgone route hroute
    rw [hdeleted.routes, List.mem_filter] at hroute
    rw [id_eq_of_removed hdeleted hother hgone]
    simpa using hroute.2
  certsKept := by
    rw [hdeleted.certs, List.filter_filter]
    apply List.filter_congr
    intro other hother
    by_cases h : other.label = label
    · simp [h]
    · have hid := id_ne_of_label_ne hwell hcert hother (by rwa [hlabel])
      simp [h, hid]
  keysKept := by
    intro other hother h
    rw [hdeleted.keys]
    exact filter_kept (id_ne_of_label_ne hwell hcert hother (by rwa [hlabel]))
  routesKept := by
    intro other hother h
    rw [hdeleted.routes]
    exact filter_kept (id_ne_of_label_ne hwell hcert hother (by rwa [hlabel]))

end Deletion

/-- In every store that can be reached, a successful deletion does what it says exactly if
one certificate has the label. Imports and restores let any number have it. -/
theorem removesLabel_iff {crates : Crates} {parsers : DerParsers} {codec : BackupCodec}
    {master : Bytes} {operations : List Operation} {host : Host} {label : String}
    {before after : Database}
    (hreached : storeAfter crates parsers codec master operations = .unlocked before master)
    (hdeleted :
      deleteCert host label (.unlocked before master) = (.ok (), .unlocked after master)) :
    RemovesLabel master label before after ↔ LabelHeldOnce label before := by
  obtain ⟨database, hstore, hwell⟩ :=
    storeWellFormed_storeAfter crates parsers codec master operations
  obtain ⟨rfl, -⟩ := Store.unlocked.inj (hreached.symm.trans hstore)
  obtain ⟨cert, hcert, hlabel, hrows⟩ := deleted_of_deleteCert hdeleted
  rw [← no_label_left_iff hwell hcert hlabel hrows, ← @getCertByLabel_notFound_iff _ _ master]
  constructor
  · exact fun hremoves => hremoves.absent
  · exact removesLabel_of_absent hwell hcert hlabel hrows

section OneLabel

open TrafficCone.BackupRoundTrip (officeDatabase officePayload onePayload)

/-- The store after two imports, the first one as the laptop. -/
def laptopAnd (label : String) : Store :=
  storeAfter plainCrates lenientParsers (onePayload officePayload) [1]
    [.importCert (hostAt 'm') officeRandomness [0x30, 1] [1, 2] "laptop",
      .importCert (hostAt 'n') officeRandomness [0x30, 2] [3, 4] label]

def databaseOf : Store → Database
  | .locked => {}
  | .unlocked database _ => database

theorem removesLabel_laptop_and_phone :
    let before := databaseOf (laptopAnd "phone")
    let after := databaseOf (deleteCert (hostAt 'r') "laptop" (laptopAnd "phone")).2
    laptopAnd "phone" = .unlocked before [1] ∧
      deleteCert (hostAt 'r') "laptop" (.unlocked before [1]) =
        (.ok (), .unlocked after [1]) ∧
      RemovesLabel [1] "laptop" before after := by
  have hreached : laptopAnd "phone" = .unlocked (databaseOf (laptopAnd "phone")) [1] := by
    decide +kernel
  have hdeleted : deleteCert (hostAt 'r') "laptop"
      (.unlocked (databaseOf (laptopAnd "phone")) [1]) = (.ok (), .unlocked
        (databaseOf (deleteCert (hostAt 'r') "laptop" (laptopAnd "phone")).2) [1]) := by
    decide +kernel
  exact ⟨hreached, hdeleted, (removesLabel_iff hreached hdeleted).mpr ⟨_, rfl⟩⟩

/-- A renewed certificate, imported under the label of the old one, is still there when the
label has been removed. -/
theorem label_stays_after_deletion :
    let before := databaseOf (laptopAnd "laptop")
    let after := databaseOf (deleteCert (hostAt 'r') "laptop" (laptopAnd "laptop")).2
    laptopAnd "laptop" = .unlocked before [1] ∧
      deleteCert (hostAt 'r') "laptop" (.unlocked before [1]) =
        (.ok (), .unlocked after [1]) ∧
      ¬ RemovesLabel [1] "laptop" before after := by
  refine ⟨by decide +kernel, by decide +kernel, ?_⟩
  intro hremoves
  obtain ⟨message, habsent⟩ := hremoves.absent
  cases habsent

end OneLabel

end TrafficCone.CertificateRemoval
