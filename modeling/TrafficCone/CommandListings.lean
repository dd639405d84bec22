import TrafficCone.CertificateRemoval
import TrafficCone.CliClient
import TrafficCone.TextScanning

namespace TrafficCone.CommandListings

open TrafficCone.Outcomes
open TrafficCone.StoreModels
open TrafficCone.HexadecimalText
open TrafficCone.TextScanning
open TrafficCone.LinkedCrates
open TrafficCone.StoreListing
open TrafficCone.TransducerRuns
open TrafficCone.IndependentLoading
open TrafficCone.DatabaseTables
open TrafficCone.BackupArchives
open TrafficCone.CertificateImport
open TrafficCone.StoreCommands
open TrafficCone.CommittedStatements
open TrafficCone.CustodyRuns
open TrafficCone.CertificateRemoval

section Printing

variable {ε α : Type}

/-- The slice `[..8]`; it panics behind the end and inside a letter. -/
def firstEight (text : String) : Outcome ε String :=
  match takeBytes text.toList 8 with
  | some (lead, _) => .ok (String.ofList lead)
  | none => .panicked

def padded (width : Nat) (text : String) : String :=
  text ++ String.ofList (List.replicate (width - text.toList.length) ' ')

def printAll (line : α → Outcome ε String) : List α → Outcome ε (List String)
  | [] => pure []
  | item :: items => do
      let text ← line item
      let texts ← printAll line items
      pure (text :: texts)

def certLine (id label subject : String) : Outcome ε String := do
  let lead ← firstEight id
  pure (padded 36 lead ++ "  " ++ padded 20 label ++ "  " ++ subject)

/-- The certificate as the client gets it from the daemon. -/
def sentCert (cert : Cert) : CliClient.CertSummary :=
  CliClient.receivedSummary (IpcServing.summarize cert)

/-- What `cone list` prints for the certificates that the daemon has sent. -/
def certLines (certs : List CliClient.CertSummary) : Outcome ε (List String) :=
  if certs.isEmpty then
    pure ["No certificates stored.",
      "Import one with: cone import --file laptop.pfx --label \"My Cert\""]
  else do
    let texts ← printAll (fun cert => certLine cert.id cert.label cert.subject) certs
    pure ((padded 36 "ID" ++ "  " ++ padded 20 "LABEL" ++ "  SUBJECT") ::
      String.ofList (List.replicate 80 '-') :: texts)

def routeLine (route : Route) : Outcome ε String := do
  let lead ← firstEight route.certId
  pure ("[" ++ route.id ++ "] cert=" ++ lead ++ " app=" ++ route.appId.getD "any" ++
    " pattern=" ++ route.pattern.getD "any" ++ " require_both=" ++ toString route.requireBoth)

def routeLines (routes : List Route) : Outcome ε (List String) :=
  if routes.isEmpty then pure ["No routes configured."] else printAll routeLine routes

def routeList (store : Store) : Outcome CommandError (List String) := do
  let routes ← (listRoutes store).mapErr CommandError.ofStore
  routeLines routes

theorem exists_printAll {line : α → Outcome ε String} {items : List α}
    (h : ∀ item ∈ items, ∃ text, line item = .ok text) :
    ∃ texts, printAll line items = .ok texts ∧ texts.length = items.length := by
  induction items with
  | nil => exact ⟨[], rfl, rfl⟩
  | cons item items ih =>
      rw [List.forall_mem_cons] at h
      obtain ⟨⟨text, htext⟩, hitems⟩ := h
      obtain ⟨texts, htexts, hlength⟩ := ih hitems
      exact ⟨text :: texts, by rw [printAll, htext, Outcome.ok_bind, htexts]; rfl,
        by rw [List.length_cons, List.length_cons, hlength]⟩

end Printing

section Cutting

variable {ε : Type}

def Cuttable (text : String) : Prop := ∃ parts, takeBytes text.toList 8 = some parts

theorem exists_firstEight {text : String} (h : Cuttable text) :
    ∃ lead, (firstEight text : Outcome ε String) = .ok lead := by
  obtain ⟨parts, hparts⟩ := h
  exact ⟨_, by rw [firstEight, hparts]⟩

/-- Ids are drawn as sixteen bytes, and written in hexadecimal digits. -/
def DrawsIds (host : Host) : Prop :=
  ∀ index, ∃ bytes : Bytes, bytes.length = 16 ∧ host.newId index = hexEncode bytes

theorem utf8Size_of_mem_byteDigits {byte : UInt8} {letter : Char} (h : letter ∈ byteDigits byte) :
    letter.utf8Size = 1 := by
  have hbyte := byte.toNat_lt
  simp only [byteDigits, List.mem_cons, List.not_mem_nil, or_false] at h
  rcases h with rfl | rfl
  · exact utf8Size_hexDigit (by omega)
  · exact utf8Size_hexDigit (by omega)

theorem cuttable_hexEncode {bytes : Bytes} (h : bytes.length = 16) :
    Cuttable (hexEncode bytes) := by
  have hdigits : (hexEncode bytes).toList =
      (bytes.take 4).flatMap byteDigits ++ (bytes.drop 4).flatMap byteDigits := by
    rw [hexEncode, String.toList_ofList, ← List.flatMap_append, List.take_append_drop]
  have hsize : ∀ letter ∈ (bytes.take 4).flatMap byteDigits, letter.utf8Size = 1 := by
    intro letter hletter
    obtain ⟨byte, -, hbyte⟩ := List.mem_flatMap.mp hletter
    exact utf8Size_of_mem_byteDigits hbyte
  have hlength : ((bytes.take 4).flatMap byteDigits).length = 8 := by
    rw [List.length_flatMap]
    simp [byteDigits, h]
  rw [Cuttable, hdigits, ← hlength]
  exact ⟨_, takeBytes_append hsize _⟩

/-- What `cone list` and `cone route list` cut of ids can be cut. -/
structure Printable (database : Database) : Prop where
  certs : ∀ cert ∈ database.certs, Cuttable cert.id
  routes : ∀ route ∈ database.routes, Cuttable route.certId

theorem exists_certLines {certs : List CliClient.CertSummary}
    (h : ∀ cert ∈ certs, Cuttable cert.id) :
    ∃ lines, (certLines certs : Outcome ε (List String)) = .ok lines := by
  rw [certLines]
  split
  · exact ⟨_, rfl⟩
  · have hlines : ∀ cert ∈ certs, ∃ text,
        (certLine cert.id cert.label cert.subject : Outcome ε String) = .ok text := by
      intro cert hcert
      obtain ⟨lead, hlead⟩ := @exists_firstEight ε _ (h cert hcert)
      exact ⟨_, by rw [certLine, hlead, Outcome.ok_bind]; rfl⟩
    obtain ⟨texts, htexts, -⟩ := exists_printAll hlines
    exact ⟨_, by rw [htexts, Outcome.ok_bind]; rfl⟩

theorem exists_routeLines {routes : List Route} (h : ∀ route ∈ routes, Cuttable route.certId) :
    ∃ lines, (routeLines routes : Outcome ε (List String)) = .ok lines := by
  rw [routeLines]
  split
  · exact ⟨_, rfl⟩
  · have hlines : ∀ route ∈ routes, ∃ text,
        (routeLine route : Outcome ε String) = .ok text := by
      intro route hroute
      obtain ⟨lead, hlead⟩ := @exists_firstEight ε _ (h route hroute)
      exact ⟨_, by rw [routeLine, hlead, Outcome.ok_bind]; rfl⟩
    obtain ⟨texts, htexts, -⟩ := exists_printAll hlines
    exact ⟨texts, htexts⟩

end Cutting

section Statements

variable {database after : Database} {statement : Statement} {α : Type}

theorem printable_of_change (h : Printable database) (hchange : Change database statement after)
    (hcert : ∀ row, statement = .insertCert row → Cuttable row.id) : Printable after := by
  cases hchange with
  | none => exact h
  | @cert row _ =>
      refine ⟨?_, h.routes⟩
      intro cert hmember
      rcases List.mem_append.mp hmember with hold | hnew
      · exact h.certs cert hold
      · rw [List.mem_singleton.mp hnew]
        exact hcert row rfl
  | key => exact ⟨h.certs, h.routes⟩
  | sshKey => exact ⟨h.certs, h.routes⟩
  | caCert => exact ⟨h.certs, h.routes⟩
  | app => exact ⟨h.certs, h.routes⟩
  | @route _ row _ _ hreferences =>
      refine ⟨h.certs, ?_⟩
      intro route hmember
      rcases List.mem_append.mp hmember with hold | hnew
      · exact h.routes route hold
      · -- A route refers to a certificate that is there.
        simp only [routes, Bool.and_eq_true, List.any_eq_true, decide_eq_true_eq] at hreferences
        obtain ⟨⟨cert, hcert, hid⟩, -⟩ := hreferences
        rw [List.mem_singleton.mp hnew, ← hid]
        exact h.certs cert hcert
  | sshRoute => exact ⟨h.certs, h.routes⟩
  | audit => exact ⟨h.certs, h.routes⟩
  | deletion id =>
      exact ⟨fun cert hmember => h.certs cert (List.mem_of_mem_filter hmember),
        fun route hmember => h.routes route (List.mem_of_mem_filter hmember)⟩
  | removal id =>
      exact ⟨h.certs, fun route hmember => h.routes route (List.mem_of_mem_filter hmember)⟩

def SessionPrintable (session : Session) : Prop := Printable session.database

def StorePrintable (store : Store) : Prop :=
  ∃ database master, store = .unlocked database master ∧ Printable database

theorem keeps_execute (hcert : ∀ row, statement = .insertCert row → Cuttable row.id) :
    Effect.Keeps (execute statement) SessionPrintable fun _ => True := by
  intro session hsession
  refine ⟨?_, fun _ _ => trivial⟩
  rw [SessionPrintable, snd_database_execute]
  exact printable_of_change hsession (change_commit _ _) hcert

theorem keeps_beside (h : ∀ row, statement ≠ .insertCert row) :
    Effect.Keeps (execute statement) SessionPrintable fun _ => True :=
  keeps_execute fun row hstatement => absurd hstatement (h row)

theorem keeps_newId (host : Host) :
    Effect.Keeps (newId host) SessionPrintable fun _ => True :=
  fun _ h => ⟨h, fun _ _ => trivial⟩

theorem keeps_drawnId {host : Host} (hhost : DrawsIds host) :
    Effect.Keeps (newId host) SessionPrintable Cuttable := by
  intro session h
  refine ⟨h, ?_⟩
  intro id hid
  obtain rfl := Outcome.ok.inj hid
  obtain ⟨bytes, hlength, hbytes⟩ := hhost session.drawn
  rw [hbytes]
  exact cuttable_hexEncode hlength

theorem keeps_printableConn {body : Effect Session StoreError α}
    (h : Effect.Keeps body SessionPrintable fun _ => True) :
    Effect.Keeps (withConn body) StorePrintable fun _ => True := by
  rintro store ⟨database, master, rfl, hprintable⟩
  exact ⟨⟨_, master, rfl, (h { database := database, drawn := 0 } hprintable).1⟩,
    fun _ _ => trivial⟩

theorem keeps_loadAll {step : α → Effect Session StoreError Nat} {items : List α}
    (hstep : ∀ item ∈ items, Effect.Keeps (step item) SessionPrintable fun _ => True) :
    Effect.Keeps (loadAll step items) SessionPrintable fun _ => True := by
  induction items with
  | nil => exact Effect.keeps_pure trivial
  | cons item items ih =>
      rw [List.forall_mem_cons] at hstep
      apply hstep.1.bind
      intro counted _
      exact (ih hstep.2).bind fun _ _ => Effect.keeps_pure trivial

theorem keeps_unlessExists (existing : Database → Bool) {insert : Effect Session StoreError Unit}
    (h : Effect.Keeps insert SessionPrintable fun _ => True) :
    Effect.Keeps (unlessExists existing insert) SessionPrintable fun _ => True := by
  intro session hsession
  rw [unlessExists]
  split
  · exact ⟨hsession, fun _ _ => trivial⟩
  · exact (h.bind fun _ _ => Effect.keeps_pure trivial) session hsession

end Statements

section Commands

variable {host : Host} {codec : BackupCodec}

theorem keeps_insertImported (hhost : DrawsIds host) (certDer : Bytes) (label : String)
    (metadata : CertMeta) (algorithm : KeyAlgorithm) (encrypted : Bytes × Bytes × Bytes) :
    Effect.Keeps (insertImported host certDer label metadata algorithm encrypted)
      SessionPrintable fun _ => True := by
  apply (keeps_drawnId hhost).bind
  intro certId hcertId
  apply (keeps_newId host).bind
  intro keyId _
  have hinsert : Effect.Keeps
      (execute (.insertCert (importedCert host certId certDer label metadata)))
      SessionPrintable fun _ => True := by
    apply keeps_execute
    intro row hrow
    obtain rfl := Statement.insertCert.inj hrow
    exact hcertId
  apply hinsert.bind
  intro _ _
  apply (@keeps_beside (.insertKey _) (by simp)).bind
  intro _ _
  apply (keeps_newId host).bind
  intro auditId _
  apply (@keeps_beside (.insertAudit _) (by simp)).bind
  intro _ _
  exact Effect.keeps_pure trivial

theorem keeps_restoreCert {entry : BackupCert} (hentry : Cuttable entry.id) :
    Effect.Keeps (restoreCert host entry) SessionPrintable fun _ => True := by
  apply keeps_unlessExists
  apply (Effect.keeps_lift fun _ _ => trivial).bind
  intro certDer _
  have hinsert : Effect.Keeps (execute (.insertCert (certRow entry certDer)))
      SessionPrintable fun _ => True := by
    apply keeps_execute
    intro row hrow
    obtain rfl := Statement.insertCert.inj hrow
    exact hentry
  apply hinsert.bind
  intro _ _
  apply (keeps_newId host).bind
  intro id _
  exact @keeps_beside (.insertKey _) (by simp)

theorem keeps_restorePayload {payload : BackupPayload}
    (h : ∀ entry ∈ payload.certs, Cuttable entry.id) :
    Effect.Keeps (restorePayload host payload) SessionPrintable fun _ => True := by
  rw [restorePayload]
  apply (keeps_loadAll fun entry _ => keeps_unlessExists _
    (@keeps_beside (.insertCaCert (caCertRow entry)) (by simp))).bind
  intro caCertCount _
  apply (keeps_loadAll fun entry hentry => keeps_restoreCert (h entry hentry)).bind
  intro certCount _
  apply (keeps_loadAll fun entry _ => keeps_unlessExists _
    (@keeps_beside (.insertSshKey (sshKeyRow entry)) (by simp))).bind
  intro sshKeyCount _
  apply (keeps_loadAll fun entry _ => keeps_unlessExists _
    (@keeps_beside (.insertApp (appRow entry)) (by simp))).bind
  intro appCount _
  apply (keeps_loadAll fun entry _ => (@keeps_beside (.insertOrIgnoreRoute (routeRow entry))
    (by simp)).bind fun _ _ => Effect.keeps_pure trivial).bind
  intro routeCount _
  apply (keeps_loadAll fun entry _ => (@keeps_beside (.insertOrIgnoreSshRoute (sshRouteRow entry))
    (by simp)).bind fun _ _ => Effect.keeps_pure trivial).bind
  intro sshRouteCount _
  apply (keeps_newId host).bind
  intro id _
  apply (@keeps_beside (.insertAudit _) (by simp)).bind
  intro _ _
  exact Effect.keeps_pure trivial

/-- An import draws its ids as the program does, and what is restored comes under ids that can
be cut. -/
def BringsCuttable (codec : BackupCodec) : Operation → Prop
  | .importCert host _ _ _ _ => DrawsIds host
  | .restoreBackup _ backupData backupPassword => ∀ text payload,
      codec.decrypt backupPassword backupData = .ok text → codec.fromSlice text = .ok payload →
        ∀ entry ∈ payload.certs, Cuttable entry.id
  | _ => True

theorem keeps_restoreBackup {backupData : Bytes} {backupPassword : String}
    (h : BringsCuttable codec (.restoreBackup host backupData backupPassword)) :
    Effect.Keeps (restoreBackup codec host backupData backupPassword) StorePrintable
      fun _ => True := by
  have hdecrypts : Effect.Keeps (Effect.lift (ageDecrypt codec backupData backupPassword))
      StorePrintable fun text => codec.decrypt backupPassword backupData = .ok text := by
    apply Effect.keeps_lift
    intro text htext
    rw [ageDecrypt, Outcome.mapErr_eq_ok_iff, Outcome.ofExcept_eq_ok_iff] at htext
    exact htext
  apply hdecrypts.bind
  intro text htext
  have hparses : Effect.Keeps (Effect.lift ((Outcome.ofExcept (codec.fromSlice text)).mapErr
      fun error => StoreError.importFailure ("failed to parse backup: " ++ error)))
      StorePrintable fun payload => codec.fromSlice text = .ok payload := by
    apply Effect.keeps_lift
    intro payload hpayload
    rw [Outcome.mapErr_eq_ok_iff, Outcome.ofExcept_eq_ok_iff] at hpayload
    exact hpayload
  apply hparses.bind
  intro payload hpayload
  exact keeps_printableConn (keeps_restorePayload (h text payload htext hpayload))

/-- The operations keep what is listed printable, also those that fail halfway. -/
theorem printable_perform (crates : Crates) (parsers : DerParsers) {operation : Operation}
    (h : BringsCuttable codec operation) :
    Effect.Keeps (perform crates parsers codec operation) StorePrintable fun _ => True := by
  cases operation with
  | importCert host drawn certDer keyDer label =>
      apply keeps_command
      apply (Effect.keeps_lift fun _ _ => trivial).bind
      intro metadata _
      apply (Effect.keeps_lift fun _ _ => trivial).bind
      intro algorithm _
      apply (Effect.keeps_reads fun _ _ _ => trivial).bind
      intro master _
      apply (Effect.keeps_lift fun _ _ => trivial).bind
      intro encrypted _
      exact keeps_printableConn (keeps_insertImported h certDer label metadata algorithm encrypted)
  | deleteCert host label =>
      apply keeps_command
      apply (Effect.keeps_reads fun _ _ _ => trivial).bind
      intro cert _
      apply keeps_printableConn
      apply (@keeps_beside (.deleteCert cert.id) (by simp)).bind
      intro _ _
      apply (keeps_newId host).bind
      intro id _
      exact @keeps_beside (.insertAudit _) (by simp)
  | restoreBackup host backupData backupPassword => exact keeps_command (keeps_restoreBackup h)
  | appAdd files host label exe =>
      apply keeps_command
      apply (Effect.keeps_lift fun _ _ => trivial).bind
      intro hash _
      apply keeps_command
      apply keeps_printableConn
      apply (keeps_newId host).bind
      intro id _
      exact @keeps_beside (.insertApp _) (by simp)
  | routeAdd host request =>
      apply keeps_command
      apply (Effect.keeps_reads fun _ _ _ => trivial).bind
      intro cert _
      apply (Effect.keeps_reads fun _ _ _ => trivial).bind
      intro appId _
      apply keeps_command
      apply keeps_printableConn
      apply (keeps_newId host).bind
      intro id _
      apply (@keeps_beside (.insertRoute _) (by simp)).bind
      intro _ _
      exact Effect.keeps_pure trivial
  | routeRemove id =>
      apply keeps_command
      apply keeps_command
      exact keeps_printableConn (@keeps_beside (.deleteRoutes id) (by simp))

end Commands

section Runs

variable {codec : BackupCodec}

theorem storePrintable_storeAfter (crates : Crates) (parsers : DerParsers) (master : Bytes)
    {operations : List Operation} (h : ∀ operation ∈ operations, BringsCuttable codec operation) :
    StorePrintable (storeAfter crates parsers codec master operations) := by
  have hstart : StorePrintable (emptyHistory master).store :=
    ⟨{}, master, rfl, ⟨by simp, by simp⟩⟩
  rw [storeAfter]
  generalize emptyHistory master = history at hstart ⊢
  induction operations generalizing history with
  | nil => exact hstart
  | cons operation operations ih =>
      rw [List.forall_mem_cons] at h
      exact ih h.2 _ ((printable_perform crates parsers h.1) history.store hstart).1

/-- After any run of the operations, whether they succeed or not, the listings of certificates
and of routes come to their ends: they panic only for a certificate that was restored under an
id too short to cut. -/
theorem listings_come_to_their_ends (crates : Crates) (parsers : DerParsers) (master : Bytes)
    {operations : List Operation} (h : ∀ operation ∈ operations, BringsCuttable codec operation) :
    ∃ certs lines routes,
      listCerts (storeAfter crates parsers codec master operations) = .ok certs ∧
      (certLines (certs.map sentCert) : Outcome CommandError (List String)) = .ok lines ∧
        routeList (storeAfter crates parsers codec master operations) = .ok routes := by
  obtain ⟨database, passphrase, hstore, hprintable⟩ :=
    @storePrintable_storeAfter codec crates parsers master operations h
  rw [hstore]
  have hcerts : ∀ cert ∈ (orderByLabel (·.label) database.certs).map sentCert,
      Cuttable cert.id := by
    intro sent hsent
    obtain ⟨cert, hcert, rfl⟩ := List.mem_map.mp hsent
    exact hprintable.certs cert ((List.mem_insertionSort _).mp hcert)
  have hroutes : ∀ route ∈ (orderRoutes database.routes).map readRoute,
      Cuttable route.certId := by
    intro route hroute
    obtain ⟨row, hrow, rfl⟩ := List.mem_map.mp hroute
    exact hprintable.routes row ((List.mem_insertionSort _).mp hrow)
  obtain ⟨lines, hlines⟩ := @exists_certLines CommandError _ hcerts
  obtain ⟨texts, htexts⟩ := @exists_routeLines CommandError _ hroutes
  exact ⟨_, lines, texts, rfl, hlines, by rw [routeList, listRoutes_unlocked,
    Outcome.mapErr_ok, Outcome.ok_bind, htexts]⟩

end Runs

section OfficeRun

open TrafficCone.BackupRoundTrip (officePayload onePayload)

/-- A host that draws its ids as the program does. -/
def drawingHost (first : UInt8) : Host where
  unixNow := 50
  newId index := hexEncode (first :: UInt8.ofNat index :: List.replicate 14 0)

theorem drawsIds_drawingHost (first : UInt8) : DrawsIds (drawingHost first) :=
  fun index => ⟨first :: UInt8.ofNat index :: List.replicate 14 0, by simp, rfl⟩

/-- The backup of a store whose certificate has such an id. -/
def drawnPayload : BackupPayload :=
  { officePayload with
    certs := officePayload.certs.map fun entry =>
      { entry with id := hexEncode (List.replicate 16 7) }
    routes := [] }

def listedRun : List Operation :=
  [.importCert (drawingHost 1) officeRandomness [0x30, 1] [1, 2] "laptop",
    .restoreBackup (drawingHost 2) (asBytes "pwjson") "pw",
    .routeAdd (drawingHost 3)
      { cert := "office", app := none, host := none, ip := some "192.0.2.7", requireBoth := false
        priority := 0 }]

theorem bringsCuttable_listedRun :
    ∀ operation ∈ listedRun, BringsCuttable (onePayload drawnPayload) operation := by
  intro operation hoperation
  simp only [listedRun, List.mem_cons, List.not_mem_nil, or_false] at hoperation
  rcases hoperation with rfl | rfl | rfl
  · exact drawsIds_drawingHost 1
  · intro text payload _ hparsed entry hentry
    simp only [onePayload] at hparsed
    split at hparsed
    · obtain rfl := Except.ok.inj hparsed
      obtain ⟨other, -, rfl⟩ := List.mem_map.mp hentry
      exact cuttable_hexEncode (by simp)
    · cases hparsed
  · trivial

theorem listings_of_listedRun :
    ∃ certs lines routes,
      listCerts (storeAfter plainCrates lenientParsers (onePayload drawnPayload) [1] listedRun) =
        .ok certs ∧
      (certLines (certs.map sentCert) : Outcome CommandError (List String)) = .ok lines ∧
        routeList (storeAfter plainCrates lenientParsers (onePayload drawnPayload) [1] listedRun) =
          .ok routes :=
  listings_come_to_their_ends plainCrates lenientParsers [1] bringsCuttable_listedRun

example : routeList (storeAfter plainCrates lenientParsers (onePayload drawnPayload) [1]
    listedRun) = .ok ["[03000000000000000000000000000000] cert=07070707 app=any " ++
      "pattern=192.0.2.7 require_both=false"] := by
  decide +kernel

end OfficeRun

end TrafficCone.CommandListings
