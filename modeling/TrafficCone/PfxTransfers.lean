import TrafficCone.CustodyRuns
import TrafficCone.FileImports
import TrafficCone.StoredImports

namespace TrafficCone.PfxTransfers

open TrafficCone.Outcomes
open TrafficCone.StoreModels
open TrafficCone.LinkedCrates
open TrafficCone.StoreListing
open TrafficCone.DatabaseTables
open TrafficCone.BackupArchives
open TrafficCone.CertificateImport
open TrafficCone.KeyCustody
open TrafficCone.ImportAtomicity
open TrafficCone.StoredImports
open TrafficCone.FileImports

/-- What is written into a keystore: one entry, and the id by which its key is linked to its
certificate. -/
structure PfxContents where
  entryAlias : String
  localKeyId : Bytes
  keyChain : KeyChain
  deriving DecidableEq, Repr

/-- What the linked crate does to write a keystore under a passphrase. The algorithms for its
MAC and for its encryption are always the same. -/
structure PfxWriter where
  certificateFromDer : Bytes → Except String Unit
  write : PfxContents → String → Except String Bytes

/-- A keystore with one certificate that has been written is read back under its passphrase. -/
def ReadsBack (readers : FileReaders) (writer : PfxWriter) : Prop :=
  ∀ contents password bytes, contents.keyChain.chain.length = 1 →
    writer.write contents password = .ok bytes →
    readers.fromPkcs12 bytes password = .ok (some contents.keyChain)

section Exporting

variable (crates : Crates) (writer : PfxWriter) (host : Host)

def pfxContents (certId : String) (store : Store) : Outcome StoreError PfxContents := do
  let database ← store.conn
  let cert ← Outcome.ofOption (.notFound ("certificate " ++ certId ++ " not found"))
    (database.certs.find? fun row => row.id = certId)
  let key ← Outcome.ofOption (.notFound ("private key for cert " ++ certId ++ " not found"))
    (database.keys.find? fun row => row.certId = certId)
  let master ← store.passphrase
  let keyPlaintext ← decryptKey crates key.keyEnc key.keySalt key.keyNonce master
  let _ ← (Outcome.ofExcept (writer.certificateFromDer cert.certDer)).mapErr fun error =>
    StoreError.crypto ("failed to parse stored certificate: " ++ error)
  pure
    { entryAlias := "certificate"
      localKeyId := asBytes "traffic-cone"
      keyChain := { key := keyPlaintext, chain := [cert.certDer] } }

def exportedEntry (id certId : String) : AuditEntry :=
  { id := id
    eventType := "cert_exported"
    certId := some certId
    sshKeyId := none
    appId := none
    detail := some "Exported as PFX"
    occurredAt := host.unixNow }

def recordExported (certId : String) : Effect Session StoreError Unit := do
  let id ← newId host
  auditLog.insert (exportedEntry host id certId)

def exportPfx (certId exportPassword : String) : Effect Store StoreError Bytes := do
  let contents ← Effect.reads (pfxContents crates writer certId)
  let pfxBytes ← Effect.lift ((Outcome.ofExcept (writer.write contents exportPassword)).mapErr
    fun error => StoreError.crypto ("failed to write PFX: " ++ error))
  withConn (recordExported host certId)
  pure pfxBytes

end Exporting

section Holding

variable {crates : Crates} {writer : PfxWriter}

/-- The store has the certificate under the id, with a key that it can decrypt. -/
structure Holds (crates : Crates) (held : Store × String) (certDer keyDer : Bytes) : Prop where
  cert : ∃ cert, getCertById held.1 held.2 = .ok cert ∧ cert.certDer = certDer
  key : ∃ database master row, held.1 = .unlocked database master ∧
    (database.keys.find? fun row => row.certId = held.2) = some row ∧
    decryptKey crates row.keyEnc row.keySalt row.keyNonce master = .ok keyDer

theorem holds_of_getPlaintextKey {held : Store × String} {cert : Cert} {keyDer : Bytes}
    {algorithm : KeyAlgorithm} (hcert : getCertById held.1 held.2 = .ok cert)
    (hkey : getPlaintextKey crates held.1 held.2 = .ok (keyDer, algorithm)) :
    Holds crates held cert.certDer keyDer := by
  refine ⟨⟨cert, hcert, rfl⟩, ?_⟩
  cases hstore : held.1 with
  | locked =>
      rw [hstore] at hkey
      cases hkey
  | unlocked database master =>
      rw [hstore] at hkey
      obtain ⟨row, hrow, hdecrypted, -⟩ := getPlaintextKey_eq_ok_iff.mp hkey
      exact ⟨database, master, row, rfl, hrow, hdecrypted⟩

/-- What an export writes is the certificate and the key that the store has. -/
theorem keyChain_of_pfxContents {held : Store × String} {certDer keyDer : Bytes}
    (hheld : Holds crates held certDer keyDer) {contents : PfxContents}
    (h : pfxContents crates writer held.2 held.1 = .ok contents) :
    contents.keyChain = { key := keyDer, chain := [certDer] } := by
  obtain ⟨⟨cert, hcert, rfl⟩, database, master, row, hstore, hrow, hdecrypted⟩ := hheld
  rw [hstore] at hcert h
  rw [getCertById, Store.conn_unlocked, Outcome.ok_bind, Outcome.ofOption_eq_ok_iff] at hcert
  rw [pfxContents, Store.conn_unlocked, Outcome.ok_bind, hcert, Outcome.ofOption_some,
    Outcome.ok_bind, hrow, Outcome.ofOption_some, Outcome.ok_bind, Store.passphrase_unlocked,
    Outcome.ok_bind, hdecrypted, Outcome.ok_bind] at h
  obtain ⟨_, -, h⟩ := Outcome.bind_eq_ok_iff.mp h
  rw [← Outcome.ok.inj h]

theorem of_exportPfx {host : Host} {certId exportPassword : String} {store : Store}
    {pfxBytes : Bytes} (h : (exportPfx crates writer host certId exportPassword store).1 =
      .ok pfxBytes) :
    ∃ contents, pfxContents crates writer certId store = .ok contents ∧
      writer.write contents exportPassword = .ok pfxBytes := by
  have hcall := Effect.eq_of_fst h
  rw [exportPfx] at hcall
  obtain ⟨contents, hcontents, hcall⟩ := Effect.reads_bind_eq_ok_iff.mp hcall
  obtain ⟨written, hwritten, hcall⟩ := Effect.lift_bind_eq_ok_iff.mp hcall
  obtain ⟨_, _, -, hcall⟩ := Effect.bind_eq_ok_iff.mp hcall
  obtain rfl : written = pfxBytes := Outcome.ok.inj (Prod.mk.inj hcall).1
  rw [Outcome.mapErr_eq_ok_iff, Outcome.ofExcept_eq_ok_iff] at hwritten
  exact ⟨contents, hcontents, hwritten⟩

end Holding

section Carrying

/-- How a certificate is carried on: the file and its passphrase, and the store into which it
is imported. -/
structure Hop where
  exporter : Host
  password : String
  path : String
  importer : Host
  drawn : KeyRandomness
  label : String
  database : Database
  master : Bytes

variable (crates : Crates) (parsers : DerParsers) (writer : PfxWriter) (readers : FileReaders)

def importInto (hop : Hop) (pfxBytes : Bytes) : Outcome StoreError ImportResult × Store :=
  importFile hop.importer crates parsers hop.drawn readers (fun _ => .ok pfxBytes) hop.path
    hop.password hop.label none (.unlocked hop.database hop.master)

/-- Export a certificate from a store, and import the file into the next one. -/
def carry (hop : Hop) (held : Store × String) : Outcome StoreError (Store × String) := do
  let pfxBytes ← (exportPfx crates writer hop.exporter held.2 hop.password held.1).1
  let imported := importInto crates parsers readers hop pfxBytes
  let result ← imported.1
  pure (imported.2, result.certId)

def carryAll : List Hop → Store × String → Outcome StoreError (Store × String)
  | [], held => .ok held
  | hop :: hops, held => do
      let next ← carry crates parsers writer readers hop held
      carryAll hops next

variable {crates parsers writer readers} {hop : Hop} {certDer keyDer pfxBytes : Bytes}

theorem importInto_of_read (hformat : detectFormat readers hop.path = .ok .pkcs12)
    (hread : readers.fromPkcs12 pfxBytes hop.password =
      .ok (some { key := keyDer, chain := [certDer] })) :
    importInto crates parsers readers hop pfxBytes =
      (storeCertAndKey hop.importer crates parsers hop.drawn certDer keyDer hop.label >>=
        fun result => pure { result with caChain := [] })
          (.unlocked hop.database hop.master) := by
  rw [importInto, importFile, hformat, Effect.lift_ok_bind]
  change importPkcs12 _ _ _ _ _ _ _ _ _ _ = _
  rw [importPkcs12, FileImports.read, Outcome.ofExcept_ok, Outcome.mapErr_ok,
    Effect.lift_ok_bind, hread,
    Outcome.ofExcept_ok, Outcome.mapErr_ok, Effect.lift_ok_bind, Outcome.ofOption_some,
    Effect.lift_ok_bind]

theorem read_of_exported (hpfx : ReadsBack readers writer) {held : Store × String} {host : Host}
    {password : String} (hheld : Holds crates held certDer keyDer)
    (h : (exportPfx crates writer host held.2 password held.1).1 = .ok pfxBytes) :
    readers.fromPkcs12 pfxBytes password = .ok (some { key := keyDer, chain := [certDer] }) := by
  obtain ⟨contents, hcontents, hwritten⟩ := of_exportPfx h
  have hchain := keyChain_of_pfxContents hheld hcontents
  rw [hpfx contents password pfxBytes (by rw [hchain]; rfl) hwritten, hchain]

/-- What an import of the file has put into the store. -/
theorem of_importInto (hcrates : Deciphers crates) (hsound : keys.Sound hop.database)
    (hformat : detectFormat readers hop.path = .ok .pkcs12)
    (hread : readers.fromPkcs12 pfxBytes hop.password =
      .ok (some { key := keyDer, chain := [certDer] })) {result : ImportResult}
    (h : (importInto crates parsers readers hop pfxBytes).1 = .ok result) :
    (∃ cert, getCertById (importInto crates parsers readers hop pfxBytes).2 result.certId =
        .ok cert ∧ cert.certDer = certDer ∧ cert.label = hop.label) ∧
      ∃ algorithm, detectKeyAlgorithm parsers keyDer = .ok algorithm ∧
        getPlaintextKey crates (importInto crates parsers readers hop pfxBytes).2 result.certId =
          .ok (keyDer, algorithm) := by
  have hcall : importInto crates parsers readers hop pfxBytes =
      (.ok result, (importInto crates parsers readers hop pfxBytes).2) := Prod.ext h rfl
  rw [importInto_of_read hformat hread] at hcall
  obtain ⟨stored, store, hstored, hresult⟩ := Effect.bind_eq_ok_iff.mp hcall
  obtain ⟨hok, hstore⟩ := Prod.mk.inj hresult
  obtain rfl := Outcome.ok.inj hok
  rw [← importInto_of_read hformat hread] at hstore
  rw [← hstore]
  obtain ⟨metadata, algorithm, encrypted, hprepared, hadmitted, rfl, rfl⟩ :=
    storeCertAndKey_eq_ok_iff.mp hstored
  refine ⟨⟨_, getCertById_withImport hadmitted, rfl, rfl⟩, algorithm, hprepared.algorithm, ?_⟩
  exact getPlaintextKey_withImport hcrates hsound hprepared hadmitted

theorem of_carry (hcrates : Deciphers crates) (hpfx : ReadsBack readers writer)
    (hsound : keys.Sound hop.database) (hformat : detectFormat readers hop.path = .ok .pkcs12)
    {held next : Store × String} (hheld : Holds crates held certDer keyDer)
    (h : carry crates parsers writer readers hop held = .ok next) :
    (∃ cert, getCertById next.1 next.2 = .ok cert ∧ cert.certDer = certDer ∧
        cert.label = hop.label) ∧
      ∃ algorithm, detectKeyAlgorithm parsers keyDer = .ok algorithm ∧
        getPlaintextKey crates next.1 next.2 = .ok (keyDer, algorithm) := by
  rw [carry] at h
  obtain ⟨pfxBytes, hexported, h⟩ := Outcome.bind_eq_ok_iff.mp h
  obtain ⟨result, himported, h⟩ := Outcome.bind_eq_ok_iff.mp h
  obtain rfl := Outcome.ok.inj h
  exact of_importInto hcrates hsound hformat (read_of_exported hpfx hheld hexported) himported

theorem holds_of_carryAll (hcrates : Deciphers crates) (hpfx : ReadsBack readers writer)
    {hops : List Hop} (hsound : ∀ hop ∈ hops, keys.Sound hop.database)
    (hformat : ∀ hop ∈ hops, detectFormat readers hop.path = .ok .pkcs12)
    {held last : Store × String} (hheld : Holds crates held certDer keyDer)
    (h : carryAll crates parsers writer readers hops held = .ok last) :
    Holds crates last certDer keyDer := by
  induction hops generalizing held with
  | nil =>
      obtain rfl := Outcome.ok.inj h
      exact hheld
  | cons hop hops ih =>
      obtain ⟨next, hnext, h⟩ := Outcome.bind_eq_ok_iff.mp h
      obtain ⟨⟨cert, hcert, rfl, -⟩, algorithm, -, hkey⟩ := of_carry hcrates hpfx
        (hsound hop List.mem_cons_self) (hformat hop List.mem_cons_self) hheld hnext
      exact ih (fun other hother => hsound other (List.mem_cons_of_mem hop hother))
        (fun other hother => hformat other (List.mem_cons_of_mem hop hother))
        (holds_of_getPlaintextKey hcert hkey) h

theorem carryAll_concat (hops : List Hop) (hop : Hop) (held : Store × String) :
    carryAll crates parsers writer readers (hops ++ [hop]) held =
      carryAll crates parsers writer readers hops held >>=
        carry crates parsers writer readers hop := by
  induction hops generalizing held with
  | nil =>
      rw [List.nil_append, carryAll, carryAll, Outcome.ok_bind]
      cases carry crates parsers writer readers hop held <;> rfl
  | cons first hops ih =>
      rw [List.cons_append, carryAll, carryAll]
      cases carry crates parsers writer readers first held with
      | ok next => exact ih next
      | err error => rfl
      | panicked => rfl

/-- A certificate that is exported and imported again, from store to store, comes to the last
one with the same octets and the same key, whatever the master passphrases and those of the
files are, and its algorithm is found anew from the key. -/
theorem carried_through_stores (hcrates : Deciphers crates) (hpfx : ReadsBack readers writer)
    {hops : List Hop} {hop : Hop} (hsound : ∀ other ∈ hops ++ [hop], keys.Sound other.database)
    (hformat : ∀ other ∈ hops ++ [hop], detectFormat readers other.path = .ok .pkcs12)
    {held last : Store × String} {cert : Cert} {algorithm : KeyAlgorithm}
    (hcert : getCertById held.1 held.2 = .ok cert)
    (hkey : getPlaintextKey crates held.1 held.2 = .ok (keyDer, algorithm))
    (h : carryAll crates parsers writer readers (hops ++ [hop]) held = .ok last) :
    (∃ carried, getCertById last.1 last.2 = .ok carried ∧ carried.certDer = cert.certDer ∧
        carried.label = hop.label) ∧
      ∃ found, detectKeyAlgorithm parsers keyDer = .ok found ∧
        getPlaintextKey crates last.1 last.2 = .ok (keyDer, found) := by
  rw [carryAll_concat] at h
  obtain ⟨middle, hmiddle, h⟩ := Outcome.bind_eq_ok_iff.mp h
  have hlast : hop ∈ hops ++ [hop] := List.mem_append_right _ (List.mem_singleton_self hop)
  have hheld := holds_of_carryAll hcrates hpfx
    (fun other hother => hsound other (List.mem_append_left _ hother))
    (fun other hother => hformat other (List.mem_append_left _ hother))
    (holds_of_getPlaintextKey hcert hkey) hmiddle
  exact of_carry hcrates hpfx (hsound hop hlast) (hformat hop hlast) hheld h

theorem fingerprint_of_parseCertMetadata {metadata : CertMeta}
    (h : parseCertMetadata crates parsers certDer = .ok metadata) :
    metadata.fingerprint = hashBytes crates certDer := by
  obtain ⟨cert, -, hmetadata⟩ := Outcome.bind_eq_ok_iff.mp h
  rw [← Outcome.ok.inj hmetadata]

theorem insertImported_of_there {host : Host} {label : String} {metadata : CertMeta}
    {algorithm : KeyAlgorithm} {encrypted : Bytes × Bytes × Bytes} {database : Database}
    (hthere : ∃ other ∈ database.certs, other.fingerprint = metadata.fingerprint) :
    ∃ error, insertImported host certDer label metadata algorithm encrypted
        { database := database, drawn := 0 } =
      (.err error, { database := database, drawn := 2 }) := by
  obtain ⟨other, hother, hsame⟩ := hthere
  have hrefused : ¬ (certs.conflict database
      (importedCert host (host.newId 0) certDer label metadata) = none ∧
        certs.references database
          (importedCert host (host.newId 0) certDer label metadata) = true) := by
    rintro ⟨hunique, -⟩
    have hapart := (Table.conflict_eq_none_iff certs).mp hunique
      ("fingerprint", (·.fingerprint)) (by simp [certs])
    exact hapart (List.mem_map.mpr ⟨other, hother, hsame⟩)
  obtain ⟨error, hinsert⟩ := @Table.insert_of_refused _ certs _
    { database := database, drawn := 2 } hrefused
  refine ⟨error, ?_⟩
  change (certs.insert _ >>= _) { database := database, drawn := 2 } = _
  exact Effect.bind_of_err hinsert

theorem storeCertAndKey_of_there {host : Host} {drawn : KeyRandomness} {label : String}
    {database : Database} {master : Bytes}
    (hthere : ∃ other ∈ database.certs, other.fingerprint = hashBytes crates certDer) :
    (∀ result, (storeCertAndKey host crates parsers drawn certDer keyDer label
        (.unlocked database master)).1 ≠ .ok result) ∧
      (storeCertAndKey host crates parsers drawn certDer keyDer label
        (.unlocked database master)).2 = .unlocked database master := by
  obtain ⟨other, hother, hsame⟩ := hthere
  rw [storeCertAndKey]
  cases hmetadata : parseCertMetadata crates parsers certDer with
  | err error => exact ⟨fun _ h => (by cases h), rfl⟩
  | panicked => exact ⟨fun _ h => (by cases h), rfl⟩
  | ok metadata =>
      rw [Effect.lift_ok_bind]
      cases detectKeyAlgorithm parsers keyDer with
      | err error => exact ⟨fun _ h => (by cases h), rfl⟩
      | panicked => exact ⟨fun _ h => (by cases h), rfl⟩
      | ok algorithm =>
          have hmaster : Effect.reads Store.passphrase (.unlocked database master) =
              (.ok master, .unlocked database master) := rfl
          rw [Effect.lift_ok_bind, Effect.bind_of_ok hmaster]
          cases encryptKey crates drawn.salt drawn.nonce keyDer master with
          | err error => exact ⟨fun _ h => (by cases h), rfl⟩
          | panicked => exact ⟨fun _ h => (by cases h), rfl⟩
          | ok encrypted =>
              obtain ⟨error, hcall⟩ := @insertImported_of_there certDer host label metadata
                algorithm encrypted database ⟨other, hother,
                  hsame.trans (fingerprint_of_parseCertMetadata hmetadata).symm⟩
              rw [Effect.lift_ok_bind, withConn_unlocked hcall]
              exact ⟨fun _ h => (by cases h), rfl⟩

/-- Where the certificate is already, by its fingerprint, nothing is imported and nothing is
changed. -/
theorem reimport_refused (hpfx : ReadsBack readers writer)
    (hformat : detectFormat readers hop.path = .ok .pkcs12) {held : Store × String} {cert : Cert}
    {algorithm : KeyAlgorithm} (hcert : getCertById held.1 held.2 = .ok cert)
    (hkey : getPlaintextKey crates held.1 held.2 = .ok (keyDer, algorithm))
    (hexported : (exportPfx crates writer hop.exporter held.2 hop.password held.1).1 =
      .ok pfxBytes)
    (hthere : ∃ other ∈ hop.database.certs, other.fingerprint = hashBytes crates cert.certDer) :
    (∀ result, (importInto crates parsers readers hop pfxBytes).1 ≠ .ok result) ∧
      (importInto crates parsers readers hop pfxBytes).2 = .unlocked hop.database hop.master := by
  obtain ⟨hfailed, hsame⟩ := @storeCertAndKey_of_there crates parsers cert.certDer keyDer
    hop.importer hop.drawn hop.label _ hop.master hthere
  rw [importInto_of_read hformat
    (read_of_exported hpfx (holds_of_getPlaintextKey hcert hkey) hexported)]
  refine ⟨?_, ?_⟩
  · intro result h
    obtain ⟨stored, store, hstored, -⟩ := Effect.bind_eq_ok_iff.mp (Effect.eq_of_fst h)
    exact hfailed stored (congrArg Prod.fst hstored)
  · rw [Effect.bind_pure_snd]
    exact hsame

end Carrying

section LaptopKey

open TrafficCone.CustodyRuns (hostAt officeRandomness lenientParsers deciphers_plainCrates)
open TrafficCone.BackupRoundTrip (officeDatabase portable_officeDatabase)

/-- A writer that knows one chain, and writes the passphrase where it would write the chain. -/
def onePfx (keyChain : KeyChain) : PfxWriter where
  certificateFromDer _ := .ok ()
  write contents password :=
    if contents.keyChain = keyChain then .ok (0x30 :: asBytes password) else .error "unknown"

def onePfxReaders (keyChain : KeyChain) : FileReaders where
  toLowercase := String.toLower
  fromPkcs12 bytes password :=
    if bytes = 0x30 :: asBytes password then .ok (some keyChain) else .error "wrong password"
  parseMany _ := .ok []
  parse _ := .error "malformedframing"

theorem readsBack_onePfx (keyChain : KeyChain) :
    ReadsBack (onePfxReaders keyChain) (onePfx keyChain) := by
  intro contents password bytes _ h
  by_cases hknown : contents.keyChain = keyChain
  · have hbytes : 0x30 :: asBytes password = bytes := by
      simpa [onePfx, hknown] using h
    simp [onePfxReaders, hbytes, hknown]
  · simp [onePfx, hknown] at h

def laptopChain : KeyChain where
  key := [1, 2]
  chain := [[0x30, 1]]

def laptopStore : Store :=
  (storeCertAndKey (hostAt 'm') plainCrates lenientParsers officeRandomness [0x30, 1] [1, 2]
    "laptop" (.unlocked {} [1])).2

theorem getCertById_laptopStore :
    getCertById laptopStore "m" =
      .ok (importedCert (hostAt 'm') "m" [0x30, 1] "laptop"
        { fingerprint := hashBytes plainCrates [0x30, 1]
          subject := "CN=office"
          issuer := "CN=ca"
          notBefore := 0
          notAfter := 100 }) := by
  decide +kernel

theorem getPlaintextKey_laptopStore :
    getPlaintextKey plainCrates laptopStore "m" = .ok ([1, 2], .ecP256) := by
  decide +kernel

def toOffice : Hop where
  exporter := hostAt 'x'
  password := "first"
  path := "/media/stick/laptop.PFX"
  importer := hostAt 'o'
  drawn := officeRandomness
  label := "from laptop"
  database := officeDatabase
  master := [2]

def toPhone : Hop where
  exporter := hostAt 'y'
  password := "second"
  path := "laptop.p12"
  importer := hostAt 'p'
  drawn := officeRandomness
  label := "phone"
  database := {}
  master := [3]

def phoneStore : Store :=
  (importInto plainCrates lenientParsers (onePfxReaders laptopChain) toPhone
    (0x30 :: asBytes "second")).2

theorem carried_to_phone :
    carryAll plainCrates lenientParsers (onePfx laptopChain) (onePfxReaders laptopChain)
        ([toOffice] ++ [toPhone]) (laptopStore, "m") = .ok (phoneStore, "p") ∧
      (∃ carried, getCertById phoneStore "p" = .ok carried ∧ carried.certDer = [0x30, 1] ∧
        carried.label = "phone") ∧
      ∃ found, detectKeyAlgorithm lenientParsers [1, 2] = .ok found ∧
        getPlaintextKey plainCrates phoneStore "p" = .ok ([1, 2], found) := by
  have hcarried : carryAll plainCrates lenientParsers (onePfx laptopChain)
      (onePfxReaders laptopChain) ([toOffice] ++ [toPhone]) (laptopStore, "m") =
        .ok (phoneStore, "p") := by decide +kernel
  refine ⟨hcarried, ?_⟩
  have hsound : ∀ other ∈ [toOffice] ++ [toPhone], keys.Sound other.database := by
    intro other hother
    simp only [List.cons_append, List.nil_append, List.mem_cons, List.not_mem_nil,
      or_false] at hother
    rcases hother with rfl | rfl
    · exact portable_officeDatabase.wellFormed.keys
    · exact wellFormed_empty.keys
  have hformat : ∀ other ∈ [toOffice] ++ [toPhone],
      detectFormat (onePfxReaders laptopChain) other.path = .ok .pkcs12 := by decide +kernel
  exact carried_through_stores deciphers_plainCrates (readsBack_onePfx laptopChain) hsound hformat
    getCertById_laptopStore getPlaintextKey_laptopStore hcarried

def backToLaptop : Hop where
  exporter := hostAt 'x'
  password := "first"
  path := "laptop.p12"
  importer := hostAt 'q'
  drawn := officeRandomness
  label := "again"
  database :=
    match laptopStore with
    | .unlocked database _ => database
    | .locked => {}
  master := [1]

theorem reimport_refused_laptop :
    (∀ result, (importInto plainCrates lenientParsers (onePfxReaders laptopChain) backToLaptop
        (0x30 :: asBytes "first")).1 ≠ .ok result) ∧
      (importInto plainCrates lenientParsers (onePfxReaders laptopChain) backToLaptop
        (0x30 :: asBytes "first")).2 = .unlocked backToLaptop.database [1] :=
  @reimport_refused plainCrates lenientParsers (onePfx laptopChain) (onePfxReaders laptopChain)
    backToLaptop [1, 2] (0x30 :: asBytes "first") (readsBack_onePfx laptopChain) (by decide +kernel)
    (laptopStore, "m") _ _ getCertById_laptopStore getPlaintextKey_laptopStore (by decide +kernel)
    (by decide +kernel)

end LaptopKey

end TrafficCone.PfxTransfers
