import TrafficCone.CommandThreads

namespace TrafficCone.CertificateStanding

open TrafficCone.Outcomes
open TrafficCone.StoreModels
open TrafficCone.LinkedCrates
open TrafficCone.StoreListing
open TrafficCone.DatabaseTables
open TrafficCone.StoreCommands
open TrafficCone.CommittedStatements
open TrafficCone.CommandThreads

/-- What the tables hold of a certificate: whether it is there, and its keys. -/
structure Standing where
  stored : Bool
  keys : List KeyRow
  deriving DecidableEq, Repr

namespace Standing

def absent : Standing where
  stored := false
  keys := []

def whole (key : KeyRow) : Standing where
  stored := true
  keys := [key]

end Standing

def standing (database : Database) (id : String) : Standing where
  stored := database.certs.any fun cert => cert.id = id
  keys := database.keys.filter fun key => key.certId = id

/-- The certificate is left as it is, or deleted with its keys. -/
def Untouched (id : String) (before after : Database) : Prop :=
  standing after id = standing before id ∨ standing after id = .absent

section Standings

variable {database other : Database} {id : String}

theorem standing_eq_iff {stored : Bool} {keys : List KeyRow} :
    standing database id = { stored := stored, keys := keys } ↔
      (database.certs.any fun cert => cert.id = id) = stored ∧
        (database.keys.filter fun key => key.certId = id) = keys := by
  rw [standing, Standing.mk.injEq]

theorem stored_iff :
    (standing database id).stored = true ↔ ∃ cert ∈ database.certs, cert.id = id := by
  simp [standing]

theorem standing_congr (hcerts : other.certs = database.certs)
    (hkeys : other.keys = database.keys) : standing other id = standing database id := by
  rw [standing, standing, hcerts, hkeys]

theorem standing_withoutCert (removed : String) :
    standing (withoutCert removed database) id =
      if id = removed then .absent else standing database id := by
  split
  · rename_i h
    subst h
    apply standing_eq_iff.mpr
    simp [withoutCert, List.filter_filter]
  · rename_i h
    apply standing_eq_iff.mpr
    constructor
    · rw [withoutCert, List.any_filter]
      congr 1
      funext cert
      by_cases hid : cert.id = id <;> simp [hid, h]
    · rw [withoutCert, List.filter_filter]
      congr 1
      funext key
      by_cases hid : key.certId = id <;> simp [hid, h]

theorem standing_withCert (row : Cert) :
    standing { database with certs := database.certs ++ [row] } id =
      { stored := (standing database id).stored || row.id = id
        keys := (standing database id).keys } := by
  rw [standing, List.any_append, List.any_cons, List.any_nil, Bool.or_false, standing]

theorem standing_withKey (row : KeyRow) :
    standing { database with keys := database.keys ++ [row] } id =
      { stored := (standing database id).stored
        keys := (standing database id).keys ++ if row.certId = id then [row] else [] } := by
  rw [standing, List.filter_append, standing]
  congr 2
  by_cases hid : row.certId = id <;> simp [hid]

theorem Untouched.absent {before after : Database} (h : Untouched id before after)
    (habsent : standing before id = .absent) : standing after id = .absent := by
  rcases h with hsame | hgone
  · exact hsame.trans habsent
  · exact hgone

theorem Untouched.keys_nil {before after : Database} (h : Untouched id before after)
    (hkeys : (standing before id).keys = []) : (standing after id).keys = [] := by
  rcases h with hsame | hgone
  · rw [hsame, hkeys]
  · rw [hgone]
    rfl

theorem Untouched.single {before after : Database} (h : Untouched id before after)
    (hkeys : (standing before id).keys.length ≤ 1) : (standing after id).keys.length ≤ 1 := by
  rcases h with hsame | hgone
  · rw [hsame]
    exact hkeys
  · rw [hgone]
    exact Nat.zero_le 1

/-- In a store that satisfies the constraints, a certificate that is not there has no keys. -/
theorem standing_eq_absent_iff (hwell : WellFormed database) :
    standing database id = .absent ↔ (standing database id).stored = false := by
  constructor
  · intro h
    rw [h]
    rfl
  · intro h
    apply standing_eq_iff.mpr
    refine ⟨h, ?_⟩
    rw [List.filter_eq_nil_iff]
    intro key hkey hid
    have hreferences := hwell.keys.2 key hkey
    simp only [keys, List.any_eq_true, decide_eq_true_eq] at hreferences
    obtain ⟨cert, hcert, hcertId⟩ := hreferences
    have hstored : (standing database id).stored = true :=
      stored_iff.mpr ⟨cert, hcert, hcertId.trans (by simpa using hid)⟩
    rw [h] at hstored
    cases hstored

/-- Nothing refers to a certificate that is not there. -/
theorem nothing_of_absent (hwell : WellFormed database) (h : standing database id = .absent) :
    (∀ cert ∈ database.certs, cert.id ≠ id) ∧ (∀ key ∈ database.keys, key.certId ≠ id) ∧
      ∀ route ∈ database.routes, route.certId ≠ id := by
  obtain ⟨hcerts, hkeys⟩ := standing_eq_iff.mp h
  have habsent : ∀ cert ∈ database.certs, cert.id ≠ id := by
    simpa using hcerts
  refine ⟨habsent, by simpa using hkeys, ?_⟩
  intro route hroute hid
  have hreferences := hwell.routes.2 route hroute
  simp only [routes, Bool.and_eq_true, List.any_eq_true, decide_eq_true_eq] at hreferences
  obtain ⟨⟨cert, hcert, hcertId⟩, -⟩ := hreferences
  exact habsent cert hcert (hcertId.trans hid)

/-- What a certificate gives to sign with depends on its standing. -/
theorem getPlaintextKey_of_whole {crates : Crates} {master : Bytes} {key : KeyRow}
    (h : standing database id = .whole key) :
    getPlaintextKey crates (.unlocked database master) id = (do
      let plaintext ← decryptKey crates key.keyEnc key.keySalt key.keyNonce master
      let algorithm ← parseAlgorithm key.algorithm
      pure (plaintext, algorithm)) := by
  have hkeys : (database.keys.filter fun row => row.certId = id) = [key] :=
    (standing_eq_iff.mp h).2
  have hfound : (database.keys.find? fun row => row.certId = id) = some key := by
    rw [← List.head?_filter, hkeys, List.head?_cons]
  rw [getPlaintextKey, Store.conn_unlocked, Outcome.ok_bind, hfound, Outcome.ofOption_some,
    Outcome.ok_bind, Store.passphrase_unlocked, Outcome.ok_bind]

end Standings

section Statements

variable {database other : Database} {statement : Statement}

/-- A statement that puts in neither a certificate nor a key. -/
def besideCustody : Statement → Bool
  | .insertCert _ | .insertKey _ => false
  | _ => true

def removesCert : Statement → Bool
  | .deleteCert _ => true
  | _ => false

theorem change_issueCall (statement : Statement) (database : Database) :
    Change database statement (issueCall statement database).2 :=
  change_commit database statement

theorem untouched_of_change (hbeside : besideCustody statement = true)
    (hchange : Change database statement other) (id : String) : Untouched id database other := by
  cases hchange with
  | cert hunique => cases hbeside
  | key hunique hreferences => cases hbeside
  | deletion removed =>
      rw [Untouched, standing_withoutCert]
      split
      · exact Or.inr rfl
      · exact Or.inl rfl
  | _ => exact Or.inl (standing_congr rfl rfl)

theorem keys_subset_of_change (hbeside : besideCustody statement = true)
    (hchange : Change database statement other) : other.keys ⊆ database.keys := by
  cases hchange with
  | cert hunique => cases hbeside
  | key hunique hreferences => cases hbeside
  | deletion removed => exact List.filter_subset_self _
  | _ => exact List.Subset.refl _

theorem certs_subset_of_change (hremoves : removesCert statement = false)
    (hchange : Change database statement other) : database.certs ⊆ other.certs := by
  cases hchange with
  | deletion removed => cases hremoves
  | cert hunique => exact List.subset_append_left _ _
  | _ => exact List.Subset.refl _

theorem issueCall_insertCert (row : Cert) (database : Database) :
    (∃ error, issueCall (.insertCert row) database = (.err error, database)) ∨
      issueCall (.insertCert row) database =
        (.ok (), { database with certs := database.certs ++ [row] }) := by
  rw [issueCall, execute]
  by_cases h : certs.conflict database row = none
  · rw [Table.insert_of_admitted certs h rfl]
    exact Or.inr rfl
  · let session : Session := { database := database, drawn := 0 }
    have hrefuses : ¬ (certs.conflict session.database row = none ∧
        certs.references session.database row = true) := fun hadmitted => h hadmitted.1
    obtain ⟨error, hrefused⟩ := certs.insert_of_refused hrefuses
    rw [hrefused]
    exact Or.inl ⟨error, rfl⟩

/-- A key whose id is new is stored exactly if its certificate is there. -/
theorem issueCall_insertKey {row : KeyRow} (hnew : ∀ key ∈ database.keys, key.id ≠ row.id) :
    ((standing database row.certId).stored = false ∧
        ∃ error, issueCall (.insertKey row) database = (.err error, database)) ∨
      ((standing database row.certId).stored = true ∧
        issueCall (.insertKey row) database =
          (.ok (), { database with keys := database.keys ++ [row] })) := by
  have hunique : keys.conflict database row = none := by
    rw [Table.conflict_eq_none_iff]
    simpa [keys] using hnew
  rw [issueCall, execute]
  cases hstored : (standing database row.certId).stored with
  | true =>
      have hadmitted : keys.insert row { database := database, drawn := 0 } = _ :=
        keys.insert_of_admitted hunique hstored
      rw [hadmitted]
      exact Or.inr ⟨rfl, rfl⟩
  | false =>
      have hreferences : keys.references database row = false := hstored
      have hmissing :
          ¬ (keys.conflict database row = none ∧ keys.references database row = true) := by
        rw [hreferences]
        exact fun hadmitted => Bool.noConfusion hadmitted.2
      obtain ⟨error, hrefused⟩ : ∃ error,
          keys.insert row { database := database, drawn := 0 } = (.err error, _) :=
        keys.insert_of_refused hmissing
      rw [hrefused]
      exact Or.inl ⟨rfl, error, rfl⟩

end Statements

end TrafficCone.CertificateStanding
