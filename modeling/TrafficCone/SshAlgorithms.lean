import TrafficCone.SshKeySelection

namespace TrafficCone.SshAlgorithms

open TrafficCone.Outcomes
open TrafficCone.StoreModels
open TrafficCone.StoreListing
open TrafficCone.LinkedCrates
open TrafficCone.IpcServing
open TrafficCone.SshAgentServing
open TrafficCone.SshKeySelection

/-- The algorithm that the text of a column names. -/
def namedAlgorithm (text : String) : Option SshAlgorithm :=
  if text = "Ed25519" then some .ed25519
  else if text = "EcdsaP256" then some .ecdsaP256
  else if text = "Rsa4096" then some .rsa4096
  else none

def signatureType (flags : Nat) : SshAlgorithm → String
  | .ed25519 => "ssh-ed25519"
  | .ecdsaP256 => "ecdsa-sha2-nistp256"
  | .rsa4096 => if flags &&& rsaSha2512 ≠ 0 then "rsa-sha2-512" else "rsa-sha2-256"

theorem namedAlgorithm_eq_ed25519_iff {text : String} :
    namedAlgorithm text = some .ed25519 ↔ text = "Ed25519" := by
  rw [namedAlgorithm]
  split
  · rename_i h
    exact ⟨fun _ => h, fun _ => rfl⟩
  · rename_i h
    refine ⟨?_, fun htext => absurd htext h⟩
    intro hnamed
    split at hnamed
    · cases hnamed
    · split at hnamed <;> cases hnamed

section Signing

variable {crates : Crates} {keyDer data : Bytes} {flags : Nat}

/-- The type of a signature is that of the algorithm whose routine made it. -/
theorem signatureType_of_signSshData {algorithm : SshAlgorithm} {sigType : String}
    {signature : Bytes}
    (h : signSshData crates keyDer data algorithm flags = .ok (sigType, signature)) :
    sigType = signatureType flags algorithm := by
  cases algorithm with
  | ed25519 =>
      simp only [signSshData, signEd25519] at h
      split at h
      · cases h
      · exact (Prod.mk.inj (Outcome.ok.inj h)).1.symm
  | ecdsaP256 =>
      obtain ⟨signingKey, -, h⟩ := Outcome.bind_eq_ok_iff.mp h
      exact (Prod.mk.inj (Outcome.ok.inj h)).1.symm
  | rsa4096 =>
      obtain ⟨privateKey, -, h⟩ := Outcome.bind_eq_ok_iff.mp h
      rw [signatureType]
      split at h
      · rename_i hflag
        obtain ⟨_, -, h⟩ := Outcome.bind_eq_ok_iff.mp h
        rw [if_pos (by simpa using hflag)]
        exact (Prod.mk.inj (Outcome.ok.inj h)).1.symm
      · rename_i hflag
        obtain ⟨_, -, h⟩ := Outcome.bind_eq_ok_iff.mp h
        rw [if_neg (by simpa using hflag)]
        exact (Prod.mk.inj (Outcome.ok.inj h)).1.symm

end Signing

section Tables

variable (crates : Crates) (database : Database) (master : Bytes)

/-- Every row is listed with the algorithm that its column names, and what a sign request
is answered with is made by the routine, and carries the type, of the algorithm that the
column of the matching row names. -/
structure HonoursAlgorithms : Prop where
  listed : ∀ keys, listSshKeys (.unlocked database master) = .ok keys →
    keys.map (fun key => some key.algorithm) =
      (orderByLabel (·.label) database.sshKeys).map fun row => namedAlgorithm row.algorithm
  signed : ∀ shared payload rest keyBlob data flags row key plaintext,
    shared.store = .unlocked database master →
      (handleSignRequest crates payload shared).1 = .ok (signResponse :: rest) →
        readSignRequest payload = .ok (keyBlob, data, flags) →
          matchingRow database keyBlob = some row →
            selectKey crates shared.store keyBlob = .ok (some (key, plaintext)) →
              ∃ algorithm signature, namedAlgorithm row.algorithm = some algorithm ∧
                signSshData crates plaintext data algorithm flags =
                  .ok (signatureType flags algorithm, signature) ∧
                rest = writeString (writeString (asBytes (signatureType flags algorithm)) ++
                  writeString signature)

variable {crates database master}

/-- The list gives each row the algorithm of its column exactly if all columns say so. -/
theorem listed_iff :
    (∀ keys, listSshKeys (.unlocked database master) = .ok keys →
      keys.map (fun key => some key.algorithm) =
        (orderByLabel (·.label) database.sshKeys).map fun row => namedAlgorithm row.algorithm) ↔
      ∀ row ∈ database.sshKeys, row.algorithm = "Ed25519" := by
  constructor
  · intro hlisted row hrow
    have hall := hlisted _ listSshKeys_unlocked
    rw [List.map_map, List.map_inj_left] at hall
    have hmem : row ∈ orderByLabel (·.label) database.sshKeys :=
      (List.perm_insertionSort _ _).mem_iff.mpr hrow
    exact namedAlgorithm_eq_ed25519_iff.mp (hall row hmem).symm
  · intro hall keys hkeys
    obtain rfl := Outcome.ok.inj (hkeys.symm.trans listSshKeys_unlocked)
    rw [List.map_map, List.map_inj_left]
    intro row hmem
    have hrow : row ∈ database.sshKeys := (List.perm_insertionSort _ _).mem_iff.mp hmem
    exact (namedAlgorithm_eq_ed25519_iff.mpr (hall row hrow)).symm

theorem signed_of_ed25519 (hall : ∀ row ∈ database.sshKeys, row.algorithm = "Ed25519")
    {shared : Shared} {payload rest keyBlob data : Bytes} {flags : Nat} {row : SshKeyRow}
    {key : SshKey} {plaintext : Bytes} (hstore : shared.store = .unlocked database master)
    (hanswer : (handleSignRequest crates payload shared).1 = .ok (signResponse :: rest))
    (hread : readSignRequest payload = .ok (keyBlob, data, flags))
    (hrow : matchingRow database keyBlob = some row)
    (hselected : selectKey crates shared.store keyBlob = .ok (some (key, plaintext))) :
    ∃ algorithm signature, namedAlgorithm row.algorithm = some algorithm ∧
      signSshData crates plaintext data algorithm flags =
        .ok (signatureType flags algorithm, signature) ∧
      rest = writeString (writeString (asBytes (signatureType flags algorithm)) ++
        writeString signature) := by
  obtain ⟨-, keyBlob', data', flags', hread', hsigned⟩ := handleSignRequest_eq_ok_iff.mp hanswer
  obtain ⟨rfl, rfl, rfl⟩ : keyBlob = keyBlob' ∧ data = data' ∧ flags = flags' := by
    simpa using hread.symm.trans hread'
  rw [signWithKey_eq, hselected, Outcome.ok_bind] at hsigned
  rw [hstore] at hselected
  obtain ⟨_, _, _, _, _, rfl⟩ := selectKey_eq_some_iff.mp hselected
  obtain ⟨⟨sigType, signature⟩, hdata, hrest⟩ := Outcome.bind_eq_ok_iff.mp hsigned
  obtain rfl := signatureType_of_signSshData hdata
  refine ⟨.ed25519, signature, ?_, hdata, ?_⟩
  · exact namedAlgorithm_eq_ed25519_iff.mpr (hall row (mem_of_matchingRow hrow).1)
  · exact (List.cons.inj (Outcome.ok.inj hrest)).2.symm

variable (crates database master)

theorem honoursAlgorithms_iff :
    HonoursAlgorithms crates database master ↔
      ∀ row ∈ database.sshKeys, row.algorithm = "Ed25519" := by
  constructor
  · intro hhonours
    exact listed_iff.mp hhonours.listed
  · intro hall
    constructor
    · exact listed_iff.mpr hall
    · intro shared payload rest keyBlob data flags row key plaintext
      exact signed_of_ed25519 hall

end Tables

def rsaKey : SshKeyRow := { newerKey with algorithm := "Rsa4096" }

/-- A key for RSA is listed, and signs, as one for Ed25519. -/
theorem rsaKey_signs_as_ed25519 :
    namedAlgorithm rsaKey.algorithm = some .rsa4096 ∧
      (handleSignRequest plainCrates signBbbb
        { twinShared with store := .unlocked { sshKeys := [rsaKey] } [7] }).1 =
          .ok (signResponse :: writeString (writeString (asBytes "ssh-ed25519") ++
            writeString (List.replicate 32 2 ++ [9] ++ List.replicate 31 0))) ∧
      ¬ HonoursAlgorithms plainCrates { sshKeys := [rsaKey] } [7] := by
  refine ⟨by decide +kernel, by decide +kernel, ?_⟩
  intro hhonours
  have hed25519 := listed_iff.mp hhonours.listed rsaKey (by simp)
  exact absurd hed25519 (by decide)

end TrafficCone.SshAlgorithms
