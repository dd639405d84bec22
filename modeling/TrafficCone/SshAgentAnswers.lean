import TrafficCone.SshKeySelection

namespace TrafficCone.SshAgentAnswers

open TrafficCone.Outcomes
open TrafficCone.StoreModels
open TrafficCone.StoreListing
open TrafficCone.LinkedCrates
open TrafficCone.IpcServing
open TrafficCone.SshAgentServing
open TrafficCone.SshKeySelection

/-- A message of one byte at least and of 256 KiB at most. -/
structure Message where
  msgType : UInt8
  payload : Bytes
  length_payload : payload.length < 256 * 1024

def Message.text (message : Message) : Bytes := message.msgType :: message.payload

variable (crates : Crates) (shared : Shared)

/-- What the handlers make of a message by itself. -/
def answer (message : Message) : Outcome String Bytes :=
  (respond crates message.msgType message.payload shared).1

/-- The message is of another type than the two, or is a sign request that cannot be read. -/
def Message.Unintelligible (message : Message) : Prop :=
  (message.msgType ≠ requestIdentities ∧ message.msgType ≠ signRequest) ∨
    (message.msgType = signRequest ∧ ∃ error, readSignRequest message.payload = .err error)

/-- The cipher can be given the nonce of the row, or is not reached because no key can be
derived from its salt. -/
def UsableRow (master : Bytes) (row : SshKeyRow) : Prop :=
  row.keyNonce.length = nonceLen ∨ ∃ error, deriveKey crates master row.keySalt = .err error

/-- Nothing makes the handler of the message panic: the mutex is not poisoned, and the row
that a sign request leads to is usable. -/
def Answerable (message : Message) : Prop :=
  (message.msgType = requestIdentities → shared.poisoned = false) ∧
    (message.msgType = signRequest → ∀ keyBlob data flags,
      readSignRequest message.payload = .ok (keyBlob, data, flags) →
        shared.poisoned = false ∧ ∀ database master row other,
          shared.store = .unlocked database master → matchingRow database keyBlob = some row →
            labelledRow database row.label = some other → UsableRow crates master other)

variable {crates shared}

theorem exists_orFailure_iff {outcome : Outcome String Bytes} :
    (∃ response, orFailure outcome = .ok response) ↔ outcome ≠ .panicked := by
  cases outcome <;> simp [orFailure]

theorem privateKey_eq_panicked_iff {master : Bytes} {row : SshKeyRow} :
    privateKey crates master row = .panicked ↔ ¬ UsableRow crates master row :=
  decryptKey_eq_panicked_iff

theorem getSshPlaintextKey_eq_panicked_iff {database : Database} {master : Bytes}
    {label : String} :
    getSshPlaintextKey crates (.unlocked database master) label = .panicked ↔
      ∃ row, labelledRow database label = some row ∧ ¬ UsableRow crates master row := by
  rw [getSshPlaintextKey, Store.conn_unlocked, Outcome.ok_bind, labelledRow]
  cases database.sshKeys.find? fun row => row.label = label with
  | none => simp
  | some row =>
      simp only [Outcome.ofOption_some, Outcome.ok_bind, Store.passphrase_unlocked,
        Option.some.injEq, exists_eq_left']
      exact privateKey_eq_panicked_iff

theorem signSelected_ne_panicked {keys : List SshKey} (hkeys : listSshKeys shared.store = .ok keys)
    {key : SshKey} (hkey : key ∈ keys) (data plaintext : Bytes) (flags : Nat) :
    signSelected crates data flags (some (key, plaintext)) ≠ .panicked := by
  rw [signSelected, listSshKeys_algorithm hkeys hkey, signSshData, signEd25519]
  split <;> simp

theorem signWithKey_eq_panicked_iff {keyBlob data : Bytes} {flags : Nat} :
    signWithKey crates shared.store keyBlob data flags = .panicked ↔
      ∃ database master row other, shared.store = .unlocked database master ∧
        matchingRow database keyBlob = some row ∧
          labelledRow database row.label = some other ∧ ¬ UsableRow crates master other := by
  rw [signWithKey_eq, selectKey]
  cases hstore : shared.store with
  | locked => simp
  | unlocked database master =>
      have hfound : (((orderByLabel (·.label) database.sshKeys).map listedKey).find? fun key =>
          asBytes key.publicKey = keyBlob) = (matchingRow database keyBlob).map listedKey :=
        List.find?_map
      rw [listSshKeys_unlocked, Outcome.mapErr_ok, Outcome.ok_bind, hfound]
      cases hrow : matchingRow database keyBlob with
      | none =>
          simp only [Option.map_none, Outcome.pure_eq_ok, Outcome.ok_bind, signSelected,
            reduceCtorEq, false_iff]
          rintro ⟨_, _, row, _, hsame, hmatching, -⟩
          obtain ⟨rfl, rfl⟩ := Store.unlocked.inj hsame
          rw [hrow] at hmatching
          cases hmatching
      | some row =>
          have hlisted : listedKey row ∈
              (orderByLabel (·.label) database.sshKeys).map listedKey :=
            List.mem_map_of_mem (List.mem_of_find?_eq_some hrow)
          have hsigned : ∀ plaintext,
              signSelected crates data flags (some (listedKey row, plaintext)) ≠ .panicked :=
            fun plaintext => @signSelected_ne_panicked crates shared _
              (by rw [hstore, listSshKeys_unlocked]) _ hlisted data plaintext flags
          have hlabel : (listedKey row).label = row.label := rfl
          simp only [Option.map_some, Outcome.bind_eq_panicked_iff,
            Outcome.mapErr_eq_panicked_iff, Outcome.bind_eq_ok_iff, Outcome.pure_eq_ok,
            Outcome.ok.injEq, reduceCtorEq, and_false, exists_false, or_false, hlabel,
            getSshPlaintextKey_eq_panicked_iff]
          constructor
          · rintro (⟨other, hother, hunusable⟩ | ⟨_, ⟨plaintext, -, rfl⟩, hpanicked⟩)
            · exact ⟨database, master, row, other, rfl, hrow, hother, hunusable⟩
            · exact absurd hpanicked (hsigned plaintext)
          · rintro ⟨_, _, found, other, hsame, hmatching, hother, hunusable⟩
            obtain ⟨rfl, rfl⟩ := Store.unlocked.inj hsame
            obtain rfl := Option.some.inj (hrow.symm.trans hmatching)
            exact Or.inl ⟨other, hother, hunusable⟩

theorem withStore_eq_panicked_iff {handler : Effect Shared String Bytes} :
    (withStore handler shared).1 = .panicked ↔
      shared.poisoned = true ∨ (handler shared).1 = .panicked := by
  cases hpoisoned : shared.poisoned with
  | true => simp [withStore_poisoned handler hpoisoned]
  | false => simp [withStore_fst handler hpoisoned]

theorem readU32_ne_panicked (cursor : Bytes) : readU32 cursor ≠ .panicked := by
  rw [readU32, ne_eq, Outcome.bind_eq_panicked_iff]
  rintro (hread | ⟨_, -, hpure⟩)
  · exact Outcome.ofOption_ne_panicked _ _ hread
  · cases hpure

theorem readString_ne_panicked (cursor : Bytes) : readString cursor ≠ .panicked := by
  rw [readString, ne_eq, Outcome.bind_eq_panicked_iff]
  rintro (hlength | ⟨⟨length, rest⟩, -, hread⟩)
  · exact readU32_ne_panicked cursor hlength
  · dsimp only at hread
    split at hread
    · cases hread
    · exact Outcome.ofOption_ne_panicked _ _ hread

theorem readSignRequest_ne_panicked (payload : Bytes) : readSignRequest payload ≠ .panicked := by
  rw [readSignRequest, ne_eq, Outcome.bind_eq_panicked_iff]
  rintro (hkeyBlob | ⟨⟨keyBlob, rest⟩, -, hlater⟩)
  · exact readString_ne_panicked payload hkeyBlob
  rcases Outcome.bind_eq_panicked_iff.mp hlater with hdata | ⟨⟨data, rest'⟩, -, hlater⟩
  · exact readString_ne_panicked rest hdata
  rcases Outcome.bind_eq_panicked_iff.mp hlater with hflags | ⟨_, -, hpure⟩
  · exact readU32_ne_panicked rest' hflags
  · cases hpure

theorem handleSignRequest_eq_panicked_iff {payload : Bytes} :
    (handleSignRequest crates payload shared).1 = .panicked ↔
      ∃ keyBlob data flags, readSignRequest payload = .ok (keyBlob, data, flags) ∧
        (shared.poisoned = true ∨
          signWithKey crates shared.store keyBlob data flags = .panicked) := by
  rw [handleSignRequest]
  cases hread : readSignRequest payload with
  | err error => simp [Effect.bind_of_err (show Effect.lift _ shared = _ from rfl)]
  | panicked => exact absurd hread (readSignRequest_ne_panicked payload)
  | ok request =>
      obtain ⟨keyBlob, data, flags⟩ := request
      rw [Effect.lift_ok_bind, withStore_eq_panicked_iff]
      simp

/-- The handlers have an answer to a message exactly if nothing makes them panic. -/
theorem exists_answer_iff {message : Message} :
    (∃ response, answer crates shared message = .ok response) ↔
      Answerable crates shared message := by
  have hother : requestIdentities ≠ signRequest := by decide
  rw [answer, respond, exists_orFailure_iff, Answerable]
  by_cases hidentities : message.msgType = requestIdentities
  · simp only [hidentities, if_true, handleRequestIdentities, ne_eq, withStore_eq_panicked_iff,
      hother, false_imp_iff, and_true, true_imp_iff]
    simp
  · by_cases hsign : message.msgType = signRequest
    · simp only [hsign, Ne.symm hother, if_false, if_true, ne_eq,
        handleSignRequest_eq_panicked_iff, signWithKey_eq_panicked_iff, false_imp_iff,
        true_and, true_imp_iff]
      constructor
      · intro h keyBlob data flags hread
        constructor
        · rw [← Bool.not_eq_true]
          exact fun hpoisoned => h ⟨keyBlob, data, flags, hread, Or.inl hpoisoned⟩
        · intro database master row other hstore hrow hlabelled
          by_contra hunusable
          exact h ⟨keyBlob, data, flags, hread,
            Or.inr ⟨database, master, row, other, hstore, hrow, hlabelled, hunusable⟩⟩
      · rintro h ⟨keyBlob, data, flags, hread, hpanicked⟩
        obtain ⟨hpoisoned, husable⟩ := h keyBlob data flags hread
        rcases hpanicked with
          hpoison | ⟨database, master, row, other, hstore, hrow, hlabelled, hnot⟩
        · rw [hpoisoned] at hpoison
          cases hpoison
        · exact hnot (husable database master row other hstore hrow hlabelled)
    · simp [hidentities, hsign]

theorem answer_of_unintelligible {message : Message} (h : message.Unintelligible) :
    answer crates shared message = .ok [agentFailure] := by
  rw [answer, respond]
  rcases h with ⟨hidentities, hsign⟩ | ⟨hsign, error, hread⟩
  · rw [if_neg hidentities, if_neg hsign]
    rfl
  · have hother : signRequest ≠ requestIdentities := by decide
    rw [hsign, if_neg hother, if_pos rfl, handleSignRequest, hread, Effect.lift_err_bind]
    rfl

theorem withStore_snd_of_ne_panicked {view : Shared → Outcome String Bytes}
    (h : (withStore (Effect.reads view) shared).1 ≠ .panicked) :
    (withStore (Effect.reads view) shared).2 = shared := by
  rw [withStore, Effect.reads] at h ⊢
  split
  · rfl
  · rename_i hpoisoned
    rw [if_neg hpoisoned] at h
    cases hview : view shared with
    | ok value => rfl
    | err error => rfl
    | panicked =>
        rw [hview] at h
        exact absurd rfl h

theorem handleSignRequest_snd {payload : Bytes}
    (h : (handleSignRequest crates payload shared).1 ≠ .panicked) :
    (handleSignRequest crates payload shared).2 = shared := by
  rw [handleSignRequest] at h ⊢
  cases hread : readSignRequest payload with
  | err error => rfl
  | panicked => rfl
  | ok request =>
      obtain ⟨keyBlob, data, flags⟩ := request
      rw [hread] at h
      exact @withStore_snd_of_ne_panicked shared
        (fun shared => signWithKey crates shared.store keyBlob data flags) h

/-- A handler that does not panic leaves the shared state as it is. -/
theorem respond_eq {message : Message} {response : Bytes}
    (h : answer crates shared message = .ok response) :
    respond crates message.msgType message.payload shared = (.ok response, shared) := by
  refine Prod.ext h ?_
  have hanswers : ∃ response, answer crates shared message = .ok response := ⟨response, h⟩
  rw [answer, respond, exists_orFailure_iff] at hanswers
  rw [respond]
  by_cases hidentities : message.msgType = requestIdentities
  · rw [if_pos hidentities] at hanswers ⊢
    exact withStore_snd_of_ne_panicked hanswers
  · rw [if_neg hidentities] at hanswers ⊢
    by_cases hsign : message.msgType = signRequest
    · rw [if_pos hsign] at hanswers ⊢
      exact handleSignRequest_snd hanswers
    · rw [if_neg hsign]

end TrafficCone.SshAgentAnswers
