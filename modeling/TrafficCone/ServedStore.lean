import TrafficCone.LockedSilence
import TrafficCone.Deliveries

namespace TrafficCone.ServedStore

open TrafficCone.Outcomes
open TrafficCone.StoreModels
open TrafficCone.StoreListing
open TrafficCone.LinkedCrates
open TrafficCone.ProcReaders
open TrafficCone.PidRouting
open TrafficCone.IpcServing
open TrafficCone.SshAgentServing
open TrafficCone.DaemonRuns
open TrafficCone.LockedSilence
open TrafficCone.Deliveries
open TrafficCone.TransducerRuns

/-- The client whose request to lock the store the daemon carries out at this event. -/
def lockedBy (setup : Setup) (daemon : Daemon) : Event → List Peer
  | .ipcRequests _ stream =>
      match daemon.verified, readRequest setup.codec stream with
      | some peer, .ok .lock => if daemon.shared.poisoned then [] else [peer]
      | _, _ => []
  | _ => []

/-- The daemon, watched for the requests to lock that it carries out. -/
def locking (setup : Setup) (daemon : Daemon) (input : Event × Delivery) :
    Daemon × List Peer :=
  ((deliver setup daemon input).1, lockedBy setup daemon input.1)

/-- The store is locked if a request to lock it has been carried out, and otherwise it is open,
with just this database. -/
inductive StoreAfter (database : Database) (master : Bytes) (locks : List Peer) :
    Store → Prop where
  | locked (h : locks ≠ []) : StoreAfter database master locks .locked
  | unlocked (h : locks = []) : StoreAfter database master locks (.unlocked database master)

def written (database : Database) : Event → Database
  | .commits other => other
  | _ => database

/-- What other processes have written last. -/
def lastWritten (database : Database) (events : List Event) : Database :=
  events.foldl written database

section Handlers

def Holds (store : Store) (shared : Shared) : Prop := shared.store = store

def OnlyReads (handler : Effect Shared String Response) : Prop :=
  ∀ store, Effect.Keeps handler (Holds store) fun _ => True

theorem onlyReads_answerStatus : OnlyReads answerStatus := by
  intro store
  apply withStore_keeps _ fun _ h => h
  exact fun shared h => ⟨h, fun _ _ => trivial⟩

theorem onlyReads_answerListCerts : OnlyReads answerListCerts := by
  intro store
  apply withStore_keeps _ fun _ h => h
  intro shared h
  cases hlisted : listCerts shared.store <;> simp only [hlisted] <;>
    exact ⟨h, fun _ _ => trivial⟩

theorem onlyReads_answerSign (crates : Crates) (system : System) (knownHashes : KnownHashes)
    (pid : Nat) (data : Bytes) : OnlyReads (answerSign crates system knownHashes pid data) := by
  intro store
  apply withStore_keeps _ fun _ h => h
  intro shared h
  rcases hresolved : resolveForPid crates system shared.store pid knownHashes shared.cache with
    ⟨route | message | _, cache⟩ <;> simp only [hresolved] <;> exact ⟨h, fun _ _ => trivial⟩

theorem answerLock_store (shared : Shared) :
    (answerLock shared).2.store = if shared.poisoned then shared.store else .locked := by
  rw [answerLock, withStore]
  split <;> rfl

theorem dispatch_store_of_ne {crates : Crates} {system : System} {knownHashes : KnownHashes}
    {request : Request} (h : request ≠ .lock) (shared : Shared) :
    (dispatch crates system knownHashes request shared).2.store = shared.store := by
  cases request with
  | ping => rfl
  | status => exact (onlyReads_answerStatus shared.store shared rfl).1
  | listCerts => exact (onlyReads_answerListCerts shared.store shared rfl).1
  | sign pid data =>
      exact (onlyReads_answerSign crates system knownHashes pid data shared.store shared rfl).1
  | lock => exact absurd rfl h

theorem handleConnection_store_of_lock {crates : Crates} {system : System} {codec : IpcCodec}
    {knownHashes : KnownHashes} {stream : Bytes} (h : readRequest codec stream = .ok .lock)
    (peerPid : Nat) (shared : Shared) :
    (handleConnection crates system codec knownHashes stream peerPid shared).2.store =
      if shared.poisoned then shared.store else .locked := by
  rw [handleConnection_of_read h]
  exact answerLock_store shared

theorem handleConnection_store_of_ne {crates : Crates} {system : System} {codec : IpcCodec}
    {knownHashes : KnownHashes} {stream : Bytes} (h : readRequest codec stream ≠ .ok .lock)
    (peerPid : Nat) (shared : Shared) :
    (handleConnection crates system codec knownHashes stream peerPid shared).2.store =
      shared.store := by
  cases hread : readRequest codec stream with
  | ok request =>
      rw [handleConnection_of_read hread]
      apply dispatch_store_of_ne
      rintro rfl
      exact h hread
  | err message =>
      have hlift : Effect.lift (readRequest codec stream) shared = (.err message, shared) := by
        rw [Effect.lift, hread]
      rw [handleConnection, Effect.bind_of_err hlift]
  | panicked =>
      have hlift : Effect.lift (readRequest codec stream) shared = (.panicked, shared) := by
        rw [Effect.lift, hread]
      rw [handleConnection, Effect.bind_of_panicked hlift]

theorem respond_store (crates : Crates) (msgType : UInt8) (payload : Bytes) (shared : Shared) :
    (respond crates msgType payload shared).2.store = shared.store := by
  have hidentities : Effect.Keeps handleRequestIdentities (Holds shared.store) fun _ => True :=
    withStore_keeps (fun _ h => ⟨h, fun _ _ => trivial⟩) fun _ h => h
  have hread : Effect.Keeps (Effect.lift (readSignRequest payload)) (Holds shared.store)
      fun _ => True := Effect.keeps_lift fun _ _ => trivial
  have hsign : Effect.Keeps (handleSignRequest crates payload) (Holds shared.store)
      fun _ => True :=
    hread.bind fun _ _ => withStore_keeps (fun _ h => ⟨h, fun _ _ => trivial⟩) fun _ h => h
  simp only [respond]
  split
  · exact (hidentities shared rfl).1
  · split
    · exact (hsign shared rfl).1
    · rfl

end Handlers

section Steps

variable {setup : Setup} {daemon : Daemon} {database : Database} {master : Bytes}

theorem storeAfter_of_kept {event : Event}
    (hstore : (step setup daemon event).1.shared.store = .unlocked database master)
    (hnone : lockedBy setup daemon event = []) :
    StoreAfter database master (lockedBy setup daemon event)
      (step setup daemon event).1.shared.store := by
  rw [hstore, hnone]
  exact .unlocked rfl

theorem lockedBy_of_ne {system : System} {stream : Bytes}
    (h : readRequest setup.codec stream ≠ .ok .lock) :
    lockedBy setup daemon (.ipcRequests system stream) = [] := by
  rw [lockedBy]
  split
  · rename_i hread
    exact absurd hread h
  · rfl

theorem storeAfter_ipcRequests (hstore : daemon.shared.store = .unlocked database master)
    (system : System) (stream : Bytes) :
    StoreAfter database master (lockedBy setup daemon (.ipcRequests system stream))
      (step setup daemon (.ipcRequests system stream)).1.shared.store := by
  cases hverified : daemon.verified with
  | none =>
      apply storeAfter_of_kept
      · rw [step, hverified, hstore]
      · rw [lockedBy, hverified]
  | some peer =>
      by_cases hread : readRequest setup.codec stream = .ok .lock
      · have hlocks : lockedBy setup daemon (.ipcRequests system stream) =
            if daemon.shared.poisoned then [] else [peer] := by
          rw [lockedBy, hverified, hread]
        rw [hlocks, step, hverified, serveIpc_shared, handleConnection_store_of_lock hread]
        cases daemon.shared.poisoned with
        | false => exact .locked (List.cons_ne_nil peer [])
        | true =>
            rw [if_pos rfl, if_pos rfl, hstore]
            exact .unlocked rfl
      · apply storeAfter_of_kept _ (lockedBy_of_ne hread)
        rw [step, hverified, serveIpc_shared, handleConnection_store_of_ne hread, hstore]

theorem serveAgent_store (connection : AgentConnection) :
    (serveAgent setup connection daemon).1.shared.store = daemon.shared.store := by
  rcases serveAgent_shared_cases setup connection daemon with hshared |
    ⟨msgType, payload, hshared⟩
  · rw [hshared]
  · rw [hshared]
    exact respond_store setup.crates msgType payload daemon.shared

theorem storeAfter_step (hstore : daemon.shared.store = .unlocked database master)
    (event : Event) :
    StoreAfter (written database event) master (lockedBy setup daemon event)
      (step setup daemon event).1.shared.store := by
  cases event with
  | ipcConnects system peer =>
      apply storeAfter_of_kept _ rfl
      rw [step]
      split
      · rw [acceptIpc_store, hstore]
        rfl
      · exact hstore
  | ipcRequests system stream => exact storeAfter_ipcRequests hstore system stream
  | agentConnects peer =>
      apply storeAfter_of_kept _ rfl
      rw [step]
      split <;> exact hstore
  | agentReceives bytes =>
      apply storeAfter_of_kept _ rfl
      rw [step]
      split <;> exact hstore
  | agentFinishes =>
      apply storeAfter_of_kept _ rfl
      rw [step]
      split <;> exact hstore
  | agentServes =>
      apply storeAfter_of_kept _ rfl
      rw [step]
      split
      · rw [serveAgent_store, hstore]
        rfl
      · exact hstore
  | commits other =>
      apply storeAfter_of_kept _ rfl
      rw [step]
      simp only [hstore, rereadDatabase]
      rfl

theorem deliver_locked (input : Event × Delivery) (hlocked : StoreIsLocked daemon.shared) :
    StoreIsLocked (deliver setup daemon input).1.shared := by
  rw [deliver_shared]
  exact (step_locked setup daemon input.1 hlocked).1

end Steps

section Runs

variable {setup : Setup} {daemon : Daemon} {database : Database} {master : Bytes}

theorem storeAfter_run (hstore : daemon.shared.store = .unlocked database master)
    (inputs : List (Event × Delivery)) :
    StoreAfter (lastWritten database (inputs.map Prod.fst)) master
      (run (locking setup) daemon inputs).2
      (run (deliver setup) daemon inputs).1.shared.store := by
  induction inputs generalizing daemon database with
  | nil =>
      rw [run_nil, run_nil, hstore]
      exact .unlocked rfl
  | cons input inputs ih =>
      rw [run_cons, run_cons]
      have hnext := @storeAfter_step setup daemon database master hstore input.1
      rw [← deliver_shared] at hnext
      rcases hafter : (deliver setup daemon input).1.shared.store with _ | ⟨found, passphrase⟩
      · rw [hafter] at hnext
        have hcarried : lockedBy setup daemon input.1 ≠ [] := by
          cases hnext with
          | locked h => exact h
        have hlocked :
            StoreIsLocked (run (deliver setup) (deliver setup daemon input).1 inputs).1.shared :=
          (@run_invariant _ _ _ (deliver setup) (fun daemon => StoreIsLocked daemon.shared)
            (fun _ => True) (fun _ input h => ⟨deliver_locked input h, fun _ _ => trivial⟩) _
            hafter inputs).1
        rw [StoreIsLocked] at hlocked
        rw [hlocked]
        exact .locked (List.append_ne_nil_of_left_ne_nil hcarried _)
      · rw [hafter] at hnext
        cases hnext with
        | unlocked hnone =>
            have hlocking : (locking setup daemon input).2 = [] := hnone
            rw [hlocking, List.nil_append]
            exact ih hafter

/-- The servers write nothing into the database: in every state of every run it is what others
have committed last, so no signature leaves a record. The store is open until a request to lock
it has been carried out, and closed from then on, even if the client could not be told. -/
theorem servers_write_nothing (setup : Setup) (database : Database) (master : Bytes)
    (inputs : List (Event × Delivery)) :
    StoreAfter (lastWritten database (inputs.map Prod.fst)) master
      (run (locking setup) (started database master) inputs).2
      (run (deliver setup) (started database master) inputs).1.shared.store :=
  storeAfter_run rfl inputs

end Runs

end TrafficCone.ServedStore
