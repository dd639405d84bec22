import TrafficCone.DaemonReplicas
import TrafficCone.RestoredNonces

namespace TrafficCone.PoisonedStore

open TrafficCone.Outcomes
open TrafficCone.StoreModels
open TrafficCone.LinkedCrates
open TrafficCone.LengthFraming
open TrafficCone.ProcReaders
open TrafficCone.PidRouting
open TrafficCone.IpcServing
open TrafficCone.SshAgentServing
open TrafficCone.DaemonRuns
open TrafficCone.TransducerRuns

/-- The mutex is poisoned, and the store behind it is under this passphrase, or locked. -/
structure Poisoned (passphrase : Outcome StoreError Bytes) (shared : Shared) : Prop where
  poisoned : shared.poisoned = true
  passphrase : shared.store.passphrase = passphrase

/-- The response needs no store. -/
def IsStoreless : Response → Prop
  | .pong | .error _ => True
  | .signature _ _ | .certs _ | .status _ _ | .ok => False

def OutputIsStoreless : Output → Prop
  | .ipc _ response => IsStoreless response
  | .agent _ response => response = [agentFailure]

section Handlers

variable {passphrase : Outcome StoreError Bytes}

theorem withStore_poisoned_keeps {α : Type} (handler : Effect Shared String α)
    (guarantee : α → Prop) :
    Effect.Keeps (withStore handler) (Poisoned passphrase) guarantee := by
  intro shared h
  rw [withStore_poisoned handler h.poisoned]
  exact ⟨h, fun value hvalue => (by cases hvalue)⟩

theorem dispatch_poisoned (crates : Crates) (system : System) (knownHashes : KnownHashes)
    (request : Request) :
    Effect.Keeps (dispatch crates system knownHashes request) (Poisoned passphrase)
      IsStoreless := by
  cases request with
  | ping => exact Effect.keeps_pure trivial
  | sign pid data => exact withStore_poisoned_keeps _ _
  | listCerts => exact withStore_poisoned_keeps _ _
  | status => exact withStore_poisoned_keeps _ _
  | lock => exact withStore_poisoned_keeps _ _

theorem handleConnection_poisoned (crates : Crates) (system : System) (codec : IpcCodec)
    (knownHashes : KnownHashes) (stream : Bytes) (peerPid : Nat) :
    Effect.Keeps (handleConnection crates system codec knownHashes stream peerPid)
      (Poisoned passphrase) IsStoreless := by
  have hread : Effect.Keeps (Effect.lift (readRequest codec stream)) (Poisoned passphrase)
      fun _ => True := Effect.keeps_lift fun _ _ => trivial
  apply hread.bind
  intro request _
  exact dispatch_poisoned crates system knownHashes request

theorem handleSignRequest_poisoned (crates : Crates) (payload : Bytes) :
    Effect.Keeps (handleSignRequest crates payload) (Poisoned passphrase)
      fun response => response = [agentFailure] := by
  have hread : Effect.Keeps (Effect.lift (readSignRequest payload)) (Poisoned passphrase)
      fun _ => True := Effect.keeps_lift fun _ _ => trivial
  apply hread.bind
  intro request _
  exact withStore_poisoned_keeps _ _

theorem orFailure_eq_failure {outcome : Outcome String Bytes}
    (h : ∀ response, outcome = .ok response → response = [agentFailure]) {response : Bytes}
    (hresponse : orFailure outcome = .ok response) : response = [agentFailure] := by
  cases outcome with
  | ok bytes =>
      obtain rfl := Outcome.ok.inj hresponse
      exact h bytes rfl
  | err error => exact (Outcome.ok.inj hresponse).symm
  | panicked => cases hresponse

theorem respond_poisoned (crates : Crates) (msgType : UInt8) (payload : Bytes) :
    Effect.Keeps (respond crates msgType payload) (Poisoned passphrase)
      fun response => response = [agentFailure] := by
  intro shared h
  simp only [respond]
  split
  · obtain ⟨hkept, hresponse⟩ := @withStore_poisoned_keeps passphrase _
      (fun shared => (.ok (identitiesMessage shared.store), shared))
      (fun response => response = [agentFailure]) shared h
    exact ⟨hkept, fun response => orFailure_eq_failure hresponse⟩
  · split
    · obtain ⟨hkept, hresponse⟩ := handleSignRequest_poisoned crates payload shared h
      exact ⟨hkept, fun response => orFailure_eq_failure hresponse⟩
    · exact ⟨h, fun response hfailed => (Outcome.ok.inj hfailed).symm⟩

end Handlers

section Steps

variable {passphrase : Outcome StoreError Bytes} (setup : Setup)

theorem passphrase_reread (database : Database) (store : Store) :
    (rereadDatabase database store).passphrase = store.passphrase := by
  cases store <;> rfl

theorem acceptIpc_poisoned (system : System) (peer : Option Peer) {daemon : Daemon}
    (h : Poisoned passphrase daemon.shared) :
    Poisoned passphrase (acceptIpc setup system peer daemon).1.shared := by
  refine ⟨?_, by rw [acceptIpc_store]; exact h.passphrase⟩
  cases peer with
  | none => exact h.poisoned
  | some peer =>
      rw [acceptIpc]
      rcases verifyTrafficConeBinary setup.crates system setup.ourUid peer.pid peer.uid
        setup.knownHashes daemon.shared.cache with ⟨_ | _ | _, cache⟩ <;> exact h.poisoned

theorem serveIpc_poisoned (system : System) (stream : Bytes) (peer : Peer) {daemon : Daemon}
    (h : Poisoned passphrase daemon.shared) :
    Poisoned passphrase (serveIpc setup system stream peer daemon).1.shared ∧
      ∀ output ∈ (serveIpc setup system stream peer daemon).2, OutputIsStoreless output := by
  obtain ⟨hkept, hresponse⟩ := handleConnection_poisoned setup.crates system setup.codec
    setup.knownHashes stream peer.pid daemon.shared h
  rw [serveIpc_shared]
  refine ⟨hkept, ?_⟩
  intro output houtput
  obtain ⟨response, rfl, hanswer | ⟨message, rfl⟩⟩ := serveIpc_output houtput
  · exact hresponse response hanswer
  · trivial

theorem serveAgent_poisoned (connection : AgentConnection) {daemon : Daemon}
    (h : Poisoned passphrase daemon.shared) :
    Poisoned passphrase (serveAgent setup connection daemon).1.shared ∧
      ∀ output ∈ (serveAgent setup connection daemon).2, OutputIsStoreless output := by
  constructor
  · rcases serveAgent_shared_cases setup connection daemon with hsame | ⟨msgType, payload, hshared⟩
    · rw [hsame]
      exact h
    · rw [hshared]
      exact (respond_poisoned setup.crates msgType payload daemon.shared h).1
  · intro output houtput
    obtain ⟨msgType, payload, rest, response, -, hresponse, rfl⟩ := mem_serveAgent_iff.mp houtput
    exact (respond_poisoned setup.crates msgType payload daemon.shared h).2 response hresponse

theorem step_poisoned (daemon : Daemon) (event : Event) (h : Poisoned passphrase daemon.shared) :
    Poisoned passphrase (step setup daemon event).1.shared ∧
      ∀ output ∈ (step setup daemon event).2, OutputIsStoreless output := by
  cases event with
  | ipcConnects system peer =>
      rw [step]
      split
      · refine ⟨acceptIpc_poisoned setup system peer h, ?_⟩
        intro output houtput
        obtain ⟨rejected, rfl⟩ := acceptIpc_output houtput
        trivial
      · exact ⟨h, by simp⟩
  | ipcRequests system stream =>
      rw [step]
      split
      · exact serveIpc_poisoned setup system stream _ h
      · exact ⟨h, by simp⟩
  | agentConnects peer =>
      rw [step]
      split <;> exact ⟨h, by simp⟩
  | agentReceives bytes =>
      rw [step]
      split <;> exact ⟨h, by simp⟩
  | agentFinishes =>
      rw [step]
      split <;> exact ⟨h, by simp⟩
  | agentServes =>
      rw [step]
      split
      · exact serveAgent_poisoned setup _ h
      · exact ⟨h, by simp⟩
  | commits database =>
      refine ⟨⟨h.poisoned, ?_⟩, by simp [step]⟩
      exact (passphrase_reread database daemon.shared.store).trans h.passphrase

end Steps

section Endings

variable {setup : Setup} {daemon : Daemon}

/-- The thread of the IPC server has ended, and no connection is left to it. -/
structure IpcEnded (daemon : Daemon) : Prop where
  running : daemon.ipcRunning = false
  verified : daemon.verified = none

def OutputIsAgents : Output → Prop
  | .ipc _ _ => False
  | .agent _ _ => True

theorem serveAgent_ipcRunning (connection : AgentConnection) :
    (serveAgent setup connection daemon).1.ipcRunning = daemon.ipcRunning := by
  rw [serveAgent]
  split
  · rfl
  · rfl
  · rfl
  · split <;> rfl

theorem step_ended (daemon : Daemon) (event : Event) (h : IpcEnded daemon) :
    IpcEnded (step setup daemon event).1 ∧
      ∀ output ∈ (step setup daemon event).2, OutputIsAgents output := by
  cases event with
  | ipcConnects system peer =>
      have hclosed : ¬ (daemon.ipcRunning = true ∧ daemon.verified = none) := by simp [h.running]
      rw [step, if_neg hclosed]
      exact ⟨h, by simp⟩
  | ipcRequests system stream =>
      rw [step, h.verified]
      exact ⟨h, by simp⟩
  | agentConnects peer =>
      rw [step]
      split <;> exact ⟨⟨h.running, h.verified⟩, by simp⟩
  | agentReceives bytes =>
      rw [step]
      split <;> exact ⟨⟨h.running, h.verified⟩, by simp⟩
  | agentFinishes =>
      rw [step]
      split <;> exact ⟨⟨h.running, h.verified⟩, by simp⟩
  | agentServes =>
      rw [step]
      split
      · refine ⟨⟨(serveAgent_ipcRunning _).trans h.running,
          (serveAgent_verified setup _ daemon).trans h.verified⟩, ?_⟩
        intro output houtput
        obtain ⟨_, _, _, _, -, -, rfl⟩ := mem_serveAgent_iff.mp houtput
        trivial
      · exact ⟨h, by simp⟩
  | commits database => exact ⟨⟨h.running, h.verified⟩, by simp [step]⟩

theorem dispatch_panics {crates : Crates} {system : System} {knownHashes : KnownHashes}
    {request : Request} {shared : Shared} (hpoisoned : shared.poisoned = true)
    (hrequest : request ≠ .ping) :
    dispatch crates system knownHashes request shared = (.panicked, shared) := by
  cases request with
  | ping => exact absurd rfl hrequest
  | sign pid data =>
      rw [dispatch, answerSign]
      exact withStore_poisoned _ hpoisoned
  | listCerts =>
      rw [dispatch, answerListCerts]
      exact withStore_poisoned _ hpoisoned
  | status =>
      rw [dispatch, answerStatus]
      exact withStore_poisoned _ hpoisoned
  | lock =>
      rw [dispatch, answerLock]
      exact withStore_poisoned _ hpoisoned

/-- The first request for the store ends the IPC server's thread. -/
theorem ended_of_request {system : System} {stream : Bytes} {peer : Peer} {request : Request}
    (hpoisoned : daemon.shared.poisoned = true) (hverified : daemon.verified = some peer)
    (hread : readRequest setup.codec stream = .ok request) (hrequest : request ≠ .ping) :
    IpcEnded (step setup daemon (.ipcRequests system stream)).1 := by
  have hpanics : handleConnection setup.crates system setup.codec setup.knownHashes stream
      peer.pid daemon.shared = (.panicked, daemon.shared) := by
    rw [handleConnection_of_read hread]
    exact dispatch_panics hpoisoned hrequest
  rw [step, hverified]
  simp only [serveIpc, hpanics]
  exact ⟨rfl, rfl⟩

/-- Once a panic has poisoned the mutex, nothing that needs the store is answered any more, on
either socket, nor is it locked: its passphrase stays in memory. The first request for it ends
the IPC server. -/
theorem poisoned_for_good (setup : Setup) (daemon : Daemon)
    (hpoisoned : daemon.shared.poisoned = true) (events : List Event) :
    (run (step setup) daemon events).1.shared.store.passphrase = daemon.shared.store.passphrase ∧
      (∀ output ∈ (run (step setup) daemon events).2, OutputIsStoreless output) ∧
        ∀ system stream peer request later,
          (run (step setup) daemon events).1.verified = some peer →
            readRequest setup.codec stream = .ok request → request ≠ .ping →
              ∀ output ∈ (run (step setup) (run (step setup) daemon
                (events ++ [.ipcRequests system stream])).1 later).2, OutputIsAgents output := by
  obtain ⟨hkept, houtputs⟩ := @run_invariant _ _ _ (step setup)
    (fun state => Poisoned daemon.shared.store.passphrase state.shared) OutputIsStoreless
    (step_poisoned setup) daemon ⟨hpoisoned, rfl⟩ events
  refine ⟨hkept.passphrase, houtputs, ?_⟩
  intro system stream peer request later hverified hread hrequest
  have hended : IpcEnded
      (run (step setup) daemon (events ++ [.ipcRequests system stream])).1 := by
    rw [run_append]
    exact ended_of_request hkept.poisoned hverified hread hrequest
  exact (run_invariant step_ended hended later).2

end Endings

section ShortNonce

open TrafficCone.ClaimedPidInfluence (twoAppsSystem)
open TrafficCone.DaemonReplicas (laptopSetup)

/-- A store with an SSH key whose nonce has two bytes. -/
def shortNonceDatabase : Database :=
  { sshKeys := [
      { id := "s1", label := "git", publicKey := "ssh-ed25519 AAAA", algorithm := "Ed25519"
        keyEnc := [10, 11], keySalt := [1, 2, 3, 4, 5, 6, 7, 8], keyNonce := [4, 5]
        createdAt := 6 }] }

def gitSignMessage : Bytes :=
  signRequest :: (frame (asBytes "ssh-ed25519 AAAA") ++ frame [1] ++ [0, 0, 0, 0])

/-- What is left after a client of the agent has asked for a signature with the key. -/
def panickedDaemon : Daemon :=
  (run (step laptopSetup) (started shortNonceDatabase [2])
    [.agentConnects { pid := 9, uid := 1000 }, .agentReceives (frame gitSignMessage),
      .agentServes]).1

def coneAsks : List Event := [.ipcConnects twoAppsSystem (some { pid := 5, uid := 1000 })]

theorem poisoned_for_good_git :
    (run (step laptopSetup) panickedDaemon coneAsks).1.shared.store.passphrase =
        panickedDaemon.shared.store.passphrase ∧
      (∀ output ∈ (run (step laptopSetup) panickedDaemon coneAsks).2,
        OutputIsStoreless output) ∧
        ∀ system stream peer request later,
          (run (step laptopSetup) panickedDaemon coneAsks).1.verified = some peer →
            readRequest laptopSetup.codec stream = .ok request → request ≠ .ping →
              ∀ output ∈ (run (step laptopSetup) (run (step laptopSetup) panickedDaemon
                (coneAsks ++ [.ipcRequests system stream])).1 later).2, OutputIsAgents output :=
  poisoned_for_good laptopSetup panickedDaemon (by decide +kernel) coneAsks

end ShortNonce

end TrafficCone.PoisonedStore
