import TrafficCone.DaemonRuns

namespace TrafficCone.LockedSilence

open TrafficCone.Outcomes
open TrafficCone.StoreModels
open TrafficCone.StoreListing
open TrafficCone.LinkedCrates
open TrafficCone.ProcReaders
open TrafficCone.ProcessMonitoring
open TrafficCone.PidRouting
open TrafficCone.IpcServing
open TrafficCone.SshAgentServing
open TrafficCone.DaemonRuns
open TrafficCone.TransducerRuns

def StoreIsLocked (shared : Shared) : Prop := shared.store = .locked

/-- The response gives nothing of a store away, and reports it as locked. -/
def ResponseIsSilent : Response → Prop
  | .signature _ _ => False
  | .certs _ => False
  | .status locked certCount => locked = true ∧ certCount = 0
  | .pong | .ok | .error _ => True

def AgentIsSilent (response : Bytes) : Prop :=
  response.head? ≠ some signResponse ∧
    (response.head? = some identitiesAnswer → response = [identitiesAnswer, 0, 0, 0, 0])

def OutputIsSilent : Output → Prop
  | .ipc _ response => ResponseIsSilent response
  | .agent _ response => AgentIsSilent response

section Handlers

/-- A handler that keeps the store locked does so under the mutex. -/
theorem withStore_locked {α : Type} {handler : Effect Shared String α} {guarantee : α → Prop}
    (h : Effect.Keeps handler StoreIsLocked guarantee) :
    Effect.Keeps (withStore handler) StoreIsLocked guarantee :=
  withStore_keeps h fun _ hlocked => hlocked

/-- What a handler answers from a locked store must be within the guarantee. -/
theorem withStore_locked_of_answer {α : Type} {answer : Store → Outcome String α}
    {guarantee : α → Prop} (h : ∀ value, answer .locked = .ok value → guarantee value) :
    Effect.Keeps (withStore fun shared => (answer shared.store, shared)) StoreIsLocked
      guarantee := by
  apply withStore_locked
  intro shared hlocked
  refine ⟨hlocked, ?_⟩
  intro value hvalue
  have hstore : shared.store = .locked := hlocked
  simp only [hstore] at hvalue
  exact h value hvalue

theorem answerStatus_locked : Effect.Keeps answerStatus StoreIsLocked ResponseIsSilent := by
  apply withStore_locked
  intro shared hlocked
  refine ⟨hlocked, ?_⟩
  intro response hresponse
  obtain rfl := Outcome.ok.inj hresponse
  rw [hlocked]
  exact ⟨rfl, rfl⟩

theorem answerLock_locked : Effect.Keeps answerLock StoreIsLocked ResponseIsSilent := by
  apply withStore_locked
  intro shared _
  refine ⟨rfl, ?_⟩
  intro response hresponse
  obtain rfl := Outcome.ok.inj hresponse
  trivial

theorem answerListCerts_locked : Effect.Keeps answerListCerts StoreIsLocked ResponseIsSilent := by
  apply withStore_locked
  intro shared hlocked
  simp only [StoreIsLocked] at hlocked
  simp [hlocked, StoreIsLocked, ResponseIsSilent]

theorem resolveForPid_locked (crates : Crates) (system : System) (pid : Nat)
    (knownHashes : KnownHashes) (cache cache' : Cache) (route : ResolvedRoute) :
    resolveForPid crates system .locked pid knownHashes cache ≠ (.ok route, cache') := by
  intro hresolved
  obtain ⟨process, -, hroute⟩ := resolveForPid_eq_ok_iff.mp hresolved
  obtain ⟨-, database, master, -, -, -, hstore, -⟩ := routeProcess_eq_ok_iff.mp hroute
  cases hstore

theorem answerSign_locked (crates : Crates) (system : System) (knownHashes : KnownHashes)
    (pid : Nat) (data : Bytes) :
    Effect.Keeps (answerSign crates system knownHashes pid data) StoreIsLocked
      ResponseIsSilent := by
  apply withStore_locked
  intro shared hlocked
  rcases hresolved : resolveForPid crates system shared.store pid knownHashes shared.cache with
    ⟨route | message | _, cache⟩
  · rw [hlocked] at hresolved
    exact absurd hresolved (resolveForPid_locked crates system pid knownHashes _ _ _)
  · simp only [hresolved]
    refine ⟨hlocked, ?_⟩
    intro response hresponse
    obtain rfl := Outcome.ok.inj hresponse
    trivial
  · simp only [hresolved]
    exact ⟨hlocked, nofun⟩

/-- No request gets anything out of a locked store, nor unlocks it. -/
theorem dispatch_locked (crates : Crates) (system : System) (knownHashes : KnownHashes)
    (request : Request) :
    Effect.Keeps (dispatch crates system knownHashes request) StoreIsLocked ResponseIsSilent := by
  cases request with
  | ping => exact Effect.keeps_pure trivial
  | status => exact answerStatus_locked
  | lock => exact answerLock_locked
  | listCerts => exact answerListCerts_locked
  | sign pid data => exact answerSign_locked crates system knownHashes pid data

theorem handleConnection_locked (crates : Crates) (system : System) (codec : IpcCodec)
    (knownHashes : KnownHashes) (stream : Bytes) (peerPid : Nat) :
    Effect.Keeps (handleConnection crates system codec knownHashes stream peerPid) StoreIsLocked
      ResponseIsSilent :=
  Effect.Keeps.bind (Effect.keeps_lift fun _ _ => trivial) fun request _ =>
    dispatch_locked crates system knownHashes request

theorem handleRequestIdentities_locked :
    Effect.Keeps handleRequestIdentities StoreIsLocked AgentIsSilent := by
  apply @withStore_locked_of_answer _ fun store => .ok (identitiesMessage store)
  intro response hresponse
  obtain rfl := Outcome.ok.inj hresponse
  exact ⟨by decide, fun _ => rfl⟩

theorem handleSignRequest_locked (crates : Crates) (payload : Bytes) :
    Effect.Keeps (handleSignRequest crates payload) StoreIsLocked AgentIsSilent := by
  have hread : Effect.Keeps (Effect.lift (readSignRequest payload)) StoreIsLocked
      fun _ => True := Effect.keeps_lift fun _ _ => trivial
  apply hread.bind
  rintro ⟨keyBlob, data, flags⟩ -
  apply @withStore_locked_of_answer _ fun store => signWithKey crates store keyBlob data flags
  intro response hresponse
  cases hresponse

theorem failure_is_silent : AgentIsSilent [agentFailure] := by
  refine ⟨by decide, ?_⟩
  intro h
  exact absurd h (by decide)

theorem orFailure_silent {outcome : Outcome String Bytes} {response : Bytes}
    (h : ∀ bytes, outcome = .ok bytes → AgentIsSilent bytes)
    (hresponse : orFailure outcome = .ok response) : AgentIsSilent response := by
  cases outcome with
  | ok bytes => exact h response hresponse
  | panicked => cases hresponse
  | err error =>
      obtain rfl := Outcome.ok.inj hresponse
      exact failure_is_silent

theorem respond_locked (crates : Crates) (msgType : UInt8) (payload : Bytes) :
    Effect.Keeps (respond crates msgType payload) StoreIsLocked AgentIsSilent := by
  intro shared hlocked
  unfold respond
  by_cases hidentities : msgType = requestIdentities
  · obtain ⟨hkept, hsilent⟩ := handleRequestIdentities_locked shared hlocked
    simp only [hidentities, if_true]
    exact ⟨hkept, fun response => orFailure_silent hsilent⟩
  · by_cases hsign : msgType = signRequest
    · obtain ⟨hkept, hsilent⟩ := handleSignRequest_locked crates payload shared hlocked
      simp only [if_neg hidentities, if_pos hsign]
      exact ⟨hkept, fun response => orFailure_silent hsilent⟩
    · simp only [hidentities, hsign, if_false]
      refine ⟨hlocked, fun response => orFailure_silent ?_⟩
      intro bytes hbytes
      obtain rfl := Outcome.ok.inj hbytes
      exact failure_is_silent

end Handlers

section Steps

variable (setup : Setup)

theorem serveIpc_locked (system : System) (stream : Bytes) (peer : Peer) {daemon : Daemon}
    (hlocked : StoreIsLocked daemon.shared) :
    StoreIsLocked (serveIpc setup system stream peer daemon).1.shared ∧
      ∀ output ∈ (serveIpc setup system stream peer daemon).2, OutputIsSilent output := by
  obtain ⟨hkept, hsilent⟩ := handleConnection_locked setup.crates system setup.codec
    setup.knownHashes stream peer.pid daemon.shared hlocked
  rw [serveIpc_shared]
  refine ⟨hkept, ?_⟩
  intro output houtput
  obtain ⟨response, rfl, hresponse | ⟨message, rfl⟩⟩ := serveIpc_output houtput
  · exact hsilent response hresponse
  · trivial

theorem serveAgent_locked (connection : AgentConnection) {daemon : Daemon}
    (hlocked : StoreIsLocked daemon.shared) :
    StoreIsLocked (serveAgent setup connection daemon).1.shared ∧
      ∀ output ∈ (serveAgent setup connection daemon).2, OutputIsSilent output := by
  constructor
  · rcases serveAgent_shared_cases setup connection daemon with hsame | ⟨msgType, payload, hshared⟩
    · rw [hsame]
      exact hlocked
    · rw [hshared]
      exact (respond_locked setup.crates msgType payload daemon.shared hlocked).1
  · intro output houtput
    obtain ⟨msgType, payload, rest, response, -, hresponse, rfl⟩ := mem_serveAgent_iff.mp houtput
    exact (respond_locked setup.crates msgType payload daemon.shared hlocked).2 response hresponse

theorem step_locked (daemon : Daemon) (event : Event) (hlocked : StoreIsLocked daemon.shared) :
    StoreIsLocked (step setup daemon event).1.shared ∧
      ∀ output ∈ (step setup daemon event).2, OutputIsSilent output := by
  rcases step_cases setup daemon event with ⟨system, peer, -, -, hstep⟩ |
    ⟨system, stream, peer, -, -, hstep⟩ | ⟨connection, -, -, hstep⟩ | hquiet
  · rw [hstep]
    refine ⟨(acceptIpc_store setup system peer daemon).trans hlocked, ?_⟩
    intro output houtput
    obtain ⟨rejected, rfl⟩ := acceptIpc_output houtput
    trivial
  · rw [hstep]
    exact serveIpc_locked setup system stream peer hlocked
  · rw [hstep]
    exact serveAgent_locked setup connection hlocked
  · refine ⟨?_, by simp [hquiet.silent]⟩
    have hstore : daemon.shared.store = .locked := hlocked
    -- No event opens a store again, and a locked one has no database to read again.
    rcases hquiet.store with hsame | ⟨database, hreread⟩
    · exact hsame.trans hstore
    · rw [StoreIsLocked, hreread, hstore, rereadDatabase]

end Steps

section LockRequest

theorem answerStatus_ne_ok (shared : Shared) : (answerStatus shared).1 ≠ .ok .ok := by
  intro hanswer
  obtain ⟨-, hstatus⟩ := withStore_eq_ok_iff.mp hanswer
  cases hstatus

theorem answerListCerts_ne_ok (shared : Shared) : (answerListCerts shared).1 ≠ .ok .ok := by
  intro hanswer
  obtain ⟨-, hlisted⟩ := withStore_eq_ok_iff.mp hanswer
  cases hcerts : listCerts shared.store <;> simp [hcerts] at hlisted

theorem answerSign_ne_ok (crates : Crates) (system : System) (knownHashes : KnownHashes)
    (pid : Nat) (data : Bytes) (shared : Shared) :
    (answerSign crates system knownHashes pid data shared).1 ≠ .ok .ok := by
  intro hanswer
  obtain ⟨-, hsigned⟩ := withStore_eq_ok_iff.mp hanswer
  rcases hresolved : resolveForPid crates system shared.store pid knownHashes shared.cache with
    ⟨route | message | _, cache⟩ <;> simp only [hresolved] at hsigned
  · cases hdata : signData crates shared.store route.certId data <;>
      simp [hdata, answerWith] at hsigned
  · cases hsigned
  · cases hsigned

theorem answerLock_locks {shared : Shared} {response : Response}
    (h : (answerLock shared).1 = .ok response) : StoreIsLocked (answerLock shared).2 := by
  unfold answerLock withStore at h ⊢
  split
  · rename_i hpoisoned
    simp [hpoisoned] at h
  · rfl

theorem dispatch_ok_locks {crates : Crates} {system : System} {knownHashes : KnownHashes}
    {request : Request} {shared : Shared}
    (h : (dispatch crates system knownHashes request shared).1 = .ok .ok) :
    StoreIsLocked (dispatch crates system knownHashes request shared).2 := by
  cases request with
  | ping => cases h
  | status => exact absurd h (answerStatus_ne_ok shared)
  | lock => exact answerLock_locks h
  | listCerts => exact absurd h (answerListCerts_ne_ok shared)
  | sign pid data =>
      exact absurd h (answerSign_ne_ok crates system knownHashes pid data shared)

theorem handleConnection_ok_locks {crates : Crates} {system : System} {codec : IpcCodec}
    {knownHashes : KnownHashes} {stream : Bytes} {peerPid : Nat} {shared : Shared}
    (h : (handleConnection crates system codec knownHashes stream peerPid shared).1 = .ok .ok) :
    StoreIsLocked
      (handleConnection crates system codec knownHashes stream peerPid shared).2 := by
  cases hread : readRequest codec stream with
  | ok request =>
      rw [handleConnection_of_read hread] at h ⊢
      exact dispatch_ok_locks h
  | err error =>
      have hlift : Effect.lift (readRequest codec stream) shared = (.err error, shared) := by
        rw [Effect.lift, hread]
      rw [handleConnection, Effect.bind_of_err hlift] at h
      cases h
  | panicked =>
      have hlift : Effect.lift (readRequest codec stream) shared = (.panicked, shared) := by
        rw [Effect.lift, hread]
      rw [handleConnection, Effect.bind_of_panicked hlift] at h
      cases h

theorem step_ok_locks {setup : Setup} {daemon : Daemon} {event : Event} {peer : Peer}
    (h : .ipc peer .ok ∈ (step setup daemon event).2) :
    StoreIsLocked (step setup daemon event).1.shared := by
  rcases step_cases setup daemon event with ⟨system, other, -, -, hstep⟩ |
    ⟨system, stream, other, -, -, hstep⟩ | ⟨connection, -, -, hstep⟩ | hquiet
  · rw [hstep] at h
    obtain ⟨rejected, hrejected⟩ := acceptIpc_output h
    simp at hrejected
  · rw [hstep] at h ⊢
    obtain ⟨response, houtput, hresponse⟩ := serveIpc_output h
    obtain ⟨-, rfl⟩ := Output.ipc.inj houtput
    rw [serveIpc_shared]
    rcases hresponse with hlock | ⟨message, hmessage⟩
    · exact handleConnection_ok_locks hlock
    · cases hmessage
  · rw [hstep] at h
    obtain ⟨_, _, _, _, _, _, houtput⟩ := mem_serveAgent_iff.mp h
    cases houtput
  · rw [hquiet.silent] at h
    cases h

/-- From the answer to a lock request on, the store stays locked, and neither server
gives anything of it away. -/
theorem silent_after_lock (setup : Setup) (daemon : Daemon) (event : Event) (peer : Peer)
    (hlock : .ipc peer .ok ∈ (step setup daemon event).2) (later : List Event) :
    (run (step setup) (step setup daemon event).1 later).1.shared.store = .locked ∧
      ∀ output ∈ (run (step setup) (step setup daemon event).1 later).2,
        OutputIsSilent output :=
  run_invariant (step_locked setup) (step_ok_locks hlock) later

def lockText : Bytes := asBytes "\x7b\"type\":\"Lock\"\x7d"

def lockingSetup : Setup where
  crates := plainCrates
  codec := phrasebook [(lockText, .lock)]
  ourUid := 1000
  knownHashes := fun _ => none

theorem silent_after_lock_by_cli :
    let daemon : Daemon := { started {} [] with verified := some { pid := 5, uid := 1000 } }
    let event : Event := .ipcRequests (quietSystem [] []) (LengthFraming.frame lockText)
    let later : List Event :=
      [.agentConnects { pid := 9, uid := 1000 }, .agentReceives [0, 0, 0, 1, 11], .agentServes]
    (run (step lockingSetup) (step lockingSetup daemon event).1 later).1.shared.store = .locked ∧
      ∀ output ∈ (run (step lockingSetup) (step lockingSetup daemon event).1 later).2,
        OutputIsSilent output :=
  silent_after_lock lockingSetup _ _ { pid := 5, uid := 1000 } (by decide) _

end LockRequest

end TrafficCone.LockedSilence
