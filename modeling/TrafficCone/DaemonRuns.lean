import TrafficCone.SshAgentServing
import TrafficCone.TransducerRuns

namespace TrafficCone.DaemonRuns

open TrafficCone.Outcomes
open TrafficCone.StoreModels
open TrafficCone.LinkedCrates
open TrafficCone.ProcReaders
open TrafficCone.PidRouting
open TrafficCone.IpcServing
open TrafficCone.SshAgentServing
open TrafficCone.TransducerRuns

structure Setup where
  crates : Crates
  codec : IpcCodec
  ourUid : Nat
  knownHashes : KnownHashes

structure Peer where
  pid : Nat
  uid : Nat
  deriving DecidableEq, Repr

/-- The agent's open connection: the bytes not yet read, and whether the client
has closed its side. -/
structure AgentConnection where
  peer : Peer
  unread : Bytes
  finished : Bool
  deriving DecidableEq, Repr

/-- The state of the two server threads. The IPC server has at most one
connection, which it has verified and whose request it has not read yet. -/
structure Daemon where
  shared : Shared
  ipcRunning : Bool
  verified : Option Peer
  agentRunning : Bool
  agentConnection : Option AgentConnection

/-- What can happen next. The files of the system are as they are at that
moment; `commits` is a change of the database by another process. -/
inductive Event where
  | ipcConnects (system : System) (peer : Option Peer)
  | ipcRequests (system : System) (stream : Bytes)
  | agentConnects (peer : Peer)
  | agentReceives (bytes : Bytes)
  | agentFinishes
  | agentServes
  | commits (database : Database)

inductive Output where
  | ipc (peer : Peer) (response : Response)
  | agent (peer : Peer) (response : Bytes)
  deriving DecidableEq, Repr

/-- The IPC server accepts a connection and verifies its process. Without the
peer's credentials the server ends; a panic ends its thread. -/
def acceptIpc (setup : Setup) (system : System) (peer : Option Peer) (daemon : Daemon) :
    Daemon × List Output :=
  match peer with
  | none => ({ daemon with ipcRunning := false }, [])
  | some peer =>
      match verifyTrafficConeBinary setup.crates system setup.ourUid peer.pid peer.uid
          setup.knownHashes daemon.shared.cache with
      | (.ok _, cache) =>
          ({ daemon with
              shared := { daemon.shared with cache := cache }
              verified := some peer }, [])
      | (.err _, cache) =>
          ({ daemon with shared := { daemon.shared with cache := cache } },
            [.ipc peer (.error "Connection rejected: unauthorized process")])
      | (.panicked, cache) =>
          ({ daemon with shared := { daemon.shared with cache := cache }, ipcRunning := false },
            [])

/-- The IPC server reads the one request of its connection, answers it and closes. -/
def serveIpc (setup : Setup) (system : System) (stream : Bytes) (peer : Peer)
    (daemon : Daemon) : Daemon × List Output :=
  match handleConnection setup.crates system setup.codec setup.knownHashes stream peer.pid
      daemon.shared with
  | (.ok response, shared) =>
      ({ daemon with shared := shared, verified := none }, [.ipc peer response])
  | (.err message, shared) =>
      ({ daemon with shared := shared, verified := none }, [.ipc peer (.error message)])
  | (.panicked, shared) =>
      ({ daemon with shared := shared, verified := none, ipcRunning := false }, [])

def serveAgent (setup : Setup) (connection : AgentConnection) (daemon : Daemon) :
    Daemon × List Output :=
  match readMessage connection.unread connection.finished with
  | .blocked => (daemon, [])
  | .ended => ({ daemon with agentConnection := none }, [])
  | .message [] rest =>
      ({ daemon with agentConnection := some { connection with unread := rest } }, [])
  | .message (msgType :: payload) rest =>
      match respond setup.crates msgType payload daemon.shared with
      | (.ok response, shared) =>
          ({ daemon with
              shared := shared
              agentConnection := some { connection with unread := rest } },
            [.agent connection.peer response])
      | (.err _, shared) =>
          ({ daemon with shared := shared, agentConnection := none }, [])
      | (.panicked, shared) =>
          ({ daemon with shared := shared, agentConnection := none, agentRunning := false }, [])

/-- Another process has written to the database file; a locked store has none
open. -/
def rereadDatabase (database : Database) : Store → Store
  | .locked => .locked
  | .unlocked _ passphrase => .unlocked database passphrase

def step (setup : Setup) (daemon : Daemon) : Event → Daemon × List Output
  | .ipcConnects system peer =>
      if daemon.ipcRunning = true ∧ daemon.verified = none then
        acceptIpc setup system peer daemon
      else (daemon, [])
  | .ipcRequests system stream =>
      match daemon.verified with
      | some peer => serveIpc setup system stream peer daemon
      | none => (daemon, [])
  | .agentConnects peer =>
      if daemon.agentRunning = true ∧ daemon.agentConnection = none then
        ({ daemon with
            agentConnection := some { peer := peer, unread := [], finished := false } }, [])
      else (daemon, [])
  | .agentReceives bytes =>
      match daemon.agentConnection with
      | some connection =>
          ({ daemon with
              agentConnection := some { connection with unread := connection.unread ++ bytes } },
            [])
      | none => (daemon, [])
  | .agentFinishes =>
      match daemon.agentConnection with
      | some connection =>
          ({ daemon with agentConnection := some { connection with finished := true } }, [])
      | none => (daemon, [])
  | .agentServes =>
      match daemon.agentConnection with
      | some connection => serveAgent setup connection daemon
      | none => (daemon, [])
  | .commits database =>
      ({ daemon with
          shared := { daemon.shared with store := rereadDatabase database daemon.shared.store } },
        [])

section Servers

variable {setup : Setup} {system : System} {daemon : Daemon}

theorem acceptIpc_store (setup : Setup) (system : System) (peer : Option Peer) (daemon : Daemon) :
    (acceptIpc setup system peer daemon).1.shared.store = daemon.shared.store := by
  cases peer with
  | none => rfl
  | some peer =>
      rw [acceptIpc]
      rcases verifyTrafficConeBinary setup.crates system setup.ourUid peer.pid peer.uid
        setup.knownHashes daemon.shared.cache with ⟨_ | _ | _, cache⟩ <;> rfl

/-- A client is taken only after its check; otherwise the one before stays. -/
theorem acceptIpc_verified_cases (setup : Setup) (system : System) (peer : Option Peer)
    (daemon : Daemon) :
    (acceptIpc setup system peer daemon).1.verified = daemon.verified ∨
      ∃ client process, (acceptIpc setup system peer daemon).1.verified = some client ∧
        (verifyTrafficConeBinary setup.crates system setup.ourUid client.pid client.uid
          setup.knownHashes daemon.shared.cache).1 = .ok process := by
  cases peer with
  | none => exact Or.inl rfl
  | some peer =>
      rw [acceptIpc]
      rcases hverify : verifyTrafficConeBinary setup.crates system setup.ourUid peer.pid peer.uid
        setup.knownHashes daemon.shared.cache with ⟨process | _ | _, cache⟩
      · exact Or.inr ⟨peer, process, rfl, by rw [hverify]⟩
      · exact Or.inl rfl
      · exact Or.inl rfl

theorem acceptIpc_output {peer : Option Peer} {output : Output}
    (h : output ∈ (acceptIpc setup system peer daemon).2) :
    ∃ rejected, output = .ipc rejected (.error "Connection rejected: unauthorized process") := by
  cases peer with
  | none => cases h
  | some peer =>
      rw [acceptIpc] at h
      rcases hverify : verifyTrafficConeBinary setup.crates system setup.ourUid peer.pid peer.uid
        setup.knownHashes daemon.shared.cache with ⟨_ | _ | _, cache⟩ <;>
        simp only [hverify, List.not_mem_nil, List.mem_singleton] at h
      exact ⟨peer, h⟩

theorem serveIpc_verified (setup : Setup) (system : System) (stream : Bytes) (peer : Peer)
    (daemon : Daemon) : (serveIpc setup system stream peer daemon).1.verified = none := by
  rw [serveIpc]
  split <;> rfl

theorem serveIpc_shared (setup : Setup) (system : System) (stream : Bytes) (peer : Peer)
    (daemon : Daemon) :
    (serveIpc setup system stream peer daemon).1.shared =
      (handleConnection setup.crates system setup.codec setup.knownHashes stream peer.pid
        daemon.shared).2 := by
  rw [serveIpc]
  split <;> rename_i hcall <;> rw [hcall]

/-- An error of the handler is sent as a response, too. -/
theorem serveIpc_output {stream : Bytes} {peer : Peer} {output : Output}
    (h : output ∈ (serveIpc setup system stream peer daemon).2) :
    ∃ response, output = .ipc peer response ∧
      ((handleConnection setup.crates system setup.codec setup.knownHashes stream peer.pid
          daemon.shared).1 = .ok response ∨ ∃ message, response = .error message) := by
  rw [serveIpc] at h
  split at h
  · rename_i response shared hcall
    exact ⟨response, List.mem_singleton.mp h, Or.inl (by rw [hcall])⟩
  · rename_i message shared hcall
    exact ⟨_, List.mem_singleton.mp h, Or.inr ⟨message, rfl⟩⟩
  · cases h

theorem serveAgent_verified (setup : Setup) (connection : AgentConnection) (daemon : Daemon) :
    (serveAgent setup connection daemon).1.verified = daemon.verified := by
  rw [serveAgent]
  split
  · rfl
  · rfl
  · rfl
  · split <;> rfl

/-- The agent leaves the shared state alone, unless it responds to a message. -/
theorem serveAgent_shared_cases (setup : Setup) (connection : AgentConnection) (daemon : Daemon) :
    (serveAgent setup connection daemon).1.shared = daemon.shared ∨
      ∃ msgType payload, (serveAgent setup connection daemon).1.shared =
        (respond setup.crates msgType payload daemon.shared).2 := by
  rw [serveAgent]
  split
  · exact Or.inl rfl
  · exact Or.inl rfl
  · exact Or.inl rfl
  · rename_i msgType payload rest _
    refine Or.inr ⟨msgType, payload, ?_⟩
    split <;> rename_i hcall <;> rw [hcall]

theorem mem_serveAgent_iff {connection : AgentConnection} {output : Output} :
    output ∈ (serveAgent setup connection daemon).2 ↔
      ∃ msgType payload rest response,
        readMessage connection.unread connection.finished = .message (msgType :: payload) rest ∧
          (respond setup.crates msgType payload daemon.shared).1 = .ok response ∧
            output = .agent connection.peer response := by
  rw [serveAgent]
  cases hread : readMessage connection.unread connection.finished with
  | blocked => simp
  | ended => simp
  | message text rest =>
      cases text with
      | nil => simp
      | cons msgType payload =>
          rcases hcall : respond setup.crates msgType payload daemon.shared with
            ⟨response | _ | _, shared⟩ <;> simp [hcall, and_assoc]

end Servers

/-- A step at which neither server writes anything: the store stays, or is read
again from its file. -/
structure Quiet (setup : Setup) (daemon : Daemon) (event : Event) : Prop where
  silent : (step setup daemon event).2 = []
  verified : (step setup daemon event).1.verified = daemon.verified
  store : (step setup daemon event).1.shared.store = daemon.shared.store ∨
    ∃ database, (step setup daemon event).1.shared.store =
      rereadDatabase database daemon.shared.store
  unserved : event = .agentServes → daemon.agentConnection = none

theorem quiet_of_idle {setup : Setup} {daemon : Daemon} {event : Event}
    (hstep : step setup daemon event = (daemon, []))
    (hunserved : event = .agentServes → daemon.agentConnection = none) :
    Quiet setup daemon event where
  silent := by rw [hstep]
  verified := by rw [hstep]
  store := Or.inl (by rw [hstep])
  unserved := hunserved

/-- What a step can be: one of the servers' three actions, or a quiet one. -/
theorem step_cases (setup : Setup) (daemon : Daemon) (event : Event) :
    (∃ system peer, event = .ipcConnects system peer ∧ daemon.verified = none ∧
        step setup daemon event = acceptIpc setup system peer daemon) ∨
      (∃ system stream peer, event = .ipcRequests system stream ∧
        daemon.verified = some peer ∧
          step setup daemon event = serveIpc setup system stream peer daemon) ∨
      (∃ connection, event = .agentServes ∧ daemon.agentConnection = some connection ∧
        step setup daemon event = serveAgent setup connection daemon) ∨
      Quiet setup daemon event := by
  cases event with
  | ipcConnects system peer =>
      by_cases hfree : daemon.ipcRunning = true ∧ daemon.verified = none
      · exact Or.inl ⟨system, peer, rfl, hfree.2, by rw [step, if_pos hfree]⟩
      · have hstep : step setup daemon (.ipcConnects system peer) = (daemon, []) := by
          rw [step, if_neg hfree]
        exact Or.inr (Or.inr (Or.inr (quiet_of_idle hstep nofun)))
  | ipcRequests system stream =>
      cases hverified : daemon.verified with
      | some peer =>
          exact Or.inr (Or.inl ⟨system, stream, peer, rfl, rfl, by rw [step, hverified]⟩)
      | none =>
          have hstep : step setup daemon (.ipcRequests system stream) = (daemon, []) := by
            rw [step, hverified]
          exact Or.inr (Or.inr (Or.inr (quiet_of_idle hstep nofun)))
  | agentConnects peer =>
      refine Or.inr (Or.inr (Or.inr ⟨?_, ?_, Or.inl ?_, nofun⟩)) <;> rw [step] <;> split <;> rfl
  | agentReceives bytes =>
      refine Or.inr (Or.inr (Or.inr ⟨?_, ?_, Or.inl ?_, nofun⟩)) <;> rw [step] <;> split <;> rfl
  | agentFinishes =>
      refine Or.inr (Or.inr (Or.inr ⟨?_, ?_, Or.inl ?_, nofun⟩)) <;> rw [step] <;> split <;> rfl
  | agentServes =>
      cases hconnection : daemon.agentConnection with
      | some connection =>
          exact Or.inr (Or.inr (Or.inl ⟨connection, rfl, rfl, by rw [step, hconnection]⟩))
      | none =>
          have hstep : step setup daemon .agentServes = (daemon, []) := by rw [step, hconnection]
          exact Or.inr (Or.inr (Or.inr (quiet_of_idle hstep fun _ => hconnection)))
  | commits database =>
      exact Or.inr (Or.inr (Or.inr ⟨rfl, rfl, Or.inr ⟨database, rfl⟩, nofun⟩))

def started (database : Database) (master : Bytes) : Daemon :=
  { shared := { store := .unlocked database master, poisoned := false, cache := fun _ => none }
    ipcRunning := true
    verified := none
    agentRunning := true
    agentConnection := none }

end TrafficCone.DaemonRuns
