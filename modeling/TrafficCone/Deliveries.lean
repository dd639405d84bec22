import TrafficCone.DaemonRuns

namespace TrafficCone.Deliveries

open TrafficCone.Outcomes
open TrafficCone.StoreModels
open TrafficCone.ProcReaders
open TrafficCone.PidRouting
open TrafficCone.IpcServing
open TrafficCone.SshAgentServing
open TrafficCone.DaemonRuns
open TrafficCone.TransducerRuns

/-- How it goes to send a response, and how to send an error message. -/
structure Delivery where
  response : Except String Unit
  message : Except String Unit
  deriving DecidableEq

def sent : Delivery := { response := .ok (), message := .ok () }

section Sending

variable (setup : Setup)

def sendMessage (delivery : Delivery) (peer : Peer) (message : String) : List Output :=
  match delivery.message with
  | .ok _ => [.ipc peer (.error message)]
  | .error _ => []

/-- A response that cannot be sent is an error of its connection, whose message is sent then. -/
def sendResponse (delivery : Delivery) (peer : Peer) (response : Response) : List Output :=
  match delivery.response with
  | .ok _ => [.ipc peer response]
  | .error error => sendMessage delivery peer error

/-- Whether a refusal can be sent is ignored. -/
def acceptSending (system : System) (peer : Option Peer) (delivery : Delivery)
    (daemon : Daemon) : Daemon × List Output :=
  ((acceptIpc setup system peer daemon).1,
    match peer with
    | none => []
    | some peer =>
        match (verifyTrafficConeBinary setup.crates system setup.ourUid peer.pid peer.uid
            setup.knownHashes daemon.shared.cache).1 with
        | .err _ => sendMessage delivery peer "Connection rejected: unauthorized process"
        | _ => [])

def serveSending (system : System) (stream : Bytes) (peer : Peer) (delivery : Delivery)
    (daemon : Daemon) : Daemon × List Output :=
  ((serveIpc setup system stream peer daemon).1,
    match (handleConnection setup.crates system setup.codec setup.knownHashes stream peer.pid
        daemon.shared).1 with
    | .ok response => sendResponse delivery peer response
    | .err message => sendMessage delivery peer message
    | .panicked => [])

/-- The agent ends a connection to which it cannot write. -/
def serveAgentSending (connection : AgentConnection) (delivery : Delivery) (daemon : Daemon) :
    Daemon × List Output :=
  let served := serveAgent setup connection daemon
  match served.2, delivery.response with
  | _ :: _, .error _ => ({ served.1 with agentConnection := none }, [])
  | _, _ => served

/-- A step of the daemon when what it sends may fail to be sent. -/
def deliver (daemon : Daemon) (input : Event × Delivery) : Daemon × List Output :=
  match input.1 with
  | .ipcConnects system peer =>
      if daemon.ipcRunning = true ∧ daemon.verified = none then
        acceptSending setup system peer input.2 daemon
      else (daemon, [])
  | .ipcRequests system stream =>
      match daemon.verified with
      | some peer => serveSending setup system stream peer input.2 daemon
      | none => (daemon, [])
  | .agentServes =>
      match daemon.agentConnection with
      | some connection => serveAgentSending setup connection input.2 daemon
      | none => (daemon, [])
  | event => step setup daemon event

end Sending

section Steps

variable {setup : Setup}

theorem acceptSending_sent (system : System) (peer : Option Peer) (daemon : Daemon) :
    acceptSending setup system peer sent daemon = acceptIpc setup system peer daemon := by
  cases peer with
  | none => rfl
  | some peer =>
      rw [acceptSending, acceptIpc]
      rcases verifyTrafficConeBinary setup.crates system setup.ourUid peer.pid peer.uid
        setup.knownHashes daemon.shared.cache with ⟨_ | _ | _, cache⟩ <;> rfl

theorem serveSending_sent (system : System) (stream : Bytes) (peer : Peer) (daemon : Daemon) :
    serveSending setup system stream peer sent daemon =
      serveIpc setup system stream peer daemon := by
  rw [serveSending, serveIpc]
  rcases handleConnection setup.crates system setup.codec setup.knownHashes stream peer.pid
    daemon.shared with ⟨_ | _ | _, shared⟩ <;> rfl

theorem serveAgentSending_sent (connection : AgentConnection) (daemon : Daemon) :
    serveAgentSending setup connection sent daemon = serveAgent setup connection daemon := by
  rw [serveAgentSending]
  split
  · rename_i hfailed
    cases hfailed
  · rfl

/-- Where everything can be sent, this is a step. -/
theorem deliver_sent (daemon : Daemon) (event : Event) :
    deliver setup daemon (event, sent) = step setup daemon event := by
  cases event with
  | ipcConnects system peer =>
      simp only [deliver, step]
      rw [acceptSending_sent]
  | ipcRequests system stream =>
      simp only [deliver, step]
      cases daemon.verified with
      | none => rfl
      | some peer => exact serveSending_sent system stream peer daemon
  | agentServes =>
      simp only [deliver, step]
      cases daemon.agentConnection with
      | none => rfl
      | some connection => exact serveAgentSending_sent connection daemon
  | agentConnects peer => rfl
  | agentReceives bytes => rfl
  | agentFinishes => rfl
  | commits database => rfl

theorem run_sent (daemon : Daemon) (events : List Event) :
    run (deliver setup) daemon (events.map fun event => (event, sent)) =
      run (step setup) daemon events := by
  induction events generalizing daemon with
  | nil => rfl
  | cons event events ih => rw [List.map_cons, run_cons, run_cons, deliver_sent, ih]

/-- A failure to send costs the agent its connection, and no more than that. -/
theorem deliver_fst (daemon : Daemon) (input : Event × Delivery) :
    ∃ connection, (deliver setup daemon input).1 =
      { (step setup daemon input.1).1 with agentConnection := connection } := by
  obtain ⟨event, delivery⟩ := input
  cases event with
  | ipcConnects system peer =>
      refine ⟨(step setup daemon (.ipcConnects system peer)).1.agentConnection, ?_⟩
      simp only [deliver, step]
      split <;> rfl
  | ipcRequests system stream =>
      refine ⟨(step setup daemon (.ipcRequests system stream)).1.agentConnection, ?_⟩
      simp only [deliver, step]
      cases daemon.verified <;> rfl
  | agentServes =>
      simp only [deliver, step]
      cases daemon.agentConnection with
      | none => exact ⟨daemon.agentConnection, rfl⟩
      | some connection =>
          simp only [serveAgentSending]
          split
          · exact ⟨none, rfl⟩
          · exact ⟨_, rfl⟩
  | agentConnects peer => exact ⟨_, rfl⟩
  | agentReceives bytes => exact ⟨_, rfl⟩
  | agentFinishes => exact ⟨_, rfl⟩
  | commits database => exact ⟨_, rfl⟩

theorem deliver_shared (daemon : Daemon) (input : Event × Delivery) :
    (deliver setup daemon input).1.shared = (step setup daemon input.1).1.shared := by
  obtain ⟨connection, hdelivered⟩ := @deliver_fst setup daemon input
  rw [hdelivered]

end Steps

end TrafficCone.Deliveries
