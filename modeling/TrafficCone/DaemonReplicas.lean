import TrafficCone.ClaimedPidInfluence
import TrafficCone.DaemonRuns
import TrafficCone.ParallelRuns

namespace TrafficCone.DaemonReplicas

open TrafficCone.Outcomes
open TrafficCone.StoreModels
open TrafficCone.LinkedCrates
open TrafficCone.StoreListing
open TrafficCone.ProcReaders
open TrafficCone.ProcessMonitoring hiding hashFile
open TrafficCone.RouteResolution
open TrafficCone.PidRouting
open TrafficCone.IpcServing
open TrafficCone.SshAgentServing
open TrafficCone.DaemonRuns
open TrafficCone.TransducerRuns
open TrafficCone.ParallelRuns

/-- Databases with which the daemon does the same. The tables of CA certificates, of SSH routes,
of integrity records and of the audit log may differ, and the private keys too, if what is
signed with them is the same. -/
structure ServesAlike (crates : Crates) (master : Bytes) (database other : Database) :
    Prop where
  certs : database.certs = other.certs
  apps : database.apps = other.apps
  routes : database.routes = other.routes
  identities : identitiesMessage (.unlocked database master) =
    identitiesMessage (.unlocked other master)
  signs : ∀ certId data, signData crates (.unlocked database master) certId data =
    signData crates (.unlocked other master) certId data
  agentSigns : ∀ keyBlob data flags,
    signWithKey crates (.unlocked database master) keyBlob data flags =
      signWithKey crates (.unlocked other master) keyBlob data flags

inductive StoresAlike (crates : Crates) (master : Bytes) : Store → Store → Prop where
  | locked : StoresAlike crates master .locked .locked
  | unlocked {database other : Database} (h : ServesAlike crates master database other) :
      StoresAlike crates master (.unlocked database master) (.unlocked other master)

section Reading

variable {crates : Crates} {master : Bytes} {store other : Store}

theorem isUnlocked_alike (h : StoresAlike crates master store other) :
    store.isUnlocked = other.isUnlocked := by
  cases h <;> rfl

theorem listCerts_alike (h : StoresAlike crates master store other) :
    listCerts store = listCerts other := by
  cases h with
  | locked => rfl
  | unlocked h => simp only [listCerts, Store.conn_unlocked, Outcome.ok_bind, h.certs]

theorem listRoutes_alike (h : StoresAlike crates master store other) :
    listRoutes store = listRoutes other := by
  cases h with
  | locked => rfl
  | unlocked h => rw [listRoutes_unlocked, listRoutes_unlocked, h.routes]

theorem listApps_alike (h : StoresAlike crates master store other) :
    listApps store = listApps other := by
  cases h with
  | locked => rfl
  | unlocked h => rw [listApps_unlocked, listApps_unlocked, h.apps]

theorem resolveRoute_alike (h : StoresAlike crates master store other)
    (exePath remoteHost remoteIp : Option String) :
    resolveRoute store exePath remoteHost remoteIp =
      resolveRoute other exePath remoteHost remoteIp := by
  rw [resolveRoute, resolveRoute, listRoutes_alike h, listApps_alike h]

theorem tryConnections_alike (h : StoresAlike crates master store other)
    (process : ProcessEntry) (connections : List Connection) :
    tryConnections store process connections = tryConnections other process connections := by
  induction connections with
  | nil => rfl
  | cons connection rest ih =>
      rw [tryConnections, tryConnections, resolveRoute_alike h, ih]

theorem routeProcess_alike (h : StoresAlike crates master store other) (system : System)
    (knownHashes : KnownHashes) (pid : Nat) (process : ProcessEntry) :
    routeProcess system store knownHashes pid process =
      routeProcess system other knownHashes pid process := by
  simp only [routeProcess, tryConnections_alike h, resolveRoute_alike h]

theorem resolveForPid_alike (h : StoresAlike crates master store other) (system : System)
    (knownHashes : KnownHashes) (pid : Nat) :
    resolveForPid crates system store pid knownHashes =
      resolveForPid crates system other pid knownHashes := by
  simp only [resolveForPid, routeProcess_alike h]

theorem signData_alike (h : StoresAlike crates master store other) (certId : String)
    (data : Bytes) : signData crates store certId data = signData crates other certId data := by
  cases h with
  | locked => rfl
  | unlocked h => exact h.signs certId data

theorem identitiesMessage_alike (h : StoresAlike crates master store other) :
    identitiesMessage store = identitiesMessage other := by
  cases h with
  | locked => rfl
  | unlocked h => exact h.identities

theorem signWithKey_alike (h : StoresAlike crates master store other) (keyBlob data : Bytes)
    (flags : Nat) :
    signWithKey crates store keyBlob data flags = signWithKey crates other keyBlob data flags := by
  cases h with
  | locked => rfl
  | unlocked h => exact h.agentSigns keyBlob data flags

/-- Keys that are read alike sign alike. -/
theorem servesAlike_of_keys {database otherDatabase : Database}
    (hcerts : database.certs = otherDatabase.certs)
    (hsshKeys : database.sshKeys = otherDatabase.sshKeys)
    (happs : database.apps = otherDatabase.apps)
    (hroutes : database.routes = otherDatabase.routes)
    (hkeys : ∀ certId, getPlaintextKey crates (.unlocked database master) certId =
      getPlaintextKey crates (.unlocked otherDatabase master) certId) :
    ServesAlike crates master database otherDatabase where
  certs := hcerts
  apps := happs
  routes := hroutes
  identities := by
    simp only [identitiesMessage, listSshKeys, Store.conn_unlocked, Outcome.ok_bind, hsshKeys]
  signs certId data := by rw [signData, signData, hkeys]
  agentSigns keyBlob data flags := by
    simp only [signWithKey, listSshKeys, getSshPlaintextKey, Store.conn_unlocked,
      Store.passphrase_unlocked, Outcome.ok_bind, hsshKeys]

end Reading

section Locking

/-- States that are related have their mutexes poisoned alike, and stay related when both are
poisoned. -/
structure Lockable (related : Shared → Shared → Prop) : Prop where
  poisoned : ∀ {shared other}, related shared other → shared.poisoned = other.poisoned
  poison : ∀ {shared other}, related shared other →
    related { shared with poisoned := true } { other with poisoned := true }

/-- The SSH agent finds the same keys in related states, and signs the same with them. -/
structure AgentAgrees (crates : Crates) (related : Shared → Shared → Prop) : Prop where
  lockable : Lockable related
  identities : ∀ {shared other}, related shared other →
    identitiesMessage shared.store = identitiesMessage other.store
  signs : ∀ {shared other}, related shared other → ∀ keyBlob data flags,
    signWithKey crates shared.store keyBlob data flags =
      signWithKey crates other.store keyBlob data flags

variable {crates : Crates} {related : Shared → Shared → Prop}

theorem Lockable.withStore {α : Type} {handler : Effect Shared String α}
    (hlockable : Lockable related) (h : Parallel related handler) :
    Parallel related (IpcServing.withStore handler) := by
  intro shared other hshared
  obtain ⟨houtcome, hafter⟩ := h shared other hshared
  simp only [IpcServing.withStore, hlockable.poisoned hshared]
  split
  · exact ⟨rfl, hshared⟩
  · rcases hcall : handler shared with ⟨outcome, after⟩
    rcases hother : handler other with ⟨_, otherAfter⟩
    rw [hcall, hother] at houtcome hafter
    obtain rfl := houtcome
    cases outcome with
    | ok value => exact ⟨rfl, hafter⟩
    | err error => exact ⟨rfl, hafter⟩
    | panicked => exact ⟨rfl, hlockable.poison hafter⟩

theorem AgentAgrees.handleRequestIdentities (h : AgentAgrees crates related) :
    Parallel related SshAgentServing.handleRequestIdentities := by
  apply h.lockable.withStore
  intro shared other hshared
  exact ⟨congrArg Outcome.ok (h.identities hshared), hshared⟩

theorem AgentAgrees.handleSignRequest (h : AgentAgrees crates related) (payload : Bytes) :
    Parallel related (SshAgentServing.handleSignRequest crates payload) := by
  apply (parallel_lift _).bind
  intro request
  apply h.lockable.withStore
  intro shared other hshared
  exact ⟨h.signs hshared _ _ _, hshared⟩

theorem AgentAgrees.respond (h : AgentAgrees crates related) (msgType : UInt8)
    (payload : Bytes) : Parallel related (SshAgentServing.respond crates msgType payload) := by
  intro shared other hshared
  simp only [SshAgentServing.respond]
  split
  · obtain ⟨houtcome, hafter⟩ := h.handleRequestIdentities shared other hshared
    exact ⟨by rw [houtcome], hafter⟩
  · split
    · obtain ⟨houtcome, hafter⟩ := h.handleSignRequest payload shared other hshared
      exact ⟨by rw [houtcome], hafter⟩
    · exact ⟨rfl, hshared⟩

end Locking

section Handlers

variable {crates : Crates} {master : Bytes}

structure SharedAlike (crates : Crates) (master : Bytes) (shared other : Shared) : Prop where
  store : StoresAlike crates master shared.store other.store
  poisoned : shared.poisoned = other.poisoned
  cache : shared.cache = other.cache

theorem lockable_sharedAlike : Lockable (SharedAlike crates master) where
  poisoned := SharedAlike.poisoned
  poison h := ⟨h.store, rfl, h.cache⟩

theorem parallel_answerStatus :
    Parallel (SharedAlike crates master) answerStatus := by
  apply lockable_sharedAlike.withStore
  intro shared other h
  simp only [isUnlocked_alike h.store, listCerts_alike h.store]
  exact ⟨trivial, h⟩

theorem parallel_answerLock : Parallel (SharedAlike crates master) answerLock := by
  apply lockable_sharedAlike.withStore
  intro shared other h
  exact ⟨rfl, .locked, h.poisoned, h.cache⟩

theorem parallel_answerListCerts :
    Parallel (SharedAlike crates master) answerListCerts := by
  apply lockable_sharedAlike.withStore
  intro shared other h
  simp only [listCerts_alike h.store]
  split <;> exact ⟨rfl, h⟩

theorem parallel_answerSign (system : System) (knownHashes : KnownHashes) (pid : Nat)
    (data : Bytes) :
    Parallel (SharedAlike crates master) (answerSign crates system knownHashes pid data) := by
  apply lockable_sharedAlike.withStore
  intro shared other h
  simp only [resolveForPid_alike h.store, signData_alike h.store, h.cache]
  split <;> exact ⟨rfl, h.store, h.poisoned, rfl⟩

theorem parallel_dispatch (system : System) (knownHashes : KnownHashes)
    (request : Request) :
    Parallel (SharedAlike crates master) (dispatch crates system knownHashes request) := by
  cases request with
  | ping => exact parallel_pure Response.pong
  | sign pid data => exact parallel_answerSign system knownHashes pid data
  | listCerts => exact parallel_answerListCerts
  | status => exact parallel_answerStatus
  | lock => exact parallel_answerLock

theorem parallel_handleConnection (system : System) (codec : IpcCodec)
    (knownHashes : KnownHashes) (stream : Bytes) (peerPid : Nat) :
    Parallel (SharedAlike crates master)
      (handleConnection crates system codec knownHashes stream peerPid) := by
  rw [handleConnection.eq_def]
  apply (parallel_lift _).bind
  exact parallel_dispatch system knownHashes

theorem agentAgrees_sharedAlike : AgentAgrees crates (SharedAlike crates master) where
  lockable := lockable_sharedAlike
  identities h := identitiesMessage_alike h.store
  signs h := signWithKey_alike h.store

end Handlers

section Daemons

variable {setup : Setup} {master : Bytes} {daemon other : Daemon}

structure DaemonsAlike (crates : Crates) (master : Bytes) (daemon other : Daemon) : Prop where
  shared : SharedAlike crates master daemon.shared other.shared
  ipcRunning : daemon.ipcRunning = other.ipcRunning
  verified : daemon.verified = other.verified
  agentRunning : daemon.agentRunning = other.agentRunning
  agentConnection : daemon.agentConnection = other.agentConnection

/-- The same happens to both daemons, but what is written to their databases needs only to be
alike. -/
inductive EventsAlike (crates : Crates) (master : Bytes) : Event → Event → Prop where
  | same (event : Event) : EventsAlike crates master event event
  | commits {database other : Database} (h : ServesAlike crates master database other) :
      EventsAlike crates master (.commits database) (.commits other)

/-- Both daemons do this, and go on alike. -/
def GoAlike (crates : Crates) (master : Bytes) (first second : Daemon × List Output) : Prop :=
  DaemonsAlike crates master first.1 second.1 ∧ first.2 = second.2

theorem servesAlike_refl (crates : Crates) (database : Database) :
    ServesAlike crates master database database :=
  ⟨rfl, rfl, rfl, rfl, fun _ _ => rfl, fun _ _ _ => rfl⟩

theorem acceptIpc_alike (h : DaemonsAlike setup.crates master daemon other) (system : System)
    (peer : Option Peer) :
    GoAlike setup.crates master (acceptIpc setup system peer daemon)
      (acceptIpc setup system peer other) := by
  cases peer with
  | none => exact ⟨⟨h.shared, rfl, h.verified, h.agentRunning, h.agentConnection⟩, rfl⟩
  | some peer =>
      rw [acceptIpc, acceptIpc, ← h.shared.cache]
      have hshared : ∀ cache, SharedAlike setup.crates master { daemon.shared with cache }
          { other.shared with cache } := fun _ => ⟨h.shared.store, h.shared.poisoned, rfl⟩
      rcases verifyTrafficConeBinary setup.crates system setup.ourUid peer.pid peer.uid
        setup.knownHashes daemon.shared.cache with ⟨process | message | _, cache⟩
      · exact ⟨⟨hshared cache, h.ipcRunning, rfl, h.agentRunning, h.agentConnection⟩, rfl⟩
      · exact ⟨⟨hshared cache, h.ipcRunning, h.verified, h.agentRunning, h.agentConnection⟩, rfl⟩
      · exact ⟨⟨hshared cache, rfl, h.verified, h.agentRunning, h.agentConnection⟩, rfl⟩

theorem serveIpc_alike (h : DaemonsAlike setup.crates master daemon other) (system : System)
    (stream : Bytes) (peer : Peer) :
    GoAlike setup.crates master (serveIpc setup system stream peer daemon)
      (serveIpc setup system stream peer other) := by
  obtain ⟨houtcome, hafter⟩ := parallel_handleConnection system setup.codec setup.knownHashes
    stream peer.pid daemon.shared other.shared h.shared
  rw [serveIpc, serveIpc]
  rcases hcall : handleConnection setup.crates system setup.codec setup.knownHashes stream
    peer.pid daemon.shared with ⟨outcome, after⟩
  rcases hother : handleConnection setup.crates system setup.codec setup.knownHashes stream
    peer.pid other.shared with ⟨_, otherAfter⟩
  rw [hcall, hother] at houtcome hafter
  obtain rfl := houtcome
  cases outcome with
  | ok response => exact ⟨⟨hafter, h.ipcRunning, rfl, h.agentRunning, h.agentConnection⟩, rfl⟩
  | err message => exact ⟨⟨hafter, h.ipcRunning, rfl, h.agentRunning, h.agentConnection⟩, rfl⟩
  | panicked => exact ⟨⟨hafter, rfl, rfl, h.agentRunning, h.agentConnection⟩, rfl⟩

/-- What a step of the agent leaves as it is, and what it does alike in related states. -/
structure AgentGoesAlike (related : Shared → Shared → Prop) (daemon other : Daemon)
    (first second : Daemon × List Output) : Prop where
  shared : related first.1.shared second.1.shared
  ipcRunning : first.1.ipcRunning = daemon.ipcRunning ∧ second.1.ipcRunning = other.ipcRunning
  verified : first.1.verified = daemon.verified ∧ second.1.verified = other.verified
  agentRunning : first.1.agentRunning = second.1.agentRunning
  agentConnection : first.1.agentConnection = second.1.agentConnection
  outputs : first.2 = second.2

theorem AgentAgrees.serveAgent {related : Shared → Shared → Prop}
    (h : AgentAgrees setup.crates related) (hshared : related daemon.shared other.shared)
    (hrunning : daemon.agentRunning = other.agentRunning) (connection : AgentConnection)
    (hconnection : daemon.agentConnection = other.agentConnection) :
    AgentGoesAlike related daemon other (DaemonRuns.serveAgent setup connection daemon)
      (DaemonRuns.serveAgent setup connection other) := by
  rw [DaemonRuns.serveAgent, DaemonRuns.serveAgent]
  rcases readMessage connection.unread connection.finished with
    ⟨_ | ⟨msgType, payload⟩, rest⟩ | _ | _
  · exact ⟨hshared, ⟨rfl, rfl⟩, ⟨rfl, rfl⟩, hrunning, rfl, rfl⟩
  · obtain ⟨houtcome, hafter⟩ := h.respond msgType payload daemon.shared other.shared hshared
    dsimp only
    rcases hcall : SshAgentServing.respond setup.crates msgType payload daemon.shared with
      ⟨outcome, after⟩
    rcases hother : SshAgentServing.respond setup.crates msgType payload other.shared with
      ⟨_, otherAfter⟩
    rw [hcall, hother] at houtcome hafter
    obtain rfl := houtcome
    cases outcome with
    | ok response => exact ⟨hafter, ⟨rfl, rfl⟩, ⟨rfl, rfl⟩, hrunning, rfl, rfl⟩
    | err message => exact ⟨hafter, ⟨rfl, rfl⟩, ⟨rfl, rfl⟩, hrunning, rfl, rfl⟩
    | panicked => exact ⟨hafter, ⟨rfl, rfl⟩, ⟨rfl, rfl⟩, rfl, rfl, rfl⟩
  · exact ⟨hshared, ⟨rfl, rfl⟩, ⟨rfl, rfl⟩, hrunning, rfl, rfl⟩
  · exact ⟨hshared, ⟨rfl, rfl⟩, ⟨rfl, rfl⟩, hrunning, hconnection, rfl⟩

/-- What happens on the socket of the SSH agent. -/
def onAgentSocket : Event → Bool
  | .agentConnects _ | .agentReceives _ | .agentFinishes | .agentServes => true
  | .ipcConnects _ _ | .ipcRequests _ _ | .commits _ => false

/-- Of its setup the agent uses the crates alone. -/
theorem serveAgent_of_crates {otherSetup : Setup} (hcrates : setup.crates = otherSetup.crates)
    (connection : AgentConnection) :
    serveAgent otherSetup connection other = serveAgent setup connection other := by
  rw [serveAgent, serveAgent, hcrates]

theorem AgentAgrees.step {otherSetup : Setup} {related : Shared → Shared → Prop}
    (h : AgentAgrees setup.crates related) (hcrates : setup.crates = otherSetup.crates)
    (hshared : related daemon.shared other.shared)
    (hrunning : daemon.agentRunning = other.agentRunning)
    (hconnection : daemon.agentConnection = other.agentConnection) {event : Event}
    (hagent : onAgentSocket event = true) :
    AgentGoesAlike related daemon other (DaemonRuns.step setup daemon event)
      (DaemonRuns.step otherSetup other event) := by
  have hidle : AgentGoesAlike related daemon other (daemon, []) (other, []) :=
    ⟨hshared, ⟨rfl, rfl⟩, ⟨rfl, rfl⟩, hrunning, hconnection, rfl⟩
  cases event with
  | ipcConnects system peer => cases hagent
  | ipcRequests system stream => cases hagent
  | agentConnects peer =>
      rw [DaemonRuns.step, DaemonRuns.step, ← hrunning, ← hconnection]
      split
      · exact ⟨hshared, ⟨rfl, rfl⟩, ⟨rfl, rfl⟩, rfl, rfl, rfl⟩
      · exact hidle
  | agentReceives bytes =>
      rw [DaemonRuns.step, DaemonRuns.step, ← hconnection]
      split
      · exact ⟨hshared, ⟨rfl, rfl⟩, ⟨rfl, rfl⟩, hrunning, rfl, rfl⟩
      · exact hidle
  | agentFinishes =>
      rw [DaemonRuns.step, DaemonRuns.step, ← hconnection]
      split
      · exact ⟨hshared, ⟨rfl, rfl⟩, ⟨rfl, rfl⟩, hrunning, rfl, rfl⟩
      · exact hidle
  | agentServes =>
      rw [DaemonRuns.step, DaemonRuns.step, ← hconnection]
      split
      · rw [serveAgent_of_crates hcrates]
        exact h.serveAgent hshared hrunning _ hconnection
      · exact hidle
  | commits database => cases hagent

theorem goAlike_of_agent {first second : Daemon × List Output}
    (h : DaemonsAlike setup.crates master daemon other)
    (hgoes : AgentGoesAlike (SharedAlike setup.crates master) daemon other first second) :
    GoAlike setup.crates master first second where
  left :=
    { shared := hgoes.shared
      ipcRunning := hgoes.ipcRunning.1.trans (h.ipcRunning.trans hgoes.ipcRunning.2.symm)
      verified := hgoes.verified.1.trans (h.verified.trans hgoes.verified.2.symm)
      agentRunning := hgoes.agentRunning
      agentConnection := hgoes.agentConnection }
  right := hgoes.outputs

theorem storesAlike_reread {crates : Crates} {store otherStore : Store}
    {database otherDatabase : Database} (h : StoresAlike crates master store otherStore)
    (hwritten : ServesAlike crates master database otherDatabase) :
    StoresAlike crates master (rereadDatabase database store)
      (rereadDatabase otherDatabase otherStore) := by
  cases h with
  | locked => exact .locked
  | unlocked _ => exact .unlocked hwritten

theorem commits_alike {database otherDatabase : Database}
    (h : DaemonsAlike setup.crates master daemon other)
    (hwritten : ServesAlike setup.crates master database otherDatabase) :
    GoAlike setup.crates master (step setup daemon (.commits database))
      (step setup other (.commits otherDatabase)) :=
  ⟨⟨⟨storesAlike_reread h.shared.store hwritten, h.shared.poisoned, h.shared.cache⟩,
    h.ipcRunning, h.verified, h.agentRunning, h.agentConnection⟩, rfl⟩

theorem step_alike (h : DaemonsAlike setup.crates master daemon other) {event otherEvent : Event}
    (hevent : EventsAlike setup.crates master event otherEvent) :
    GoAlike setup.crates master (step setup daemon event) (step setup other otherEvent) := by
  cases hevent with
  | commits hwritten => exact commits_alike h hwritten
  | same =>
      cases hagent : onAgentSocket event with
      | true =>
          exact goAlike_of_agent h (agentAgrees_sharedAlike.step rfl h.shared h.agentRunning
            h.agentConnection hagent)
      | false =>
          cases event with
          | ipcConnects system peer =>
              rw [step, step, ← h.ipcRunning, ← h.verified]
              split
              · exact acceptIpc_alike h system peer
              · exact ⟨h, rfl⟩
          | ipcRequests system stream =>
              rw [step, step, ← h.verified]
              split
              · exact serveIpc_alike h system stream _
              · exact ⟨h, rfl⟩
          | agentConnects peer => cases hagent
          | agentReceives bytes => cases hagent
          | agentFinishes => cases hagent
          | agentServes => cases hagent
          | commits database => exact commits_alike h (servesAlike_refl _ database)

theorem daemonsAlike_started {crates : Crates} {database otherDatabase : Database}
    (h : ServesAlike crates master database otherDatabase) :
    DaemonsAlike crates master (started database master) (started otherDatabase master) :=
  ⟨⟨.unlocked h, rfl, rfl⟩, rfl, rfl, rfl, rfl⟩

theorem run_alike {database otherDatabase : Database}
    (h : ServesAlike setup.crates master database otherDatabase) {events others : List Event}
    (halike : List.Forall₂ (EventsAlike setup.crates master) events others) :
    (run (step setup) (started database master) events).2 =
      (run (step setup) (started otherDatabase master) others).2 :=
  (@run_parallel _ _ _ _ _ (step setup) (step setup) (DaemonsAlike setup.crates master)
    (EventsAlike setup.crates master)
    (fun _ _ _ _ hdaemons hevent => step_alike hdaemons hevent) _ _
    (daemonsAlike_started h) _ _ halike).2

end Daemons

section Written

variable {setup : Setup} {master : Bytes} {change : Database → Database}

/-- What is written to the database is changed in the same way. -/
def writtenThrough (change : Database → Database) : Event → Event
  | .commits database => .commits (change database)
  | event => event

theorem eventsAlike_writtenThrough (h : ∀ database, ServesAlike setup.crates master
    (change database) database) (events : List Event) :
    List.Forall₂ (EventsAlike setup.crates master) (events.map (writtenThrough change))
      events := by
  rw [List.forall₂_map_left_iff, List.forall₂_same]
  intro event _
  cases event with
  | commits database => exact .commits (h database)
  | _ => exact .same _

/-- Two daemons of which one has its database, and all that is written to it, changed in a way
that it does not notice. -/
theorem run_written_through (h : ∀ database, ServesAlike setup.crates master (change database)
    database) (database : Database) (events : List Event) :
    (run (step setup) (started (change database) master) (events.map (writtenThrough change))).2 =
      (run (step setup) (started database master) events).2 :=
  run_alike (h database) (eventsAlike_writtenThrough h events)

end Written

section Laptop

open TrafficCone.ClaimedPidInfluence (twoAppsSystem signPhrases signText coneIsKnown)
open TrafficCone.RestrictionSoundness (appOnlyDatabase)

def laptopSetup : Setup where
  crates := plainCrates
  codec := signPhrases
  ourUid := 1000
  knownHashes := coneIsKnown

/-- `cone` asks for a signature, and asks again after the database has been written to. -/
def twoRequests : List Event :=
  [.ipcConnects twoAppsSystem (some { pid := 5, uid := 1000 }),
    .ipcRequests twoAppsSystem (LengthFraming.frame (signText 7)),
    .commits appOnlyDatabase,
    .ipcConnects twoAppsSystem (some { pid := 5, uid := 1000 }),
    .ipcRequests twoAppsSystem (LengthFraming.frame (signText 7))]

end Laptop

end TrafficCone.DaemonReplicas
