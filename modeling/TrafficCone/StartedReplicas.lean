import TrafficCone.BackupRoundTrip
import TrafficCone.DaemonReplicas
import TrafficCone.SignatureProvenance

namespace TrafficCone.StartedReplicas

open TrafficCone.Outcomes
open TrafficCone.StoreModels
open TrafficCone.LinkedCrates
open TrafficCone.StoreListing
open TrafficCone.ProcReaders
open TrafficCone.PidRouting
open TrafficCone.IpcServing
open TrafficCone.SshAgentServing
open TrafficCone.IntegrityRecords
open TrafficCone.IntegrityChecks
open TrafficCone.KnownBinaries
open TrafficCone.DaemonRuns
open TrafficCone.DaemonStartup
open TrafficCone.TransducerRuns
open TrafficCone.ParallelRuns
open TrafficCone.DaemonReplicas
open TrafficCone.SignatureProvenance

section Starts

/-- The daemon has been started on this database, with this passphrase. -/
structure StartedOn (crates : Crates) (around : Surroundings) (database : Database)
    (typed : String) (serving : Serving) : Prop where
  starts : ∃ machine, (startUp crates around machine).1 = .ok serving ∧
    (servedFiles around machine).database = database
  typed : promptPassphrase around = .ok typed

variable {crates : Crates} {around : Surroundings} {machine : Machine} {database : Database}
  {typed : String} {serving : Serving}

theorem StartedOn.store (h : StartedOn crates around database typed serving) :
    serving.store =
      .unlocked (verifiedDatabase around.host.unixNow database) (asBytes typed) := by
  obtain ⟨machine, hserving, rfl⟩ := h.starts
  have hserved := (meets_startUp crates around machine).returned machine rfl serving _
    (Effect.eq_of_fst hserving)
  obtain ⟨passphrase, hstore, hopened⟩ := hserved.opened
  obtain rfl := Outcome.ok.inj (hopened.prompted.symm.trans h.typed)
  exact hstore

theorem StartedOn.servingDaemon (h : StartedOn crates around database typed serving) :
    SignatureProvenance.servingDaemon serving =
      started (verifiedDatabase around.host.unixNow database) (asBytes typed) := by
  rw [SignatureProvenance.servingDaemon, h.store, started]

theorem StartedOn.knownHashes (h : StartedOn crates around database typed serving) :
    serving.knownHashes = lastRecorded
      (around.loadOrder.order (verifiedDatabase around.host.unixNow database).integrity) := by
  have hstore := h.store
  obtain ⟨machine, hserving, -⟩ := h.starts
  have hloaded := ((meets_startUp crates around machine).returned machine rfl serving _
    (Effect.eq_of_fst hserving)).loaded
  rw [hstore, loadKnownHashesIn_unlocked] at hloaded
  exact (Outcome.ok.inj hloaded).symm

/-- Nobody is known where nothing has been recorded. -/
theorem StartedOn.unrecorded (h : StartedOn crates around database typed serving)
    (hnone : database.integrity = []) : serving.knownHashes = fun _ => none := by
  have hverified : (verifiedDatabase around.host.unixNow database).integrity = [] := by
    simp [verifiedDatabase, hnone]
  rw [h.knownHashes, hverified, (around.loadOrder.perm []).eq_nil]
  rfl

end Starts

section UnreadTables

/-- The same rows in the tables that the servers read. -/
structure SameServed (database other : Database) : Prop where
  certs : database.certs = other.certs
  keys : database.keys = other.keys
  sshKeys : database.sshKeys = other.sshKeys
  apps : database.apps = other.apps
  routes : database.routes = other.routes

theorem SameServed.servesAlike {database other : Database} (h : SameServed database other)
    (crates : Crates) (master : Bytes) : ServesAlike crates master database other := by
  apply servesAlike_of_keys h.certs h.sshKeys h.apps h.routes
  intro certId
  simp only [getPlaintextKey, Store.conn_unlocked, Store.passphrase_unlocked, Outcome.ok_bind,
    h.keys]

theorem SameServed.verified {database other : Database} (h : SameServed database other)
    (now : Int) : SameServed (verifiedDatabase now database) (verifiedDatabase now other) :=
  ⟨h.certs, h.keys, h.sshKeys, h.apps, h.routes⟩

/-- A change before the daemon is started, which finds the same binaries recorded. -/
structure LeavesStart (change : Database → Database) : Prop where
  served : ∀ database, SameServed (change database) database
  integrity : ∀ database, (change database).integrity = database.integrity

def changedFiles (change : Database → Database) (files : StoreFiles) : StoreFiles :=
  { files with contents := files.contents.map fun found => (found.1, change found.2) }

/-- The machine with a change in the database that is served. -/
def changedMachine (change : Database → Database) (around : Surroundings) (machine : Machine) :
    Machine :=
  machine.setStore (storePath around.environment)
    (changedFiles change (servedFiles around machine))

variable {crates : Crates} {around : Surroundings} {machine after : Machine}
  {change later : Database → Database} {serving : Serving}

theorem servedFiles_changedMachine :
    servedFiles around (changedMachine change around machine) =
      changedFiles change (servedFiles around machine) :=
  stores_setStore_self _ _ _

theorem sameServed_changedFiles (h : LeavesStart change) (files : StoreFiles) :
    SameServed (changedFiles change files).database files.database ∧
      (changedFiles change files).database.integrity = files.database.integrity := by
  obtain ⟨salt, contents⟩ := files
  cases contents with
  | none => exact ⟨⟨rfl, rfl, rfl, rfl, rfl⟩, rfl⟩
  | some found => exact ⟨h.served found.2, h.integrity found.2⟩

theorem startable_changedMachine (h : LeavesStart change)
    (hstartable : Startable crates around machine) :
    Startable crates around (changedMachine change around machine) where
  cleared := hstartable.cleared
  directory := hstartable.directory
  salt := by
    rw [servedFiles_changedMachine]
    exact ⟨hstartable.salt.read, hstartable.salt.write⟩
  opens := by
    obtain ⟨passphrase, key, hprompted, hkey, hfound⟩ := hstartable.opens
    rw [servedFiles_changedMachine]
    refine ⟨passphrase, key, hprompted, hkey, ?_⟩
    intro found hchanged
    obtain ⟨original, horiginal, rfl⟩ := Option.map_eq_some_iff.mp hchanged
    exact hfound original horiginal
  unmodified := by
    rw [servedFiles_changedMachine, (sameServed_changedFiles h _).2]
    exact hstartable.unmodified

/-- Nothing that either server ever answers depends on what is in the tables of CA certificates,
of SSH routes and of the audit log when the daemon is started, or on what is in these and among
the integrity records later: an SSH route restricts nothing, and an integrity record counts only
at the start. -/
theorem unread_tables_inert (codec : IpcCodec) (hchange : LeavesStart change)
    (hlater : ∀ database, SameServed (later database) database)
    (hserved : startUp crates around machine = (.ok serving, after)) :
    ∃ other otherAfter,
      startUp crates around (changedMachine change around machine) = (.ok other, otherAfter) ∧
        ∀ events,
          (run (step (servingSetup crates codec around other)) (servingDaemon other)
              (events.map (writtenThrough later))).2 =
            (run (step (servingSetup crates codec around serving)) (servingDaemon serving)
              events).2 := by
  have hserving : (startUp crates around machine).1 = .ok serving := by rw [hserved]
  have hstartable := (serves_iff_startable crates around machine).mp ⟨serving, hserving⟩
  obtain ⟨typed, key, htyped, -⟩ := hstartable.opens
  obtain ⟨other, hother⟩ := (serves_iff_startable crates around _).mpr
    (startable_changedMachine hchange hstartable)
  have hstarted : StartedOn crates around (servedFiles around machine).database typed serving :=
    ⟨⟨machine, hserving, rfl⟩, htyped⟩
  have hchanged : StartedOn crates around
      (changedFiles change (servedFiles around machine)).database typed other :=
    ⟨⟨_, hother, by rw [servedFiles_changedMachine]⟩, htyped⟩
  obtain ⟨hsame, hrecords⟩ := sameServed_changedFiles hchange (servedFiles around machine)
  have hknown : other.knownHashes = serving.knownHashes := by
    rw [hchanged.knownHashes, hstarted.knownHashes, verifiedDatabase, verifiedDatabase, hrecords]
  have hsetup : servingSetup crates codec around other =
      servingSetup crates codec around serving := by
    rw [servingSetup, servingSetup, hknown]
  refine ⟨other, _, Effect.eq_of_fst hother, ?_⟩
  intro events
  rw [hsetup, hchanged.servingDaemon, hstarted.servingDaemon]
  apply run_alike ((hsame.verified around.host.unixNow).servesAlike crates (asBytes typed))
  apply eventsAlike_writtenThrough
  intro database
  exact (hlater database).servesAlike crates (asBytes typed)

end UnreadTables

section Agents

/-- Stores from which the SSH agent is served the same. -/
inductive SameSshKeys : Store → Store → Prop where
  | locked : SameSshKeys .locked .locked
  | unlocked {database other : Database} (h : database.sshKeys = other.sshKeys)
      (master : Bytes) : SameSshKeys (.unlocked database master) (.unlocked other master)

section Keys

variable {store other : Store}

theorem identitiesMessage_sameSshKeys (h : SameSshKeys store other) :
    identitiesMessage store = identitiesMessage other := by
  cases h with
  | locked => rfl
  | unlocked h master =>
      simp only [identitiesMessage, listSshKeys, Store.conn_unlocked, Outcome.ok_bind, h]

theorem signWithKey_sameSshKeys (h : SameSshKeys store other) (crates : Crates)
    (keyBlob data : Bytes) (flags : Nat) :
    signWithKey crates store keyBlob data flags = signWithKey crates other keyBlob data flags := by
  cases h with
  | locked => rfl
  | unlocked h master =>
      simp only [signWithKey, listSshKeys, getSshPlaintextKey, Store.conn_unlocked,
        Store.passphrase_unlocked, Outcome.ok_bind, h]

theorem sameSshKeys_reread (h : SameSshKeys store other) {database otherDatabase : Database}
    (hkeys : database.sshKeys = otherDatabase.sshKeys) :
    SameSshKeys (rereadDatabase database store) (rereadDatabase otherDatabase other) := by
  cases h with
  | locked => exact .locked
  | unlocked _ master => exact .unlocked hkeys master

end Keys

structure SharedSshKeys (shared other : Shared) : Prop where
  store : SameSshKeys shared.store other.store
  poisoned : shared.poisoned = other.poisoned

theorem agentAgrees_sharedSshKeys (crates : Crates) : AgentAgrees crates SharedSshKeys where
  lockable :=
    { poisoned := SharedSshKeys.poisoned
      poison := fun h => ⟨h.store, rfl⟩ }
  identities h := identitiesMessage_sameSshKeys h.store
  signs h := signWithKey_sameSshKeys h.store crates

/-- The first daemon has no client on its IPC socket, and the agents of both stand alike. -/
structure AgentsAlike (daemon other : Daemon) : Prop where
  shared : SharedSshKeys daemon.shared other.shared
  unverified : daemon.verified = none
  agentRunning : daemon.agentRunning = other.agentRunning
  agentConnection : daemon.agentConnection = other.agentConnection

/-- The same happens to both daemons, but of what is written to their databases only the SSH
keys need to be the same. -/
inductive AgentEventsAlike : Event → Event → Prop where
  | same (event : Event) : AgentEventsAlike event event
  | commits {database other : Database} (h : database.sshKeys = other.sshKeys) :
      AgentEventsAlike (.commits database) (.commits other)

def offIpc : Event → Bool
  | .ipcConnects _ _ => false
  | .ipcRequests _ _ => false
  | _ => true

def fromAgent : Output → Bool
  | .ipc _ _ => false
  | .agent _ _ => true

/-- Whatever leaves the IPC socket is a refusal. -/
def Rejects (output : Output) : Prop :=
  ∀ peer response, output = .ipc peer response →
    response = .error "Connection rejected: unauthorized process"

variable {setup : Setup} {daemon other : Daemon}

theorem acceptIpc_agent (setup : Setup) (system : System) (peer : Option Peer)
    (daemon : Daemon) :
    (acceptIpc setup system peer daemon).1.shared.poisoned = daemon.shared.poisoned ∧
      (acceptIpc setup system peer daemon).1.agentRunning = daemon.agentRunning ∧
      (acceptIpc setup system peer daemon).1.agentConnection = daemon.agentConnection := by
  cases peer with
  | none => exact ⟨rfl, rfl, rfl⟩
  | some peer =>
      rw [acceptIpc]
      rcases verifyTrafficConeBinary setup.crates system setup.ourUid peer.pid peer.uid
        setup.knownHashes daemon.shared.cache with ⟨_ | _ | _, cache⟩ <;> exact ⟨rfl, rfl, rfl⟩

theorem acceptIpc_unrecorded (hknown : setup.knownHashes = fun _ => none)
    (hverified : daemon.verified = none) (system : System) (peer : Option Peer) :
    (acceptIpc setup system peer daemon).1.verified = none := by
  rcases acceptIpc_verified_cases setup system peer daemon with hsame |
    ⟨client, process, -, hadmitted⟩
  · rw [hsame, hverified]
  · obtain ⟨-, -, hrecorded⟩ := verifyTrafficConeBinary_eq_ok_iff.mp (Effect.eq_of_fst hadmitted)
    rw [hknown] at hrecorded
    cases hrecorded

/-- A daemon that knows no binary refuses every connection. -/
theorem step_unrecorded (hknown : setup.knownHashes = fun _ => none)
    (hverified : daemon.verified = none) (event : Event) :
    (step setup daemon event).1.verified = none ∧
      ∀ output ∈ (step setup daemon event).2, Rejects output := by
  rcases step_cases setup daemon event with ⟨system, peer, -, -, hstep⟩ |
    ⟨_, _, peer, -, hpeer, -⟩ | ⟨connection, -, -, hstep⟩ | hquiet
  · rw [hstep]
    refine ⟨acceptIpc_unrecorded hknown hverified system peer, ?_⟩
    rintro output houtput client response rfl
    obtain ⟨rejected, hrejected⟩ := acceptIpc_output houtput
    exact (Output.ipc.inj hrejected).2
  · rw [hverified] at hpeer
    cases hpeer
  · rw [hstep, serveAgent_verified]
    refine ⟨hverified, ?_⟩
    rintro output houtput client response rfl
    obtain ⟨_, _, _, _, -, -, hagent⟩ := mem_serveAgent_iff.mp houtput
    cases hagent
  · rw [hquiet.silent, hquiet.verified]
    exact ⟨hverified, by simp⟩

theorem filter_agentSocket {event : Event} (hagent : onAgentSocket event = true) :
    (step setup daemon event).2.filter fromAgent = (step setup daemon event).2 := by
  apply List.filter_eq_self.mpr
  intro output houtput
  rcases step_cases setup daemon event with ⟨_, _, rfl, -⟩ | ⟨_, _, _, rfl, -⟩ |
    ⟨connection, -, -, hstep⟩ | hquiet
  · cases hagent
  · cases hagent
  · rw [hstep] at houtput
    obtain ⟨_, _, _, _, -, -, rfl⟩ := mem_serveAgent_iff.mp houtput
    rfl
  · rw [hquiet.silent] at houtput
    cases houtput

variable {otherSetup : Setup}

theorem agentsAlike_commits (h : AgentsAlike daemon other) {database otherDatabase : Database}
    (hkeys : database.sshKeys = otherDatabase.sshKeys) :
    AgentsAlike (step setup daemon (.commits database)).1
      (step otherSetup other (.commits otherDatabase)).1 :=
  ⟨⟨sameSshKeys_reread h.shared.store hkeys, h.shared.poisoned⟩, h.unverified, h.agentRunning,
    h.agentConnection⟩

theorem agentsAlike_step (hcrates : setup.crates = otherSetup.crates)
    (h : AgentsAlike daemon other) {event otherEvent : Event}
    (hevent : AgentEventsAlike event otherEvent) (hoff : offIpc otherEvent = true) :
    AgentsAlike (step setup daemon event).1 (step otherSetup other otherEvent).1 ∧
      (step setup daemon event).2.filter fromAgent = (step otherSetup other otherEvent).2 := by
  cases hevent with
  | commits hkeys => exact ⟨agentsAlike_commits h hkeys, rfl⟩
  | same =>
      cases hagent : onAgentSocket event with
      | true =>
          have hgoes := (agentAgrees_sharedSshKeys setup.crates).step hcrates h.shared
            h.agentRunning h.agentConnection hagent
          rw [filter_agentSocket hagent]
          exact ⟨⟨hgoes.shared, hgoes.verified.1.trans h.unverified, hgoes.agentRunning,
            hgoes.agentConnection⟩, hgoes.outputs⟩
      | false =>
          cases event with
          | ipcConnects system peer => cases hoff
          | ipcRequests system stream => cases hoff
          | agentConnects peer => cases hagent
          | agentReceives bytes => cases hagent
          | agentFinishes => cases hagent
          | agentServes => cases hagent
          | commits database => exact ⟨agentsAlike_commits h rfl, rfl⟩

theorem agentsAlike_skip (hknown : setup.knownHashes = fun _ => none)
    (h : AgentsAlike daemon other) {event otherEvent : Event}
    (hevent : AgentEventsAlike event otherEvent) (hon : offIpc otherEvent = false) :
    AgentsAlike (step setup daemon event).1 other ∧
      (step setup daemon event).2.filter fromAgent = [] := by
  cases hevent with
  | commits hkeys => cases hon
  | same =>
      cases event with
      | ipcConnects system peer =>
          rw [step]
          split
          · obtain ⟨hpoisoned, hrunning, hconnection⟩ := acceptIpc_agent setup system peer daemon
            refine ⟨⟨⟨?_, hpoisoned.trans h.shared.poisoned⟩,
              acceptIpc_unrecorded hknown h.unverified system peer,
              hrunning.trans h.agentRunning, hconnection.trans h.agentConnection⟩, ?_⟩
            · rw [acceptIpc_store]
              exact h.shared.store
            · apply List.filter_eq_nil_iff.mpr
              intro output houtput
              obtain ⟨rejected, rfl⟩ := acceptIpc_output houtput
              simp [fromAgent]
          · exact ⟨h, rfl⟩
      | ipcRequests system stream =>
          rw [step, h.unverified]
          exact ⟨h, rfl⟩
      | agentConnects peer => cases hon
      | agentReceives bytes => cases hon
      | agentFinishes => cases hon
      | agentServes => cases hon
      | commits database => cases hon

/-- The agent of a daemon that refuses every connection on the IPC socket answers as the one
of a daemon to whose IPC socket nobody connects. -/
theorem run_agents (hcrates : setup.crates = otherSetup.crates)
    (hknown : setup.knownHashes = fun _ => none) (h : AgentsAlike daemon other)
    {events others : List Event} (halike : List.Forall₂ AgentEventsAlike events others) :
    (run (step setup) daemon events).2.filter fromAgent =
      (run (step otherSetup) other (others.filter offIpc)).2 :=
  @run_skipping _ _ _ _ _ (step setup) (step otherSetup) AgentsAlike AgentEventsAlike offIpc
    fromAgent (fun _ _ _ _ hdaemons hevent hoff => agentsAlike_step hcrates hdaemons hevent hoff)
    (fun _ _ _ _ hdaemons hevent hon => agentsAlike_skip hknown hdaemons hevent hon)
    _ _ h _ _ halike

end Agents

section Restored

open TrafficCone.DatabaseTables
open TrafficCone.BackupArchives
open TrafficCone.BackupRestoring
open TrafficCone.CollectedPayloads
open TrafficCone.BackupRoundTrip

variable {codec : BackupCodec} {order : JoinOrder} {host newHost : Host} {password : String}
  {backup : Bytes} {source target : Database}

theorem exists_restored
    (hcodec : Undoes codec (payloadOf order source host.unixNow) password backup)
    (hsource : Portable source) (hempty : Empty target)
    (hfresh : FreshIds newHost { database := target, drawn := 0 }) (master : Bytes) :
    ∃ result restored,
      restoreBackup codec newHost backup password (.unlocked target master) =
        (.ok result, .unlocked restored master) ∧
        restored.sshKeys = source.sshKeys ∧ restored.integrity = target.integrity := by
  have hdistinct := distinct_payloadOf order hsource.wellFormed hsource.oneKeyEach host.unixNow
  obtain ⟨result, session, hrun⟩ := restorePayload_ok_of_accepts hfresh hdistinct
    (accepts_of_empty hsource hempty 0 host.unixNow)
  have hrestored := (of_restorePayload_ok hfresh hdistinct hrun).2
  rw [loaded, merged_of_empty hsource hempty] at hrestored
  refine ⟨result, session.database, ?_, by rw [hrestored], by rw [hrestored]⟩
  rw [restoreBackup_eq hcodec.read, withConn_unlocked hrun]

/-- A backup carries no integrity records. A daemon that is started on a store restored from
one, and on nothing else, refuses every connection on its IPC socket; its SSH agent answers as
that of the daemon on the original store would if nobody connected to its IPC socket. -/
theorem restored_daemon_serves_ssh_alone
    (hcodec : Undoes codec (payloadOf order source host.unixNow) password backup)
    (hsource : Portable source) (hempty : Empty target) (hunrecorded : target.integrity = [])
    (hunused : host.newId 0 ∉ source.auditLog.map (·.id))
    (hfresh : FreshIds newHost { database := target, drawn := 0 }) (typed : String) :
    (createBackup codec order host password (.unlocked source (asBytes typed))).1 = .ok backup ∧
      ∃ result restored,
        restoreBackup codec newHost backup password (.unlocked target (asBytes typed)) =
          (.ok result, .unlocked restored (asBytes typed)) ∧
        ∀ crates around serving ipcCodec, StartedOn crates around restored typed serving →
          ∀ events,
            let outputs := (run (step (servingSetup crates ipcCodec around serving))
              (servingDaemon serving) events).2
            (∀ output ∈ outputs, Rejects output) ∧
              ∀ around' original ipcCodec', StartedOn crates around' source typed original →
                ∀ others, List.Forall₂ AgentEventsAlike events others →
                  outputs.filter fromAgent =
                    (run (step (servingSetup crates ipcCodec' around' original))
                      (servingDaemon original) (others.filter offIpc)).2 := by
  obtain ⟨result, restored, hrestored, hkeys, hnone⟩ :=
    @exists_restored codec order host newHost password backup source target hcodec hsource hempty
      hfresh (asBytes typed)
  refine ⟨createBackup_fst hcodec hunused, result, restored, hrestored, ?_⟩
  intro crates around serving ipcCodec hstarted events
  have hknown := hstarted.unrecorded (hnone.trans hunrecorded)
  have hrejects := @run_invariant _ _ _ (step (servingSetup crates ipcCodec around serving))
    (fun daemon => daemon.verified = none) Rejects
    (fun _ event hverified => step_unrecorded hknown hverified event) (servingDaemon serving) rfl
    events
  refine ⟨hrejects.2, ?_⟩
  intro around' original ipcCodec' horiginal others halike
  refine @run_agents (servingSetup crates ipcCodec around serving) _ _
    (servingSetup crates ipcCodec' around' original) rfl hknown ?_ _ _ halike
  rw [hstarted.servingDaemon, horiginal.servingDaemon]
  have hchecked : (verifiedDatabase around.host.unixNow restored).sshKeys =
      (verifiedDatabase around'.host.unixNow source).sshKeys := hkeys
  exact
    { shared := ⟨.unlocked hchecked (asBytes typed), rfl⟩
      unverified := rfl
      agentRunning := rfl
      agentConnection := rfl }

end Restored

section Laptop

open TrafficCone.BackupArchives
open TrafficCone.BackupRoundTrip
open TrafficCone.ClaimedPidInfluence (signPhrases)

def laptopSshRoute : SshRoute :=
  { id := "q1", sshKeyId := "s1", appId := none, hostPattern := some "git.example"
    createdAt := 9 }

def withSshRoute (database : Database) : Database :=
  { database with sshRoutes := [laptopSshRoute] }

theorem leavesStart_withSshRoute : LeavesStart withSshRoute where
  served _ := ⟨rfl, rfl, rfl, rfl, rfl⟩
  integrity _ := rfl

def withoutOtherTables (database : Database) : Database :=
  { database with caCerts := [], sshRoutes := [], integrity := [], auditLog := [] }

theorem unread_tables_inert_laptop :
    ∃ other otherAfter,
      startUp plainCrates laptop (changedMachine withSshRoute laptop laptopMachine) =
          (.ok other, otherAfter) ∧
        ∀ events,
          (run (step (servingSetup plainCrates signPhrases laptop other)) (servingDaemon other)
              (events.map (writtenThrough withoutOtherTables))).2 =
            (run (step (servingSetup plainCrates signPhrases laptop laptopServing))
              (servingDaemon laptopServing) events).2 :=
  unread_tables_inert signPhrases leavesStart_withSshRoute
    (fun _ => ⟨rfl, rfl, rfl, rfl, rfl⟩) (Effect.eq_of_fst laptop_starts)

theorem restored_daemon_serves_ssh_office :
    (createBackup (onePayload officePayload) keyOrder countingHost "pw"
      (.unlocked officeDatabase (asBytes "first"))).1 = .ok (asBytes "pwjson") ∧
      ∃ result restored,
        restoreBackup (onePayload officePayload) countingHost (asBytes "pwjson") "pw"
            (.unlocked {} (asBytes "first")) = (.ok result, .unlocked restored (asBytes "first")) ∧
        ∀ crates around serving ipcCodec, StartedOn crates around restored "first" serving →
          ∀ events,
            let outputs := (run (step (servingSetup crates ipcCodec around serving))
              (servingDaemon serving) events).2
            (∀ output ∈ outputs, Rejects output) ∧
              ∀ around' original ipcCodec',
                StartedOn crates around' officeDatabase "first" original →
                ∀ others, List.Forall₂ AgentEventsAlike events others →
                  outputs.filter fromAgent =
                    (run (step (servingSetup crates ipcCodec' around' original))
                      (servingDaemon original) (others.filter offIpc)).2 := by
  refine @restored_daemon_serves_ssh_alone _ keyOrder countingHost countingHost "pw" _ _ {} ?_
    portable_officeDatabase ?_ rfl ?_ ?_ "first"
  · exact
      { written := ⟨asBytes "json", by simp [onePayload, officePayload, countingHost], by decide⟩
        read := ⟨asBytes "json", by decide, by simp [onePayload, officePayload, countingHost]⟩ }
  · constructor <;> rfl
  · decide
  · exact
      { distinct := countingHost_distinct
        notKeys := by simp
        notAudit := by simp }

end Laptop

end TrafficCone.StartedReplicas
