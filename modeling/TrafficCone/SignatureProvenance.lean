import TrafficCone.ClaimedPidInfluence
import TrafficCone.DaemonRuns
import TrafficCone.RunOrigins
import TrafficCone.StoreReopening

namespace TrafficCone.SignatureProvenance

open TrafficCone.Outcomes
open TrafficCone.StoreModels
open TrafficCone.StoreListing (listCerts)
open TrafficCone.LinkedCrates
open TrafficCone.ProcReaders
open TrafficCone.ProcessMonitoring hiding hashFile
open TrafficCone.PidRouting
open TrafficCone.IpcServing
open TrafficCone.IntegrityChecks
open TrafficCone.KnownBinaries
open TrafficCone.DaemonRuns
open TrafficCone.DaemonStartup
open TrafficCone.TransducerRuns
open TrafficCone.RunOrigins

section Answers

variable {crates : Crates} {system : System} {knownHashes : KnownHashes} {shared : Shared}
  {certId : String} {signature : Bytes}

end Answers

section Origins

variable {setup : Setup} {daemon : Daemon} {events : List Event}

/-- The event at which the server took a client, and the check that it passed then. -/
def Admits (setup : Setup) (daemon : Daemon) (event : Event) (peer : Peer) : Prop :=
  ∃ system process cache, event = .ipcConnects system (some peer) ∧
    verifyTrafficConeBinary setup.crates system setup.ourUid peer.pid peer.uid
      setup.knownHashes daemon.shared.cache = (.ok process, cache)

end Origins

section StartedDaemon

/-- The servers, as `main` starts them. -/
def servingSetup (crates : Crates) (codec : IpcCodec) (around : Surroundings)
    (serving : Serving) : Setup where
  crates := crates
  codec := codec
  ourUid := around.uid
  knownHashes := serving.knownHashes

def servingDaemon (serving : Serving) : Daemon where
  shared := { store := serving.store, poisoned := false, cache := fun _ => none }
  ipcRunning := true
  verified := none
  agentRunning := true
  agentConnection := none

variable {crates : Crates} {codec : IpcCodec} {around : Surroundings} {machine after : Machine}
  {serving : Serving}

end StartedDaemon

section Laptop

open TrafficCone.ClaimedPidInfluence
open TrafficCone.StoreReopening

def recordedDatabase : Database :=
  { twoAppsDatabase with
    integrity :=
      [{ id := "i1"
         component := "cone"
         path := "/usr/bin/cone"
         sha256 := String.ofList (List.replicate 64 '0')
         version := "0.1.0"
         recordedAt := 0
         verifiedAt := none }] }

def laptop : Surroundings := { desk "first" with files := fun _ => .ok [] }

def laptopMachine : Machine := next plainCrates firstOpening.2 (.commits deskPath recordedDatabase)

def laptopServing : Serving where
  path := deskPath
  store := .unlocked (verifiedDatabase 30 recordedDatabase) (asBytes "first")
  knownHashes := Function.update (fun _ => none) "/usr/bin/cone"
    (some (String.ofList (List.replicate 64 '0')))

theorem laptop_starts : (startUp plainCrates laptop laptopMachine).1 = .ok laptopServing := rfl

end Laptop

end TrafficCone.SignatureProvenance
