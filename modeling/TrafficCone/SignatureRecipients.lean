import TrafficCone.DaemonRuns

namespace TrafficCone.SignatureRecipients

open TrafficCone.Outcomes
open TrafficCone.StoreModels
open TrafficCone.LinkedCrates
open TrafficCone.ProcReaders
open TrafficCone.PidRouting
open TrafficCone.IpcServing
open TrafficCone.SshAgentServing
open TrafficCone.DaemonRuns
open TrafficCone.TransducerRuns

def SignatureStaysHome (ourUid : Nat) : Output → Prop
  | .ipc peer (.signature _ _) => peer.uid = ourUid
  | .ipc _ _ => True
  | .agent peer response => response.head? = some signResponse → peer.uid = ourUid

instance (ourUid : Nat) : DecidablePred (SignatureStaysHome ourUid)
  | .ipc peer (.signature _ _) => inferInstanceAs (Decidable (peer.uid = ourUid))
  | .ipc _ .pong | .ipc _ (.certs _) | .ipc _ (.status _ _) | .ipc _ .ok | .ipc _ (.error _) =>
      isTrue trivial
  | .agent peer response =>
      inferInstanceAs (Decidable (response.head? = some signResponse → peer.uid = ourUid))

def VerifiedIsOwn (setup : Setup) (daemon : Daemon) : Prop :=
  ∀ peer, daemon.verified = some peer → peer.uid = setup.ourUid

/-- The step does not make the agent sign for a client of another user. -/
def NoForeignSigning (setup : Setup) (daemon : Daemon) : Event → Prop
  | .agentServes =>
      ∀ connection payload rest, daemon.agentConnection = some connection →
        readMessage connection.unread connection.finished =
            .message (signRequest :: payload) rest →
          daemon.shared.poisoned = false →
            CanSign setup.crates daemon.shared.store payload →
              connection.peer.uid = setup.ourUid
  | _ => True

theorem acceptIpc_own (setup : Setup) (system : System) (peer : Option Peer) (daemon : Daemon)
    (hdaemon : VerifiedIsOwn setup daemon) :
    VerifiedIsOwn setup (acceptIpc setup system peer daemon).1 := by
  intro other hother
  rcases acceptIpc_verified_cases setup system peer daemon with
    hsame | ⟨client, process, hclient, hverified⟩
  · exact hdaemon other (hsame ▸ hother)
  · obtain rfl := Option.some.inj (hclient.symm.trans hother)
    exact uid_of_verified hverified

theorem step_verified (setup : Setup) (daemon : Daemon) (event : Event)
    (hdaemon : VerifiedIsOwn setup daemon) : VerifiedIsOwn setup (step setup daemon event).1 := by
  rcases step_cases setup daemon event with ⟨system, peer, -, -, hstep⟩ |
    ⟨system, stream, peer, -, -, hstep⟩ | ⟨connection, -, -, hstep⟩ | hquiet
  · rw [hstep]
    exact acceptIpc_own setup system peer daemon hdaemon
  · intro other hother
    rw [hstep, serveIpc_verified] at hother
    cases hother
  · intro peer hpeer
    rw [hstep, serveAgent_verified] at hpeer
    exact hdaemon peer hpeer
  · intro peer hpeer
    rw [hquiet.verified] at hpeer
    exact hdaemon peer hpeer

theorem serveIpc_outputs (setup : Setup) (system : System) (stream : Bytes) {peer : Peer}
    (daemon : Daemon) (hpeer : peer.uid = setup.ourUid) :
    ∀ output ∈ (serveIpc setup system stream peer daemon).2,
      SignatureStaysHome setup.ourUid output := by
  intro output houtput
  obtain ⟨response, rfl, -⟩ := serveIpc_output houtput
  cases response <;> simp [SignatureStaysHome, hpeer]

theorem serveAgent_outputs_iff (setup : Setup) {connection : AgentConnection} {daemon : Daemon}
    (hconnection : daemon.agentConnection = some connection) :
    (∀ output ∈ (serveAgent setup connection daemon).2,
        SignatureStaysHome setup.ourUid output) ↔
      NoForeignSigning setup daemon .agentServes := by
  constructor
  · intro hhome other payload rest hother hread hpoisoned hsign
    obtain rfl : connection = other := Option.some.inj (hconnection.symm.trans hother)
    obtain ⟨signed, hresponse⟩ := exists_respond_iff.mpr ⟨rfl, hpoisoned, hsign⟩
    exact hhome _
      (mem_serveAgent_iff.mpr ⟨signRequest, payload, rest, _, hread, hresponse, rfl⟩) rfl
  · intro hown output houtput
    obtain ⟨msgType, payload, rest, response, hread, hresponse, rfl⟩ :=
      mem_serveAgent_iff.mp houtput
    intro hsigned
    obtain ⟨signed, rfl⟩ := List.head?_eq_some_iff.mp hsigned
    obtain ⟨rfl, hpoisoned, hsign⟩ := exists_respond_iff.mp ⟨signed, hresponse⟩
    exact hown connection payload rest hconnection hread hpoisoned hsign

theorem step_outputs_iff (setup : Setup) (daemon : Daemon) (event : Event)
    (hdaemon : VerifiedIsOwn setup daemon) :
    (∀ output ∈ (step setup daemon event).2, SignatureStaysHome setup.ourUid output) ↔
      NoForeignSigning setup daemon event := by
  rcases step_cases setup daemon event with ⟨system, peer, rfl, -, hstep⟩ |
    ⟨system, stream, peer, rfl, hpeer, hstep⟩ | ⟨connection, rfl, hconnection, hstep⟩ | hquiet
  · rw [hstep]
    -- A client that is turned away is told so, whoever it is.
    refine iff_of_true ?_ trivial
    intro output houtput
    obtain ⟨rejected, rfl⟩ := acceptIpc_output houtput
    trivial
  · rw [hstep]
    exact iff_of_true (serveIpc_outputs setup system stream daemon (hdaemon peer hpeer)) trivial
  · rw [hstep]
    exact serveAgent_outputs_iff setup hconnection
  · refine iff_of_true (by simp [hquiet.silent]) ?_
    cases event with
    | agentServes =>
        intro connection payload rest hconnection
        rw [hquiet.unserved rfl] at hconnection
        cases hconnection
    | _ => trivial

/-- In a run of both servers every signature goes to the daemon's own user, exactly
if the agent is never made to sign for another one. -/
theorem signatures_stay_home_iff (setup : Setup) (daemon : Daemon)
    (hverified : daemon.verified = none) (events : List Event) :
    (∀ output ∈ (run (step setup) daemon events).2, SignatureStaysHome setup.ourUid output) ↔
      Along (step setup) (NoForeignSigning setup) daemon events := by
  refine run_outputs_iff_along (step_verified setup) (step_outputs_iff setup) ?_ events
  intro peer hpeer
  rw [hverified] at hpeer
  cases hpeer

section ForeignClient

def sshDatabase : Database :=
  { sshKeys := [
      { id := "s1", label := "laptop", publicKey := "ssh-ed25519 AAAA", algorithm := "Ed25519",
        keyEnc := List.replicate 32 7 ++ List.replicate 16 0, keySalt := List.replicate 16 0,
        keyNonce := List.replicate 12 0, createdAt := 0 }] }

def plainSetup : Setup where
  crates := plainCrates
  codec := phrasebook []
  ourUid := 1000
  knownHashes := fun _ => none

/-- A process of user 2000 connects to the agent and asks for a signature. -/
def foreignSigning : List Event :=
  [.agentConnects { pid := 9, uid := 2000 },
    .agentReceives (LengthFraming.frame (signRequest ::
      (writeString (asBytes "ssh-ed25519 AAAA") ++ writeString [1] ++ [0, 0, 0, 0]))),
    .agentServes]

theorem signatures_stay_home_iff_foreign :
    (∀ output ∈ (run (step plainSetup) (started sshDatabase []) foreignSigning).2,
        SignatureStaysHome plainSetup.ourUid output) ↔
      Along (step plainSetup) (NoForeignSigning plainSetup) (started sshDatabase [])
        foreignSigning :=
  signatures_stay_home_iff plainSetup (started sshDatabase []) rfl foreignSigning

theorem foreign_user_is_given_a_signature :
    ¬ ∀ output ∈ (run (step plainSetup) (started sshDatabase []) foreignSigning).2,
      SignatureStaysHome 1000 output := by
  decide

end ForeignClient

end TrafficCone.SignatureRecipients
