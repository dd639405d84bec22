import TrafficCone.ClaimedPidInfluence
import TrafficCone.DaemonRuns

namespace TrafficCone.LibconeAdmission

open TrafficCone.Outcomes
open TrafficCone.StoreModels
open TrafficCone.StoreListing
open TrafficCone.LinkedCrates
open TrafficCone.ProcReaders
open TrafficCone.ProcessMonitoring
open TrafficCone.PidRouting
open TrafficCone.IpcServing
open TrafficCone.ClaimedPidInfluence
open TrafficCone.DaemonRuns
open TrafficCone.TransducerRuns

/-- A sign request that `libcone.so` sends from within an application: everything
is in place for the answer. -/
structure LibconeCall where
  setup : Setup
  startup : Database × Bytes
  daemon : Daemon
  database : Database
  master : Bytes
  system : System
  pid : Nat
  process : ProcessEntry
  cache : Cache
  app : App
  connections : List Connection
  certId : String
  ip : Option String
  data : Bytes
  signature : Bytes
  stream : Bytes
  libcone : IntegrityRecord
  mapped : List String
  hashesLoaded : loadKnownHashes (.unlocked startup.1 startup.2) = .ok setup.knownHashes
  recorded : (startup.1.integrity.map (·.component)).Perm IntegrityRecords.components
  libconeRecorded : libcone ∈ startup.1.integrity ∧ libcone.component = "libcone.so"
  libconeUnmodified : hashFile setup.crates system libcone.path = .ok libcone.sha256
  libconeLoaded : libcone.path ∈ mapped
  listening : daemon.ipcRunning = true ∧ daemon.verified = none
  storeOpen : daemon.shared.poisoned = false ∧ daemon.shared.store = .unlocked database master
  running : resolve setup.crates system pid daemon.shared.cache = (.ok process, cache)
  registered : app ∈ database.apps ∧ app.exePath = process.exePath
  unchanged : app.exeHash = process.exeHash
  connected : getConnections system pid = .ok connections
  routed : firstRoute database process.exePath connections = some (certId, ip)
  usable : signData setup.crates daemon.shared.store certId data = .ok signature
  request : readRequest setup.codec stream = .ok (.sign pid data)

namespace LibconeCall

def peer (call : LibconeCall) : Peer := { pid := call.pid, uid := call.setup.ourUid }

def events (call : LibconeCall) : List Event :=
  [.ipcConnects call.system (some call.peer), .ipcRequests call.system call.stream]

def Answered (call : LibconeCall) : Prop :=
  verifyTrafficConeBinary call.setup.crates call.system call.setup.ourUid call.pid
      call.setup.ourUid call.setup.knownHashes call.daemon.shared.cache =
    (.ok call.process, call.cache) ∧
  (run (step call.setup) call.daemon call.events).2 =
    [.ipc call.peer (.signature call.certId call.signature)]

/-- The application's executable is itself recorded as a component, with the hash it
has. -/
def ExecutableRecorded (call : LibconeCall) : Prop :=
  lastRecorded (orderByLabel (·.component) call.startup.1.integrity) call.process.exePath =
    some call.process.exeHash

theorem knownHashes_eq (call : LibconeCall) :
    call.setup.knownHashes =
      lastRecorded (orderByLabel (·.component) call.startup.1.integrity) := by
  have hloaded := call.hashesLoaded
  rw [loadKnownHashes_unlocked] at hloaded
  exact (Outcome.ok.inj hloaded).symm

theorem acceptIpc_of_verified (call : LibconeCall)
    (hverified : verifyTrafficConeBinary call.setup.crates call.system call.setup.ourUid call.pid
      call.setup.ourUid call.setup.knownHashes call.daemon.shared.cache =
        (.ok call.process, call.cache)) :
    step call.setup call.daemon (.ipcConnects call.system (some call.peer)) =
      ({ call.daemon with
          shared := { call.daemon.shared with cache := call.cache }
          verified := some call.peer }, []) := by
  rw [step, if_pos call.listening, acceptIpc]
  simp only [peer, hverified]

theorem handleConnection_of_verified (call : LibconeCall)
    (hknown : call.setup.knownHashes call.process.exePath = some call.process.exeHash) :
    (handleConnection call.setup.crates call.system call.setup.codec call.setup.knownHashes
        call.stream call.pid { call.daemon.shared with cache := call.cache }).1 =
      .ok (.signature call.certId call.signature) := by
  have haccepted : binaryReplaced call.setup.knownHashes call.process = false := by
    simp [binaryReplaced, hknown]
  have hrouted : routeProcess call.system call.daemon.shared.store call.setup.knownHashes
      call.pid call.process =
        .ok
          { certId := call.certId
            process := call.process
            remoteHost := none
            remoteIp := call.ip } :=
    routeProcess_eq_ok_iff.mpr ⟨haccepted, call.database, call.master, call.connections,
      call.certId, call.ip, call.storeOpen.2, call.connected, call.routed, rfl⟩
  have hresolved := resolveForPid_eq_ok_iff.mpr ⟨call.process, resolve_again call.running, hrouted⟩
  have hsound : { call.daemon.shared with cache := call.cache }.poisoned = false :=
    call.storeOpen.1
  rw [handleConnection_of_read call.request, dispatch,
    answerSign_fst call.setup.crates call.system call.setup.knownHashes call.pid call.data hsound,
    hresolved]
  simp only [call.usable, answerWith]

/-- The request is answered exactly if the application is itself a recorded
component: the library that sends it is not what `/proc/PID/exe` names. -/
theorem answered_iff (call : LibconeCall) : call.Answered ↔ call.ExecutableRecorded := by
  unfold Answered ExecutableRecorded
  rw [verified_iff_of_resolved call.running, ← call.knownHashes_eq]
  constructor
  · exact And.left
  · intro hknown
    -- Both stages look up the same path, so what passes the first is not refused by the second.
    refine ⟨hknown, ?_⟩
    have hverified := (verified_iff_of_resolved call.running call.setup.ourUid
      call.setup.knownHashes).mpr hknown
    have hanswer := call.handleConnection_of_verified hknown
    rw [events, run_cons, run_cons, call.acceptIpc_of_verified hverified]
    simp only [step, serveIpc, run_nil, List.nil_append, List.append_nil]
    rcases hcall : handleConnection call.setup.crates call.system call.setup.codec
      call.setup.knownHashes call.stream call.peer.pid
      { call.daemon.shared with cache := call.cache } with ⟨response, shared⟩
    have hresponse : response = .ok (.signature call.certId call.signature) := by
      rw [← hanswer]
      exact (congrArg Prod.fst hcall).symm
    subst hresponse
    rfl

end LibconeCall

section Editor

def record (id component path : String) : IntegrityRecord :=
  { id := id, component := component, path := path,
    sha256 := String.ofList (List.replicate 64 '0'), version := "0.1.0", recordedAt := 0,
    verifiedAt := none }

def installedDatabase : Database :=
  { twoAppsDatabase with
    integrity := [record "i1" "coned" "/usr/bin/coned",
      record "i2" "libcone.so" "/usr/lib/libcone.so", record "i3" "cone" "/usr/bin/cone"] }

def editorSystem : System :=
  quietSystem [(7, "/usr/bin/code")] [("/usr/bin/code", []), ("/usr/lib/libcone.so", [])]

def editorCall : LibconeCall where
  setup :=
    { crates := plainCrates
      codec := signPhrases
      ourUid := 1000
      knownHashes := lastRecorded (orderByLabel (·.component) installedDatabase.integrity) }
  startup := (installedDatabase, [])
  daemon := started installedDatabase []
  database := installedDatabase
  master := []
  system := editorSystem
  pid := 7
  process :=
    { pid := 7
      exePath := "/usr/bin/code"
      exeHash := String.ofList (List.replicate 64 '0')
      startTime := 500 }
  cache := (resolve plainCrates editorSystem 7 fun _ => none).2
  app := twoAppsDatabase.apps.head (by decide)
  connections := []
  certId := "c1"
  ip := none
  data := [1]
  signature := [0x30, 6, 2, 1, 3, 2, 1, 1]
  stream := LengthFraming.frame (signText 7)
  libcone := record "i2" "libcone.so" "/usr/lib/libcone.so"
  mapped := ["/usr/bin/code", "/usr/lib/libcone.so"]
  hashesLoaded := loadKnownHashes_unlocked _ _
  recorded := by decide
  libconeRecorded := by decide
  libconeUnmodified := by decide
  libconeLoaded := by decide
  listening := ⟨rfl, rfl⟩
  storeOpen := ⟨rfl, rfl⟩
  running := Prod.ext (by decide) rfl
  registered := by decide
  unchanged := by decide
  connected := by decide
  routed := by decide
  usable := by decide
  request := by decide

theorem editor_is_rejected : ¬ editorCall.Answered := by
  rintro ⟨-, houtputs⟩
  exact absurd houtputs (by decide)

end Editor

end TrafficCone.LibconeAdmission
