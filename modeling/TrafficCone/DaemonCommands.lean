import TrafficCone.ClaimedPidInfluence
import TrafficCone.CommandListings
import TrafficCone.DaemonRuns
import TrafficCone.ParallelRuns
import TrafficCone.SocketAddresses

namespace TrafficCone.DaemonCommands

open TrafficCone.Outcomes
open TrafficCone.StoreModels
open TrafficCone.StoreListing
open TrafficCone.LinkedCrates
open TrafficCone.LengthFraming
open TrafficCone.ProcReaders
open TrafficCone.PidRouting
open TrafficCone.IpcServing
open TrafficCone.IpcMessages (SerdeJson ResponseFits encodeResponse sendResponse)
open TrafficCone.CliClient (received)
open TrafficCone.CommandListings
open TrafficCone.DaemonRuns
open TrafficCone.TransducerRuns
open TrafficCone.ParallelRuns
open TrafficCone.SocketAddresses (connectAddress socketName)

section Client

/-- How a command on the daemon fails: when it connects, on its connection, by the daemon's
error, or because the response is of another kind than its request. -/
inductive ClientError where
  | connect (context cause : String)
  | connection (text : String)
  | daemon (message : String)
  | unexpected (response : CliClient.Response)
  deriving DecidableEq, Repr

def connectContext : String :=
  "Failed to connect to coned. Is the Traffic Cone daemon running?\n" ++
    "Start it with: systemctl --user start coned"

/-- `IpcClient::connect`, given what `UnixStream::connect` comes to. -/
def connect : Except String Unit → Outcome ClientError Unit
  | .ok _ => .ok ()
  | .error cause => .err (.connect connectContext cause)

/-- `UnixStream::connect` at the name of the daemon's socket. -/
def connectByName (attempt : Bytes → Except String Unit) : Except String Unit :=
  match connectAddress socketName with
  | .ok address => attempt address
  | .err cause => .error cause
  | .panicked => .error ""

structure DaemonStatus where
  locked : Bool
  certCount : Nat
  deriving DecidableEq, Repr

def readStatus : CliClient.Response → Outcome ClientError DaemonStatus
  | .status locked certCount => .ok { locked := locked, certCount := certCount }
  | .error message => .err (.daemon message)
  | other => .err (.unexpected other)

def readLocked : CliClient.Response → Outcome ClientError Unit
  | .ok => .ok ()
  | .error message => .err (.daemon message)
  | other => .err (.unexpected other)

def readCerts : CliClient.Response → Outcome ClientError (List CliClient.CertSummary)
  | .certs certs => .ok certs
  | .error message => .err (.daemon message)
  | other => .err (.unexpected other)

/-- The commands of `cone` for which the daemon is asked. -/
inductive DaemonCommand where
  | status
  | lock
  | list
  deriving DecidableEq, Repr

def DaemonCommand.request : DaemonCommand → CliClient.Request
  | .status => .status
  | .lock => .lock
  | .list => .listCerts

def statusLines (status : DaemonStatus) : List String :=
  if status.locked then ["● coned running", "  Store: locked"]
  else ["● coned running", "  Store: unlocked · " ++ toString status.certCount ++ " certs"]

/-- What a command prints for the response to its request. -/
def shown : DaemonCommand → CliClient.Response → Outcome ClientError (List String)
  | .status, response => do
      let status ← readStatus response
      pure (statusLines status)
  | .lock, response => do
      let _ ← readLocked response
      pure ["Store locked."]
  | .list, response => do
      let certs ← readCerts response
      certLines certs

end Client

section Connections

variable (setup : Setup) (serde : SerdeJson)

/-- What is written to the client at the end of its connection. A response that cannot be
written is replaced by its error. -/
def repliedWith : Outcome String Response → Bytes
  | .ok response =>
      match sendResponse serde response [] with
      | (.ok _, bytes) => bytes
      | (.err text, bytes) => bytes ++ (sendResponse serde (.error text) []).2
      | (.panicked, bytes) => bytes
  | .err message => (sendResponse serde (.error message) []).2
  | .panicked => []

def unauthorized : Response := .error "Connection rejected: unauthorized process"

/-- What comes of a connection: what the server has written, whether it has read the request
before it closed, and what is left behind. -/
structure Served where
  replied : Bytes
  hasRead : Bool
  shared : Shared

/-- The server's round for one connection, from its check to the end. -/
def serveConnection (system : System) (peer : Peer) (stream : Bytes) (shared : Shared) : Served :=
  match verifyTrafficConeBinary setup.crates system setup.ourUid peer.pid peer.uid
      setup.knownHashes shared.cache with
  | (.ok _, cache) =>
      let handled := handleConnection setup.crates system setup.codec setup.knownHashes stream
        peer.pid { shared with cache := cache }
      { replied := repliedWith serde handled.1, hasRead := true, shared := handled.2 }
  | (.err _, cache) =>
      { replied := repliedWith serde (.ok unauthorized)
        hasRead := false
        shared := { shared with cache := cache } }
  | (.panicked, cache) =>
      { replied := [], hasRead := false, shared := { shared with cache := cache } }

/-- A connection that is closed with nothing written and the request unread is reset. -/
def receive (served : Served) : Outcome ClientError CliClient.Response :=
  if served.replied = [] ∧ served.hasRead = false then
    .err (.connection "Connection reset by peer (os error 104)")
  else (CliClient.recv serde served.replied).1.mapErr .connection

/-- What a command does on its connection. A server that does not read the request may be
early to close: then it cannot be written. -/
def exchange (system : System) (peer : Peer) (early : Bool) (command : DaemonCommand) :
    Effect Shared ClientError (List String) := fun shared =>
  match CliClient.send serde command.request [] with
  | (.ok _, written) =>
      let served := serveConnection setup serde system peer written shared
      if early && !served.hasRead then
        (.err (.connection "Broken pipe (os error 32)"), served.shared)
      else
        (receive serde served >>= shown command, served.shared)
  | (.err text, written) =>
      (.err (.connection text), (serveConnection setup serde system peer written shared).shared)
  | (.panicked, written) =>
      (.panicked, (serveConnection setup serde system peer written shared).shared)

/-- A command of `cone`, run by the process of the peer on a connection of its own. -/
def perform (connected : Except String Unit) (system : System) (peer : Peer) (early : Bool)
    (command : DaemonCommand) : Effect Shared ClientError (List String) := do
  Effect.lift (connect connected)
  exchange setup serde system peer early command

end Connections

section Direct

/-- What the connection and the check of the peer come to, and whether a refusal comes before
the request. -/
inductive Admission where
  | unconnected (cause : String)
  | admitted
  | rejected (early : Bool)
  | crashed (early : Bool)
  deriving DecidableEq, Repr

/-- What a command is about: the store as it is, without a connection. -/
def direct : DaemonCommand → Store → Outcome ClientError (List String) × Store
  | .status, .locked => (.ok ["● coned running", "  Store: locked"], .locked)
  | .status, .unlocked database master =>
      (.ok ["● coned running",
          "  Store: unlocked · " ++ toString database.certs.length ++ " certs"],
        .unlocked database master)
  | .lock, _ => (.ok ["Store locked."], .locked)
  | .list, .locked => (.err (.daemon StoreError.locked.toText), .locked)
  | .list, .unlocked database master =>
      (certLines ((orderByLabel (·.label) database.certs).map sentCert),
        .unlocked database master)

def directBehind (admission : Admission) (command : DaemonCommand) (store : Store) :
    Outcome ClientError (List String) × Store :=
  match admission with
  | .unconnected cause => (.err (.connect connectContext cause), store)
  | .admitted => direct command store
  | .rejected false => (.err (.daemon "Connection rejected: unauthorized process"), store)
  | .crashed false => (.err (.connection "Connection reset by peer (os error 104)"), store)
  | .rejected true | .crashed true => (.err (.connection "Broken pipe (os error 32)"), store)

def checkOf (setup : Setup) (system : System) (peer : Peer) (early : Bool)
    (shared : Shared) : Admission :=
  match (verifyTrafficConeBinary setup.crates system setup.ourUid peer.pid peer.uid
      setup.knownHashes shared.cache).1 with
  | .ok _ => .admitted
  | .err _ => .rejected early
  | .panicked => .crashed early

def admissionOf (setup : Setup) (connected : Except String Unit) (system : System) (peer : Peer)
    (early : Bool) (shared : Shared) : Admission :=
  match connected with
  | .ok _ => checkOf setup system peer early shared
  | .error cause => .unconnected cause

end Direct

section Answers

/-- The daemon's response to the command's request. -/
def responseOf : DaemonCommand → Store → Response
  | .status, store => .status (!store.isUnlocked)
      (match listCerts store with
        | .ok certs => certs.length
        | _ => 0)
  | .lock, _ => .ok
  | .list, store =>
      match listCerts store with
      | .ok certs => .certs (certs.map summarize)
      | .err error => .error error.toText
      | .panicked => .error ""

theorem shown_responseOf (command : DaemonCommand) (store : Store) :
    shown command (received (responseOf command store)) = (direct command store).1 := by
  cases command with
  | lock => rfl
  | status =>
      cases store with
      | locked => rfl
      | unlocked database master =>
          have hcount : (orderByLabel (·.label) database.certs).length = database.certs.length :=
            List.length_insertionSort _ _
          simp [shown, received, responseOf, direct, readStatus, statusLines, listCerts,
            Store.isUnlocked, hcount]
  | list =>
      cases store with
      | locked => rfl
      | unlocked database master =>
          simp only [shown, received, responseOf, direct, readCerts, listCerts,
            Store.conn_unlocked, Outcome.ok_bind, Outcome.pure_eq_ok, List.map_map]
          rfl

theorem dispatch_request {crates : Crates} {system : System} {knownHashes : KnownHashes}
    {shared : Shared} (hsound : shared.poisoned = false) (command : DaemonCommand) :
    dispatch crates system knownHashes (CliClient.asIpcRequest command.request) shared =
      (.ok (responseOf command shared.store),
        { shared with store := (direct command shared.store).2 }) := by
  obtain ⟨store, poisoned, cache⟩ := shared
  obtain rfl : poisoned = false := hsound
  cases command with
  | lock => rfl
  | status => cases store <;> rfl
  | list => cases store <;> rfl

end Answers

section Conveying

variable {setup : Setup} {serde : SerdeJson} {shared : Shared}

/-- The text layer writes the response, in a length that its frame can tell, and reads it back
as the same value. -/
structure Conveyed (serde : SerdeJson) (response : Response) : Prop where
  fits : ResponseFits response
  undoes : serde.Undoes (encodeResponse response)
  written : ∃ json, serde.toVec (encodeResponse response) = .ok json ∧ json.length < UInt32.size

structure Requested (serde : SerdeJson) (request : CliClient.Request) : Prop where
  undoes : serde.Undoes (CliClient.encodeRequest request)
  written : ∃ json, serde.toVec (CliClient.encodeRequest request) = .ok json ∧
    json.length ≤ 1024 * 1024

theorem recv_repliedWith {response : Response} (h : Conveyed serde response) :
    (CliClient.recv serde (repliedWith serde (.ok response))).1 = .ok (received response) := by
  obtain ⟨json, hjson, hlength⟩ := h.written
  have hreplied : repliedWith serde (.ok response) = frame json ++ [] := by
    rw [repliedWith, IpcMessages.sendResponse_of_toVec hjson [], List.append_nil]
    rfl
  rw [hreplied, CliClient.recv_sent h.fits h.undoes hjson hlength]

theorem repliedWith_ne_nil {response : Response} (h : Conveyed serde response) :
    repliedWith serde (.ok response) ≠ [] := by
  intro hempty
  have hreceived := recv_repliedWith h
  rw [hempty] at hreceived
  cases hreceived

theorem receive_repliedWith {response : Response} (h : Conveyed serde response) (hasRead : Bool)
    (shared : Shared) :
    receive serde { replied := repliedWith serde (.ok response), hasRead, shared } =
      .ok (received response) := by
  rw [receive, if_neg fun hnothing => repliedWith_ne_nil h hnothing.1, recv_repliedWith h]
  rfl

theorem requestFits_request (command : DaemonCommand) : CliClient.RequestFits command.request := by
  cases command <;> trivial

/-- The messages with which the command is carried out on this store are all conveyed. -/
structure Conveys (serde : SerdeJson) (command : DaemonCommand) (store : Store) : Prop where
  request : Requested serde command.request
  response : Conveyed serde (responseOf command store)
  refusal : Conveyed serde unauthorized

theorem exchange_eq_directBehind (hcodec : setup.codec = IpcMessages.ipcCodec serde)
    (hsound : shared.poisoned = false) (system : System) (peer : Peer) (early : Bool)
    (command : DaemonCommand) (h : Conveys serde command shared.store) :
    (exchange setup serde system peer early command shared).1 =
        (directBehind (checkOf setup system peer early shared) command shared.store).1 ∧
      (exchange setup serde system peer early command shared).2.store =
        (directBehind (checkOf setup system peer early shared) command shared.store).2 ∧
      (exchange setup serde system peer early command shared).2.poisoned = false := by
  obtain ⟨json, hjson, hlength⟩ := h.request.written
  have hsent : CliClient.send serde command.request [] = (.ok (), frame json) :=
    CliClient.send_of_toVec hjson []
  have hread : readRequest setup.codec (frame json) =
      .ok (CliClient.asIpcRequest command.request) := by
    have harrived := CliClient.readRequestFrom_sent (requestFits_request command)
      h.request.undoes hjson hlength []
    rw [List.append_nil] at harrived
    rw [hcodec, ← IpcMessages.readRequestFrom_fst, harrived]
  rcases hverified : verifyTrafficConeBinary setup.crates system setup.ourUid peer.pid peer.uid
    setup.knownHashes shared.cache with ⟨process | message | _, cache⟩
  · have hdispatched := @dispatch_request setup.crates system setup.knownHashes
      { shared with cache } hsound command
    simp only [exchange, hsent, serveConnection, checkOf, hverified,
      handleConnection_of_read hread, hdispatched, directBehind, Bool.not_true, Bool.and_false,
      Bool.false_eq_true, if_false, receive_repliedWith h.response, Outcome.ok_bind,
      shown_responseOf]
    exact ⟨trivial, trivial, hsound⟩
  · simp only [exchange, hsent, serveConnection, checkOf, hverified]
    cases early with
    | true => exact ⟨rfl, rfl, hsound⟩
    | false =>
        simp only [directBehind, Bool.false_and, Bool.false_eq_true, if_false,
          receive_repliedWith h.refusal, Outcome.ok_bind]
        refine ⟨?_, trivial, hsound⟩
        cases command <;> rfl
  · simp only [exchange, hsent, serveConnection, checkOf, hverified]
    cases early with
    | true => exact ⟨rfl, rfl, hsound⟩
    | false => exact ⟨rfl, rfl, hsound⟩

theorem perform_of_unconnected (cause : String) (system : System) (peer : Peer) (early : Bool)
    (command : DaemonCommand) (shared : Shared) :
    perform setup serde (.error cause) system peer early command shared =
      (.err (.connect connectContext cause), shared) := rfl

theorem perform_of_connected (system : System) (peer : Peer) (early : Bool)
    (command : DaemonCommand) (shared : Shared) :
    perform setup serde (.ok ()) system peer early command shared =
      exchange setup serde system peer early command shared := rfl

theorem perform_eq_directBehind (hcodec : setup.codec = IpcMessages.ipcCodec serde)
    (hsound : shared.poisoned = false) (connected : Except String Unit) (system : System)
    (peer : Peer) (early : Bool) (command : DaemonCommand)
    (h : Conveys serde command shared.store) :
    (perform setup serde connected system peer early command shared).1 =
        (directBehind (admissionOf setup connected system peer early shared) command
          shared.store).1 ∧
      (perform setup serde connected system peer early command shared).2.store =
        (directBehind (admissionOf setup connected system peer early shared) command
          shared.store).2 ∧
      (perform setup serde connected system peer early command shared).2.poisoned = false := by
  cases connected with
  | error cause =>
      rw [perform_of_unconnected]
      exact ⟨rfl, rfl, hsound⟩
  | ok _ =>
      rw [perform_of_connected]
      exact exchange_eq_directBehind hcodec hsound system peer early command h

/-- There is no address for the name, so whatever listens where, no command comes to a
connection. -/
theorem perform_by_name (attempt : Bytes → Except String Unit) (system : System) (peer : Peer)
    (early : Bool) (command : DaemonCommand) (shared : Shared) :
    perform setup serde (connectByName attempt) system peer early command shared =
      (.err (.connect connectContext "paths must not contain interior null bytes"), shared) := by
  have haddress : connectAddress socketName =
      .err "paths must not contain interior null bytes" := by
    decide +kernel
  rw [connectByName, haddress]
  exact perform_of_unconnected _ system peer early command shared

end Conveying

section Runs

variable {setup : Setup} {serde : SerdeJson}

/-- A command is carried out, or anything else happens to what the servers share. -/
inductive Action where
  | others (shared : Shared)
  | command (connected : Except String Unit) (system : System) (peer : Peer) (early : Bool)
      (command : DaemonCommand)

def act (setup : Setup) (serde : SerdeJson) (shared : Shared) :
    Action → Shared × List (Outcome ClientError (List String))
  | .others after => (after, [])
  | .command connected system peer early command =>
      ((perform setup serde connected system peer early command shared).2,
        [(perform setup serde connected system peer early command shared).1])

/-- The same without connections: a store, and what is asked of it behind a check. -/
inductive Question where
  | becomes (store : Store)
  | asks (admission : Admission) (command : DaemonCommand)

def answer (store : Store) : Question → Store × List (Outcome ClientError (List String))
  | .becomes after => (after, [])
  | .asks admission command =>
      ((directBehind admission command store).2, [(directBehind admission command store).1])

def questionAt (setup : Setup) (shared : Shared) : Action → Question
  | .others after => .becomes after.store
  | .command connected system peer early command =>
      .asks (admissionOf setup connected system peer early shared) command

/-- What the actions of a run ask of the store, each in the state that it finds. -/
def questions (setup : Setup) (serde : SerdeJson) (shared : Shared) (action : Action) :
    Shared × List Question :=
  ((act setup serde shared action).1, [questionAt setup shared action])

/-- The mutex is not poisoned when a command comes, and its messages are conveyed. -/
def Reaches (serde : SerdeJson) (shared : Shared) : Action → Prop
  | .others _ => True
  | .command _ _ _ _ command => shared.poisoned = false ∧ Conveys serde command shared.store

theorem run_act (hcodec : setup.codec = IpcMessages.ipcCodec serde)
    {shared : Shared} {actions : List Action}
    (hreaches : Along (act setup serde) (Reaches serde) shared actions) :
    (run (act setup serde) shared actions).2 =
        (run answer shared.store (run (questions setup serde) shared actions).2).2 ∧
      (run (act setup serde) shared actions).1.store =
        (run answer shared.store (run (questions setup serde) shared actions).2).1 := by
  refine @run_translated _ _ _ _ _ (act setup serde) answer Shared.store (questions setup serde)
    (Reaches serde) ?_ shared actions hreaches
  intro state action haction
  refine ⟨questionAt setup state action, rfl, ?_⟩
  cases action with
  | others after => rfl
  | command connected system peer early command =>
      obtain ⟨hprinted, hstore, -⟩ := perform_eq_directBehind hcodec haction.1 connected system
        peer early command haction.2
      simp only [answer, questionAt, act, hprinted, hstore]

/-- What the commands print over the connections that come about, with frames, texts, the check
of the peer and the daemon's handlers in between, is what they come to on the store itself. By
the name of the socket none comes about, and then they say so and do nothing. -/
theorem commands_act_on_the_store (hcodec : setup.codec = IpcMessages.ipcCodec serde)
    {shared : Shared} {actions : List Action}
    (hreaches : Along (act setup serde) (Reaches serde) shared actions) :
    ((run (act setup serde) shared actions).2 =
        (run answer shared.store (run (questions setup serde) shared actions).2).2 ∧
      (run (act setup serde) shared actions).1.store =
        (run answer shared.store (run (questions setup serde) shared actions).2).1) ∧
      ∀ attempt system peer early command after,
        perform setup serde (connectByName attempt) system peer early command after =
          (.err (.connect connectContext "paths must not contain interior null bytes"), after) :=
  ⟨run_act hcodec hreaches, perform_by_name⟩

end Runs

section Office

open TrafficCone.BackupRoundTrip (officeDatabase)
open TrafficCone.ClaimedPidInfluence (twoAppsSystem coneIsKnown)
open TrafficCone.IpcMessages (listedTexts)

def officeMessages : List JsonValues.Json :=
  [CliClient.encodeRequest .lock, CliClient.encodeRequest .listCerts, encodeResponse unauthorized,
    encodeResponse .ok, encodeResponse (responseOf .list .locked)]

def officeSerde : SerdeJson := listedTexts officeMessages

def officeSetup : Setup where
  crates := plainCrates
  codec := IpcMessages.ipcCodec officeSerde
  ourUid := 1000
  knownHashes := coneIsKnown

def officeShared : Shared :=
  { store := .unlocked officeDatabase [1], poisoned := false, cache := fun _ => none }

/-- A value whose text is not that of a value before it is read back. -/
theorem undoes_at {values : List JsonValues.Json} {index : Nat} (hindex : index < values.length)
    (hfirst : ∀ other (hother : other < index),
      asBytes values[other].print ≠ asBytes values[index].print) :
    (listedTexts values).Undoes values[index] := by
  intro text htext
  obtain rfl := Except.ok.inj htext
  have hfound : values.find? (fun json => asBytes json.print = asBytes values[index].print) =
      some values[index] := by
    rw [List.find?_eq_some_iff_getElem]
    exact ⟨by simp, index, hindex, rfl, fun other hother => by simpa using hfirst other hother⟩
  simp only [listedTexts, hfound]

theorem conveyed_unauthorized : Conveyed officeSerde unauthorized :=
  ⟨trivial, @undoes_at officeMessages 2 (by decide) (by decide +kernel), _, rfl,
    by decide +kernel⟩

theorem conveys_lock : Conveys officeSerde .lock (.unlocked officeDatabase [1]) where
  request := ⟨@undoes_at officeMessages 0 (by decide) (by decide +kernel), _, rfl,
    by decide +kernel⟩
  response := ⟨trivial, @undoes_at officeMessages 3 (by decide) (by decide +kernel), _, rfl,
    by decide +kernel⟩
  refusal := conveyed_unauthorized

theorem conveys_list : Conveys officeSerde .list .locked where
  request := ⟨@undoes_at officeMessages 1 (by decide) (by decide +kernel), _, rfl,
    by decide +kernel⟩
  response := ⟨trivial, @undoes_at officeMessages 4 (by decide) (by decide +kernel), _, rfl,
    by decide +kernel⟩
  refusal := conveyed_unauthorized

def conePeer : Peer := { pid := 5, uid := 1000 }

/-- `cone` locks the store and finds nothing to list any more. -/
def officeActions : List Action :=
  [.command (.ok ()) twoAppsSystem conePeer false .lock,
    .command (.ok ()) twoAppsSystem conePeer false .list]

theorem reaches_officeActions :
    Along (act officeSetup officeSerde) (Reaches officeSerde) officeShared officeActions := by
  obtain ⟨-, hlocked, hsound⟩ := @perform_eq_directBehind officeSetup officeSerde officeShared rfl
    rfl (.ok ()) twoAppsSystem conePeer false .lock conveys_lock
  have hadmitted : admissionOf officeSetup (.ok ()) twoAppsSystem conePeer false officeShared =
      .admitted := by
    decide +kernel
  rw [hadmitted] at hlocked
  refine ⟨⟨rfl, conveys_lock⟩, ⟨hsound, ?_⟩, trivial⟩
  exact hlocked ▸ conveys_list

theorem commands_of_officeActions :
    ((run (act officeSetup officeSerde) officeShared officeActions).2 =
        (run answer officeShared.store
          (run (questions officeSetup officeSerde) officeShared officeActions).2).2 ∧
      (run (act officeSetup officeSerde) officeShared officeActions).1.store =
        (run answer officeShared.store
          (run (questions officeSetup officeSerde) officeShared officeActions).2).1) ∧
      ∀ attempt system peer early command after,
        perform officeSetup officeSerde (connectByName attempt) system peer early command after =
          (.err (.connect connectContext "paths must not contain interior null bytes"), after) :=
  commands_act_on_the_store rfl reaches_officeActions

end Office

end TrafficCone.DaemonCommands
