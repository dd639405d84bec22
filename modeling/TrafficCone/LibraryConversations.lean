import TrafficCone.CachedConnection
import TrafficCone.CrashConditions
import TrafficCone.P11Messages
import TrafficCone.P11Module
import TrafficCone.TransducerRuns

namespace TrafficCone.LibraryConversations

open TrafficCone.Outcomes
open TrafficCone.StoreModels
open TrafficCone.LinkedCrates
open TrafficCone.LengthFraming
open TrafficCone.ProcReaders
open TrafficCone.PidRouting
open TrafficCone.CrashConditions
open TrafficCone.IpcServing (Shared IpcCodec handleConnection)
open TrafficCone.IpcMessages (encodeResponse)
open TrafficCone.P11Messages (decodeResponse)
open TrafficCone.P11Client
open TrafficCone.P11Module
open TrafficCone.CachedConnection
open TrafficCone.TransducerRuns

section Conversations

variable {σ : Type}

/-- `send_request`, until there is something to read. -/
def sendRequest (codec : P11Codec) (server : Server σ) (attempt : Attempt) :
    Effect (World σ) P11Error Unit := do
  onConnection (getConnection attempt.connects)
  daemonActs server attempt.before
  let json ← onConnection (withStream (writeLength codec attempt.request))
  daemonActs server attempt.between
  onConnection (withStream (writeAll json))
  awaitResponse server

def recvResponse (codec : P11Codec) : Effect (World σ) P11Error Response :=
  onConnection (withStream (readResponse codec))

def converse (codec : P11Codec) (server : Server σ) (attempt : Attempt) :
    Effect (World σ) P11Error Response := do
  sendRequest codec server attempt
  recvResponse codec

theorem perform_eq_converse (codec : P11Codec) (server : Server σ) (attempt : Attempt) :
    perform codec server attempt =
      converse codec server attempt >>= fun response =>
        Effect.lift (answerOf attempt.request response) := by
  simp only [perform, converse, sendRequest, recvResponse, Effect.bind_assoc]

def heard : Outcome P11Error Response → Except P11Error Response
  | .ok response => .ok response
  | .err error => .error error
  | .panicked => .error .unavailable

/-- The library in its process, and its connection with the daemon behind it. -/
structure Live (σ : Type) where
  module : ModuleState
  world : World σ

def fresh (daemon : σ) : Live σ := { module := loaded, world := start daemon }

/-- What the process calls, with whether a connection comes about and with the daemon's actions
in the meantime; and what changes the
daemon's state while the library is not talking to it. -/
inductive LibraryCall (σ : Type) where
  | cInitialize (connects : Bool) (before between : Nat)
  | cFinalize
  | cFindObjectsInit (connects : Bool) (before between : Nat)
  | cFindObjects (phObject pulCount : Bool) (max : Nat)
  | cGetAttributeValue (object : Nat)
  | cSignInit (key : Nat)
  | cSign (pid : Nat) (arguments : SignArguments) (connects : Bool) (before between : Nat)
  | daemonChanges (daemon : σ)

/-- What a call hands to its caller. -/
inductive Handed where
  | returned (value : ReturnValue)
  | found (handles : List Nat)
  | attribute (value : ReturnValue)
  | signStarted (value : ReturnValue)
  | signed (signed : Signed)
  deriving DecidableEq, Repr

def World.quiet (world : World σ) : World σ := { world with replied := [] }

def talk (codec : P11Codec) (server : Server σ) (attempt : Attempt) (world : World σ) :
    Except P11Error Response × World σ :=
  let result := converse codec server attempt (World.quiet world)
  (heard result.1, result.2)

def step (codec : P11Codec) (server : Server σ) (live : Live σ) :
    LibraryCall σ → Live σ × List Handed
  | .cInitialize connects before between =>
      let answer := talk codec server ⟨.listCerts, connects, before, between⟩ live.world
      let called := cInitialize (fun _ => answer.1) live.module
      ({ module := called.2, world := answer.2 }, [.returned called.1])
  | .cFinalize =>
      -- `disconnect` drops the cached stream first.
      let called := cFinalize live.module
      ({ module := called.2
         world := { World.quiet live.world with connection := none, served := false } },
        [.returned called.1])
  | .cFindObjectsInit connects before between =>
      let answer := talk codec server ⟨.listCerts, connects, before, between⟩ live.world
      ({ module := rewindSearch (refreshCerts (fun _ => answer.1) live.module)
         world := answer.2 }, [.returned .ok])
  | .cFindObjects phObject pulCount max =>
      let called := cFindObjects phObject pulCount max live.module
      ({ module := called.2.2, world := World.quiet live.world },
        [.returned called.1, .found called.2.1])
  | .cGetAttributeValue object =>
      ({ live with world := World.quiet live.world },
        [.attribute (cGetAttributeValue object live.module)])
  | .cSignInit key =>
      let called := cSignInit key live.module
      ({ module := called.2, world := World.quiet live.world }, [.signStarted called.1])
  | .cSign pid arguments connects before between =>
      match signRequest pid arguments live.module with
      | .error value =>
          ({ live with world := World.quiet live.world },
            [.signed { value := value, signature := none, length := none }])
      | .ok request =>
          let answer := talk codec server ⟨request, connects, before, between⟩ live.world
          ({ live with world := answer.2 },
            [.signed (cSign pid (fun _ => answer.1) arguments live.module)])
  | .daemonChanges daemon => ({ live with world := { World.quiet live.world with daemon } }, [])

end Conversations

section Coned

/-- `coned` at the other end, with the files of the system as they are at the time. -/
def conedServer (crates : Crates) (codec : IpcCodec) (knownHashes : KnownHashes) (peerPid : Nat)
    (encode : IpcServing.Response → Bytes) : Server (Shared × System) where
  answer daemon stream :=
    match handleConnection crates daemon.2 codec knownHashes stream peerPid daemon.1 with
    | (.ok response, after) => (some (encode response), after, daemon.2)
    | (.err message, after) => (some (encode (.error message)), after, daemon.2)
    | (.panicked, after) => (none, after, daemon.2)

/-- Whatever the server writes is the text of a response. -/
def Speaks {σ : Type} (encode : IpcServing.Response → Bytes) (server : Server σ) : Prop :=
  ∀ daemon stream text, (server.answer daemon stream).1 = some text →
    ∃ response, text = encode response

theorem speaks_conedServer (crates : Crates) (codec : IpcCodec) (knownHashes : KnownHashes)
    (peerPid : Nat) (encode : IpcServing.Response → Bytes) :
    Speaks encode (conedServer crates codec knownHashes peerPid encode) := by
  intro daemon stream text htext
  simp only [conedServer] at htext
  split at htext
  · exact ⟨_, (Option.some.inj htext).symm⟩
  · exact ⟨_, (Option.some.inj htext).symm⟩
  · cases htext

/-- What the library reads of the text of a response is what its JSON value decodes to. -/
def ReadsAsWritten (codec : P11Codec) (encode : IpcServing.Response → Bytes) : Prop :=
  ∀ response read, codec.decodeResponse (encode response) = .ok read →
    decodeResponse (encodeResponse response) = .ok read

theorem readsAsWritten_p11Codec {serde : IpcMessages.SerdeJson}
    {encode : IpcServing.Response → Bytes}
    (hwrites : ∀ response, serde.toVec (encodeResponse response) = .ok (encode response))
    (hundoes : ∀ response, serde.Undoes (encodeResponse response)) :
    ReadsAsWritten (P11Messages.p11Codec serde) encode := by
  intro response read hread
  have hdecoded : (P11Messages.p11Codec serde).decodeResponse (encode response) =
      (decodeResponse (encodeResponse response)).mapError serde.describe :=
    IpcMessages.decode_of_toVec (hundoes response) (hwrites response) decodeResponse
  rw [hdecoded] at hread
  cases hresponse : decodeResponse (encodeResponse response) with
  | error error =>
      rw [hresponse] at hread
      cases hread
  | ok other =>
      rw [hresponse] at hread
      rw [Except.ok.inj hread]

/-- The library reads no list of certificates but the empty one. -/
theorem certs_of_decodeResponse {response : IpcServing.Response} {infos : List CertInfo}
    (h : decodeResponse (encodeResponse response) = .ok (.certs infos)) : infos = [] := by
  cases response with
  | pong => cases h
  | ok => cases h
  | error message => cases h
  | signature certId signature =>
      rw [encodeResponse, decodeResponse, JsonValues.decodeTagged_tagged rfl (by simp),
        P11Messages.decodeSignature_fields] at h
      cases h
  | certs certs =>
      cases certs with
      | nil => exact (Response.certs.inj (Except.ok.inj h)).symm
      | cons cert certs =>
          rw [P11Messages.decodeResponse_certs_cons] at h
          cases h
  | status locked certCount =>
      rw [encodeResponse, decodeResponse, JsonValues.decodeTagged_tagged rfl (by simp),
        P11Messages.decodeStatus, JsonValues.field_cons_self (by simp), JsonValues.decodeBool,
        JsonValues.ok_bind, JsonValues.field_cons_of_ne (by decide),
        JsonValues.field_cons_self (by simp)] at h
      cases hcount : JsonValues.decodeUnsigned UInt64.size
          (JsonValues.encodeUnsigned certCount) <;> rw [hcount] at h <;> cases h

end Coned

section Genuineness

variable {σ : Type} {encode : IpcServing.Response → Bytes} {codec : P11Codec} {server : Server σ}
  {world : World σ}

/-- What has arrived on the cached connection and has not been read is the frame of one
response, once the daemon has answered on it. -/
structure Genuine (encode : IpcServing.Response → Bytes) (world : World σ) : Prop where
  unserved : ∀ socket, world.connection = some socket → world.served = false →
    socket.arrived = []
  arrived : ∀ socket, world.connection = some socket →
    socket.arrived = [] ∨ ∃ response, (encode response).length < UInt32.size ∧
      socket.arrived = frame (encode response)

/-- The responses of the call have lengths that their frames can tell. -/
def Short (world : World σ) : Prop := ∀ text ∈ world.replied, text.length < UInt32.size

instance (world : World σ) : Decidable (Short world) :=
  inferInstanceAs (Decidable (∀ text ∈ world.replied, text.length < UInt32.size))

def GenuineIfShort (encode : IpcServing.Response → Bytes) (world : World σ) : Prop :=
  Short world → Genuine encode world

/-- The client's step does not read, and a connection that is new is empty. -/
def KeepsArrived {α : Type} (body : Effect P11Client.Connection P11Error α) : Prop :=
  ∀ connection socket', (body connection).2 = some socket' →
    (connection = none ∧ socket'.arrived = []) ∨
      ∃ socket, connection = some socket ∧ socket'.arrived = socket.arrived

theorem keepsArrived_getConnection (accepted : Bool) :
    KeepsArrived (getConnection accepted) := by
  intro connection socket' h
  cases connection with
  | none =>
      cases accepted with
      | false => cases h
      | true =>
          obtain rfl := Option.some.inj h
          exact Or.inl ⟨rfl, rfl⟩
  | some socket =>
      obtain rfl := Option.some.inj h
      exact Or.inr ⟨socket, rfl, rfl⟩

theorem keepsArrived_withStream {α : Type} {body : Effect Socket P11Error α}
    (hbody : ∀ socket, (body socket).2.arrived = socket.arrived) :
    KeepsArrived (withStream body) := by
  intro connection socket' h
  cases connection with
  | none => cases h
  | some socket =>
      obtain rfl := Option.some.inj h
      exact Or.inr ⟨socket, rfl, hbody socket⟩

theorem arrived_writeAll (bytes : Bytes) (socket : Socket) :
    (writeAll bytes socket).2.arrived = socket.arrived := by
  rw [writeAll]
  split <;> rfl

theorem arrived_writeLength (codec : P11Codec) (request : Request) (socket : Socket) :
    (writeLength codec request socket).2.arrived = socket.arrived := by
  rw [writeLength]
  cases codec.encodeRequest request with
  | error error => rfl
  | ok json =>
      rw [Outcome.ofExcept_ok, Outcome.mapErr_ok, Effect.lift_ok_bind, Effect.bind_pure_snd]
      exact arrived_writeAll _ socket

theorem genuine_onConnection {α : Type} {body : Effect P11Client.Connection P11Error α}
    (hbody : KeepsArrived body) (h : Genuine encode world) :
    Genuine encode (onConnection body world).2 where
  unserved socket' hsocket hserved := by
    rcases hbody _ _ hsocket with ⟨-, hempty⟩ | ⟨socket, hbefore, hsame⟩
    · exact hempty
    · rw [hsame]
      refine h.unserved socket hbefore ?_
      simpa [onConnection, hbefore] using hserved
  arrived socket' hsocket := by
    rcases hbody _ _ hsocket with ⟨-, hempty⟩ | ⟨socket, hbefore, hsame⟩
    · exact Or.inl hempty
    · rw [hsame]
      exact h.arrived socket hbefore

theorem keeps_onConnection {α : Type} {body : Effect P11Client.Connection P11Error α}
    (hbody : KeepsArrived body) :
    Effect.Keeps (onConnection body) (GenuineIfShort (σ := σ) encode) fun _ => True :=
  fun _ h => ⟨fun hshort => genuine_onConnection hbody (h hshort), fun _ _ => trivial⟩

theorem Genuine.closed (h : Genuine encode world) {socket : Socket}
    (hsocket : world.connection = some socket) :
    Genuine encode
      ({ world with connection := some { socket with closed := true } } : World σ) where
  unserved other hother hserved := by
    obtain rfl := Option.some.inj hother
    exact h.unserved socket hsocket hserved
  arrived other hother := by
    obtain rfl := Option.some.inj hother
    exact h.arrived socket hsocket

theorem genuineIfShort_act (hspeaks : Speaks encode server) (h : GenuineIfShort encode world) :
    GenuineIfShort encode (act server world) := by
  intro hshort
  cases hconnection : world.connection with
  | none =>
      have hact : act server world = world := by simp only [act, hconnection]
      rw [hact] at hshort ⊢
      exact h hshort
  | some socket =>
      cases hserved : world.served with
      | true =>
          have hact : act server world =
              { world with connection := some { socket with closed := true } } := by
            simp [act, hconnection, hserved]
          rw [hact] at hshort ⊢
          exact (h hshort).closed hconnection
      | false =>
          cases hrequest : requestArrived socket.sent with
          | false =>
              have hact : act server world = world := by
                simp [act, hconnection, hserved, hrequest]
              rw [hact] at hshort ⊢
              exact h hshort
          | true =>
              rcases hanswer : server.answer world.daemon socket.sent with ⟨_ | text, daemon⟩
              · have hact : act server world =
                    { world with
                      connection := some { socket with closed := true }
                      served := true
                      daemon := daemon } := by
                  simp [act, hconnection, hserved, hrequest, hanswer]
                rw [hact] at hshort ⊢
                have hkept := (h hshort).closed hconnection
                exact ⟨fun _ _ hfalse => Bool.noConfusion hfalse, hkept.arrived⟩
              · obtain ⟨response, rfl⟩ :=
                  hspeaks world.daemon socket.sent text (by rw [hanswer])
                have hact : act server world =
                    { connection := some { socket with
                        arrived := socket.arrived ++ frame (encode response) }
                      served := true
                      daemon := daemon
                      replied := world.replied ++ [encode response] } := by
                  simp [act, hconnection, hserved, hrequest, hanswer]
                rw [hact] at hshort ⊢
                have hbefore : Short world :=
                  fun text htext => hshort text (List.mem_append_left _ htext)
                refine ⟨fun _ _ hfalse => Bool.noConfusion hfalse, ?_⟩
                intro other hother
                obtain rfl := Option.some.inj hother
                refine Or.inr ⟨response, hshort _ (by simp), ?_⟩
                -- Nothing was there before the response.
                rw [(h hbefore).unserved socket hconnection hserved, List.nil_append]

theorem genuineIfShort_acts (hspeaks : Speaks encode server) (count : Nat)
    (h : GenuineIfShort encode world) : GenuineIfShort encode (acts server count world) := by
  induction count generalizing world with
  | zero => exact h
  | succ count ih => exact ih (genuineIfShort_act hspeaks h)

theorem keeps_daemonActs (hspeaks : Speaks encode server) (count : Nat) :
    Effect.Keeps (daemonActs server count) (GenuineIfShort encode) fun _ => True :=
  fun _ h => ⟨genuineIfShort_acts hspeaks count h, fun _ _ => trivial⟩

theorem keeps_awaitResponse (hspeaks : Speaks encode server) :
    Effect.Keeps (awaitResponse server) (GenuineIfShort encode) fun _ => True := by
  intro world h
  refine ⟨?_, fun _ _ => trivial⟩
  rw [awaitResponse]
  split
  · exact h
  · split
    · exact genuineIfShort_act hspeaks h
    · exact genuineIfShort_act hspeaks (genuineIfShort_act hspeaks h)

theorem keeps_sendRequest (hspeaks : Speaks encode server) (codec : P11Codec)
    (attempt : Attempt) :
    Effect.Keeps (sendRequest codec server attempt) (GenuineIfShort encode) fun _ => True := by
  rw [sendRequest]
  refine (keeps_onConnection (keepsArrived_getConnection attempt.connects)).bind fun _ _ => ?_
  refine (keeps_daemonActs hspeaks attempt.before).bind fun _ _ => ?_
  refine (keeps_onConnection
    (keepsArrived_withStream (arrived_writeLength codec attempt.request))).bind fun json _ => ?_
  refine (keeps_daemonActs hspeaks attempt.between).bind fun _ _ => ?_
  refine (keeps_onConnection (keepsArrived_withStream (arrived_writeAll json))).bind fun _ _ => ?_
  exact keeps_awaitResponse hspeaks

theorem readResponse_of_empty {socket : Socket} (h : socket.arrived = []) :
    readResponse codec socket = (.err .unavailable, socket) := by
  have hnothing : readBytes 4 socket = (.err .unavailable, socket) := by
    obtain ⟨sent, arrived, closed⟩ := socket
    obtain rfl : arrived = [] := h
    rfl
  rw [readResponse, Effect.bind_of_err hnothing]

/-- What is read is the text of a response, and nothing is left of it. -/
theorem recvResponse_of_genuine (h : Genuine encode world) :
    (∀ read, (recvResponse codec world).1 = .ok read →
        ∃ response, codec.decodeResponse (encode response) = .ok read) ∧
      Genuine encode (recvResponse codec world).2 := by
  cases hconnection : world.connection with
  | none =>
      have hread : recvResponse codec world =
          (.err .unavailable, { world with connection := none, served := false }) := by
        simp [recvResponse, onConnection, withStream, hconnection]
      rw [hread]
      refine ⟨fun _ hok => (by cases hok), ⟨?_, ?_⟩⟩ <;> intro socket hsocket <;> cases hsocket
  | some socket =>
      have hresult : ∀ outcome socket', readResponse codec socket = (outcome, socket') →
          recvResponse codec world = (outcome, { world with connection := some socket' }) := by
        intro outcome socket' hread
        simp [recvResponse, onConnection, hconnection, withStream_some hread]
      rcases h.arrived socket hconnection with hempty | ⟨response, hshort, hframe⟩
      · rw [hresult _ _ (readResponse_of_empty hempty), ← hconnection]
        exact ⟨fun _ hok => (by cases hok), h⟩
      · have hframed : takeFrame socket.arrived = some (encode response, []) := by
          have htaken := takeFrame_frame hshort []
          rwa [List.append_nil, ← hframe] at htaken
        rw [hresult _ _ (readResponse_of_takeFrame hframed)]
        refine ⟨?_, ⟨?_, ?_⟩⟩
        · intro read hread
          exact ⟨response, Outcome.ofExcept_eq_ok_iff.mp (Outcome.mapErr_eq_ok_iff.mp hread)⟩
        · intro other hother _
          obtain rfl := Option.some.inj hother
          rfl
        · intro other hother
          obtain rfl := Option.some.inj hother
          exact Or.inl rfl

theorem replied_recvResponse (codec : P11Codec) (world : World σ) :
    (recvResponse codec world).2.replied = world.replied := rfl

theorem converse_of_genuine (hspeaks : Speaks encode server) (attempt : Attempt)
    (h : GenuineIfShort encode world)
    (hshort : Short (converse codec server attempt world).2) :
    (∀ read, (converse codec server attempt world).1 = .ok read →
        ∃ response, codec.decodeResponse (encode response) = .ok read) ∧
      Genuine encode (converse codec server attempt world).2 := by
  have hkept := (keeps_sendRequest hspeaks codec attempt world h).1
  rcases hsent : sendRequest codec server attempt world with ⟨_ | error | _, sent⟩
  · rw [hsent] at hkept
    rw [converse, Effect.bind_of_ok hsent] at hshort ⊢
    exact recvResponse_of_genuine (hkept hshort)
  · rw [hsent] at hkept
    rw [converse, Effect.bind_of_err hsent] at hshort ⊢
    exact ⟨fun _ hok => (by cases hok), hkept hshort⟩
  · rw [hsent] at hkept
    rw [converse, Effect.bind_of_panicked hsent] at hshort ⊢
    exact ⟨fun _ hok => (by cases hok), hkept hshort⟩

end Genuineness

section Runs

variable {σ : Type} {encode : IpcServing.Response → Bytes} {codec : P11Codec} {server : Server σ}
  {live : Live σ}

/-- Nothing is listed, nothing is pending, and no bytes of anything else have arrived. -/
structure Idle (encode : IpcServing.Response → Bytes) (live : Live σ) : Prop where
  certs : live.module.certs = []
  signHandle : live.module.signHandle = none
  world : Genuine encode live.world

/-- The caller has got no object, and no signature. -/
def EmptyHanded : Handed → Prop
  | .returned _ => True
  | .found handles => handles = []
  | .attribute value => value = .objectHandleInvalid
  | .signStarted value => value = .objectHandleInvalid
  | .signed signed => signed.value ≠ .ok ∧ signed.signature = none ∧ signed.length = none

/-- During the call the daemon writes no response of four gigabytes or more. -/
def ShortReplies (codec : P11Codec) (server : Server σ) (live : Live σ) (call : LibraryCall σ) :
    Prop :=
  Short (step codec server live call).1.world

instance (codec : P11Codec) (server : Server σ) (live : Live σ) (call : LibraryCall σ) :
    Decidable (ShortReplies codec server live call) :=
  inferInstanceAs (Decidable (Short (step codec server live call).1.world))

theorem listedCerts_of_heard (hreads : ReadsAsWritten codec encode)
    {outcome : Outcome P11Error Response}
    (h : ∀ read, outcome = .ok read →
      ∃ response, codec.decodeResponse (encode response) = .ok read) :
    listedCerts (fun _ => heard outcome) = [] := by
  rw [listedCerts, ask]
  cases outcome with
  | err error => rfl
  | panicked => rfl
  | ok read =>
      obtain ⟨response, hread⟩ := h read rfl
      cases read with
      | certs infos =>
          obtain rfl := certs_of_decodeResponse (hreads response _ hread)
          rfl
      | signature certId signature => rfl
      | error message => rfl
      | pong => rfl
      | ok => rfl
      | status locked certCount => rfl

theorem Genuine.quiet {world : World σ} (h : Genuine encode world) :
    Genuine encode (World.quiet world) :=
  ⟨h.unserved, h.arrived⟩

theorem talk_of_genuine (hspeaks : Speaks encode server) (attempt : Attempt)
    {world : World σ} (h : Genuine encode world)
    (hshort : Short (talk codec server attempt world).2) (hreads : ReadsAsWritten codec encode) :
    listedCerts (fun _ => (talk codec server attempt world).1) = [] ∧
      Genuine encode (talk codec server attempt world).2 := by
  obtain ⟨hread, hgenuine⟩ := converse_of_genuine hspeaks attempt (fun _ => h.quiet) hshort
  exact ⟨listedCerts_of_heard hreads hread, hgenuine⟩

theorem denoted_of_idle (h : Idle encode live) (handle : Nat) :
    denoted live.module handle = none := by
  rw [denoted, h.certs]
  rfl

theorem found_of_idle (h : Idle encode live) (phObject pulCount : Bool) (max : Nat) :
    (cFindObjects phObject pulCount max live.module).2.1 = [] := by
  rw [cFindObjects, h.certs]
  split
  · rfl
  · rw [takeObjects_eq]
    simp

theorem signRequest_of_idle (h : Idle encode live) (pid : Nat) (arguments : SignArguments) :
    ∃ value, value ≠ .ok ∧ signRequest pid arguments live.module = .error value := by
  rw [signRequest]
  rw [h.signHandle]
  split
  · exact ⟨.generalError, by decide, rfl⟩
  · exact ⟨.argumentsBad, by decide, rfl⟩

theorem idle_step (hspeaks : Speaks encode server) (hreads : ReadsAsWritten codec encode)
    (h : Idle encode live) (call : LibraryCall σ) (hshort : ShortReplies codec server live call) :
    Idle encode (step codec server live call).1 ∧
      ∀ handed ∈ (step codec server live call).2, EmptyHanded handed := by
  cases call with
  | cInitialize connects before between =>
      obtain ⟨hcerts, hworld⟩ :=
        talk_of_genuine hspeaks ⟨.listCerts, connects, before, between⟩ h.world hshort hreads
      refine ⟨⟨hcerts, h.signHandle, hworld⟩, ?_⟩
      simp [step, EmptyHanded]
  | cFinalize =>
      refine ⟨⟨rfl, h.signHandle, ⟨?_, ?_⟩⟩, by simp [step, EmptyHanded]⟩ <;>
        intro socket hsocket <;> cases hsocket
  | cFindObjectsInit connects before between =>
      obtain ⟨hcerts, hworld⟩ :=
        talk_of_genuine hspeaks ⟨.listCerts, connects, before, between⟩ h.world hshort hreads
      refine ⟨⟨hcerts, h.signHandle, hworld⟩, ?_⟩
      simp [step, EmptyHanded]
  | cFindObjects phObject pulCount max =>
      obtain ⟨position, hstate⟩ := cFindObjects_state phObject pulCount max live.module
      refine ⟨⟨?_, ?_, h.world.quiet⟩, ?_⟩
      · simp only [step, hstate]
        exact h.certs
      · simp only [step, hstate]
        exact h.signHandle
      · simp [step, EmptyHanded, found_of_idle h]
  | cGetAttributeValue object =>
      refine ⟨⟨h.certs, h.signHandle, h.world.quiet⟩, ?_⟩
      simp [step, EmptyHanded, cGetAttributeValue, denoted_of_idle h]
  | cSignInit key =>
      have hrefused := cSignInit_of_none (denoted_of_idle h key)
      refine ⟨⟨?_, ?_, h.world.quiet⟩, ?_⟩
      · simp only [step, hrefused]
        exact h.certs
      · simp only [step, hrefused]
        exact h.signHandle
      · simp [step, EmptyHanded, hrefused]
  | cSign pid arguments connects before between =>
      obtain ⟨value, hvalue, hrequest⟩ := signRequest_of_idle h pid arguments
      have hstep : step codec server live (.cSign pid arguments connects before between) =
          ({ live with world := World.quiet live.world },
            [.signed { value := value, signature := none, length := none }]) := by
        rw [step, hrequest]
      rw [hstep]
      refine ⟨⟨h.certs, h.signHandle, h.world.quiet⟩, ?_⟩
      simp [EmptyHanded, hvalue]
  | daemonChanges daemon =>
      exact ⟨⟨h.certs, h.signHandle, h.world.unserved, h.world.arrived⟩, by simp [step]⟩

theorem idle_fresh (daemon : σ) : Idle encode (fresh daemon) := by
  refine ⟨rfl, rfl, ⟨?_, ?_⟩⟩ <;> intro socket hsocket <;> cases hsocket

/-- Whatever is in the store, whatever the daemon does for others, and whether connections come
about or not, no run of the library's calls against `coned` finds an object, can begin a
signature or gets one. -/
theorem library_signs_nothing (crates : Crates) (ipcCodec : IpcCodec) (knownHashes : KnownHashes)
    (peerPid : Nat) (hreads : ReadsAsWritten codec encode) (daemon : Shared × System)
    (calls : List (LibraryCall (Shared × System)))
    (hshort : Along
      (step codec (conedServer crates ipcCodec knownHashes peerPid encode))
      (ShortReplies codec (conedServer crates ipcCodec knownHashes peerPid encode))
      (fresh daemon) calls) :
    ∀ handed ∈ (run (step codec (conedServer crates ipcCodec knownHashes peerPid encode))
      (fresh daemon) calls).2, EmptyHanded handed := by
  have hspeaks := speaks_conedServer crates ipcCodec knownHashes peerPid encode
  exact (@run_of_along _ _ _ _ _ (Idle encode) EmptyHanded
    (fun _ call hidle hcall => idle_step hspeaks hreads hidle call hcall) _ _
    (idle_fresh daemon) hshort).2

end Runs

section OneCertificate

open TrafficCone.ClaimedPidInfluence (twoAppsSystem coneIsKnown)
open TrafficCone.RestrictionSoundness (appOnlyDatabase)

def listingTexts : IpcServing.Response → Bytes
  | .certs [] => noCertsText
  | _ => []

theorem readsAsWritten_listing : ReadsAsWritten listingCodec listingTexts := by
  intro response read hread
  by_cases hempty : response = .certs []
  · subst hempty
    have hlisted : listingCodec.decodeResponse (listingTexts (.certs [])) = .ok (.certs []) := by
      simp [listingCodec, listingTexts]
    rw [Except.ok.inj (hread.symm.trans hlisted)]
    rfl
  · have hnothing : listingTexts response = [] := by
      cases response with
      | certs certs =>
          cases certs with
          | nil => exact absurd rfl hempty
          | cons cert certs => rfl
      | _ => rfl
    rw [hnothing] at hread
    cases hread

/-- A client that looks for objects, and tries to sign with the first one there should be. -/
def signingClient : List (LibraryCall (Shared × System)) :=
  [.cInitialize true 0 0, .cFindObjectsInit true 1 0, .cFindObjects true true 8,
    .cGetAttributeValue 0, .cSignInit 0,
    .cSign 7 { data := some [1], hasSignature := true, signatureLen := some 64 } true 0 0,
    .cFinalize]

def oneCertDaemon : Shared × System :=
  ({ store := .unlocked appOnlyDatabase [], poisoned := false, cache := fun _ => none },
    twoAppsSystem)

theorem library_signs_nothing_office :
    ReadsAsWritten listingCodec listingTexts ∧
      ∀ handed ∈ (run (step listingCodec (conedServer plainCrates
          (IpcServing.phrasebook [(listText, .listCerts)]) coneIsKnown 5 listingTexts))
        (fresh oneCertDaemon) signingClient).2, EmptyHanded handed :=
  ⟨readsAsWritten_listing,
    library_signs_nothing plainCrates (IpcServing.phrasebook [(listText, .listCerts)]) coneIsKnown
      5 readsAsWritten_listing oneCertDaemon signingClient (by decide)⟩

end OneCertificate

end TrafficCone.LibraryConversations
