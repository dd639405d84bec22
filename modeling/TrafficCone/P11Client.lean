import TrafficCone.LengthFraming
import TrafficCone.StoreModels

namespace TrafficCone.P11Client

open TrafficCone.Outcomes
open TrafficCone.StoreModels
open TrafficCone.LengthFraming

structure P11Cert where
  id : Bytes
  label : String
  certDer : Bytes
  fingerprint : String
  deriving DecidableEq, Repr

inductive P11Error where
  | unavailable
  | protocol
  | daemonError (message : String)
  deriving DecidableEq, Repr

inductive Request where
  | listCerts
  | sign (pid : Nat) (data : Bytes)
  deriving DecidableEq, Repr

structure CertInfo where
  id : String
  label : String
  certDer : Bytes
  fingerprint : String
  deriving DecidableEq, Repr

inductive Response where
  | certs (certs : List CertInfo)
  | signature (certId : String) (signature : Bytes)
  | error (message : String)
  | pong
  | ok
  | status (locked : Bool) (certCount : Nat)
  deriving DecidableEq, Repr

inductive Answer where
  | certs (certs : List P11Cert)
  | signature (signature : Bytes)
  deriving DecidableEq, Repr

structure P11Codec where
  encodeRequest : Request → Except String Bytes
  decodeResponse : Bytes → Except String Response

/-- The client's end of a stream: what the peer has not read yet, what has arrived and
has not been read, and whether the peer has closed its end. -/
structure Socket where
  sent : Bytes
  arrived : Bytes
  closed : Bool
  deriving DecidableEq, Repr

abbrev Connection : Type := Option Socket

def Socket.connected : Socket := { sent := [], arrived := [], closed := false }

def Socket.ready (socket : Socket) : Bool :=
  socket.closed || (takeFrame socket.arrived).isSome

def getConnection (accepted : Bool) : Effect Connection P11Error Unit
  | none =>
      if accepted then (.ok (), some Socket.connected) else (.err .unavailable, none)
  | some socket => (.ok (), some socket)

def withStream {α : Type} (body : Effect Socket P11Error α) : Effect Connection P11Error α
  | none => (.err .unavailable, none)
  | some socket =>
      let result := body socket
      (result.1, some result.2)

def writeAll (bytes : Bytes) : Effect Socket P11Error Unit := fun socket =>
  if socket.closed then (.err .unavailable, socket)
  else (.ok (), { socket with sent := socket.sent ++ bytes })

/-- The first write of a request. A failed write leaves the connection cached. -/
def writeLength (codec : P11Codec) (request : Request) : Effect Socket P11Error Bytes := do
  let json ← Effect.lift ((Outcome.ofExcept (codec.encodeRequest request)).mapErr
    fun _ => P11Error.protocol)
  writeAll (toBigEndian json.length)
  pure json

/-- The next bytes, once there are so many or the stream has ended. -/
def readBytes (count : Nat) : Effect Socket P11Error Bytes := fun socket =>
  match readExact count socket.arrived with
  | some (bytes, rest) => (.ok bytes, { socket with arrived := rest })
  | none => (.err .unavailable, { socket with arrived := [] })

def readResponse (codec : P11Codec) : Effect Socket P11Error Response := do
  let lenBuf ← readBytes 4
  let buf ← readBytes (fromBigEndian lenBuf)
  Effect.lift ((Outcome.ofExcept (codec.decodeResponse buf)).mapErr fun _ => P11Error.protocol)

def listedCert (index : Nat) (cert : CertInfo) : P11Cert :=
  { id := [UInt8.ofNat index]
    label := cert.label
    certDer := cert.certDer
    fingerprint := cert.fingerprint }

def answerOf : Request → Response → Outcome P11Error Answer
  | .listCerts, .certs certs => .ok (.certs (certs.mapIdx listedCert))
  | .sign _ _, .signature _ signature => .ok (.signature signature)
  | _, .error message => .err (.daemonError message)
  | _, _ => .err .protocol

def answerFrom (codec : P11Codec) (request : Request) (text : Bytes) :
    Outcome P11Error Answer := do
  let response ← (Outcome.ofExcept (codec.decodeResponse text)).mapErr fun _ => P11Error.protocol
  answerOf request response

section Lemmas

theorem withStream_some {α : Type} {body : Effect Socket P11Error α} {socket socket' : Socket}
    {outcome : Outcome P11Error α} (h : body socket = (outcome, socket')) :
    withStream body (some socket) = (outcome, some socket') := by
  simp [withStream, h]

theorem writeAll_open {socket : Socket} (h : socket.closed = false) (bytes : Bytes) :
    writeAll bytes socket = (.ok (), { socket with sent := socket.sent ++ bytes }) := by
  simp [writeAll, h]

theorem writeAll_closed {socket : Socket} (h : socket.closed = true) (bytes : Bytes) :
    writeAll bytes socket = (.err .unavailable, socket) := by
  simp [writeAll, h]

theorem readResponse_of_takeFrame {codec : P11Codec} {socket : Socket} {text rest : Bytes}
    (h : takeFrame socket.arrived = some (text, rest)) :
    readResponse codec socket =
      ((Outcome.ofExcept (codec.decodeResponse text)).mapErr fun _ => P11Error.protocol,
        { socket with arrived := rest }) := by
  unfold takeFrame at h
  cases hlength : readExact 4 socket.arrived with
  | none => simp [hlength] at h
  | some found =>
      obtain ⟨lenBuf, after⟩ := found
      have hbody : readExact (fromBigEndian lenBuf) after = some (text, rest) := by
        simpa [hlength] using h
      have hfirst : readBytes 4 socket = (.ok lenBuf, { socket with arrived := after }) := by
        simp [readBytes, hlength]
      have hsecond : readBytes (fromBigEndian lenBuf) { socket with arrived := after } =
          (.ok text, { socket with arrived := rest }) := by
        simp [readBytes, hbody]
      unfold readResponse
      rw [Effect.bind_of_ok hfirst, Effect.bind_of_ok hsecond]
      rfl

theorem readResponse_of_none {codec : P11Codec} {socket : Socket}
    (h : takeFrame socket.arrived = none) :
    readResponse codec socket = (.err .unavailable, { socket with arrived := [] }) := by
  unfold takeFrame at h
  unfold readResponse
  cases hlength : readExact 4 socket.arrived with
  | none =>
      have hfirst : readBytes 4 socket = (.err .unavailable, { socket with arrived := [] }) := by
        simp [readBytes, hlength]
      rw [Effect.bind_of_err hfirst]
  | some found =>
      obtain ⟨lenBuf, after⟩ := found
      have hbody : readExact (fromBigEndian lenBuf) after = none := by
        simpa [hlength] using h
      have hfirst : readBytes 4 socket = (.ok lenBuf, { socket with arrived := after }) := by
        simp [readBytes, hlength]
      have hsecond : readBytes (fromBigEndian lenBuf) { socket with arrived := after } =
          (.err .unavailable, { socket with arrived := [] }) := by
        simp [readBytes, hbody]
      rw [Effect.bind_of_ok hfirst, Effect.bind_of_err hsecond]

theorem answerOf_ne_unavailable (request : Request) (response : Response) :
    answerOf request response ≠ .err .unavailable := by
  cases request <;> cases response <;> simp [answerOf]

theorem answerFrom_ne_unavailable (codec : P11Codec) (request : Request) (text : Bytes) :
    answerFrom codec request text ≠ .err .unavailable := by
  unfold answerFrom
  cases codec.decodeResponse text with
  | ok response => exact answerOf_ne_unavailable request response
  | error error => simp

end Lemmas

end TrafficCone.P11Client
