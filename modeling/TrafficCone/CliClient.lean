import TrafficCone.IpcMessages

namespace TrafficCone.CliClient

open TrafficCone.Outcomes
open TrafficCone.StoreModels
open TrafficCone.LengthFraming
open TrafficCone.JsonValues
open TrafficCone.IpcMessages

inductive Request where
  | ping
  | sign (pid : Nat) (data : Bytes)
  | listCerts
  | status
  | lock
  deriving DecidableEq, Repr

structure CertSummary where
  id : String
  label : String
  fingerprint : String
  subject : String
  notAfter : Int
  deriving DecidableEq, Repr

inductive Response where
  | pong
  | signature (certId : String) (signature : Bytes)
  | certs (certs : List CertSummary)
  | status (locked : Bool) (certCount : Nat)
  | ok
  | error (message : String)
  deriving DecidableEq, Repr

def encodeRequest : Request → Json
  | .ping => tagged "Ping" []
  | .sign pid data => tagged "Sign" [("pid", encodeUnsigned pid), ("data", encodeBytes data)]
  | .listCerts => tagged "ListCerts" []
  | .status => tagged "Status" []
  | .lock => tagged "Lock" []

def decodeCertSummary : Decoder CertSummary := fun json => do
  let id ← field "id" decodeString json
  let label ← field "label" decodeString json
  let fingerprint ← field "fingerprint" decodeString json
  let subject ← field "subject" decodeString json
  let notAfter ← field "not_after"
    (decodeInteger Int64.minValue.toInt Int64.maxValue.toInt) json
  pure
    { id := id
      label := label
      fingerprint := fingerprint
      subject := subject
      notAfter := notAfter }

def decodeSignature : Decoder Response := fun json => do
  let certId ← field "cert_id" decodeString json
  let signature ← field "signature" decodeBytes json
  pure (.signature certId signature)

def decodeCerts : Decoder Response := fun json => do
  let certs ← field "certs" (decodeArray decodeCertSummary) json
  pure (.certs certs)

def decodeStatus : Decoder Response := fun json => do
  let locked ← field "locked" decodeBool json
  let certCount ← field "cert_count" (decodeUnsigned UInt64.size) json
  pure (.status locked certCount)

def decodeError : Decoder Response := fun json => do
  let message ← field "message" decodeString json
  pure (.error message)

def decodeResponse : Decoder Response :=
  decodeTagged
    [("Pong", decodeUnit .pong),
      ("Signature", decodeSignature),
      ("Certs", decodeCerts),
      ("Status", decodeStatus),
      ("Ok", decodeUnit .ok),
      ("Error", decodeError)]

def send (serde : SerdeJson) (request : Request) : Effect Bytes String Unit := do
  let json ← Effect.lift (Outcome.ofExcept (serde.toVec (encodeRequest request)))
  writeAll (toBigEndian json.length)
  writeAll json

def recv (serde : SerdeJson) : Effect Bytes String Response := do
  let lenBuf ← readBytes 4
  let buf ← readBytes (fromBigEndian lenBuf)
  Effect.lift ((Outcome.ofExcept (serde.decode decodeResponse buf)).mapErr
    fun _ => "Failed to parse daemon response")

def RequestFits : Request → Prop
  | .sign pid _ => pid < UInt32.size
  | _ => True

def asIpcRequest : Request → IpcServing.Request
  | .ping => .ping
  | .sign pid data => .sign pid data
  | .listCerts => .listCerts
  | .status => .status
  | .lock => .lock

def receivedSummary (cert : IpcServing.CertSummary) : CertSummary :=
  { id := cert.id
    label := cert.label
    fingerprint := cert.fingerprint
    subject := cert.subject
    notAfter := cert.notAfter }

/-- The client's copy of a response of the daemon, field by field. -/
def received : IpcServing.Response → Response
  | .pong => .pong
  | .signature certId signature => .signature certId signature
  | .certs certs => .certs (certs.map receivedSummary)
  | .status locked certCount => .status locked certCount
  | .ok => .ok
  | .error message => .error message

theorem decodeRequest_encodeRequest {request : Request} (h : RequestFits request) :
    decodeRequest (encodeRequest request) = .ok (asIpcRequest request) := by
  cases request with
  | sign pid data => exact decodeRequest_sign h data
  | _ => rfl

theorem decodeCertSummary_encodeCertSummary {cert : IpcServing.CertSummary}
    (h : SummaryFits cert) :
    decodeCertSummary (encodeCertSummary cert) = .ok (receivedSummary cert) := by
  rw [decodeCertSummary, encodeCertSummary, field_cons_self (by simp), decodeString, ok_bind,
    field_cons_of_ne (by decide), field_cons_self (by simp), decodeString, ok_bind,
    field_cons_of_ne (by decide), field_cons_of_ne (by decide), field_cons_self (by simp),
    decodeString, ok_bind, field_cons_of_ne (by decide), field_cons_of_ne (by decide),
    field_cons_of_ne (by decide), field_cons_self (by simp), decodeString, ok_bind,
    field_cons_of_ne (by decide), field_cons_of_ne (by decide), field_cons_of_ne (by decide),
    field_cons_of_ne (by decide), field_cons_self (by simp), decodeInteger_integer h.1 h.2]
  rfl

theorem decodeResponse_encodeResponse {response : IpcServing.Response}
    (h : ResponseFits response) :
    decodeResponse (encodeResponse response) = .ok (received response) := by
  rw [decodeResponse]
  cases response with
  | signature certId signature =>
      rw [encodeResponse, decodeTagged_tagged rfl (by simp), decodeSignature,
        field_cons_self (by simp), decodeString, ok_bind, field_cons_of_ne (by decide),
        field_cons_self (by simp), decodeBytes_encodeBytes]
      rfl
  | certs certs =>
      rw [encodeResponse, decodeTagged_tagged rfl (by simp), decodeCerts,
        field_cons_self (by simp),
        decodeArray_map fun cert hcert => decodeCertSummary_encodeCertSummary (h cert hcert)]
      rfl
  | status locked certCount =>
      rw [encodeResponse, decodeTagged_tagged rfl (by simp), decodeStatus,
        field_cons_self (by simp), decodeBool, ok_bind, field_cons_of_ne (by decide),
        field_cons_self (by simp), decodeUnsigned_encodeUnsigned h]
      rfl
  | _ => rfl

theorem send_of_toVec {serde : SerdeJson} {request : Request} {json : Bytes}
    (h : serde.toVec (encodeRequest request) = .ok json) (written : Bytes) :
    send serde request written = (.ok (), written ++ frame json) := by
  rw [send, h, Outcome.ofExcept_ok, Effect.lift_ok_bind,
    Effect.bind_of_ok (show writeAll (toBigEndian json.length) written = _ from rfl), writeAll,
    List.append_assoc, frame]

theorem recv_frame {text : Bytes} (hlength : text.length < UInt32.size) (serde : SerdeJson)
    (more : Bytes) :
    recv serde (frame text ++ more) =
      ((Outcome.ofExcept (serde.decode decodeResponse text)).mapErr
        fun _ => "Failed to parse daemon response", more) := by
  rw [recv, Effect.bind_of_ok (readBytes_four_frame text more), fromBigEndian_toBigEndian,
    Nat.mod_eq_of_lt hlength, Effect.bind_of_ok (readBytes_append text more)]
  rfl

/-- A request reaches the daemon as it was sent, if its text is not too large. -/
theorem readRequestFrom_sent {serde : SerdeJson} {request : Request} {json : Bytes}
    (hfits : RequestFits request) (hundoes : serde.Undoes (encodeRequest request))
    (hjson : serde.toVec (encodeRequest request) = .ok json)
    (hlength : json.length ≤ 1024 * 1024) (more : Bytes) :
    readRequestFrom (ipcCodec serde) (frame json ++ more) =
      (.ok (asIpcRequest request), more) := by
  have hdecoded : (ipcCodec serde).decodeRequest json = .ok (asIpcRequest request) := by
    change serde.decode IpcMessages.decodeRequest json = _
    rw [decode_of_toVec hundoes hjson, decodeRequest_encodeRequest hfits]
    rfl
  rw [readRequestFrom_frame hlength, hdecoded]
  rfl

/-- A response reaches the client as it was sent, if its length fits the prefix. -/
theorem recv_sent {serde : SerdeJson} {response : IpcServing.Response} {json : Bytes}
    (hfits : ResponseFits response) (hundoes : serde.Undoes (encodeResponse response))
    (hjson : serde.toVec (encodeResponse response) = .ok json)
    (hlength : json.length < UInt32.size) (more : Bytes) :
    recv serde (frame json ++ more) = (.ok (received response), more) := by
  rw [recv_frame hlength, decode_of_toVec hundoes hjson, decodeResponse_encodeResponse hfits]
  rfl

/-- The command line and the daemon agree on every message, frames included. -/
theorem messages_arrive_as_sent (serde : SerdeJson) :
    (∀ request json, RequestFits request → serde.Undoes (encodeRequest request) →
      serde.toVec (encodeRequest request) = .ok json → json.length ≤ 1024 * 1024 →
        ∃ written, send serde request [] = (.ok (), written) ∧
          ∀ more, readRequestFrom (ipcCodec serde) (written ++ more) =
            (.ok (asIpcRequest request), more)) ∧
      ∀ response json, ResponseFits response → serde.Undoes (encodeResponse response) →
        serde.toVec (encodeResponse response) = .ok json → json.length < UInt32.size →
          ∃ written, sendResponse serde response [] = (.ok (), written) ∧
            ∀ more, recv serde (written ++ more) = (.ok (received response), more) := by
  constructor
  · intro request json hfits hundoes hjson hlength
    exact ⟨frame json, send_of_toVec hjson [],
      readRequestFrom_sent hfits hundoes hjson hlength⟩
  · intro response json hfits hundoes hjson hlength
    exact ⟨frame json, sendResponse_of_toVec hjson [],
      recv_sent hfits hundoes hjson hlength⟩

def sampleRequest : Request := .sign 7 [1, 2]

def sampleResponse : IpcServing.Response :=
  .certs
    [{ id := "c1", label := "Laptop", fingerprint := "f1", subject := "CN=laptop",
       notAfter := 1 }]

theorem sample_messages_arrive_as_sent :
    (∃ written, send (listedTexts [encodeRequest sampleRequest]) sampleRequest [] =
        (.ok (), written) ∧
      ∀ more, readRequestFrom (ipcCodec (listedTexts [encodeRequest sampleRequest]))
        (written ++ more) = (.ok (.sign 7 [1, 2]), more)) ∧
      ∃ written, sendResponse (listedTexts [encodeResponse sampleResponse]) sampleResponse [] =
          (.ok (), written) ∧
        ∀ more, recv (listedTexts [encodeResponse sampleResponse]) (written ++ more) =
          (.ok (received sampleResponse), more) := by
  constructor
  · apply (messages_arrive_as_sent _).1 sampleRequest _ _ (listedTexts_undoes _ _) rfl
    · decide
    · exact show 7 < UInt32.size by decide
  · apply (messages_arrive_as_sent _).2 sampleResponse _ _ (listedTexts_undoes _ _) rfl
    · decide +kernel
    · intro cert hcert
      rw [List.mem_singleton.mp hcert]
      exact ⟨by decide, by decide⟩

end TrafficCone.CliClient
