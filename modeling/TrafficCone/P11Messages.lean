import TrafficCone.IpcMessages
import TrafficCone.P11Client
import TrafficCone.RestrictionSoundness

namespace TrafficCone.P11Messages

open TrafficCone.Outcomes
open TrafficCone.StoreModels
open TrafficCone.JsonValues
open TrafficCone.P11Client
open TrafficCone.IpcMessages
open TrafficCone.LinkedCrates
open TrafficCone.ProcReaders
open TrafficCone.IpcServing (dispatch)
open TrafficCone.RestrictionSoundness

def encodeRequest : P11Client.Request → Json
  | .listCerts => tagged "ListCerts" []
  | .sign pid data => tagged "Sign" [("pid", encodeUnsigned pid), ("data", encodeBytes data)]

def decodeCertInfo : Decoder CertInfo := fun json => do
  let id ← field "id" decodeString json
  let label ← field "label" decodeString json
  let certDer ← field "cert_der" decodeBytes json
  let fingerprint ← field "fingerprint" decodeString json
  pure { id := id, label := label, certDer := certDer, fingerprint := fingerprint }

def decodeCerts : Decoder P11Client.Response := fun json => do
  let certs ← field "certs" (decodeArray decodeCertInfo) json
  pure (.certs certs)

def decodeSignature : Decoder P11Client.Response := fun json => do
  let certId ← field "cert_id" decodeString json
  let signature ← field "signature" decodeBytes json
  pure (.signature certId signature)

def decodeError : Decoder P11Client.Response := fun json => do
  let message ← field "message" decodeString json
  pure (.error message)

def decodeStatus : Decoder P11Client.Response := fun json => do
  let locked ← field "locked" decodeBool json
  let certCount ← field "cert_count" (decodeUnsigned UInt64.size) json
  pure (.status locked certCount)

def decodeResponse : Decoder P11Client.Response :=
  decodeTagged
    [("Certs", decodeCerts),
      ("Signature", decodeSignature),
      ("Error", decodeError),
      ("Pong", decodeUnit .pong),
      ("Ok", decodeUnit .ok),
      ("Status", decodeStatus)]

def p11Codec (serde : SerdeJson) : P11Codec where
  encodeRequest request := serde.toVec (encodeRequest request)
  decodeResponse := serde.decode decodeResponse

def RequestFits : P11Client.Request → Prop
  | .listCerts => True
  | .sign pid _ => pid < UInt32.size

def asIpcRequest : P11Client.Request → IpcServing.Request
  | .listCerts => .listCerts
  | .sign pid data => .sign pid data

def SameCert (summary : IpcServing.CertSummary) (info : CertInfo) : Prop :=
  info.id = summary.id ∧ info.label = summary.label ∧ info.fingerprint = summary.fingerprint

/-- The library's response to a response of the daemon: the same variant with the same
fields, and of a list as many certificates in the same order. -/
def Corresponds : IpcServing.Response → P11Client.Response → Prop
  | .pong, received => received = .pong
  | .signature certId signature, received => received = .signature certId signature
  | .certs certs, received => ∃ infos, received = .certs infos ∧ List.Forall₂ SameCert certs infos
  | .status locked certCount, received => received = .status locked certCount
  | .ok, received => received = .ok
  | .error message, received => received = .error message

def RequestAgrees (request : P11Client.Request) : Prop :=
  decodeRequest (encodeRequest request) = .ok (asIpcRequest request)

def ResponseAgrees (response : IpcServing.Response) : Prop :=
  ∃ received, decodeResponse (encodeResponse response) = .ok received ∧
    Corresponds response received

theorem requestAgrees {request : P11Client.Request} (h : RequestFits request) :
    RequestAgrees request := by
  cases request with
  | listCerts => rfl
  | sign pid data => exact decodeRequest_sign h data

/-- A summary has no DER bytes, without which the library reads no certificate. -/
theorem decodeCertInfo_encodeCertSummary (cert : IpcServing.CertSummary) :
    decodeCertInfo (encodeCertSummary cert) = .error (.missingField "cert_der") := by
  rw [decodeCertInfo, encodeCertSummary, field_cons_self (by simp), decodeString, ok_bind,
    field_cons_of_ne (by decide), field_cons_self (by simp), decodeString, ok_bind,
    field_missing (by simp), error_bind]

theorem decodeCerts_cons (cert : IpcServing.CertSummary) (certs : List IpcServing.CertSummary) :
    decodeCerts (.object [("certs", .array ((cert :: certs).map encodeCertSummary))]) =
      .error (.missingField "cert_der") := by
  rw [decodeCerts, field_cons_self (by simp), List.map_cons,
    decodeArray_cons_error (decodeCertInfo_encodeCertSummary cert), error_bind]

theorem decodeResponse_certs_cons (cert : IpcServing.CertSummary)
    (certs : List IpcServing.CertSummary) :
    decodeResponse (encodeResponse (.certs (cert :: certs))) =
      .error (.missingField "cert_der") := by
  rw [encodeResponse, decodeResponse, decodeTagged_tagged rfl (by simp), decodeCerts_cons]

theorem decodeSignature_fields (certId : String) (signature : Bytes) :
    decodeSignature (.object
      [("cert_id", .string certId), ("signature", encodeBytes signature)]) =
      .ok (.signature certId signature) := by
  rw [decodeSignature, field_cons_self (by simp), decodeString, ok_bind,
    field_cons_of_ne (by decide), field_cons_self (by simp), decodeBytes_encodeBytes]
  rfl

theorem decodeStatus_fields {certCount : Nat} (h : certCount < UInt64.size) (locked : Bool) :
    decodeStatus (.object
      [("locked", .bool locked), ("cert_count", encodeUnsigned certCount)]) =
      .ok (.status locked certCount) := by
  rw [decodeStatus, field_cons_self (by simp), decodeBool, ok_bind,
    field_cons_of_ne (by decide), field_cons_self (by simp), decodeUnsigned_encodeUnsigned h]
  rfl

/-- What the library reads of each response of the daemon. -/
theorem decodeResponse_encodeResponse {response : IpcServing.Response}
    (h : ResponseFits response) :
    decodeResponse (encodeResponse response) =
      match response with
      | .pong => .ok .pong
      | .signature certId signature => .ok (.signature certId signature)
      | .certs [] => .ok (.certs [])
      | .certs (_ :: _) => .error (.missingField "cert_der")
      | .status locked certCount => .ok (.status locked certCount)
      | .ok => .ok .ok
      | .error message => .ok (.error message) := by
  rw [decodeResponse]
  cases response with
  | pong => rfl
  | signature certId signature =>
      rw [encodeResponse, decodeTagged_tagged rfl (by simp), decodeSignature_fields]
  | certs certs =>
      cases certs with
      | nil => rfl
      | cons cert certs => exact decodeResponse_certs_cons cert certs
  | status locked certCount =>
      rw [encodeResponse, decodeTagged_tagged rfl (by simp), decodeStatus_fields h]
  | ok => rfl
  | error message => rfl

/-- A list with a certificate in it ends the library's enumeration in a protocol error. -/
theorem answerFrom_certs_cons {serde : SerdeJson} {cert : IpcServing.CertSummary}
    {certs : List IpcServing.CertSummary} {text : Bytes}
    (hundoes : serde.Undoes (encodeResponse (.certs (cert :: certs))))
    (htext : serde.toVec (encodeResponse (.certs (cert :: certs))) = .ok text) :
    answerFrom (p11Codec serde) .listCerts text = .err .protocol := by
  have hdecoded : (p11Codec serde).decodeResponse text =
      .error (serde.describe (.missingField "cert_der")) := by
    change serde.decode decodeResponse text = _
    rw [decode_of_toVec hundoes htext, decodeResponse_certs_cons]
    rfl
  rw [answerFrom, hdecoded]
  rfl

/-- Every request is understood, and every response but a list with a certificate in it. -/
theorem wire_agreement_iff {request : P11Client.Request} {response : IpcServing.Response}
    (hrequest : RequestFits request) (hresponse : ResponseFits response) :
    RequestAgrees request ∧
      (ResponseAgrees response ↔ ¬ ∃ cert certs, response = .certs (cert :: certs)) := by
  refine ⟨requestAgrees hrequest, ?_⟩
  rw [ResponseAgrees, decodeResponse_encodeResponse hresponse]
  cases response with
  | certs certs =>
      cases certs with
      | nil => simp [Corresponds]
      | cons cert certs => simp
  | _ => simp [Corresponds]

theorem sign_and_empty_list_agree :
    RequestAgrees (.sign 7 [1, 2]) ∧ ResponseAgrees (.certs []) := by
  obtain ⟨hrequest, hresponse⟩ := @wire_agreement_iff (.sign 7 [1, 2]) (.certs [])
    (show 7 < UInt32.size by decide) (by simp [ResponseFits])
  exact ⟨hrequest, hresponse.mpr (by simp)⟩

/-- The daemon lists the one certificate of a store, and the library cannot read the list. -/
theorem listed_cert_is_not_read :
    ∃ response, (dispatch plainCrates (quietSystem [] []) (fun _ => none) .listCerts
        { store := .unlocked appOnlyDatabase [], poisoned := false, cache := fun _ => none }).1 =
          .ok response ∧
      ResponseFits response ∧ ¬ ResponseAgrees response := by
  refine ⟨.certs
    [{ id := "c1", label := "Laptop", fingerprint := "f1", subject := "CN=laptop",
       notAfter := 1 }], by decide, ?_, ?_⟩
  · intro cert hcert
    rw [List.mem_singleton.mp hcert]
    exact ⟨by decide, by decide⟩
  · rintro ⟨received, hreceived, -⟩
    rw [decodeResponse_certs_cons] at hreceived
    cases hreceived

end TrafficCone.P11Messages
