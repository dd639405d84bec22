import TrafficCone.IpcServing
import TrafficCone.JsonValues

namespace TrafficCone.IpcMessages

open TrafficCone.Outcomes
open TrafficCone.StoreModels
open TrafficCone.LengthFraming
open TrafficCone.JsonValues
open TrafficCone.IpcServing

/-- The text layer of the JSON crate. -/
structure SerdeJson where
  toVec : Json → Except String Bytes
  fromSlice : Bytes → Except String Json
  describe : JsonError → String

/-- Reading the text of a value gives the value back. -/
def SerdeJson.Undoes (serde : SerdeJson) (json : Json) : Prop :=
  ∀ text, serde.toVec json = .ok text → serde.fromSlice text = .ok json

/-- A text layer, to run the model on, that reads just the texts of the listed values. -/
def listedTexts (values : List Json) : SerdeJson where
  toVec json := .ok (asBytes json.print)
  fromSlice text :=
    match values.find? fun json => asBytes json.print = text with
    | some json => .ok json
    | none => .error "expected value at line 1 column 1"
  describe _ := "invalid value"

def SerdeJson.decode {α : Type} (serde : SerdeJson) (decoder : Decoder α) (text : Bytes) :
    Except String α :=
  match serde.fromSlice text with
  | .error error => .error error
  | .ok json => (decoder json).mapError serde.describe

def decodeSign : Decoder Request := fun json => do
  let pid ← field "pid" (decodeUnsigned UInt32.size) json
  let data ← field "data" decodeBytes json
  pure (.sign pid data)

def decodeRequest : Decoder Request :=
  decodeTagged
    [("Ping", decodeUnit .ping),
      ("Sign", decodeSign),
      ("ListCerts", decodeUnit .listCerts),
      ("Status", decodeUnit .status),
      ("Lock", decodeUnit .lock)]

def encodeCertSummary (cert : CertSummary) : Json :=
  .object
    [("id", .string cert.id),
      ("label", .string cert.label),
      ("fingerprint", .string cert.fingerprint),
      ("subject", .string cert.subject),
      ("not_after", .integer cert.notAfter)]

def encodeResponse : Response → Json
  | .pong => tagged "Pong" []
  | .signature certId signature =>
      tagged "Signature" [("cert_id", .string certId), ("signature", encodeBytes signature)]
  | .certs certs => tagged "Certs" [("certs", .array (certs.map encodeCertSummary))]
  | .status locked certCount =>
      tagged "Status" [("locked", .bool locked), ("cert_count", encodeUnsigned certCount)]
  | .ok => tagged "Ok" []
  | .error message => tagged "Error" [("message", .string message)]

def ipcCodec (serde : SerdeJson) : IpcCodec where
  decodeRequest := serde.decode decodeRequest

def SummaryFits (cert : CertSummary) : Prop :=
  Int64.minValue.toInt ≤ cert.notAfter ∧ cert.notAfter ≤ Int64.maxValue.toInt

/-- The numbers of a response fit the types of its fields. -/
def ResponseFits : Response → Prop
  | .certs certs => ∀ cert ∈ certs, SummaryFits cert
  | .status _ certCount => certCount < UInt64.size
  | _ => True

/-- Take the next bytes from a stream; a stream that ends before is used up. -/
def readBytes (count : Nat) : Effect Bytes String Bytes := fun stream =>
  match readExact count stream with
  | some (bytes, rest) => (.ok bytes, rest)
  | none => (.err "failed to fill whole buffer", [])

/-- Read a length-prefixed request from the stream. -/
def readRequestFrom (codec : IpcCodec) : Effect Bytes String Request := do
  let lenBytes ← readBytes 4
  let len := fromBigEndian lenBytes
  if 1024 * 1024 < len then
    Effect.lift (.err ("Request too large: " ++ toString len ++ " bytes"))
  else do
    let buf ← readBytes len
    Effect.lift ((Outcome.ofExcept (codec.decodeRequest buf)).mapErr
      fun error => "failed to parse request: " ++ error)

def writeAll (bytes : Bytes) : Effect Bytes String Unit := fun written =>
  (.ok (), written ++ bytes)

/-- Write a length-prefixed response to the stream. -/
def sendResponse (serde : SerdeJson) (response : Response) : Effect Bytes String Unit := do
  let json ← Effect.lift (Outcome.ofExcept (serde.toVec (encodeResponse response)))
  writeAll (toBigEndian json.length)
  writeAll json

theorem decode_of_toVec {α : Type} {serde : SerdeJson} {json : Json} {text : Bytes}
    (hundoes : serde.Undoes json) (htext : serde.toVec json = .ok text) (decoder : Decoder α) :
    serde.decode decoder text = (decoder json).mapError serde.describe := by
  rw [SerdeJson.decode, hundoes text htext]

theorem listedTexts_undoes (json : Json) (values : List Json) :
    (listedTexts (json :: values)).Undoes json := by
  intro text htext
  obtain rfl := Except.ok.inj htext
  simp [listedTexts]

theorem decodeRequest_sign {pid : Nat} (hpid : pid < UInt32.size) (data : Bytes) :
    decodeRequest (tagged "Sign" [("pid", encodeUnsigned pid), ("data", encodeBytes data)]) =
      .ok (.sign pid data) := by
  have hdecoder : decodeRequest (tagged "Sign"
      [("pid", encodeUnsigned pid), ("data", encodeBytes data)]) = decodeSign (.object
        [("pid", encodeUnsigned pid), ("data", encodeBytes data)]) :=
    decodeTagged_tagged rfl (by simp)
  rw [hdecoder, decodeSign, field_cons_self (by simp), decodeUnsigned_encodeUnsigned hpid,
    ok_bind, field_cons_of_ne (by decide), field_cons_self (by simp), decodeBytes_encodeBytes]
  rfl

theorem readBytes_append (first rest : Bytes) :
    readBytes first.length (first ++ rest) = (.ok first, rest) := by
  rw [readBytes, readExact_append]

theorem readBytes_four_frame (message rest : Bytes) :
    readBytes 4 (frame message ++ rest) = (.ok (toBigEndian message.length), message ++ rest) := by
  rw [readBytes, readExact_four_frame]

theorem readRequestFrom_fst (codec : IpcCodec) (stream : Bytes) :
    (readRequestFrom codec stream).1 = readRequest codec stream := by
  rw [readRequest]
  cases hlength : readExact 4 stream with
  | none =>
      have hfirst : readBytes 4 stream = (.err "failed to fill whole buffer", []) := by
        rw [readBytes, hlength]
      rw [readRequestFrom, Effect.bind_of_err hfirst]
      rfl
  | some found =>
      obtain ⟨lenBytes, rest⟩ := found
      have hfirst : readBytes 4 stream = (.ok lenBytes, rest) := by
        rw [readBytes, hlength]
      rw [readRequestFrom, Effect.bind_of_ok hfirst, Outcome.ofOption_some, Outcome.ok_bind]
      dsimp only
      split
      · rfl
      · rw [Effect.bind_lift_fst, readBytes]
        cases readExact (fromBigEndian lenBytes) rest <;> rfl

/-- A framed text of an admitted length is decoded, and what follows it stays unread. -/
theorem readRequestFrom_frame {text : Bytes} (hlength : text.length ≤ 1024 * 1024)
    (codec : IpcCodec) (more : Bytes) :
    readRequestFrom codec (frame text ++ more) =
      ((Outcome.ofExcept (codec.decodeRequest text)).mapErr
        fun error => "failed to parse request: " ++ error, more) := by
  have hsize : text.length % UInt32.size = text.length := by
    rw [Nat.mod_eq_of_lt]
    exact Nat.lt_of_le_of_lt hlength (by decide)
  rw [readRequestFrom, Effect.bind_of_ok (readBytes_four_frame text more),
    fromBigEndian_toBigEndian, hsize, if_neg (by omega),
    Effect.bind_of_ok (readBytes_append text more)]
  rfl

theorem sendResponse_of_toVec {serde : SerdeJson} {response : Response} {json : Bytes}
    (h : serde.toVec (encodeResponse response) = .ok json) (written : Bytes) :
    sendResponse serde response written = (.ok (), written ++ frame json) := by
  rw [sendResponse, h, Outcome.ofExcept_ok, Effect.lift_ok_bind,
    Effect.bind_of_ok (show writeAll (toBigEndian json.length) written = _ from rfl), writeAll,
    List.append_assoc, frame]

end TrafficCone.IpcMessages
