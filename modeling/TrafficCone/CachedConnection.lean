import TrafficCone.ClaimedPidInfluence
import TrafficCone.P11Client

namespace TrafficCone.CachedConnection

open TrafficCone.Outcomes
open TrafficCone.StoreModels
open TrafficCone.LinkedCrates
open TrafficCone.LengthFraming
open TrafficCone.ProcReaders
open TrafficCone.PidRouting
open TrafficCone.ClaimedPidInfluence (twoAppsSystem coneIsKnown)
open TrafficCone.IpcServing (Shared IpcCodec readRequest handleConnection)
open TrafficCone.P11Client

/-- A daemon that answers the one request of each connection: the text of its
response, unless its handler panics. -/
structure Server (σ : Type) where
  answer : σ → Bytes → Option Bytes × σ

def ipcServer (crates : Crates) (system : System) (codec : IpcCodec) (knownHashes : KnownHashes)
    (peerPid : Nat) (encode : IpcServing.Response → Bytes) : Server Shared where
  answer shared stream :=
    match handleConnection crates system codec knownHashes stream peerPid shared with
    | (.ok response, after) => (some (encode response), after)
    | (.err message, after) => (some (encode (.error message)), after)
    | (.panicked, after) => (none, after)

/-- The daemon has all it reads of a request: the length and, unless the length is too
large, the text. -/
def requestArrived (stream : Bytes) : Bool :=
  match readExact 4 stream with
  | none => false
  | some (lenBytes, rest) =>
      1024 * 1024 < fromBigEndian lenBytes || fromBigEndian lenBytes ≤ rest.length

/-- The client process and the daemon. `served` says that the daemon has answered on
the cached connection, `replied` what it has answered during the present call. -/
structure World (σ : Type) where
  connection : P11Client.Connection
  served : Bool
  daemon : σ
  replied : List Bytes

variable {σ : Type}

def start (daemon : σ) : World σ :=
  { connection := none, served := false, daemon := daemon, replied := [] }

def onConnection {α : Type} (body : Effect P11Client.Connection P11Error α) :
    Effect (World σ) P11Error α := fun world =>
  let result := body world.connection
  -- On a connection that is new nothing has been answered.
  (result.1, { world with
    connection := result.2
    served := world.served && world.connection.isSome })

/-- The daemon's next action: answer the request once it has arrived, then close. -/
def act (server : Server σ) (world : World σ) : World σ :=
  match world.connection with
  | none => world
  | some socket =>
      -- The accept loop reads one request, and then drops the stream.
      if world.served then { world with connection := some { socket with closed := true } }
      else if requestArrived socket.sent then
        match server.answer world.daemon socket.sent with
        | (some text, daemon) =>
            { connection := some { socket with arrived := socket.arrived ++ frame text }
              served := true
              daemon := daemon
              replied := world.replied ++ [text] }
        | (none, daemon) =>
            { world with
              connection := some { socket with closed := true }
              served := true
              daemon := daemon }
      else world

def acts (server : Server σ) : Nat → World σ → World σ
  | 0, world => world
  | count + 1, world => acts server count (act server world)

def daemonActs (server : Server σ) (count : Nat) : Effect (World σ) P11Error Unit := fun world =>
  (.ok (), acts server count world)

def ready (world : World σ) : Bool := world.connection.all Socket.ready

/-- The client waits for the response: the daemon goes on until there is one, or the
stream has ended. -/
def awaitResponse (server : Server σ) : Effect (World σ) P11Error Unit := fun world =>
  if ready world then (.ok (), world)
  else if ready (act server world) then (.ok (), act server world)
  else (.ok (), act server (act server world))

/-- A call of `list_certs` or `sign`, whether a connection that it asks for comes about, and how
many actions the daemon gets to before the client's first write and between its two writes. -/
structure Attempt where
  request : Request
  connects : Bool
  before : Nat
  between : Nat
  deriving DecidableEq, Repr

def perform (codec : P11Codec) (server : Server σ) (attempt : Attempt) :
    Effect (World σ) P11Error Answer := do
  onConnection (getConnection attempt.connects)
  daemonActs server attempt.before
  let json ← onConnection (withStream (writeLength codec attempt.request))
  daemonActs server attempt.between
  onConnection (withStream (writeAll json))
  awaitResponse server
  let response ← onConnection (withStream (readResponse codec))
  Effect.lift (answerOf attempt.request response)

structure Record where
  request : Request
  outcome : Outcome P11Error Answer
  replied : List Bytes
  deriving DecidableEq, Repr

def recordOf (request : Request) (result : Outcome P11Error Answer × World σ) : Record :=
  { request := request, outcome := result.1, replied := result.2.replied }

def performAll (codec : P11Codec) (server : Server σ) : World σ → List Attempt → List Record
  | _, [] => []
  | world, attempt :: rest =>
      let result := perform codec server attempt { world with replied := [] }
      recordOf attempt.request result :: performAll codec server result.2 rest

/-- The call received the daemon's response to its own request: there is one, and the
call returns what it makes of the text it reads from its frame. -/
def Received (codec : P11Codec) (record : Record) : Prop :=
  ∃ text, record.replied = [text] ∧ ∃ message rest, takeFrame (frame text) = some (message, rest) ∧
    record.outcome = answerFrom codec record.request message

def Served (codec : P11Codec) (record : Record) : Prop :=
  Received codec record ∧ record.outcome ≠ .err .unavailable

/-- What the daemon reads before it answers: a length may be enough to refuse the
request. -/
def firstRead (attempt : Attempt) (json : Bytes) : Bytes :=
  if requestArrived (toBigEndian json.length) && decide (0 < attempt.between) then
    toBigEndian json.length
  else frame json

/-- The request of a first call can be written, its handler does not panic, and the daemon
does not refuse it by its length and close before the client has written the rest. -/
def Delivered (codec : P11Codec) (server : Server σ) (daemon : σ) (attempt : Attempt) : Prop :=
  ∃ json, codec.encodeRequest attempt.request = .ok json ∧
    (server.answer daemon (firstRead attempt json)).1.isSome = true ∧
    (requestArrived (toBigEndian json.length) = true → attempt.between ≤ 1)

section Requests

/-- Once it has arrived, no later byte makes a difference to the request. -/
theorem readRequest_append {codec : IpcCodec} {stream : Bytes} (h : requestArrived stream = true)
    (more : Bytes) : readRequest codec (stream ++ more) = readRequest codec stream := by
  unfold requestArrived at h
  cases hlength : readExact 4 stream with
  | none => simp [hlength] at h
  | some found =>
      obtain ⟨lenBytes, rest⟩ := found
      obtain ⟨rfl, hfour⟩ := readExact_eq_some_iff.mp hlength
      have hmore : readExact 4 (lenBytes ++ rest ++ more) = some (lenBytes, rest ++ more) :=
        readExact_eq_some_iff.mpr ⟨List.append_assoc _ _ _, hfour⟩
      simp only [hlength, Bool.or_eq_true, decide_eq_true_eq] at h
      unfold readRequest
      simp only [hlength, hmore, Outcome.ofOption_some, Outcome.ok_bind]
      split
      · rfl
      · have hbody : fromBigEndian lenBytes ≤ rest.length := h.resolve_left ‹_›
        have hfits : fromBigEndian lenBytes ≤ rest.length + more.length := by omega
        simp [readExact, hbody, hfits, List.take_append_of_le_length hbody]

theorem requestArrived_frame (json : Bytes) : requestArrived (frame json) = true := by
  have hhead := readExact_four_frame json []
  rw [List.append_nil, List.append_nil] at hhead
  have hle : fromBigEndian (toBigEndian json.length) ≤ json.length := by
    rw [fromBigEndian_toBigEndian]
    exact Nat.mod_le _ _
  simp [requestArrived, hhead, hle]

end Requests

section FirstCall

variable {codec : P11Codec} {server : Server σ}

def opened (daemon : σ) (sent : Bytes) : World σ :=
  { connection := some { sent := sent, arrived := [], closed := false }
    served := false
    daemon := daemon
    replied := [] }

def answered (daemon : σ) (sent text : Bytes) (closed : Bool) : World σ :=
  { connection := some { sent := sent, arrived := frame text, closed := closed }
    served := true
    daemon := daemon
    replied := [text] }

def dropped (daemon : σ) (sent : Bytes) : World σ :=
  { connection := some { sent := sent, arrived := [], closed := true }
    served := true
    daemon := daemon
    replied := [] }

/-- Where one action changes nothing, none does. -/
theorem acts_of_act_eq {world : World σ} (h : act server world = world) (count : Nat) :
    acts server count world = world := by
  induction count with
  | zero => rfl
  | succ count ih => rw [acts, h, ih]

theorem acts_idle {daemon : σ} {sent : Bytes} (h : requestArrived sent = false) (count : Nat) :
    acts server count (opened daemon sent) = opened daemon sent := by
  apply acts_of_act_eq
  simp [act, opened, h]

theorem acts_answered (daemon : σ) (sent text : Bytes) (closed : Bool) (count : Nat) :
    acts server count (answered daemon sent text closed) =
      answered daemon sent text (closed || decide (0 < count)) := by
  induction count generalizing closed with
  | zero => simp [acts]
  | succ count ih =>
      have hact : act server (answered daemon sent text closed) =
          answered daemon sent text true := by simp [act, answered]
      rw [acts, hact, ih]
      simp

theorem acts_dropped (daemon : σ) (sent : Bytes) (count : Nat) :
    acts server count (dropped daemon sent) = dropped daemon sent := by
  apply acts_of_act_eq
  simp [act, dropped]

theorem act_opened_some {daemon after : σ} {sent text : Bytes} (h : requestArrived sent = true)
    (hanswer : server.answer daemon sent = (some text, after)) :
    act server (opened daemon sent) = answered after sent text false := by
  simp [act, opened, answered, h, hanswer]

theorem act_opened_none {daemon after : σ} {sent : Bytes} (h : requestArrived sent = true)
    (hanswer : server.answer daemon sent = (none, after)) :
    act server (opened daemon sent) = dropped after sent := by
  simp [act, opened, dropped, h, hanswer]

theorem perform_start (daemon : σ) {attempt : Attempt} (hconnects : attempt.connects = true) :
    perform codec server attempt (start daemon) =
      (do
        let json ← onConnection (withStream (writeLength codec attempt.request))
        daemonActs server attempt.between
        onConnection (withStream (writeAll json))
        awaitResponse server
        let response ← onConnection (withStream (readResponse codec))
        Effect.lift (answerOf attempt.request response) : Effect (World σ) P11Error Answer)
          (opened daemon []) := by
  have hconnect : onConnection (getConnection attempt.connects) (start daemon) =
      (.ok (), opened daemon []) := by
    rw [hconnects]
    rfl
  have hidle : daemonActs server attempt.before (opened daemon []) =
      (.ok (), opened daemon []) := by
    unfold daemonActs
    rw [acts_idle rfl]
  unfold perform
  rw [Effect.bind_of_ok hconnect, Effect.bind_of_ok hidle]

theorem perform_unencoded {daemon : σ} {attempt : Attempt} {error : String}
    (hconnects : attempt.connects = true)
    (h : codec.encodeRequest attempt.request = .error error) :
    perform codec server attempt (start daemon) = (.err .protocol, opened daemon []) := by
  have hlength : onConnection (withStream (writeLength codec attempt.request)) (opened daemon []) =
      (.err .protocol, opened daemon []) := by
    simp [onConnection, withStream, opened, writeLength, h, Effect.lift_err_bind, Effect.lift]
  rw [perform_start daemon hconnects, Effect.bind_of_err hlength]

def finishCall (codec : P11Codec) (server : Server σ) (attempt : Attempt) (json : Bytes) :
    Effect (World σ) P11Error Answer := do
  onConnection (withStream (writeAll json))
  awaitResponse server
  let response ← onConnection (withStream (readResponse codec))
  Effect.lift (answerOf attempt.request response)

theorem perform_encoded {daemon : σ} {attempt : Attempt} {json : Bytes}
    (hconnects : attempt.connects = true)
    (h : codec.encodeRequest attempt.request = .ok json) :
    perform codec server attempt (start daemon) =
      finishCall codec server attempt json
        (acts server attempt.between (opened daemon (toBigEndian json.length))) := by
  have hlength : onConnection (withStream (writeLength codec attempt.request)) (opened daemon []) =
      (.ok json, opened daemon (toBigEndian json.length)) := by
    have hwrite : writeLength codec attempt.request Socket.connected =
        (.ok json, { Socket.connected with sent := toBigEndian json.length }) := by
      unfold writeLength
      rw [h, Outcome.ofExcept_ok, Outcome.mapErr_ok, Effect.lift_ok_bind,
        Effect.bind_of_ok (writeAll_open rfl _)]
      rfl
    unfold onConnection
    rw [show (opened daemon [] : World σ).connection = some Socket.connected from rfl,
      withStream_some hwrite]
    rfl
  rw [perform_start daemon hconnects, Effect.bind_of_ok hlength]
  rfl

theorem finishCall_closed {attempt : Attempt} {json : Bytes} {world : World σ} {socket : Socket}
    (hsocket : world.connection = some socket) (hclosed : socket.closed = true) :
    (finishCall codec server attempt json world).1 = .err .unavailable := by
  have hwrite : onConnection (withStream (writeAll json)) world =
      (.err .unavailable, { world with served := world.served && world.connection.isSome }) := by
    unfold onConnection
    rw [hsocket, withStream_some (writeAll_closed hclosed json)]
  unfold finishCall
  rw [Effect.bind_of_err hwrite]

theorem read_answered (attempt : Attempt) (daemon : σ) (sent : Bytes) {text message rest : Bytes}
    (closed : Bool) (htext : takeFrame (frame text) = some (message, rest)) :
    (do
      let response ← onConnection (withStream (readResponse codec))
      Effect.lift (answerOf attempt.request response) : Effect (World σ) P11Error Answer)
        (answered daemon sent text closed) =
      (answerFrom codec attempt.request message,
        { answered daemon sent text closed with
          connection := some { sent := sent, arrived := rest, closed := closed } }) := by
  have hread : onConnection (withStream (readResponse codec)) (answered daemon sent text closed) =
      ((Outcome.ofExcept (codec.decodeResponse message)).mapErr fun _ => P11Error.protocol,
        { answered daemon sent text closed with
          connection := some { sent := sent, arrived := rest, closed := closed } }) := by
    unfold onConnection answered
    rw [withStream_some (readResponse_of_takeFrame htext)]
    rfl
  unfold answerFrom
  cases hresponse : codec.decodeResponse message with
  | ok response =>
      rw [hresponse] at hread
      rw [Effect.bind_of_ok hread]
      rfl
  | error error =>
      rw [hresponse] at hread
      rw [Effect.bind_of_err hread]
      rfl

theorem ready_answered (daemon : σ) (sent text : Bytes) (closed : Bool) :
    ready (answered daemon sent text closed) = true := by
  simp [ready, answered, Socket.ready, takeFrame_frame_isSome]

theorem finishCall_answered (attempt : Attempt) (daemon : σ) (sent json : Bytes)
    {text message rest : Bytes} (htext : takeFrame (frame text) = some (message, rest)) :
    finishCall codec server attempt json (answered daemon sent text false) =
      (answerFrom codec attempt.request message,
        { answered daemon (sent ++ json) text false with
          connection := some { sent := sent ++ json, arrived := rest, closed := false } }) := by
  have hwrite : onConnection (withStream (writeAll json)) (answered daemon sent text false) =
      (.ok (), answered daemon (sent ++ json) text false) := rfl
  have hawait : awaitResponse server (answered daemon (sent ++ json) text false) =
      (.ok (), answered daemon (sent ++ json) text false) := by
    simp [awaitResponse, ready_answered]
  unfold finishCall
  rw [Effect.bind_of_ok hwrite, Effect.bind_of_ok hawait, read_answered attempt _ _ _ htext]

theorem finishCall_opened {attempt : Attempt} {daemon after : σ} {json : Bytes}
    {text message rest : Bytes} (htext : takeFrame (frame text) = some (message, rest))
    (hanswer : server.answer daemon (frame json) = (some text, after)) :
    finishCall codec server attempt json (opened daemon (toBigEndian json.length)) =
      (answerFrom codec attempt.request message,
        { answered after (frame json) text false with
          connection := some { sent := frame json, arrived := rest, closed := false } }) := by
  have hwrite : onConnection (withStream (writeAll json))
      (opened daemon (toBigEndian json.length)) = (.ok (), opened daemon (frame json)) := rfl
  have hact := act_opened_some (requestArrived_frame json) hanswer
  have hawait : awaitResponse server (opened daemon (frame json)) =
      (.ok (), answered after (frame json) text false) := by
    unfold awaitResponse
    rw [if_neg (by simp [ready, opened, Socket.ready]), hact, if_pos (ready_answered _ _ _ _)]
  unfold finishCall
  rw [Effect.bind_of_ok hwrite, Effect.bind_of_ok hawait, read_answered attempt _ _ _ htext]

theorem finishCall_dropped {attempt : Attempt} {daemon after : σ} {json : Bytes}
    (hanswer : server.answer daemon (frame json) = (none, after)) :
    (finishCall codec server attempt json (opened daemon (toBigEndian json.length))).1 =
      .err .unavailable := by
  have hwrite : onConnection (withStream (writeAll json))
      (opened daemon (toBigEndian json.length)) = (.ok (), opened daemon (frame json)) := rfl
  have hact := act_opened_none (requestArrived_frame json) hanswer
  have hawait : awaitResponse server (opened daemon (frame json)) =
      (.ok (), dropped after (frame json)) := by
    unfold awaitResponse
    rw [if_neg (by simp [ready, opened, Socket.ready]), hact,
      if_pos (by simp [ready, dropped, Socket.ready])]
  have hread : onConnection (withStream (readResponse codec)) (dropped after (frame json)) =
      (.err .unavailable, dropped after (frame json)) := by
    unfold onConnection dropped
    rw [withStream_some (readResponse_of_none takeFrame_nil)]
    rfl
  unfold finishCall
  rw [Effect.bind_of_ok hwrite, Effect.bind_of_ok hawait, Effect.bind_of_err hread]

theorem served_of_answer {attempt : Attempt} {text message rest : Bytes} {world : World σ}
    (htext : takeFrame (frame text) = some (message, rest)) (hreplied : world.replied = [text]) :
    Served codec
      (recordOf attempt.request (answerFrom codec attempt.request message, world)) :=
  ⟨⟨text, hreplied, message, rest, htext, rfl⟩, answerFrom_ne_unavailable _ _ _⟩

theorem exists_takeFrame_frame (text : Bytes) :
    ∃ message rest, takeFrame (frame text) = some (message, rest) := by
  obtain ⟨⟨message, rest⟩, h⟩ := Option.isSome_iff_exists.mp (takeFrame_frame_isSome text)
  exact ⟨message, rest, h⟩

theorem not_served_of_unavailable {request : Request} {result : Outcome P11Error Answer × World σ}
    (h : result.1 = .err .unavailable) : ¬ Served codec (recordOf request result) :=
  fun hserved => hserved.2 h

theorem served_opened_iff (attempt : Attempt) (daemon : σ) (json : Bytes) :
    Served codec (recordOf attempt.request (finishCall codec server attempt json
      (opened daemon (toBigEndian json.length)))) ↔
        (server.answer daemon (frame json)).1.isSome = true := by
  rcases hanswer : server.answer daemon (frame json) with ⟨_ | text, after⟩
  · refine iff_of_false (not_served_of_unavailable (finishCall_dropped hanswer)) (by simp)
  · obtain ⟨message, rest, htext⟩ := exists_takeFrame_frame text
    rw [finishCall_opened htext hanswer]
    exact iff_of_true (served_of_answer htext rfl) rfl

theorem served_early_iff {attempt : Attempt} (daemon : σ) {json : Bytes} {more : Nat}
    (harrived : requestArrived (toBigEndian json.length) = true)
    (hbetween : attempt.between = more + 1) :
    Served codec (recordOf attempt.request (finishCall codec server attempt json
      (acts server attempt.between (opened daemon (toBigEndian json.length))))) ↔
        (server.answer daemon (toBigEndian json.length)).1.isSome = true ∧ more = 0 := by
  rw [hbetween, acts]
  rcases hanswer : server.answer daemon (toBigEndian json.length) with ⟨_ | text, after⟩
  · rw [act_opened_none harrived hanswer, acts_dropped]
    exact iff_of_false (not_served_of_unavailable (finishCall_closed rfl rfl)) (by simp)
  · rw [act_opened_some harrived hanswer, acts_answered]
    cases more with
    | zero =>
        obtain ⟨message, rest, htext⟩ := exists_takeFrame_frame text
        have hfinish := @finishCall_answered _ codec server attempt after
          (toBigEndian json.length) json _ _ _ htext
        simp only [Nat.lt_irrefl, decide_false, Bool.or_false] at hfinish ⊢
        rw [hfinish]
        exact iff_of_true (served_of_answer htext rfl) ⟨rfl, trivial⟩
    | succ more =>
        refine iff_of_false (not_served_of_unavailable ?_) (by simp)
        exact finishCall_closed rfl (by simp)

theorem served_first_iff (daemon : σ) {attempt : Attempt} (hconnects : attempt.connects = true) :
    Served codec (recordOf attempt.request (perform codec server attempt (start daemon))) ↔
      Delivered codec server daemon attempt := by
  cases hjson : codec.encodeRequest attempt.request with
  | error error =>
      rw [perform_unencoded hconnects hjson]
      refine iff_of_false ?_ ?_
      · rintro ⟨⟨text, hreplied, -⟩, -⟩
        cases hreplied
      · rintro ⟨json, hencoded, -⟩
        rw [hjson] at hencoded
        cases hencoded
  | ok json =>
      rw [perform_encoded hconnects hjson]
      have hdelivered : Delivered codec server daemon attempt ↔
          (server.answer daemon (firstRead attempt json)).1.isSome = true ∧
            (requestArrived (toBigEndian json.length) = true → attempt.between ≤ 1) := by
        simp [Delivered, hjson]
      rw [hdelivered]
      cases harrived : requestArrived (toBigEndian json.length) with
      | false =>
          rw [acts_idle harrived, served_opened_iff]
          simp [firstRead, harrived]
      | true =>
          cases hbetween : attempt.between with
          | zero =>
              rw [acts, served_opened_iff]
              simp [firstRead, harrived, hbetween]
          | succ more =>
              rw [← hbetween, served_early_iff daemon harrived hbetween]
              simp [firstRead, harrived, hbetween]

end FirstCall

section LaterCalls

variable {codec : P11Codec} {server : Server σ}

/-- What every client step that keeps a connection and every action of the daemon keep,
a call keeps. -/
theorem perform_keeps {invariant : World σ → Prop}
    (hclient : ∀ {α : Type} (body : Effect P11Client.Connection P11Error α),
      (∀ socket, (body (some socket)).2.isSome = true) →
        Effect.Keeps (onConnection body) invariant fun _ => True)
    (hact : ∀ world, invariant world → invariant (act server world)) (attempt : Attempt) :
    Effect.Keeps (perform codec server attempt) invariant fun _ => True := by
  have hacts : ∀ count world, invariant world → invariant (acts server count world) := by
    intro count
    induction count with
    | zero => exact fun _ h => h
    | succ count ih => exact fun world h => ih _ (hact world h)
  have hdaemon : ∀ count, Effect.Keeps (daemonActs server count) invariant fun _ => True :=
    fun count world h => ⟨hacts count world h, fun _ _ => trivial⟩
  have hawait : Effect.Keeps (awaitResponse server) invariant fun _ => True := by
    intro world h
    refine ⟨?_, fun _ _ => trivial⟩
    unfold awaitResponse
    split
    · exact h
    · split
      · exact hact _ h
      · exact hact _ (hact _ h)
  have hstream : ∀ {α : Type} (body : Effect Socket P11Error α),
      Effect.Keeps (onConnection (withStream body)) invariant fun _ => True :=
    fun body => hclient _ fun _ => rfl
  unfold perform
  refine (hclient _ fun _ => rfl).bind fun _ _ => ?_
  refine (hdaemon _).bind fun _ _ => ?_
  refine (hstream _).bind fun _ _ => ?_
  refine (hdaemon _).bind fun _ _ => ?_
  refine (hstream _).bind fun _ _ => ?_
  refine hawait.bind fun _ _ => ?_
  refine (hstream _).bind fun _ _ => ?_
  exact Effect.keeps_lift fun _ _ => trivial

/-- The daemon has answered on the cached connection, and nothing since. -/
def Silent (world : World σ) : Prop :=
  world.served = true ∧ world.connection.isSome = true ∧ world.replied = []

theorem perform_keeps_silent (attempt : Attempt) :
    Effect.Keeps (perform codec server attempt) Silent fun _ => True := by
  apply perform_keeps
  · intro α body hbody world h
    refine ⟨?_, fun _ _ => trivial⟩
    obtain ⟨hserved, hsome, hreplied⟩ := h
    obtain ⟨socket, hsocket⟩ := Option.isSome_iff_exists.mp hsome
    refine ⟨?_, ?_, hreplied⟩
    · simp [onConnection, hserved, hsome]
    · simpa [onConnection, hsocket] using hbody socket
  · intro world h
    obtain ⟨hserved, hsome, hreplied⟩ := h
    obtain ⟨socket, hsocket⟩ := Option.isSome_iff_exists.mp hsome
    simp [act, Silent, hsocket, hserved, hreplied]

def Settled (world : World σ) : Prop :=
  world.replied ≠ [] → world.served = true ∧ world.connection.isSome = true

theorem perform_keeps_settled (attempt : Attempt) :
    Effect.Keeps (perform codec server attempt) Settled fun _ => True := by
  apply perform_keeps
  · intro α body hbody world h
    refine ⟨?_, fun _ _ => trivial⟩
    intro hreplied
    obtain ⟨hserved, hsome⟩ := h hreplied
    obtain ⟨socket, hsocket⟩ := Option.isSome_iff_exists.mp hsome
    refine ⟨by simp [onConnection, hserved, hsome], ?_⟩
    simpa [onConnection, hsocket] using hbody socket
  · intro world h
    unfold act
    split
    · exact h
    · split
      · exact fun hreplied => ⟨(h hreplied).1, rfl⟩
      · split
        · split
          · exact fun _ => ⟨rfl, rfl⟩
          · exact fun _ => ⟨rfl, rfl⟩
        · exact h

/-- On a connection that the daemon has answered on, no call gets a response. -/
theorem not_served_of_silent {world : World σ} (hsilent : Silent world) (attempt : Attempt) :
    ¬ Served codec (recordOf attempt.request (perform codec server attempt world)) := by
  rintro ⟨⟨text, hreplied, -⟩, -⟩
  have hkept := (@perform_keeps_silent _ codec server attempt world hsilent).1
  rw [recordOf, hkept.2.2] at hreplied
  cases hreplied

/-- Where connections come about, every call of a thread is served exactly if it is the only
one, and can be delivered. -/
theorem calls_served_iff (codec : P11Codec) (server : Server σ) (daemon : σ)
    (attempts : List Attempt) (hconnects : ∀ attempt ∈ attempts, attempt.connects = true) :
    (∀ record ∈ performAll codec server (start daemon) attempts, Served codec record) ↔
      attempts.length ≤ 1 ∧ ∀ attempt ∈ attempts, Delivered codec server daemon attempt := by
  match attempts with
  | [] => simp [performAll]
  | [attempt] =>
      simp only [performAll, List.mem_singleton, forall_eq, List.length_singleton, le_refl,
        true_and]
      exact served_first_iff daemon (hconnects attempt (List.mem_singleton_self attempt))
  | first :: second :: rest =>
      refine iff_of_false ?_ (by simp)
      intro hall
      -- If the first call was answered, the second finds the connection used up.
      simp only [performAll, List.mem_cons, forall_eq_or_imp] at hall
      obtain ⟨⟨⟨text, hreplied, -⟩, -⟩, hsecond, -⟩ := hall
      have hsettled := (@perform_keeps_settled _ codec server first (start daemon)
        fun h => absurd rfl h).1
      have hanswered : (perform codec server first (start daemon)).2.replied ≠ [] := by
        rw [show (perform codec server first (start daemon)).2.replied = [text] from hreplied]
        simp
      obtain ⟨hserved, hsome⟩ := hsettled hanswered
      have hsilent : Silent ({ (perform codec server first (start daemon)).2 with
          replied := [] } : World σ) := ⟨hserved, hsome, rfl⟩
      exact not_served_of_silent hsilent second hsecond

def listText : Bytes := asBytes "\x7b\"type\":\"ListCerts\"\x7d"

def noCertsText : Bytes := asBytes "\x7b\"type\":\"Certs\",\"certs\":[]\x7d"

def listingCodec : P11Codec where
  encodeRequest _ := .ok listText
  decodeResponse text :=
    if text = noCertsText then .ok (.certs []) else .error "expected value at line 1 column 1"

def emptyStoreServer : Server Shared :=
  ipcServer plainCrates twoAppsSystem (IpcServing.phrasebook [(listText, .listCerts)]) coneIsKnown 5
    fun
      | .certs [] => noCertsText
      | _ => []

def emptyShared : Shared :=
  { store := .unlocked {} [], poisoned := false, cache := fun _ => none }

/-- Two calls, between which the daemon closes its end of the connection. -/
def twoListings : List Attempt :=
  [{ request := .listCerts, connects := true, before := 0, between := 0 },
    { request := .listCerts, connects := true, before := 1, between := 0 }]

theorem calls_served_twoListings :
    (∀ record ∈ performAll listingCodec emptyStoreServer (start emptyShared) twoListings,
        Served listingCodec record) ↔
      twoListings.length ≤ 1 ∧
        ∀ attempt ∈ twoListings, Delivered listingCodec emptyStoreServer emptyShared attempt :=
  calls_served_iff listingCodec emptyStoreServer emptyShared twoListings (by decide)

theorem second_call_is_unavailable :
    (performAll listingCodec emptyStoreServer (start emptyShared) twoListings).map (·.outcome) =
      [.ok (.certs []), .err .unavailable] ∧
    ¬ ∀ record ∈ performAll listingCodec emptyStoreServer (start emptyShared) twoListings,
      Served listingCodec record := by
  have houtcomes : (performAll listingCodec emptyStoreServer (start emptyShared) twoListings).map
      (·.outcome) = [.ok (.certs []), .err .unavailable] := by decide
  refine ⟨houtcomes, ?_⟩
  intro hall
  have hmem : (.err .unavailable : Outcome P11Error Answer) ∈
      (performAll listingCodec emptyStoreServer (start emptyShared) twoListings).map
        (·.outcome) := by
    rw [houtcomes]
    simp
  obtain ⟨record, hrecord, hunavailable⟩ := List.mem_map.mp hmem
  exact (hall record hrecord).2 hunavailable

end LaterCalls

end TrafficCone.CachedConnection
