import TrafficCone.P11Client
import TrafficCone.TransducerRuns

namespace TrafficCone.SharedConnection

open TrafficCone.Outcomes
open TrafficCone.StoreModels
open TrafficCone.LengthFraming
open TrafficCone.TransducerRuns
open TrafficCone.P11Client

/-- A daemon that answers the requests of a connection one by one. -/
structure Peer (σ : Type) where
  answer : σ → Bytes → Bytes × σ
  short : ∀ s text, (answer s text).1.length < UInt32.size

structure Call where
  thread : Nat
  request : Request
  deriving DecidableEq, Repr

/-- The process, with the calls of all its threads, and its peer. A call takes the lock
three times: to connect, to write its request, and to read a response. `outstanding` are
the requests written whose responses have not been read, the oldest first. -/
structure Pool (σ : Type) where
  connection : Connection
  peer : σ
  connected : List Call
  waiting : List Call
  outstanding : List Request
  answered : List (Bytes × Bytes)
  returned : List (Call × Outcome P11Error Answer)

/-- What can happen next: a thread runs one of its three sections, or the peer acts. A
peer that interrupts a section closes between its two writes. -/
inductive Event where
  | connects (call : Call) (accepted : Bool)
  | sends (call : Call) (interrupted : Bool)
  | receives (call : Call)
  | answers
  | closes
  deriving DecidableEq, Repr

variable {σ : Type}

def start (peer : σ) : Pool σ :=
  { connection := none
    peer := peer
    connected := []
    waiting := []
    outstanding := []
    answered := []
    returned := [] }

def close (socket : Socket) : Socket := { socket with closed := true }

def interrupt (interrupted : Bool) : Effect Socket P11Error Unit := fun socket =>
  (.ok (), if interrupted then close socket else socket)

def sendRequest (codec : P11Codec) (interrupted : Bool) (request : Request) :
    Effect Socket P11Error Unit := do
  let json ← writeLength codec request
  interrupt interrupted
  writeAll json

def Pool.returns (pool : Pool σ) (call : Call) (outcome : Outcome P11Error Answer) : Pool σ :=
  { pool with returned := pool.returned ++ [(call, outcome)] }

def connectCall (call : Call) (accepted : Bool) (pool : Pool σ) : Pool σ :=
  match getConnection accepted pool.connection with
  | (.ok (), connection) =>
      { pool with connection := connection, connected := call :: pool.connected }
  | (.err error, connection) => { pool with connection := connection }.returns call (.err error)
  | (.panicked, connection) => { pool with connection := connection }.returns call .panicked

def sendCall (codec : P11Codec) (call : Call) (interrupted : Bool) (pool : Pool σ) : Pool σ :=
  let left := { pool with connected := pool.connected.erase call }
  match withStream (sendRequest codec interrupted call.request) pool.connection with
  | (.ok (), connection) =>
      { left with
        connection := connection
        waiting := pool.waiting ++ [call]
        outstanding := pool.outstanding ++ [call.request] }
  | (.err error, connection) => { left with connection := connection }.returns call (.err error)
  | (.panicked, connection) => { left with connection := connection }.returns call .panicked

def responseArrived (connection : Connection) : Bool :=
  connection.any fun socket => (takeFrame socket.arrived).isSome

def receiveCall (codec : P11Codec) (call : Call) (pool : Pool σ) : Pool σ :=
  let result := withStream (readResponse codec) pool.connection
  { pool with
    connection := result.2
    waiting := pool.waiting.erase call
    outstanding :=
      if responseArrived pool.connection then pool.outstanding.tail else pool.outstanding }.returns
    call (result.1 >>= answerOf call.request)

def answerNext (peer : Peer σ) (pool : Pool σ) : Pool σ :=
  match pool.connection with
  | none => pool
  | some socket =>
      match socket.closed, takeFrame socket.sent with
      | false, some (text, rest) =>
          let answer := peer.answer pool.peer text
          { pool with
            connection := some
              { sent := rest, arrived := socket.arrived ++ frame answer.1, closed := false }
            peer := answer.2
            answered := pool.answered ++ [(text, answer.1)] }
      | _, _ => pool

/-- A read waits, with the lock held, until there is a response or the stream has ended. -/
def step (codec : P11Codec) (peer : Peer σ) (pool : Pool σ) : Event → Pool σ
  | .connects call accepted => connectCall call accepted pool
  | .sends call interrupted =>
      if call ∈ pool.connected then sendCall codec call interrupted pool else pool
  | .receives call =>
      if call ∈ pool.waiting ∧ pool.connection.all Socket.ready = true then
        receiveCall codec call pool
      else pool
  | .answers => answerNext peer pool
  | .closes => { pool with connection := pool.connection.map close }

/-- The call returns what it makes of a response that the daemon gave to its own request. -/
def Own (codec : P11Codec) (answered : List (Bytes × Bytes)) (request : Request)
    (outcome : Outcome P11Error Answer) : Prop :=
  ∀ answer, outcome = .ok answer → ∃ text reply, codec.encodeRequest request = .ok text ∧
    (text, reply) ∈ answered ∧ answerFrom codec request reply = .ok answer

/-- A call reads a response only if the oldest outstanding request is its own, and its
request fits its length. -/
def InTurn (codec : P11Codec) (pool : Pool σ) : Event → Prop
  | .sends call _ =>
      match codec.encodeRequest call.request with
      | .ok json => json.length < UInt32.size
      | .error _ => True
  | .receives call =>
      call ∈ pool.waiting → responseArrived pool.connection = true →
        pool.outstanding.head? = some call.request
  | _ => True

instance decidableInTurn (codec : P11Codec) (pool : Pool σ) :
    ∀ event, Decidable (InTurn codec pool event)
  | .sends call _ =>
      match h : codec.encodeRequest call.request with
      | .ok json => decidable_of_iff (json.length < UInt32.size) (by simp [InTurn, h])
      | .error _ => isTrue (by simp [InTurn, h])
  | .receives _ => inferInstanceAs (Decidable (_ → _ → _))
  | .connects _ _ => isTrue trivial
  | .answers => isTrue trivial
  | .closes => isTrue trivial

section Invariants

variable {codec : P11Codec} {pool : Pool σ}

/-- What is in flight belongs to the outstanding requests, in their order: first the
responses that have arrived, then the requests not answered yet. -/
structure Aligned (codec : P11Codec) (pool : Pool σ)
    (pending unanswered : List (Request × Bytes)) : Prop where
  outstanding : pool.outstanding = pending.map (·.1) ++ unanswered.map (·.1)
  answered : ∀ entry ∈ pending, entry.2.length < UInt32.size ∧
    ∃ text, codec.encodeRequest entry.1 = .ok text ∧ (text, entry.2) ∈ pool.answered
  encoded : ∀ entry ∈ unanswered, entry.2.length < UInt32.size ∧
    codec.encodeRequest entry.1 = .ok entry.2
  arrived : ∀ socket, pool.connection = some socket →
    socket.arrived = pending.flatMap fun entry => frame entry.2
  sent : ∀ socket, pool.connection = some socket → socket.closed = false →
    socket.sent = unanswered.flatMap fun entry => frame entry.2
  unconnected : pool.connection = none → pending = [] ∧ unanswered = []

def AllOwn (codec : P11Codec) (pool : Pool σ) : Prop :=
  ∀ entry ∈ pool.returned, Own codec pool.answered entry.1.request entry.2

structure Orderly (codec : P11Codec) (pool : Pool σ) : Prop where
  aligned : ∃ pending unanswered, Aligned codec pool pending unanswered
  own : AllOwn codec pool

theorem own_err (answered : List (Bytes × Bytes)) (request : Request) (error : P11Error) :
    Own codec answered request (.err error) := nofun

theorem Own.mono {answered later : List (Bytes × Bytes)} {request : Request}
    {outcome : Outcome P11Error Answer} (h : Own codec answered request outcome)
    (hlater : answered ⊆ later) : Own codec later request outcome := by
  intro answer hanswer
  obtain ⟨text, reply, htext, hmem, hreply⟩ := h answer hanswer
  exact ⟨text, reply, htext, hlater hmem, hreply⟩

/-- The order is one of the connection, the outstanding requests and the answers. -/
theorem Aligned.congr {other : Pool σ} {pending unanswered : List (Request × Bytes)}
    (h : Aligned codec pool pending unanswered)
    (hsame : (other.connection, other.outstanding, other.answered) =
      (pool.connection, pool.outstanding, pool.answered)) :
    Aligned codec other pending unanswered := by
  simp only [Prod.mk.injEq] at hsame
  obtain ⟨hconnection, houtstanding, hanswered⟩ := hsame
  constructor
  · rw [houtstanding]
    exact h.outstanding
  · rw [hanswered]
    exact h.answered
  · exact h.encoded
  · rw [hconnection]
    exact h.arrived
  · rw [hconnection]
    exact h.sent
  · rw [hconnection]
    exact h.unconnected

theorem Orderly.returns (h : Orderly codec pool) {call : Call}
    {outcome : Outcome P11Error Answer} (hown : Own codec pool.answered call.request outcome) :
    Orderly codec (pool.returns call outcome) where
  aligned := by
    obtain ⟨pending, unanswered, haligned⟩ := h.aligned
    exact ⟨pending, unanswered, haligned.congr rfl⟩
  own := by
    intro entry hentry
    rcases List.mem_append.mp hentry with hbefore | hnow
    · exact h.own entry hbefore
    · rw [List.mem_singleton.mp hnow]
      exact hown

theorem orderly_start (codec : P11Codec) (peer : σ) : Orderly codec (start peer) where
  aligned := ⟨[], [],
    { outstanding := rfl
      answered := by simp
      encoded := by simp
      arrived := by simp [start]
      sent := by simp [start]
      unconnected := fun _ => ⟨rfl, rfl⟩ }⟩
  own := by simp [AllOwn, start]

theorem orderly_connectCall (h : Orderly codec pool) (call : Call) (accepted : Bool) :
    Orderly codec (connectCall call accepted pool) := by
  obtain ⟨connection, _, _, _, _, _, _⟩ := pool
  obtain ⟨pending, unanswered, haligned⟩ := h.aligned
  cases connection with
  | some socket => exact ⟨⟨pending, unanswered, haligned.congr rfl⟩, h.own⟩
  | none =>
      obtain ⟨rfl, rfl⟩ := haligned.unconnected rfl
      cases accepted with
      | true =>
          refine ⟨⟨[], [], haligned.outstanding, by simp, by simp, ?_, ?_, nofun⟩, h.own⟩
          · rintro socket hsocket
            cases hsocket
            rfl
          · rintro socket hsocket -
            cases hsocket
            rfl
      | false => exact h.returns (own_err _ _ _)

/-- Either the whole request is written, or no response is touched and a connection that
is still open is as it was. -/
theorem sendRequest_cases (codec : P11Codec) (interrupted : Bool) (request : Request)
    (socket : Socket) :
    (∃ json, codec.encodeRequest request = .ok json ∧ socket.closed = false ∧
      sendRequest codec interrupted request socket =
        (.ok (), { socket with sent := socket.sent ++ frame json })) ∨
    ∃ error after, sendRequest codec interrupted request socket = (.err error, after) ∧
      after.arrived = socket.arrived ∧ (after.closed = false → after = socket) := by
  obtain ⟨sent, arrived, closed⟩ := socket
  unfold sendRequest
  cases hjson : codec.encodeRequest request with
  | error error =>
      have hlength : writeLength codec request ⟨sent, arrived, closed⟩ =
          (.err .protocol, ⟨sent, arrived, closed⟩) := by
        unfold writeLength
        rw [hjson]
        rfl
      exact Or.inr ⟨_, _, Effect.bind_of_err hlength, rfl, fun _ => rfl⟩
  | ok json =>
      have hencoded : writeLength codec request =
          (writeAll (toBigEndian json.length) >>= fun _ => pure json :
            Effect Socket P11Error Bytes) := by
        unfold writeLength
        rw [hjson]
        rfl
      rw [hencoded]
      cases closed with
      | true => exact Or.inr ⟨.unavailable, ⟨sent, arrived, true⟩, rfl, rfl, fun _ => rfl⟩
      | false =>
          cases interrupted with
          | true =>
              exact Or.inr ⟨.unavailable, ⟨sent ++ toBigEndian json.length, arrived, true⟩, rfl,
                rfl, nofun⟩
          | false =>
              refine Or.inl ⟨json, rfl, rfl, ?_⟩
              rw [frame, ← List.append_assoc]
              rfl

theorem orderly_sendCall (h : Orderly codec pool) {call : Call} (interrupted : Bool)
    (hshort : ∀ json, codec.encodeRequest call.request = .ok json → json.length < UInt32.size) :
    Orderly codec (sendCall codec call interrupted pool) := by
  obtain ⟨connection, _, _, _, _, _, _⟩ := pool
  obtain ⟨pending, unanswered, haligned⟩ := h.aligned
  cases connection with
  | none =>
      refine Orderly.returns ?_ (own_err _ _ _)
      exact ⟨⟨pending, unanswered, haligned.congr rfl⟩, h.own⟩
  | some socket =>
      rcases sendRequest_cases codec interrupted call.request socket with
        ⟨json, hjson, hopen, hsend⟩ | ⟨error, after, hsend, harrived, hafter⟩
      · unfold sendCall
        rw [withStream_some hsend]
        refine ⟨⟨pending, unanswered ++ [(call.request, json)], ?_, haligned.answered, ?_, ?_, ?_,
          nofun⟩, h.own⟩
        · have houtstanding := haligned.outstanding
          simp only at houtstanding
          simp [houtstanding]
        · intro entry hentry
          rcases List.mem_append.mp hentry with hbefore | hnow
          · exact haligned.encoded entry hbefore
          · rw [List.mem_singleton.mp hnow]
            exact ⟨hshort json hjson, hjson⟩
        · rintro written hwritten
          cases hwritten
          exact haligned.arrived socket rfl
        · rintro written hwritten -
          cases hwritten
          have hsent := haligned.sent socket rfl hopen
          simp [hsent]
      · unfold sendCall
        rw [withStream_some hsend]
        refine Orderly.returns ?_ (own_err _ _ _)
        refine ⟨⟨pending, unanswered, haligned.outstanding, haligned.answered, haligned.encoded,
          ?_, ?_, nofun⟩, h.own⟩
        · rintro written hwritten
          cases hwritten
          exact harrived.trans (haligned.arrived socket rfl)
        · rintro written hwritten hopen
          cases hwritten
          have hsame := hafter hopen
          rw [hsame] at hopen ⊢
          exact haligned.sent socket rfl hopen

theorem orderly_answerNext (h : Orderly codec pool) (peer : Peer σ) :
    Orderly codec (answerNext peer pool) := by
  obtain ⟨connection, s, _, _, _, answered, _⟩ := pool
  obtain ⟨pending, unanswered, haligned⟩ := h.aligned
  cases connection with
  | none => exact h
  | some socket =>
      obtain ⟨sent, arrived, closed⟩ := socket
      cases closed with
      | true => exact h
      | false =>
          have hsent : sent = unanswered.flatMap fun entry => frame entry.2 :=
            haligned.sent _ rfl rfl
          cases unanswered with
          | nil =>
              obtain rfl : sent = [] := hsent
              exact h
          | cons entry rest =>
              obtain ⟨request, text⟩ := entry
              obtain ⟨hlength, hencoded⟩ := haligned.encoded (request, text) (by simp)
              have hnext : takeFrame sent =
                  some (text, rest.flatMap fun entry => frame entry.2) := by
                rw [hsent, List.flatMap_cons]
                exact takeFrame_frame hlength _
              have hmore : answered ⊆ answered ++ [(text, (peer.answer s text).1)] :=
                List.subset_append_left _ _
              -- The oldest request becomes the newest response in flight.
              unfold answerNext
              simp only [hnext]
              refine ⟨⟨pending ++ [(request, (peer.answer s text).1)], rest, ?_, ?_, ?_, ?_, ?_,
                nofun⟩, fun entry hentry => (h.own entry hentry).mono hmore⟩
              · have houtstanding := haligned.outstanding
                simp only at houtstanding
                simp [houtstanding]
              · intro entry hentry
                rcases List.mem_append.mp hentry with hbefore | hnow
                · obtain ⟨hshort, text', hencoded', hmem⟩ := haligned.answered entry hbefore
                  exact ⟨hshort, text', hencoded', hmore hmem⟩
                · rw [List.mem_singleton.mp hnow]
                  exact ⟨peer.short s text, text, hencoded, by simp⟩
              · exact fun entry hentry => haligned.encoded entry (List.mem_cons_of_mem _ hentry)
              · rintro next hnext
                cases hnext
                have harrived := haligned.arrived _ rfl
                simp only at harrived
                simp [harrived]
              · rintro next hnext -
                cases hnext
                rfl

theorem orderly_receiveCall (h : Orderly codec pool) {call : Call}
    (hturn : responseArrived pool.connection = true →
      pool.outstanding.head? = some call.request) :
    Orderly codec (receiveCall codec call pool) := by
  obtain ⟨connection, _, _, _, outstanding, answered, _⟩ := pool
  obtain ⟨pending, unanswered, haligned⟩ := h.aligned
  cases connection with
  | none =>
      refine Orderly.returns ?_ (own_err _ _ _)
      exact ⟨⟨pending, unanswered, haligned.congr rfl⟩, h.own⟩
  | some socket =>
      have harrived := haligned.arrived socket rfl
      cases pending with
      | nil =>
          have hnone : takeFrame socket.arrived = none := by rw [harrived]; rfl
          have hnothing : responseArrived (some socket) = false := by
            simp [responseArrived, hnone]
          unfold receiveCall
          simp only [withStream_some (readResponse_of_none hnone), hnothing]
          refine Orderly.returns ?_ (own_err _ _ _)
          refine ⟨⟨[], unanswered, haligned.outstanding, haligned.answered, haligned.encoded,
            ?_, ?_, nofun⟩, h.own⟩
          · rintro next hnext
            cases hnext
            rfl
          · rintro next hnext hopen
            cases hnext
            exact haligned.sent socket rfl hopen
      | cons entry rest =>
          obtain ⟨request, reply⟩ := entry
          obtain ⟨hlength, text, htext, hmem⟩ := haligned.answered (request, reply) (by simp)
          have hnext : takeFrame socket.arrived =
              some (reply, rest.flatMap fun entry => frame entry.2) := by
            rw [harrived, List.flatMap_cons]
            exact takeFrame_frame hlength _
          have hsome : responseArrived (some socket) = true := by
            simp [responseArrived, hnext]
          have houtstanding : outstanding = request ::
              (rest.map (·.1) ++ unanswered.map (·.1)) := haligned.outstanding
          -- The response that is read belongs to the oldest outstanding request.
          obtain rfl : request = call.request := by
            have hhead := hturn hsome
            simp only [houtstanding, List.head?_cons, Option.some.injEq] at hhead
            exact hhead
          unfold receiveCall
          simp only [withStream_some (readResponse_of_takeFrame hnext), hsome]
          refine Orderly.returns ?_ fun answer hanswer => ⟨text, reply, htext, hmem, hanswer⟩
          refine ⟨⟨rest, unanswered, ?_, ?_, haligned.encoded, ?_, ?_, nofun⟩, h.own⟩
          · simp [houtstanding]
          · exact fun entry hentry => haligned.answered entry (List.mem_cons_of_mem _ hentry)
          · rintro after hafter
            cases hafter
            rfl
          · rintro after hafter hopen
            cases hafter
            exact haligned.sent socket rfl hopen

theorem orderly_closes (h : Orderly codec pool) :
    Orderly codec { pool with connection := pool.connection.map close } := by
  obtain ⟨pending, unanswered, haligned⟩ := h.aligned
  refine ⟨⟨pending, unanswered, haligned.outstanding, haligned.answered, haligned.encoded,
    ?_, ?_, ?_⟩, h.own⟩
  · rintro socket hsocket
    obtain ⟨before, hbefore, rfl⟩ := Option.map_eq_some_iff.mp hsocket
    exact haligned.arrived before hbefore
  · rintro socket hsocket hopen
    obtain ⟨before, -, rfl⟩ := Option.map_eq_some_iff.mp hsocket
    cases hopen
  · exact fun hnone => haligned.unconnected (Option.map_eq_none_iff.mp hnone)

theorem orderly_step (peer : Peer σ) {event : Event} (h : Orderly codec pool)
    (hturn : InTurn codec pool event) : Orderly codec (step codec peer pool event) := by
  cases event with
  | connects call accepted => exact orderly_connectCall h call accepted
  | sends call interrupted =>
      rw [step]
      split
      · apply orderly_sendCall h interrupted
        intro json hjson
        rwa [InTurn, hjson] at hturn
      · exact h
  | receives call =>
      rw [step]
      split
      · rename_i hready
        exact orderly_receiveCall h (hturn hready.1)
      · exact h
  | answers => exact orderly_answerNext h peer
  | closes => exact orderly_closes h

/-- In a run whose calls all read in turn, every call that succeeds returns what the daemon
answered to its own request. -/
theorem returned_own_of_inTurn {peer : Peer σ} {s : σ} {events : List Event}
    (halong : Along (quietly (step codec peer)) (InTurn codec) (start s) events) :
    AllOwn codec (run (quietly (step codec peer)) (start s) events).1 := by
  have horderly : Orderly codec (run (quietly (step codec peer)) (start s) events).1 := by
    apply quiet_run_of_along _ (orderly_start codec s) halong
    intro pool event h hturn
    exact orderly_step peer h hturn
  exact horderly.own

end Invariants

section TwoThreads

def handshakeText (byte : UInt8) : Bytes :=
  asBytes ("\x7b\"type\":\"Sign\",\"pid\":7,\"data\":[" ++ toString byte.toNat ++ "]\x7d")

def signatureText (byte : UInt8) : Bytes :=
  asBytes ("\x7b\"type\":\"Signature\",\"cert_id\":\"c1\",\"signature\":[" ++
    toString byte.toNat ++ "]\x7d")

def handshakeCodec : P11Codec where
  encodeRequest
    | .sign 7 [byte] => .ok (handshakeText byte)
    | _ => .error "not a handshake"
  decodeResponse text :=
    if text = signatureText 101 then .ok (.signature "c1" [101])
    else if text = signatureText 102 then .ok (.signature "c1" [102])
    else .error "expected value at line 1 column 1"

def signingPeer : Peer Unit where
  answer _ text :=
    (if text = handshakeText 1 then signatureText 101 else signatureText 102, ())
  short := by
    intro _ text
    dsimp only
    split <;> decide

def firstCall : Call := { thread := 1, request := .sign 7 [1] }

def secondCall : Call := { thread := 2, request := .sign 7 [2] }

theorem returned_own_of_inTurn_two_threads :
    AllOwn handshakeCodec (run (quietly (step handshakeCodec signingPeer)) (start ())
      [.connects firstCall true, .connects secondCall true, .sends firstCall false,
        .sends secondCall false, .answers, .answers, .receives firstCall,
        .receives secondCall]).1 :=
  returned_own_of_inTurn (by decide +kernel)

/-- The first response is read by the second thread, and the daemon closes after it. -/
def crossing : List Event :=
  [.connects firstCall true, .connects secondCall true, .sends firstCall false,
    .sends secondCall false, .answers, .closes, .receives secondCall]

theorem second_thread_gets_the_first_signature :
    (run (quietly (step handshakeCodec signingPeer)) (start ()) crossing).1.returned =
        [(secondCall, .ok (.signature [101]))] ∧
      (run (quietly (step handshakeCodec signingPeer)) (start ()) crossing).1.answered =
        [(handshakeText 1, signatureText 101)] ∧
      ¬ AllOwn handshakeCodec
        (run (quietly (step handshakeCodec signingPeer)) (start ()) crossing).1 := by
  have hreturned :
      (run (quietly (step handshakeCodec signingPeer)) (start ()) crossing).1.returned =
        [(secondCall, .ok (.signature [101]))] := by decide
  have hanswered :
      (run (quietly (step handshakeCodec signingPeer)) (start ()) crossing).1.answered =
        [(handshakeText 1, signatureText 101)] := by decide
  refine ⟨hreturned, hanswered, ?_⟩
  intro hall
  unfold AllOwn at hall
  rw [hreturned, hanswered] at hall
  obtain ⟨text, reply, htext, hmem, -⟩ := hall _ (List.mem_singleton_self _) _ rfl
  obtain rfl : handshakeText 2 = text := Except.ok.inj htext
  have hsame : handshakeText 2 = handshakeText 1 :=
    congrArg Prod.fst (List.mem_singleton.mp hmem)
  exact absurd hsame (by decide)

end TwoThreads

end TrafficCone.SharedConnection
