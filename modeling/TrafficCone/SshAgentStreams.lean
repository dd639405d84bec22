import Mathlib.Data.List.Forall2
import TrafficCone.DaemonRuns
import TrafficCone.SshAgentAnswers
import TrafficCone.SshIdentities

namespace TrafficCone.SshAgentStreams

open TrafficCone.Outcomes
open TrafficCone.StoreModels
open TrafficCone.LinkedCrates
open TrafficCone.LengthFraming
open TrafficCone.IpcServing
open TrafficCone.SshAgentServing
open TrafficCone.SshIdentities (signPayload)
open TrafficCone.SshAgentAnswers
open TrafficCone.DaemonRuns
open TrafficCone.TransducerRuns

section Reading

/-- What a client sends: its messages in their frames, and more bytes. -/
def streamOf (messages : List Message) (trailing : Bytes) : Bytes :=
  messages.flatMap (fun message => frame message.text) ++ trailing

def StartsMessage (stream : Bytes) : Prop :=
  ∃ (message : Message) (rest : Bytes), stream = frame message.text ++ rest

/-- The stream begins with a length that no message has. -/
def InvalidLength (stream : Bytes) : Prop :=
  ∃ lenBuf rest, readExact 4 stream = some (lenBuf, rest) ∧
    (LengthFraming.fromBigEndian lenBuf = 0 ∨
      256 * 1024 < LengthFraming.fromBigEndian lenBuf)

variable {unread rest : Bytes} {finished : Bool}

theorem length_text (message : Message) :
    0 < message.text.length ∧ message.text.length ≤ 256 * 1024 :=
  ⟨Nat.succ_pos _, message.length_payload⟩

theorem length_text_lt (message : Message) : message.text.length < UInt32.size :=
  lt_of_le_of_lt (length_text message).2 (by decide)

theorem fromBigEndian_length_text (message : Message) :
    LengthFraming.fromBigEndian (toBigEndian message.text.length) = message.text.length := by
  rw [fromBigEndian_toBigEndian, Nat.mod_eq_of_lt (length_text_lt message)]

theorem readMessage_frame (message : Message) (rest : Bytes) (finished : Bool) :
    readMessage (frame message.text ++ rest) finished = .message message.text rest := by
  have hallowed : ¬ (message.text.length = 0 ∨ 256 * 1024 < message.text.length) := by
    have hlength := length_text message
    omega
  rw [readMessage, readExact_four_frame]
  dsimp only
  rw [fromBigEndian_length_text, if_neg hallowed, readExact_append]

theorem not_invalidLength_frame (message : Message) (rest : Bytes) :
    ¬ InvalidLength (frame message.text ++ rest) := by
  rintro ⟨lenBuf, after, hread, hinvalid⟩
  have hlength := length_text message
  rw [readExact_four_frame, Option.some.injEq, Prod.mk.injEq] at hread
  rw [← hread.1, fromBigEndian_length_text] at hinvalid
  omega

theorem invalidLength_append (h : InvalidLength unread) (future : Bytes) :
    InvalidLength (unread ++ future) := by
  obtain ⟨lenBuf, rest, hread, hinvalid⟩ := h
  obtain ⟨rfl, hlength⟩ := readExact_eq_some_iff.mp hread
  refine ⟨lenBuf, rest ++ future, ?_, hinvalid⟩
  rw [readExact_eq_some_iff]
  exact ⟨List.append_assoc _ _ _, hlength⟩

theorem readMessage_of_invalidLength (h : InvalidLength unread) :
    readMessage unread finished = .ended := by
  obtain ⟨lenBuf, rest, hread, hinvalid⟩ := h
  rw [readMessage, hread]
  dsimp only
  rw [if_pos hinvalid]

/-- What is read is a message that stands in its frame at the front. -/
theorem of_readMessage_message {text : Bytes}
    (h : readMessage unread finished = .message text rest) :
    ∃ message : Message, text = message.text ∧ unread = frame message.text ++ rest := by
  rw [readMessage] at h
  cases hread : readExact 4 unread with
  | none =>
      rw [hread] at h
      cases finished <;> cases h
  | some front =>
      obtain ⟨lenBuf, body⟩ := front
      rw [hread] at h
      dsimp only at h
      split at h
      · cases h
      · rename_i hallowed
        cases hbody : readExact (LengthFraming.fromBigEndian lenBuf) body with
        | none =>
            rw [hbody] at h
            cases finished <;> cases h
        | some found =>
            obtain ⟨found, after⟩ := found
            rw [hbody, Incoming.message.injEq] at h
            obtain ⟨rfl, rfl⟩ := h
            obtain ⟨rfl, hlenBuf⟩ := readExact_eq_some_iff.mp hread
            obtain ⟨rfl, hlength⟩ := readExact_eq_some_iff.mp hbody
            cases found with
            | nil =>
                rw [List.length_nil] at hlength
                omega
            | cons msgType payload =>
                rw [List.length_cons] at hlength
                refine ⟨⟨msgType, payload, by omega⟩, rfl, ?_⟩
                rw [frame, Message.text, List.length_cons, hlength,
                  toBigEndian_fromBigEndian hlenBuf, List.append_assoc]

theorem of_readMessage_ended (h : readMessage unread finished = .ended) :
    InvalidLength unread ∨ finished = true := by
  rw [readMessage] at h
  cases hread : readExact 4 unread with
  | none =>
      rw [hread] at h
      cases finished with
      | true => exact Or.inr rfl
      | false => cases h
  | some front =>
      obtain ⟨lenBuf, body⟩ := front
      rw [hread] at h
      dsimp only at h
      split at h
      · rename_i hinvalid
        exact Or.inl ⟨lenBuf, body, hread, hinvalid⟩
      · cases hbody : readExact (LengthFraming.fromBigEndian lenBuf) body with
        | none =>
            rw [hbody] at h
            cases finished with
            | true => exact Or.inr rfl
            | false => cases h
        | some found =>
            rw [hbody] at h
            cases h

theorem readMessage_finished_ne_blocked : readMessage unread true ≠ .blocked := by
  intro h
  rw [readMessage] at h
  split at h
  · cases h
  · dsimp only at h
    split at h
    · cases h
    · split at h <;> cases h

/-- What the agent finds while the client's stream arrives: the next message, or the end
behind the last one, or nothing yet. -/
theorem readMessage_cases {future trailing : Bytes} {pending : List Message}
    (htrailing : ¬ StartsMessage trailing) (hfuture : finished = true → future = [])
    (hunread : unread ++ future = streamOf pending trailing) :
    (readMessage unread finished = .blocked ∧ finished = false) ∨
      (readMessage unread finished = .ended ∧ pending = []) ∨
      ∃ message later rest, pending = message :: later ∧
        readMessage unread finished = .message message.text rest ∧
          rest ++ future = streamOf later trailing := by
  cases hread : readMessage unread finished with
  | blocked =>
      left
      cases finished with
      | false => exact ⟨rfl, rfl⟩
      | true => exact absurd hread readMessage_finished_ne_blocked
  | ended =>
      refine Or.inr (Or.inl ⟨rfl, ?_⟩)
      cases pending with
      | nil => rfl
      | cons message later =>
          rw [streamOf, List.flatMap_cons, List.append_assoc] at hunread
          rcases of_readMessage_ended hread with hinvalid | rfl
          · have hwhole := invalidLength_append hinvalid future
            rw [hunread] at hwhole
            exact absurd hwhole (not_invalidLength_frame message _)
          · rw [hfuture rfl, List.append_nil] at hunread
            rw [hunread, readMessage_frame] at hread
            cases hread
  | message text rest =>
      obtain ⟨found, rfl, rfl⟩ := of_readMessage_message hread
      rw [List.append_assoc] at hunread
      cases pending with
      | nil => exact absurd ⟨found, rest ++ future, hunread.symm⟩ htrailing
      | cons message later =>
          rw [streamOf, List.flatMap_cons, List.append_assoc] at hunread
          have hfirst := congrArg takeFrame hunread
          rw [takeFrame_frame (length_text_lt found), takeFrame_frame (length_text_lt message),
            Option.some.injEq, Prod.mk.injEq] at hfirst
          refine Or.inr (Or.inr ⟨message, later, rest, rfl, ?_, hfirst.2⟩)
          rw [hfirst.1]

end Reading

section Serving

/-- What happens on a connection: bytes of the client arrive, or it is the agent's turn. -/
inductive Delivery where
  | arrives (bytes : Bytes)
  | turn
  deriving DecidableEq, Repr

def Delivery.event : Delivery → Event
  | .arrives bytes => .agentReceives bytes
  | .turn => .agentServes

def Delivery.bytes : Delivery → Bytes
  | .arrives bytes => bytes
  | .turn => []

def arrived (deliveries : List Delivery) : Bytes := deliveries.flatMap Delivery.bytes

/-- The deliveries, then the client's closing if it closes, then turns of the agent. -/
def exchange (deliveries : List Delivery) (finishes : Bool) (turns : Nat) : List Event :=
  deliveries.map Delivery.event ++ (if finishes then [Event.agentFinishes] else []) ++
    List.replicate turns .agentServes

/-- What the agent writes: the length of the response and the response. -/
def written : Output → Bytes
  | .agent _ response => frame response
  | .ipc _ _ => []

def opened (peer : Peer) : AgentConnection :=
  { peer := peer, unread := [], finished := false }

/-- The response is what the handlers make of the message by itself: a failure where they
cannot make anything of it. -/
structure Replies (crates : Crates) (shared : Shared) (message : Message) (response : Bytes) :
    Prop where
  answer : answer crates shared message = .ok response
  failure : message.Unintelligible → response = [agentFailure]

/-- However the stream arrives, the agent answers each of its messages once and in order, in
frames, writes nothing for the bytes behind them, and ends the connection there. -/
def ServesStream (setup : Setup) (shared : Shared) (messages : List Message)
    (trailing : Bytes) : Prop :=
  ∀ daemon peer deliveries finishes turns, daemon.shared = shared →
    daemon.agentConnection = some (opened peer) →
    arrived deliveries = streamOf messages trailing → messages.length < turns →
      ∃ responses, List.Forall₂ (Replies setup.crates shared) messages responses ∧
        (run (step setup) daemon (exchange deliveries finishes turns)).2 =
          responses.map (Output.agent peer) ∧
        takeFrames messages.length
          ((run (step setup) daemon (exchange deliveries finishes turns)).2.flatMap written) =
            some (responses, []) ∧
        (finishes = true ∨ InvalidLength trailing →
          (run (step setup) daemon (exchange deliveries finishes turns)).1.agentConnection = none)

variable {setup : Setup} {shared : Shared} {peer : Peer} {trailing future : Bytes}
  {finished : Bool} {pending : List Message} {daemon : Daemon} {reply : Message → Bytes}

/-- Of the client's stream, what is not read yet and what is still to come are the pending
messages and the bytes behind them; or the connection has ended behind the last message. -/
def Underway (shared : Shared) (peer : Peer) (finished : Bool) (trailing future : Bytes)
    (pending : List Message) (daemon : Daemon) : Prop :=
  daemon.shared = shared ∧
    ((∃ unread, daemon.agentConnection =
          some { peer := peer, unread := unread, finished := finished } ∧
        unread ++ future = streamOf pending trailing) ∨
      (daemon.agentConnection = none ∧ pending = []))

/-- A turn answers the next message, or none. -/
theorem underway_turn (htrailing : ¬ StartsMessage trailing)
    (hfuture : finished = true → future = [])
    (hanswers : ∀ message ∈ pending, answer setup.crates shared message = .ok (reply message))
    (h : Underway shared peer finished trailing future pending daemon) :
    ∃ done later, pending = done ++ later ∧
      (step setup daemon .agentServes).2 =
        done.map (fun message => Output.agent peer (reply message)) ∧
      Underway shared peer finished trailing future later (step setup daemon .agentServes).1 ∧
      (future = [] → done = [] → pending = [] ∧ (finished = true ∨ InvalidLength trailing →
        (step setup daemon .agentServes).1.agentConnection = none)) := by
  obtain ⟨rfl, ⟨unread, hconnection, hunread⟩ | ⟨hconnection, rfl⟩⟩ := h
  · rw [step, hconnection]
    dsimp only
    rw [serveAgent]
    rcases readMessage_cases htrailing hfuture hunread with
      ⟨hread, rfl⟩ | ⟨hread, rfl⟩ | ⟨message, later, rest, rfl, hread, hrest⟩
    · rw [hread]
      refine ⟨[], pending, rfl, rfl, ⟨rfl, Or.inl ⟨unread, hconnection, hunread⟩⟩, ?_⟩
      rintro rfl -
      rw [List.append_nil] at hunread
      cases pending with
      | nil =>
          refine ⟨rfl, ?_⟩
          rintro (hfinished | hinvalid)
          · cases hfinished
          · rw [hunread, streamOf, List.flatMap_nil, List.nil_append,
              readMessage_of_invalidLength hinvalid] at hread
            cases hread
      | cons message later =>
          rw [hunread, streamOf, List.flatMap_cons, List.append_assoc, readMessage_frame] at hread
          cases hread
    · rw [hread]
      exact ⟨[], [], rfl, rfl, ⟨rfl, Or.inr ⟨rfl, rfl⟩⟩, fun _ _ => ⟨rfl, fun _ => rfl⟩⟩
    · rw [hread, Message.text]
      dsimp only
      rw [respond_eq (hanswers message List.mem_cons_self)]
      exact ⟨[message], later, rfl, rfl, ⟨rfl, Or.inl ⟨rest, rfl, hrest⟩⟩,
        fun _ hnone => absurd hnone (List.cons_ne_nil _ _)⟩
  · rw [step, hconnection]
    exact ⟨[], [], rfl, rfl, ⟨rfl, Or.inr ⟨hconnection, rfl⟩⟩,
      fun _ _ => ⟨rfl, fun _ => hconnection⟩⟩

theorem underway_arrives {bytes : Bytes}
    (h : Underway shared peer finished trailing (bytes ++ future) pending daemon) :
    (step setup daemon (.agentReceives bytes)).2 = [] ∧
      Underway shared peer finished trailing future pending
        (step setup daemon (.agentReceives bytes)).1 := by
  obtain ⟨rfl, ⟨unread, hconnection, hunread⟩ | ⟨hconnection, rfl⟩⟩ := h
  · rw [step, hconnection]
    refine ⟨rfl, rfl, Or.inl ⟨unread ++ bytes, rfl, ?_⟩⟩
    rw [List.append_assoc]
    exact hunread
  · rw [step, hconnection]
    exact ⟨rfl, rfl, Or.inr ⟨hconnection, rfl⟩⟩

theorem underway_finishes (h : Underway shared peer finished trailing [] pending daemon) :
    (step setup daemon .agentFinishes).2 = [] ∧
      Underway shared peer true trailing [] pending (step setup daemon .agentFinishes).1 := by
  obtain ⟨rfl, ⟨unread, hconnection, hunread⟩ | ⟨hconnection, rfl⟩⟩ := h
  · rw [step, hconnection]
    exact ⟨rfl, rfl, Or.inl ⟨unread, rfl, hunread⟩⟩
  · rw [step, hconnection]
    exact ⟨rfl, rfl, Or.inr ⟨hconnection, rfl⟩⟩

/-- While the stream arrives, the first messages are answered. -/
theorem run_deliveries (htrailing : ¬ StartsMessage trailing) {deliveries : List Delivery}
    (hanswers : ∀ message ∈ pending, answer setup.crates shared message = .ok (reply message))
    (h : Underway shared peer false trailing (arrived deliveries) pending daemon) :
    ∃ done later, pending = done ++ later ∧
      (run (step setup) daemon (deliveries.map Delivery.event)).2 =
        done.map (fun message => Output.agent peer (reply message)) ∧
      Underway shared peer false trailing [] later
        (run (step setup) daemon (deliveries.map Delivery.event)).1 := by
  induction deliveries generalizing daemon pending with
  | nil => exact ⟨[], pending, rfl, rfl, h⟩
  | cons delivery deliveries ih =>
      rw [List.map_cons, run_cons]
      cases delivery with
      | arrives bytes =>
          obtain ⟨houtput, hafter⟩ :=
            @underway_arrives setup _ _ _ (arrived deliveries) _ _ _ bytes h
          obtain ⟨done, later, hpending, houtputs, hfinal⟩ := ih hanswers hafter
          refine ⟨done, later, hpending, ?_, hfinal⟩
          rw [Delivery.event, houtput, List.nil_append]
          exact houtputs
      | turn =>
          obtain ⟨done, middle, rfl, houtput, hafter, -⟩ :=
            underway_turn htrailing (fun hfinished => by cases hfinished) hanswers h
          obtain ⟨more, later, rfl, houtputs, hfinal⟩ :=
            ih (fun message hmessage => hanswers message (List.mem_append_right _ hmessage)) hafter
          refine ⟨done ++ more, later, (List.append_assoc _ _ _).symm, ?_, hfinal⟩
          rw [Delivery.event, houtput, List.map_append]
          exact congrArg _ houtputs

theorem run_turns_of_ended (hconnection : daemon.agentConnection = none) (turns : Nat) :
    run (step setup) daemon (List.replicate turns .agentServes) = (daemon, []) := by
  induction turns with
  | zero => rfl
  | succ turns ih =>
      have hstep : step setup daemon .agentServes = (daemon, []) := by rw [step, hconnection]
      rw [List.replicate_succ, run_cons, hstep, ih]
      rfl

/-- When the whole stream has arrived, enough turns answer the rest of it. -/
theorem run_turns (htrailing : ¬ StartsMessage trailing) {turns : Nat}
    (hanswers : ∀ message ∈ pending, answer setup.crates shared message = .ok (reply message))
    (h : Underway shared peer finished trailing [] pending daemon)
    (hturns : pending.length ≤ turns) :
    (run (step setup) daemon (List.replicate turns .agentServes)).2 =
        pending.map (fun message => Output.agent peer (reply message)) ∧
      (pending.length < turns → finished = true ∨ InvalidLength trailing →
        (run (step setup) daemon (List.replicate turns .agentServes)).1.agentConnection =
          none) := by
  induction turns generalizing daemon pending with
  | zero =>
      obtain rfl := List.length_eq_zero_iff.mp (Nat.le_zero.mp hturns)
      exact ⟨rfl, fun hmore => absurd hmore (Nat.lt_irrefl 0)⟩
  | succ turns ih =>
      rw [List.replicate_succ, run_cons]
      obtain ⟨done, later, rfl, houtput, hafter, hlast⟩ :=
        underway_turn htrailing (fun _ => rfl) hanswers h
      rw [List.length_append] at hturns ⊢
      cases done with
      | nil =>
          obtain ⟨hnone, hclosed⟩ := hlast rfl rfl
          obtain rfl : later = [] := hnone
          obtain ⟨houtputs, -⟩ := ih hanswers hafter (Nat.zero_le _)
          refine ⟨?_, ?_⟩
          · rw [houtput, houtputs]
            rfl
          · intro _ hcloses
            rw [run_turns_of_ended (hclosed hcloses)]
            exact hclosed hcloses
      | cons message done =>
          rw [List.length_cons] at hturns ⊢
          obtain ⟨houtputs, hcloses⟩ :=
            ih (fun other hother => hanswers other (List.mem_append_right _ hother)) hafter
              (by omega)
          refine ⟨?_, fun hmore => hcloses (by omega)⟩
          rw [houtput, houtputs, List.map_append]

theorem run_exchange (htrailing : ¬ StartsMessage trailing) {deliveries : List Delivery}
    {finishes : Bool} {turns : Nat}
    (hanswers : ∀ message ∈ pending, answer setup.crates shared message = .ok (reply message))
    (h : Underway shared peer false trailing (arrived deliveries) pending daemon)
    (hturns : pending.length < turns) :
    (run (step setup) daemon (exchange deliveries finishes turns)).2 =
        pending.map (fun message => Output.agent peer (reply message)) ∧
      (finishes = true ∨ InvalidLength trailing →
        (run (step setup) daemon (exchange deliveries finishes turns)).1.agentConnection =
          none) := by
  obtain ⟨done, later, rfl, houtputs, hafter⟩ := run_deliveries htrailing hanswers h
  have hlater : ∀ message ∈ later, answer setup.crates shared message = .ok (reply message) :=
    fun message hmessage => hanswers message (List.mem_append_right _ hmessage)
  rw [List.length_append] at hturns
  rw [exchange, List.append_assoc, run_append, houtputs, List.map_append]
  cases finishes with
  | false =>
      obtain ⟨hrest, hcloses⟩ := @run_turns _ _ _ _ false _ _ _ htrailing turns hlater hafter
        (by omega)
      rw [if_neg Bool.false_ne_true, List.nil_append]
      exact ⟨by rw [hrest], hcloses (by omega)⟩
  | true =>
      obtain ⟨hnone, hfinished⟩ := @underway_finishes setup _ _ _ _ _ _ hafter
      obtain ⟨hrest, hcloses⟩ := @run_turns _ _ _ _ true _ _ _ htrailing turns hlater hfinished
        (by omega)
      rw [if_pos rfl, List.singleton_append, run_cons, hnone, List.nil_append]
      exact ⟨by rw [hrest], hcloses (by omega)⟩

/-- The agent serves a stream exactly if nothing makes the handler of one of its messages
panic. -/
theorem servesStream_iff {messages : List Message} (htrailing : ¬ StartsMessage trailing)
    (hsizes : ∀ message ∈ messages, ∀ response,
      answer setup.crates shared message = .ok response → response.length < 2 ^ 32) :
    ServesStream setup shared messages trailing ↔
      ∀ message ∈ messages, Answerable setup.crates shared message := by
  constructor
  · intro hserves
    obtain ⟨responses, hreplies, -⟩ := hserves
      { shared := shared
        ipcRunning := true
        verified := none
        agentRunning := true
        agentConnection := some (opened { pid := 0, uid := 0 }) }
      { pid := 0, uid := 0 } [.arrives (streamOf messages trailing)] true (messages.length + 1)
      rfl rfl (List.append_nil _) (Nat.lt_succ_self _)
    intro message hmessage
    obtain ⟨index, hindex, rfl⟩ := List.getElem_of_mem hmessage
    have hreply := List.Forall₂.get hreplies hindex (by rwa [← hreplies.length_eq])
    exact exists_answer_iff.mp ⟨_, hreply.answer⟩
  · intro hanswerable
    -- The responses, as a function of the messages.
    choose! reply hreply using fun message hmessage =>
      exists_answer_iff.mpr (hanswerable message hmessage)
    intro daemon peer deliveries finishes turns hshared hconnection harrived hturns
    have hstart : Underway shared peer false trailing (arrived deliveries) messages daemon :=
      ⟨hshared, Or.inl ⟨[], hconnection, harrived⟩⟩
    obtain ⟨houtputs, hcloses⟩ :=
      @run_exchange _ _ _ _ _ _ _ htrailing deliveries finishes turns hreply hstart hturns
    refine ⟨messages.map reply, ?_, ?_, ?_, hcloses⟩
    · rw [List.forall₂_map_right_iff, List.forall₂_same]
      intro message hmessage
      refine ⟨hreply message hmessage, ?_⟩
      intro hunintelligible
      have hanswer := hreply message hmessage
      rw [answer_of_unintelligible hunintelligible] at hanswer
      exact (Outcome.ok.inj hanswer).symm
    · rw [houtputs, List.map_map]
      rfl
    · have hlengths : ∀ response ∈ messages.map reply, response.length < UInt32.size := by
        rw [List.forall_mem_map]
        exact fun message hmessage => hsizes message hmessage _ (hreply message hmessage)
      have htaken := takeFrames_flatMap_frame hlengths []
      rw [List.length_map, List.append_nil] at htaken
      rw [houtputs, ← htaken, List.flatMap_map, List.flatMap_map]
      rfl

/-- A key without a nonce, as a restore leaves it when the nonce of the backup is not
hexadecimal. -/
def hollowKey : SshKeyRow where
  id := "s1"
  label := "work"
  publicKey := "ssh-ed25519 AAAA"
  algorithm := "Ed25519"
  keyEnc := [9]
  keySalt := List.replicate 16 0
  keyNonce := []
  createdAt := 6

def hollowStore : Shared where
  store := .unlocked { sshKeys := [hollowKey] } [1]
  poisoned := false
  cache _ := none

def quietSetup : Setup where
  crates := plainCrates
  codec := phrasebook []
  ourUid := 1000
  knownHashes _ := none

def listRequest : Message where
  msgType := requestIdentities
  payload := []
  length_payload := by decide

def oddRequest : Message where
  msgType := 9
  payload := [1]
  length_payload := by decide

def hollowRequest : Message where
  msgType := signRequest
  payload := signPayload (asBytes "ssh-ed25519 AAAA") [7] 0
  length_payload := by decide +kernel

theorem not_startsMessage_nil : ¬ StartsMessage [] := by
  rintro ⟨message, rest, hframe⟩
  have hnil := (List.append_eq_nil_iff.mp hframe.symm).1
  rw [frame, List.append_eq_nil_iff] at hnil
  exact List.cons_ne_nil _ _ hnil.2

theorem servesStream_iff_list_and_odd :
    takeFrames 2 (streamOf [listRequest, oddRequest] [0]) =
        some ([listRequest.text, oddRequest.text], [0]) ∧
      (ServesStream quietSetup hollowStore [listRequest, oddRequest] [] ↔
        ∀ message ∈ [listRequest, oddRequest], Answerable plainCrates hollowStore message) := by
  refine ⟨by decide +kernel, servesStream_iff not_startsMessage_nil ?_⟩
  have hlist : (answer plainCrates hollowStore listRequest) =
      .ok (identitiesMessage hollowStore.store) := by decide +kernel
  have hodd : (answer plainCrates hollowStore oddRequest) = .ok [agentFailure] := by
    decide +kernel
  have hlength : (identitiesMessage hollowStore.store).length < 2 ^ 32 := by decide +kernel
  intro message hmessage response hresponse
  rcases List.mem_pair.mp hmessage with rfl | rfl
  · obtain rfl := Outcome.ok.inj (hlist.symm.trans hresponse)
    exact hlength
  · obtain rfl := Outcome.ok.inj (hodd.symm.trans hresponse)
    decide

/-- A sign request for the key without a nonce is not answered. -/
theorem hollow_key_unanswered : ¬ ServesStream quietSetup hollowStore [hollowRequest] [] := by
  intro hserves
  obtain ⟨responses, hreplies, -⟩ := hserves
    { shared := hollowStore
      ipcRunning := true
      verified := none
      agentRunning := true
      agentConnection := some (opened { pid := 0, uid := 0 }) }
    { pid := 0, uid := 0 } [.arrives (streamOf [hollowRequest] [])] true 2 rfl rfl
    (List.append_nil _) (by decide)
  have hpanicked : answer plainCrates hollowStore hollowRequest = .panicked := by decide +kernel
  cases hreplies with
  | cons hreply _ =>
      have hanswer := hreply.answer
      rw [show quietSetup.crates = plainCrates from rfl, hpanicked] at hanswer
      cases hanswer

end Serving

end TrafficCone.SshAgentStreams
