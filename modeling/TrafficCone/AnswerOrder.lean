import TrafficCone.Deliveries

namespace TrafficCone.AnswerOrder

open TrafficCone.StoreModels
open TrafficCone.ProcReaders
open TrafficCone.PidRouting
open TrafficCone.IpcServing
open TrafficCone.DaemonRuns
open TrafficCone.Deliveries
open TrafficCone.TransducerRuns

def ipcAnswer : Output → Option (Peer × Response)
  | .ipc peer response => some (peer, response)
  | .agent _ _ => none

def ipcAnswers (outputs : List Output) : List (Peer × Response) := outputs.filterMap ipcAnswer

/-- A connection that the server has closed, with what it could send to the client. -/
abbrev Closed := Peer × Option Response

def Closed.answer (closed : Closed) : Option (Peer × Response) :=
  closed.2.map fun response => (closed.1, response)

def Closed.unsent (closed : Closed) : Bool := closed.2.isNone

def messageFails (input : Event × Delivery) : Bool :=
  match input.2.message with
  | .ok _ => false
  | .error _ => true

/-- How the connections that have been taken stand to those that have been closed. -/
inductive Standing (taken : List Peer) (closed : List Closed) (daemon : Daemon) : Prop where
  | settled (htaken : taken = closed.map Prod.fst) (hverified : daemon.verified = none)
  | waiting (peer : Peer) (htaken : taken = closed.map Prod.fst ++ [peer])
      (hverified : daemon.verified = some peer)
  | broken (peer : Peer) (htaken : taken = closed.map Prod.fst ++ [peer])
      (hverified : daemon.verified = none) (hended : daemon.ipcRunning = false)

/-- What has been sent is one response for each connection closed, in their order, apart from
connections to which not even an error message could be sent. -/
structure Accounts (closed : List Closed) (inputs : List (Event × Delivery))
    (outputs : List Output) : Prop where
  answers : ipcAnswers outputs = closed.filterMap Closed.answer
  unsent : closed.countP Closed.unsent ≤ inputs.countP messageFails

section Sending

theorem Accounts.append {closed more : List Closed} {inputs later : List (Event × Delivery)}
    {outputs next : List Output} (h : Accounts closed inputs outputs)
    (hmore : Accounts more later next) :
    Accounts (closed ++ more) (inputs ++ later) (outputs ++ next) := by
  constructor
  · rw [ipcAnswers, List.filterMap_append, List.filterMap_append]
    exact congrArg₂ (· ++ ·) h.answers hmore.answers
  · rw [List.countP_append, List.countP_append]
    exact Nat.add_le_add h.unsent hmore.unsent

end Sending

section Steps

variable {setup : Setup} {daemon : Daemon} {taken : List Peer} {closed : List Closed}

end Steps

section Runs

variable {setup : Setup} {daemon : Daemon}

end Runs

end TrafficCone.AnswerOrder
