import Mathlib.Data.List.Basic
import TrafficCone.P11Client

namespace TrafficCone.P11Module

open TrafficCone.Outcomes
open TrafficCone.StoreModels
open TrafficCone.P11Client

inductive ReturnValue where
  | ok
  | generalError
  | argumentsBad
  | objectHandleInvalid
  deriving DecidableEq, Repr

/-- The fields of `STATE`, and `FIND_POSITION`, which has a lock of its own. Sessions share
all of it. -/
structure ModuleState where
  initialised : Bool
  certs : List P11Cert
  signHandle : Option Nat
  findPosition : Nat
  deriving DecidableEq, Repr

def loaded : ModuleState :=
  { initialised := false
    certs := []
    signHandle := none
    findPosition := 0 }

/-- What comes back for a request at some moment: the daemon's certificates and routes may
be others at the next. -/
abbrev Coned : Type := Request → Except P11Error Response

def ask (coned : Coned) (request : Request) : Outcome P11Error Answer := do
  let response ← Outcome.ofExcept (coned request)
  answerOf request response

/-- `list_certs().unwrap_or_default()`: without an answer there are no certificates. -/
def listedCerts (coned : Coned) : List P11Cert :=
  match ask coned .listCerts with
  | .ok (.certs certs) => certs
  | _ => []

def cInitialize (coned : Coned) (state : ModuleState) : ReturnValue × ModuleState :=
  (.ok, { state with certs := listedCerts coned, initialised := true })

def cFinalize (state : ModuleState) : ReturnValue × ModuleState :=
  -- The handle to sign with is left.
  (.ok, { state with initialised := false, certs := [] })

/-- Every session has the handle 1. -/
def cOpenSession (phSession : Bool) : ReturnValue × Option Nat :=
  if !phSession then (.argumentsBad, none) else (.ok, some 1)

/-- The first critical section of `C_FindObjectsInit`. -/
def refreshCerts (coned : Coned) (state : ModuleState) : ModuleState :=
  { state with certs := listedCerts coned }

/-- The second one, after which `C_FindObjectsInit` returns `CKR_OK`. -/
def rewindSearch (state : ModuleState) : ModuleState := { state with findPosition := 0 }

/-- The loop of `C_FindObjects`: the handles it stores, and the position it ends at. -/
def takeObjects (objects : Nat) : Nat → Nat → List Nat × Nat
  | 0, position => ([], position)
  | room + 1, position =>
      if position < objects then
        let rest := takeObjects objects room (position + 1)
        (position :: rest.1, rest.2)
      else ([], position)

/-- A pointer argument is given by whether it is there. -/
def cFindObjects (phObject pulCount : Bool) (max : Nat) (state : ModuleState) :
    ReturnValue × List Nat × ModuleState :=
  if !phObject || !pulCount then (.argumentsBad, [], state)
  else
    -- A certificate and its key are two objects.
    let taken := takeObjects (state.certs.length * 2) max state.findPosition
    (.ok, taken.1, { state with findPosition := taken.2 })

def cFindObjectsFinal (state : ModuleState) : ReturnValue × ModuleState := (.ok, state)

def denoted (state : ModuleState) (handle : Nat) : Option P11Cert := state.certs[handle / 2]?

def cGetAttributeValue (object : Nat) (state : ModuleState) : ReturnValue :=
  if (denoted state object).isNone then .objectHandleInvalid else .ok

def cSignInit (key : Nat) (state : ModuleState) : ReturnValue × ModuleState :=
  if (denoted state key).isNone then (.objectHandleInvalid, state)
  else (.ok, { state with signHandle := some key })

/-- The arguments of `C_Sign`: what `p_data` points to, whether `p_signature` is there, and
the room that `pul_signature_len` says it has. -/
structure SignArguments where
  data : Option Bytes
  hasSignature : Bool
  signatureLen : Option Nat
  deriving DecidableEq, Repr

/-- What `C_Sign` returns, and what it stores for its caller. -/
structure Signed where
  value : ReturnValue
  signature : Option Bytes
  length : Option Nat
  deriving DecidableEq, Repr

/-- `C_Sign` as long as it holds the lock: the request it sends after that, if any. -/
def signRequest (pid : Nat) (arguments : SignArguments) (state : ModuleState) :
    Except ReturnValue Request :=
  match arguments.data, arguments.signatureLen with
  | some data, some _ =>
      -- Of the handle no more is read.
      if state.signHandle.isNone then .error .generalError else .ok (.sign pid data)
  | _, _ => .error .argumentsBad

def storeSignature (arguments : SignArguments) (signature : Bytes) : Signed :=
  if !arguments.hasSignature then
    { value := .ok, signature := none, length := some signature.length }
  else if signature.length ≤ arguments.signatureLen.getD 0 then
    { value := .ok, signature := some signature, length := some signature.length }
  else { value := .argumentsBad, signature := none, length := none }

def cSign (pid : Nat) (coned : Coned) (arguments : SignArguments) (state : ModuleState) :
    Signed :=
  match signRequest pid arguments state with
  | .error value => { value := value, signature := none, length := none }
  | .ok request =>
      match ask coned request with
      | .ok (.signature signature) => storeSignature arguments signature
      | _ => { value := .generalError, signature := none, length := none }

/-- A daemon with these certificates, which has no route for the process. -/
def lists (certs : List CertInfo) : Coned
  | .listCerts => .ok (.certs certs)
  | .sign _ _ => .ok (.error "No route matched")

def workCert : CertInfo :=
  { id := "c1", label := "Work", certDer := [48], fingerprint := "f1" }

def homeCert : CertInfo :=
  { id := "c2", label := "Home", certDer := [49], fingerprint := "f2" }

/-- A call of any session; `C_FindObjectsInit` is two, one for each of its critical
sections. -/
inductive Call where
  | cInitialize (coned : Coned)
  | cFinalize
  | findObjectsInitRefreshes (session : Nat) (coned : Coned)
  | findObjectsInitRewinds (session : Nat)
  | cFindObjects (session : Nat) (phObject pulCount : Bool) (max : Nat)
  | cFindObjectsFinal (session : Nat)
  | cGetAttributeValue (session object : Nat)
  | cSignInit (session key : Nat)
  | cSign (session pid : Nat) (coned : Coned) (arguments : SignArguments)

def next (state : ModuleState) : Call → ModuleState
  | .cInitialize coned => (cInitialize coned state).2
  | .cFinalize => (cFinalize state).2
  | .findObjectsInitRefreshes _ coned => refreshCerts coned state
  | .findObjectsInitRewinds _ => rewindSearch state
  | .cFindObjects _ phObject pulCount max => (cFindObjects phObject pulCount max state).2.2
  | .cFindObjectsFinal _ => (cFindObjectsFinal state).2
  | .cGetAttributeValue _ _ => state
  | .cSignInit _ key => (cSignInit key state).2
  | .cSign _ _ _ _ => state

/-- The handle with which a signature begins, if the call is a `C_SignInit` that succeeds. -/
def startedKey (state : ModuleState) : Call → Option Nat
  | .cSignInit _ key => if (cSignInit key state).1 = .ok then some key else none
  | _ => none

theorem takeObjects_eq (objects room position : Nat) :
    takeObjects objects room position =
      (List.range' position (min room (objects - position)),
        position + min room (objects - position)) := by
  induction room generalizing position with
  | zero => simp [takeObjects]
  | succ room ih =>
      rw [takeObjects]
      by_cases hposition : position < objects
      · have hcount : min (room + 1) (objects - position) =
            min room (objects - (position + 1)) + 1 := by omega
        rw [if_pos hposition, ih, hcount, List.range'_succ]
        simp only [Prod.mk.injEq, true_and]
        omega
      · have hcount : min (room + 1) (objects - position) = 0 := by omega
        rw [if_neg hposition, hcount]
        rfl

section Calls

variable {state : ModuleState}

theorem cFindObjects_eq (max : Nat) (state : ModuleState) :
    cFindObjects true true max state =
      (.ok, List.range' state.findPosition (min max (state.certs.length * 2 - state.findPosition)),
        { state with
          findPosition := state.findPosition +
            min max (state.certs.length * 2 - state.findPosition) }) := by
  rw [cFindObjects, if_neg (by decide), takeObjects_eq]

theorem cFindObjects_state (phObject pulCount : Bool) (max : Nat) (state : ModuleState) :
    ∃ position, (cFindObjects phObject pulCount max state).2.2 =
      { state with findPosition := position } := by
  rw [cFindObjects]
  split
  · exact ⟨state.findPosition, rfl⟩
  · exact ⟨_, rfl⟩

theorem cSignInit_of_denoted {key : Nat} {cert : P11Cert} (h : denoted state key = some cert) :
    cSignInit key state = (.ok, { state with signHandle := some key }) := by
  simp [cSignInit, h]

theorem cSignInit_of_none {key : Nat} (h : denoted state key = none) :
    cSignInit key state = (.objectHandleInvalid, state) := by
  simp [cSignInit, h]

/-- Nothing but a successful `C_SignInit` changes the handle to sign with. -/
theorem next_signHandle (state : ModuleState) (call : Call) :
    (next state call).signHandle = (startedKey state call).or state.signHandle := by
  cases call with
  | cSignInit session key =>
      rw [next, startedKey]
      cases hdenoted : denoted state key with
      | none => simp [cSignInit_of_none hdenoted]
      | some cert => simp [cSignInit_of_denoted hdenoted]
  | cFindObjects session phObject pulCount max =>
      obtain ⟨position, hstate⟩ := cFindObjects_state phObject pulCount max state
      rw [next, hstate]
      rfl
  | cInitialize coned => rfl
  | cFinalize => rfl
  | findObjectsInitRefreshes session coned => rfl
  | findObjectsInitRewinds session => rfl
  | cFindObjectsFinal session => rfl
  | cGetAttributeValue session object => rfl
  | cSign session pid coned arguments => rfl

theorem denoted_isSome_iff (state : ModuleState) (handle : Nat) :
    (∃ cert, denoted state handle = some cert) ↔ handle / 2 < state.certs.length := by
  rw [denoted, ← Option.isSome_iff_exists]
  simp

/-- Whichever handle is pending, the same request is sent. -/
theorem signRequest_eq_ok_iff {pid : Nat} {arguments : SignArguments} {request : Request} :
    signRequest pid arguments state = .ok request ↔
      state.signHandle.isSome = true ∧ arguments.signatureLen.isSome = true ∧
        ∃ data, arguments.data = some data ∧ request = .sign pid data := by
  rw [signRequest]
  cases arguments.data <;> cases arguments.signatureLen <;> cases state.signHandle <;>
    simp [eq_comm]

end Calls

end TrafficCone.P11Module
