import TrafficCone.P11Module
import TrafficCone.TransducerRuns

namespace TrafficCone.PendingSignatures

open TrafficCone.P11Client
open TrafficCone.P11Module
open TrafficCone.TransducerRuns

/-- The module, with the handle of the last successful `C_SignInit` since the latest
`C_Initialize` or `C_Finalize`. -/
structure Tracked where
  state : ModuleState
  started : Option Nat
  deriving DecidableEq, Repr

def start : Tracked := { state := loaded, started := none }

def restarts : Call → Bool
  | .cInitialize _ | .cFinalize => true
  | _ => false

def track (tracked : Tracked) (call : Call) : Tracked :=
  { state := next tracked.state call
    started :=
      if restarts call then none else (startedKey tracked.state call).or tracked.started }

/-- The module is initialised and lists the certificate of the handle it signs with. -/
def HandleIsLive (state : ModuleState) : Prop :=
  ∀ handle, state.signHandle = some handle →
    state.initialised = true ∧ handle / 2 < state.certs.length

/-- What `C_Sign` sends the daemon, it sends after a `C_SignInit` that succeeded since the
latest `C_Initialize` or `C_Finalize`, and whose object is still there. -/
def AsksWhenStarted (tracked : Tracked) : Prop :=
  ∀ pid arguments request, signRequest pid arguments tracked.state = .ok request →
    ∃ handle cert, tracked.started = some handle ∧ denoted tracked.state handle = some cert

structure PendingIsLive (tracked : Tracked) : Prop where
  live : HandleIsLive tracked.state
  asks : AsksWhenStarted tracked

/-- The step does not leave a pending signature without its object or its module. -/
def LeavesNoneBehind (tracked : Tracked) : Call → Prop
  | .cInitialize _ | .cFinalize => tracked.state.signHandle = none
  | .findObjectsInitRefreshes _ coned =>
      ∀ handle, tracked.state.signHandle = some handle → handle / 2 < (listedCerts coned).length
  | .cSignInit _ key => key / 2 < tracked.state.certs.length → tracked.state.initialised = true
  | _ => True

def StartedPends (tracked : Tracked) : Prop :=
  ∀ handle, tracked.started = some handle → tracked.state.signHandle = some handle

def Pending (tracked : Tracked) : Prop :=
  ∀ handle, tracked.state.signHandle = some handle →
    tracked.state.initialised = true ∧ handle / 2 < tracked.state.certs.length ∧
      tracked.started = some handle

theorem pendingIsLive_iff {tracked : Tracked} (hpends : StartedPends tracked) :
    PendingIsLive tracked ↔ Pending tracked := by
  constructor
  · intro hlive handle hhandle
    obtain ⟨hinitialised, hlength⟩ := hlive.live handle hhandle
    refine ⟨hinitialised, hlength, ?_⟩
    have hasked : signRequest 0 { data := some [], hasSignature := true, signatureLen := some 0 }
        tracked.state = .ok (.sign 0 []) :=
      signRequest_eq_ok_iff.mpr ⟨by simp [hhandle], rfl, [], rfl, rfl⟩
    obtain ⟨other, -, hstarted, -⟩ := hlive.asks _ _ _ hasked
    rw [hstarted, ← hpends other hstarted, hhandle]
  · intro hpending
    constructor
    · intro handle hhandle
      obtain ⟨hinitialised, hlength, -⟩ := hpending handle hhandle
      exact ⟨hinitialised, hlength⟩
    · intro pid arguments request hasked
      obtain ⟨hsome, -⟩ := signRequest_eq_ok_iff.mp hasked
      obtain ⟨handle, hhandle⟩ := Option.isSome_iff_exists.mp hsome
      obtain ⟨-, hlength, hstarted⟩ := hpending handle hhandle
      obtain ⟨cert, hdenoted⟩ := (denoted_isSome_iff tracked.state handle).mpr hlength
      exact ⟨handle, cert, hstarted, hdenoted⟩

theorem cSignInit_cases (key : Nat) (state : ModuleState) :
    (key / 2 < state.certs.length ∧
        cSignInit key state = (.ok, { state with signHandle := some key })) ∨
      (¬ key / 2 < state.certs.length ∧ cSignInit key state = (.objectHandleInvalid, state)) := by
  cases hdenoted : denoted state key with
  | none =>
      refine Or.inr ⟨?_, cSignInit_of_none hdenoted⟩
      rw [← denoted_isSome_iff, hdenoted]
      simp
  | some cert =>
      exact Or.inl ⟨(denoted_isSome_iff state key).mp ⟨cert, hdenoted⟩,
        cSignInit_of_denoted hdenoted⟩

theorem startedPends_track {tracked : Tracked} (hpends : StartedPends tracked) (call : Call) :
    StartedPends (track tracked call) := by
  intro handle hstarted
  rw [track, next_signHandle]
  change (if restarts call then none else (startedKey tracked.state call).or tracked.started) =
    some handle at hstarted
  split at hstarted
  · cases hstarted
  · cases hkey : startedKey tracked.state call with
    | none =>
        rw [hkey] at hstarted
        exact hpends handle hstarted
    | some key =>
        rw [hkey] at hstarted
        exact hstarted

/-- A module that starts anew must not have a handle left. -/
theorem pending_iff_of_forgotten {tracked : Tracked} (hstarted : tracked.started = none) :
    Pending tracked ↔ tracked.state.signHandle = none := by
  constructor
  · intro hpending
    cases hhandle : tracked.state.signHandle with
    | none => rfl
    | some handle =>
        have hother := (hpending handle hhandle).2.2
        rw [hstarted] at hother
        cases hother
  · intro hnone handle hhandle
    rw [hnone] at hhandle
    cases hhandle

theorem pending_track_iff {tracked : Tracked} (hpending : Pending tracked) (call : Call) :
    Pending (track tracked call) ↔ LeavesNoneBehind tracked call := by
  cases call with
  | cInitialize coned => exact pending_iff_of_forgotten rfl
  | cFinalize => exact pending_iff_of_forgotten rfl
  | findObjectsInitRefreshes session coned =>
      constructor
      · intro hafter handle hhandle
        exact (hafter handle hhandle).2.1
      · intro hkept handle hhandle
        obtain ⟨hinitialised, -, hstarted⟩ := hpending handle hhandle
        exact ⟨hinitialised, hkept handle hhandle, hstarted⟩
  | cSignInit session key =>
      rcases cSignInit_cases key tracked.state with ⟨hlength, hcall⟩ | ⟨hlength, hcall⟩
      · rw [Pending, track, startedKey, next, hcall]
        constructor
        · intro hafter _
          exact (hafter key rfl).1
        · intro hinitialised handle hhandle
          obtain rfl : key = handle := Option.some.inj hhandle
          exact ⟨hinitialised hlength, hlength, rfl⟩
      · rw [Pending, track, startedKey, next, hcall]
        exact iff_of_true hpending fun hother => absurd hother hlength
  | cFindObjects session phObject pulCount max =>
      obtain ⟨position, hstate⟩ := cFindObjects_state phObject pulCount max tracked.state
      rw [Pending, track, next, hstate]
      exact iff_of_true hpending trivial
  | findObjectsInitRewinds session => exact iff_of_true hpending trivial
  | cFindObjectsFinal session => exact iff_of_true hpending trivial
  | cGetAttributeValue session object => exact iff_of_true hpending trivial
  | cSign session pid coned arguments => exact iff_of_true hpending trivial

/-- In every run the pending signature is one of the initialised module and of a
certificate it lists, exactly if no call leaves one behind. -/
theorem pending_live_iff (calls : List Call) :
    (∀ tracked ∈ (run (openly track) start calls).2, PendingIsLive tracked) ↔
      Along (openly track) LeavesNoneBehind start calls := by
  refine @states_iff_along _ _ track LeavesNoneBehind
    (fun tracked => StartedPends tracked ∧ Pending tracked) PendingIsLive ?_ ?_ start ?_ calls
  · rintro tracked call ⟨hpends, hpending⟩ hcall
    exact ⟨startedPends_track hpends call, (pending_track_iff hpending call).mpr hcall⟩
  · rintro tracked call ⟨hpends, hpending⟩
    rw [pendingIsLive_iff (startedPends_track hpends call)]
    exact pending_track_iff hpending call
  · constructor
    · intro handle hhandle
      cases hhandle
    · intro handle hhandle
      cases hhandle

section FinalizedWhilePending

def finalizedPending : List Call :=
  [.cInitialize (lists [workCert]), .cSignInit 1 0, .cFinalize]

/-- After `C_Finalize` the module would still have the daemon sign. -/
theorem pending_after_finalize :
    ¬ ∀ tracked ∈ (run (openly track) start finalizedPending).2, PendingIsLive tracked := by
  intro hlive
  have hlast := (hlive (run (openly track) start finalizedPending).1 (by decide)).live 0 (by decide)
  exact absurd hlast.1 (by decide)

end FinalizedWhilePending

end TrafficCone.PendingSignatures
