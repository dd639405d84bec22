import TrafficCone.P11Module
import TrafficCone.TransducerRuns

namespace TrafficCone.HandleStability

open TrafficCone.P11Client
open TrafficCone.P11Module
open TrafficCone.TransducerRuns

/-- The module, with the handles that it has returned since the last `C_Finalize`, each
with the certificate it was returned for. -/
structure Watched where
  state : ModuleState
  given : List (Nat × P11Cert)
  deriving DecidableEq, Repr

def start : Watched := { state := loaded, given := [] }

def handOut (state : ModuleState) (handles : List Nat) : List (Nat × P11Cert) :=
  handles.filterMap fun handle => (denoted state handle).map (handle, ·)

def givenAfter (watched : Watched) : Call → List (Nat × P11Cert)
  | .cFinalize => []
  | .cFindObjects _ phObject pulCount max =>
      watched.given ++
        handOut watched.state (cFindObjects phObject pulCount max watched.state).2.1
  | _ => watched.given

def watch (watched : Watched) (call : Call) : Watched :=
  { state := next watched.state call
    given := givenAfter watched call }

def Refers (state : ModuleState) (handle : Nat) (cert : P11Cert) : Prop :=
  (denoted state handle).map (·.certDer) = some cert.certDer

def Rejected (state : ModuleState) (handle : Nat) : Prop :=
  cGetAttributeValue handle state = .objectHandleInvalid ∧
    cSignInit handle state = (.objectHandleInvalid, state)

/-- A use of any handle returned refers to the certificate it was returned for, or is
rejected. -/
def HandlesStable (watched : Watched) : Prop :=
  ∀ given ∈ watched.given,
    Refers watched.state given.1 given.2 ∨ Rejected watched.state given.1

def Keeps (certs : List P11Cert) (given : Nat × P11Cert) : Prop :=
  ∀ cert, certs[given.1 / 2]? = some cert → cert.certDer = given.2.certDer

/-- The list that replaces the module's has, in the place of each handle returned, the
certificate it was returned for, or nothing. -/
def KeepsPlaces (watched : Watched) : Call → Prop
  | .cInitialize coned | .findObjectsInitRefreshes _ coned =>
      ∀ given ∈ watched.given, Keeps (listedCerts coned) given
  | _ => True

instance (state : ModuleState) (handle : Nat) (cert : P11Cert) :
    Decidable (Refers state handle cert) :=
  inferInstanceAs (Decidable (_ = _))

instance (state : ModuleState) (handle : Nat) : Decidable (Rejected state handle) :=
  inferInstanceAs (Decidable (_ ∧ _))

instance (watched : Watched) : Decidable (HandlesStable watched) :=
  inferInstanceAs (Decidable (∀ given ∈ watched.given, _))

theorem refers_or_rejected_iff (state : ModuleState) (given : Nat × P11Cert) :
    (Refers state given.1 given.2 ∨ Rejected state given.1) ↔ Keeps state.certs given := by
  rw [Refers, Rejected, Keeps, ← denoted]
  cases hdenoted : denoted state given.1 with
  | none => simp [cGetAttributeValue, hdenoted, cSignInit_of_none hdenoted]
  | some cert => simp [cGetAttributeValue, hdenoted]

theorem handlesStable_iff (watched : Watched) :
    HandlesStable watched ↔ ∀ given ∈ watched.given, Keeps watched.state.certs given :=
  forall₂_congr fun given _ => refers_or_rejected_iff watched.state given

/-- No handle is returned without its certificate being on record. -/
theorem exists_given_of_returned {watched : Watched} {session max handle : Nat}
    (h : handle ∈ (cFindObjects true true max watched.state).2.1) :
    ∃ cert, denoted watched.state handle = some cert ∧
      (handle, cert) ∈ givenAfter watched (.cFindObjects session true true max) := by
  have hrange := h
  rw [cFindObjects_eq, List.mem_range'_1] at hrange
  have hlength : handle / 2 < watched.state.certs.length := by omega
  obtain ⟨cert, hdenoted⟩ := (denoted_isSome_iff watched.state handle).mpr hlength
  refine ⟨cert, hdenoted, List.mem_append_right _ ?_⟩
  rw [handOut, List.mem_filterMap]
  exact ⟨handle, h, by rw [hdenoted, Option.map_some]⟩

theorem keeps_of_mem_handOut {state : ModuleState} {handles : List Nat}
    {given : Nat × P11Cert} (h : given ∈ handOut state handles) : Keeps state.certs given := by
  rw [handOut, List.mem_filterMap] at h
  obtain ⟨handle, -, hgiven⟩ := h
  obtain ⟨cert, hdenoted, rfl⟩ := Option.map_eq_some_iff.mp hgiven
  intro other hother
  rw [← denoted, hdenoted] at hother
  rw [Option.some.inj hother]

/-- A step that leaves the list leaves every handle what it was. -/
theorem handlesStable_of_same_certs {watched : Watched} {call : Call}
    (hwatched : HandlesStable watched)
    (hcerts : (next watched.state call).certs = watched.state.certs)
    (hgiven : givenAfter watched call = watched.given) : HandlesStable (watch watched call) := by
  rw [handlesStable_iff] at hwatched ⊢
  rw [watch, hcerts, hgiven]
  exact hwatched

theorem handlesStable_watch_iff {watched : Watched} (hwatched : HandlesStable watched)
    (call : Call) : HandlesStable (watch watched call) ↔ KeepsPlaces watched call := by
  cases call with
  | cInitialize coned => exact handlesStable_iff _
  | cFinalize =>
      refine iff_of_true ?_ trivial
      intro given hgiven
      cases hgiven
  | findObjectsInitRefreshes session coned => exact handlesStable_iff _
  | findObjectsInitRewinds session =>
      exact iff_of_true (handlesStable_of_same_certs hwatched rfl rfl) trivial
  | cFindObjects session phObject pulCount max =>
      refine iff_of_true ?_ trivial
      obtain ⟨position, hstate⟩ := cFindObjects_state phObject pulCount max watched.state
      rw [handlesStable_iff] at hwatched ⊢
      intro given hgiven
      rw [watch, next, hstate]
      rcases List.mem_append.mp hgiven with hbefore | hnow
      · exact hwatched given hbefore
      · exact keeps_of_mem_handOut hnow
  | cFindObjectsFinal session =>
      exact iff_of_true (handlesStable_of_same_certs hwatched rfl rfl) trivial
  | cGetAttributeValue session object =>
      exact iff_of_true (handlesStable_of_same_certs hwatched rfl rfl) trivial
  | cSignInit session key =>
      refine iff_of_true (handlesStable_of_same_certs hwatched ?_ rfl) trivial
      rw [next, cSignInit]
      split <;> rfl
  | cSign session pid coned arguments =>
      exact iff_of_true (handlesStable_of_same_certs hwatched rfl rfl) trivial

/-- In every run of calls of any sessions each handle keeps its certificate until
`C_Finalize` or is rejected, exactly if every new list keeps the places. -/
theorem handles_stable_iff (calls : List Call) :
    (∀ watched ∈ (run (openly watch) start calls).2, HandlesStable watched) ↔
      Along (openly watch) KeepsPlaces start calls := by
  refine @states_iff_along _ _ watch KeepsPlaces HandlesStable HandlesStable ?_ ?_ start ?_ calls
  · intro watched call hwatched hkeeps
    exact (handlesStable_watch_iff hwatched call).mpr hkeeps
  · intro watched call hwatched
    exact handlesStable_watch_iff hwatched call
  · intro given hgiven
    cases hgiven

section ImportedBefore

/-- A search returns the handles of the one certificate. Another is imported, which comes
first in the order of the labels, and a second session starts a search. -/
def homeImported : List Call :=
  [.cInitialize (lists [workCert]), .findObjectsInitRefreshes 1 (lists [workCert]),
    .findObjectsInitRewinds 1, .cFindObjects 1 true true 8, .cFindObjectsFinal 1,
    .findObjectsInitRefreshes 1 (lists [homeCert, workCert]), .findObjectsInitRewinds 1]

theorem handle_of_work_denotes_home :
    ¬ ∀ watched ∈ (run (openly watch) start homeImported).2, HandlesStable watched := by
  decide

end ImportedBefore

end TrafficCone.HandleStability
