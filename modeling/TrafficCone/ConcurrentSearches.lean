import Mathlib.Data.List.Range
import TrafficCone.P11Module
import TrafficCone.TransducerRuns

namespace TrafficCone.ConcurrentSearches

open TrafficCone.P11Client
open TrafficCone.P11Module
open TrafficCone.TransducerRuns

/-- How far a session has got: it is opened, begins its search with the two critical
sections of `C_FindObjectsInit`, and calls `C_FindObjects` until that returns no object. -/
inductive Phase where
  | ready
  | opened (session : Nat)
  | refreshed (session : Nat)
  | searching (session : Nat) (found : List Nat)
  | exhausted (session : Nat) (found : List Nat)
  | finished (found : List Nat)
  deriving DecidableEq, Repr

variable {ι : Type} [DecidableEq ι]

structure World (ι : Type) where
  state : ModuleState
  phase : ι → Phase

/-- Whose turn it is, and how many objects it asks for if it calls `C_FindObjects`. -/
structure Turn (ι : Type) where
  who : ι
  max : Nat
  positive : 0 < max

def start (state : ModuleState) : World ι := { state := state, phase := fun _ => .ready }

def searchOn (max session : Nat) (found : List Nat) (state : ModuleState) :
    ModuleState × Phase :=
  let returned := (cFindObjects true true max state).2
  (returned.2,
    if returned.1 = [] then .exhausted session found else .searching session (found ++ returned.1))

/-- The next critical section of a session. -/
def proceed (coned : Coned) (max : Nat) (state : ModuleState) : Phase → ModuleState × Phase
  | .ready =>
      match (cOpenSession true).2 with
      | some session => (state, .opened session)
      | none => (state, .ready)
  | .opened session => (next state (.findObjectsInitRefreshes session coned), .refreshed session)
  | .refreshed session => (next state (.findObjectsInitRewinds session), .searching session [])
  | .searching session found => searchOn max session found state
  | .exhausted session found => (next state (.cFindObjectsFinal session), .finished found)
  | .finished found => (state, .finished found)

def advance (coned : Coned) (world : World ι) (turn : Turn ι) : World ι :=
  let after := proceed coned turn.max world.state (world.phase turn.who)
  { state := after.1
    phase := Function.update world.phase turn.who after.2 }

/-- The two handles of each certificate. -/
def handles (coned : Coned) : List Nat := List.range (2 * (listedCerts coned).length)

/-- A session that was told that there are no more objects has got each handle once. -/
def SearchComplete (coned : Coned) : Phase → Prop
  | .exhausted _ found | .finished found => found.Perm (handles coned)
  | _ => True

instance (coned : Coned) : DecidablePred (SearchComplete coned)
  | .exhausted _ found | .finished found => inferInstanceAs (Decidable (found.Perm _))
  | .ready | .opened _ | .refreshed _ | .searching _ _ => isTrue trivial

/-- A session that goes on with its search goes on after as many objects as it has got. -/
def Phase.GoesOnAt (position : Nat) : Phase → Prop
  | .searching _ found => position = found.length
  | _ => True

instance (position : Nat) : DecidablePred (Phase.GoesOnAt position)
  | .searching _ _ => inferInstanceAs (Decidable (_ = _))
  | .ready | .opened _ | .refreshed _ | .exhausted _ _ | .finished _ => isTrue trivial

def InStep (world : World ι) (turn : Turn ι) : Prop :=
  (world.phase turn.who).GoesOnAt world.state.findPosition

instance (world : World ι) (turn : Turn ι) : Decidable (InStep world turn) :=
  inferInstanceAs (Decidable (Phase.GoesOnAt _ _))

/-- What holds of a session whose search nobody has disturbed: it has got the first handles
in order, and all of them before it was told so. -/
def Undisturbed (coned : Coned) (state : ModuleState) : Phase → Prop
  | .ready | .opened _ => True
  | .refreshed _ => state.certs = listedCerts coned
  | .searching _ found =>
      state.certs = listedCerts coned ∧ found = List.range found.length ∧
        found.length ≤ 2 * (listedCerts coned).length
  | .exhausted _ found | .finished found => found = handles coned

theorem searchComplete_of_undisturbed {coned : Coned} {state : ModuleState} {phase : Phase}
    (h : Undisturbed coned state phase) : SearchComplete coned phase := by
  cases phase with
  | exhausted session found =>
      rw [SearchComplete, show found = handles coned from h]
  | finished found =>
      rw [SearchComplete, show found = handles coned from h]
  | ready => trivial
  | opened session => trivial
  | refreshed session => trivial
  | searching session found => trivial

/-- Another session's step matters to none but through the list, which is always the same. -/
theorem undisturbed_of_certs {coned : Coned} {state after : ModuleState} {phase : Phase}
    (hcerts : after.certs = state.certs ∨ after.certs = listedCerts coned)
    (h : Undisturbed coned state phase) : Undisturbed coned after phase := by
  have hlisted : state.certs = listedCerts coned → after.certs = listedCerts coned := by
    intro hstate
    rcases hcerts with hsame | hnew
    · rw [hsame, hstate]
    · exact hnew
  cases phase with
  | refreshed session => exact hlisted h
  | searching session found =>
      obtain ⟨hstate, hfound⟩ := h
      exact ⟨hlisted hstate, hfound⟩
  | ready => trivial
  | opened session => trivial
  | exhausted session found => exact h
  | finished found => exact h

theorem proceed_certs (coned : Coned) (max : Nat) (state : ModuleState) (phase : Phase) :
    (proceed coned max state phase).1.certs = state.certs ∨
      (proceed coned max state phase).1.certs = listedCerts coned := by
  cases phase with
  | opened session => exact Or.inr rfl
  | searching session found =>
      refine Or.inl ?_
      rw [proceed, searchOn, cFindObjects_eq]
  | ready => exact Or.inl rfl
  | refreshed session => exact Or.inl rfl
  | exhausted session found => exact Or.inl rfl
  | finished found => exact Or.inl rfl

/-- A call from the position that the session has reached returns the next handles, and none
only if the session has them all. -/
theorem undisturbed_searchOn {coned : Coned} {max session : Nat} {found : List Nat}
    {state : ModuleState} (hmax : 0 < max) (hposition : state.findPosition = found.length)
    (h : Undisturbed coned state (.searching session found)) :
    Undisturbed coned (searchOn max session found state).1
      (searchOn max session found state).2 := by
  obtain ⟨hcerts, hfound, hlength⟩ := h
  simp only [searchOn, cFindObjects_eq, hposition, hcerts]
  generalize hcount : min max ((listedCerts coned).length * 2 - found.length) = count
  cases count with
  | zero =>
      have hall : found.length = 2 * (listedCerts coned).length := by omega
      rw [List.range'_zero, if_pos rfl, Undisturbed, handles, ← hall]
      exact hfound
  | succ count =>
      have hnext : found ++ List.range' found.length (count + 1) =
          List.range (found.length + (count + 1)) := by
        conv_lhs => rw [hfound]
        rw [List.length_range, List.range_eq_range', List.range_eq_range']
        simpa using @List.range'_append_1 0 found.length (count + 1)
      rw [if_neg (by simp)]
      refine ⟨rfl, ?_, ?_⟩
      · rw [hnext, List.length_range]
      · rw [hnext, List.length_range]
        omega

theorem undisturbed_proceed {coned : Coned} {max : Nat} {state : ModuleState} {phase : Phase}
    (hmax : 0 < max)
    (hposition : phase.GoesOnAt state.findPosition)
    (h : Undisturbed coned state phase) :
    Undisturbed coned (proceed coned max state phase).1 (proceed coned max state phase).2 := by
  cases phase with
  | ready => trivial
  | opened session => rfl
  | refreshed session => exact ⟨h, rfl, Nat.zero_le _⟩
  | searching session found => exact undisturbed_searchOn hmax hposition h
  | exhausted session found => exact h
  | finished found => exact h

theorem advance_phase_self (coned : Coned) (world : World ι) (turn : Turn ι) :
    (advance coned world turn).phase turn.who =
      (proceed coned turn.max world.state (world.phase turn.who)).2 := by
  rw [advance]
  exact Function.update_self _ _ _

theorem advance_phase_of_ne (coned : Coned) (world : World ι) {turn : Turn ι} {who : ι}
    (h : who ≠ turn.who) : (advance coned world turn).phase who = world.phase who := by
  rw [advance]
  exact Function.update_of_ne h _ _

theorem undisturbed_advance {coned : Coned} {world : World ι} {turn : Turn ι}
    (hworld : ∀ who, Undisturbed coned world.state (world.phase who))
    (hturn : InStep world turn) (who : ι) :
    Undisturbed coned (advance coned world turn).state ((advance coned world turn).phase who) := by
  by_cases hwho : who = turn.who
  · rw [hwho, advance_phase_self]
    exact undisturbed_proceed turn.positive hturn (hworld turn.who)
  · rw [advance_phase_of_ne coned world hwho]
    exact undisturbed_of_certs (proceed_certs coned turn.max world.state _) (hworld who)

/-- In every interleaving in which each call goes on where its own session has got to, each
session that has been told that there are no more objects has got each handle once. -/
theorem searches_complete {coned : Coned} {state : ModuleState} {turns : List (Turn ι)}
    (h : Along (openly (advance coned)) InStep (start state) turns) :
    ∀ world ∈ (run (openly (advance coned)) (start state) turns).2, ∀ who,
      SearchComplete coned (world.phase who) := by
  have hrun := @run_of_along _ _ _ (openly (advance coned)) InStep
    (fun world : World ι => ∀ who, Undisturbed coned world.state (world.phase who))
    (fun world => ∀ who, SearchComplete coned (world.phase who)) ?_ (start state) turns ?_ h
  · exact hrun.2
  · intro world turn hworld hturn
    have hafter := undisturbed_advance hworld hturn
    refine ⟨hafter, ?_⟩
    intro after hreached who
    rw [List.mem_singleton.mp hreached]
    exact searchComplete_of_undisturbed (hafter who)
  · intro who
    trivial

section Apart

def Phase.IsSearching : Phase → Prop
  | .searching _ _ => True
  | _ => False

/-- No session begins or goes on with a search during another one's. -/
def Apart (world : World ι) (turn : Turn ι) : Prop :=
  (∃ session, world.phase turn.who = .refreshed session) ∨
      (world.phase turn.who).IsSearching →
    ∀ who, who ≠ turn.who → ¬ (world.phase who).IsSearching

def AllGoOn (world : World ι) : Prop :=
  ∀ who, (world.phase who).GoesOnAt world.state.findPosition

theorem goesOnAt_of_not_searching {phase : Phase} (h : ¬ phase.IsSearching) (position : Nat) :
    phase.GoesOnAt position := by
  cases phase with
  | searching session found => exact absurd trivial h
  | _ => trivial

theorem goesOnAt_searchOn {max session : Nat} {found : List Nat} {state : ModuleState}
    (h : state.findPosition = found.length) :
    (searchOn max session found state).2.GoesOnAt
      (searchOn max session found state).1.findPosition := by
  simp only [searchOn, cFindObjects_eq, h]
  split
  · trivial
  · simp [Phase.GoesOnAt]

theorem proceed_findPosition (coned : Coned) (max : Nat) (state : ModuleState) {phase : Phase}
    (hrefreshed : ¬ ∃ session, phase = .refreshed session) (hsearching : ¬ phase.IsSearching) :
    (proceed coned max state phase).1.findPosition = state.findPosition := by
  cases phase with
  | refreshed session => exact absurd ⟨session, rfl⟩ hrefreshed
  | searching session found => exact absurd trivial hsearching
  | ready => rfl
  | opened session => rfl
  | exhausted session found => rfl
  | finished found => rfl

theorem goesOnAt_proceed {coned : Coned} {max : Nat} {state : ModuleState} {phase : Phase}
    (h : phase.GoesOnAt state.findPosition) :
    (proceed coned max state phase).2.GoesOnAt (proceed coned max state phase).1.findPosition := by
  cases phase with
  | searching session found => exact goesOnAt_searchOn h
  | refreshed session => rfl
  | ready => trivial
  | opened session => trivial
  | exhausted session found => trivial
  | finished found => trivial

theorem allGoOn_advance {coned : Coned} {world : World ι} {turn : Turn ι}
    (hworld : AllGoOn world) (hapart : Apart world turn) : AllGoOn (advance coned world turn) := by
  intro who
  by_cases hwho : who = turn.who
  · rw [hwho, advance_phase_self]
    exact goesOnAt_proceed (hworld turn.who)
  · rw [advance_phase_of_ne coned world hwho]
    by_cases htouches : (∃ session, world.phase turn.who = .refreshed session) ∨
        (world.phase turn.who).IsSearching
    · exact goesOnAt_of_not_searching (hapart htouches who hwho) _
    · obtain ⟨hrefreshed, hsearching⟩ := not_or.mp htouches
      have hposition := proceed_findPosition coned turn.max world.state hrefreshed hsearching
      rw [advance, hposition]
      exact hworld who

/-- Searches that do not overlap are in step, whatever else the sessions do meanwhile. -/
theorem inStep_of_apart {coned : Coned} {state : ModuleState} {turns : List (Turn ι)}
    (h : Along (openly (advance coned)) Apart (start state) turns) :
    Along (openly (advance coned)) InStep (start state) turns := by
  refine @along_of_along _ _ _ (openly (advance coned)) Apart InStep AllGoOn ?_ (start state)
    turns (fun _ => trivial) h
  intro world turn hworld hapart
  exact ⟨allGoOn_advance hworld hapart, hworld turn.who⟩

end Apart

section TwoSessions

def turn (who : Fin 2) : Turn (Fin 2) := { who := who, max := 1, positive := by decide }

/-- The first session searches until it is told that there is no more, then the second. -/
def oneAfterTheOther : List (Turn (Fin 2)) :=
  List.replicate 7 (turn 0) ++ List.replicate 7 (turn 1)

theorem searches_complete_one_after_the_other :
    (∀ world ∈ (run (openly (advance (lists [workCert]))) (start loaded) oneAfterTheOther).2,
      ∀ who, SearchComplete (lists [workCert]) (world.phase who)) ∧
      ∀ who, (run (openly (advance (lists [workCert]))) (start loaded) oneAfterTheOther).1.phase
        who = .finished [0, 1] :=
  ⟨searches_complete (by decide), by decide⟩

/-- The second session begins its search after the first one's first object. -/
def secondBegins : List (Turn (Fin 2)) :=
  List.replicate 4 (turn 0) ++ List.replicate 3 (turn 1) ++ List.replicate 4 (turn 0) ++
    List.replicate 2 (turn 1)

/-- The first session gets the first object twice, and the second session none. -/
theorem searches_disturb_each_other :
    ¬ ∀ world ∈ (run (openly (advance (lists [workCert]))) (start loaded) secondBegins).2, ∀ who,
      SearchComplete (lists [workCert]) (world.phase who) := by
  decide

end TwoSessions

end TrafficCone.ConcurrentSearches
