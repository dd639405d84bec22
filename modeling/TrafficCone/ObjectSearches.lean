import Mathlib.Algebra.GroupWithZero.Nat
import Mathlib.Data.List.Forall2
import Mathlib.Data.List.Range
import TrafficCone.P11Module
import TrafficCone.TransducerRuns

namespace TrafficCone.ObjectSearches

open TrafficCone.P11Client
open TrafficCone.P11Module
open TrafficCone.TransducerRuns

def cFindObjectsInit (coned : Coned) (state : ModuleState) : ReturnValue × ModuleState :=
  (.ok, rewindSearch (refreshCerts coned state))

/-- What a call of `C_FindObjects` leaves to its caller: the array that `ph_object` points
to, and the number in `pul_count`. -/
structure Found where
  value : ReturnValue
  array : List Nat
  count : Nat
  deriving DecidableEq, Repr

def Found.handles (found : Found) : List Nat := found.array.take found.count

/-- The loop of `C_FindObjects`, with the array that it writes to. Its first argument is the
room that is left. -/
def fillArray (objects : Nat) : Nat → Nat → Nat → List Nat → List Nat × Nat × Nat
  | 0, count, position, array => (array, count, position)
  | room + 1, count, position, array =>
      if position < objects then
        fillArray objects room (count + 1) (position + 1) (array.set count position)
      else (array, count, position)

/-- `C_FindObjects` with an array of as many cells as its maximum says. -/
def findObjectsInto (array : List Nat) (state : ModuleState) : Found × ModuleState :=
  let filled := fillArray (state.certs.length * 2) array.length 0 state.findPosition array
  ({ value := .ok, array := filled.1, count := filled.2.1 },
    { state with findPosition := filled.2.2 })

def search (state : ModuleState) (array : List Nat) : ModuleState × List Found :=
  ((findObjectsInto array state).2, [(findObjectsInto array state).1])

/-- The caller gets at most as many handles as it has room for, and is told how many; the
cells behind them are as they were. -/
structure Fits (array : List Nat) (found : Found) : Prop where
  value : found.value = .ok
  count : found.count ≤ array.length
  length : found.array.length = array.length
  untouched : found.array.drop found.count = array.drop found.count

theorem fillArray_eq (objects room count position : Nat) (array : List Nat)
    (hroom : count + room ≤ array.length) :
    fillArray objects room count position array =
      (array.take count ++ (takeObjects objects room position).1 ++
          array.drop (count + (takeObjects objects room position).1.length),
        count + (takeObjects objects room position).1.length,
        (takeObjects objects room position).2) := by
  induction room generalizing count position array with
  | zero => simp [fillArray, takeObjects]
  | succ room ih =>
      rw [fillArray, takeObjects]
      by_cases hposition : position < objects
      · have hcell : count < array.length := by omega
        rw [if_pos hposition, if_pos hposition, ih _ _ _ (by rw [List.length_set]; omega)]
        simp only [List.length_cons, Prod.mk.injEq]
        refine ⟨?_, by omega, trivial⟩
        -- The cell at `count` is the last of the first `count + 1`, and none of the others.
        rw [List.take_succ_eq_append_getElem (by rwa [List.length_set]), List.getElem_set_self,
          List.take_set_of_le (le_refl count), List.drop_set_of_lt (by omega)]
        simp only [List.append_assoc, List.cons_append, List.nil_append, Nat.add_assoc,
          Nat.add_comm 1]
      · rw [if_neg hposition, if_neg hposition]
        simp

/-- The array holds what the loop takes, and the rest of it is as it was. -/
theorem findObjectsInto_eq (array : List Nat) (state : ModuleState) :
    findObjectsInto array state =
      ({ value := .ok
         array := (cFindObjects true true array.length state).2.1 ++
           array.drop (cFindObjects true true array.length state).2.1.length
         count := (cFindObjects true true array.length state).2.1.length },
        (cFindObjects true true array.length state).2.2) := by
  rw [findObjectsInto, fillArray_eq _ _ _ _ _ (by omega)]
  simp [cFindObjects]

theorem handles_findObjectsInto (array : List Nat) (state : ModuleState) :
    (findObjectsInto array state).1.handles = (cFindObjects true true array.length state).2.1 := by
  rw [findObjectsInto_eq]
  exact List.take_left' rfl

theorem fits_findObjectsInto (array : List Nat) (state : ModuleState) :
    Fits array (findObjectsInto array state).1 := by
  have hcount : (cFindObjects true true array.length state).2.1.length ≤ array.length := by
    rw [cFindObjects_eq, List.length_range']
    exact Nat.min_le_left _ _
  rw [findObjectsInto_eq]
  exact
    { value := rfl
      count := hcount
      length := by
        rw [List.length_append, List.length_drop]
        omega
      untouched := List.drop_left' rfl }

theorem length_handles {array : List Nat} {found : Found} (h : Fits array found) :
    found.handles.length = found.count := by
  have hcount := h.count
  have hlength := h.length
  rw [Found.handles, List.length_take]
  omega

/-- From a position on, a search returns the handles that follow it, as long as there are any
and there is room for them. -/
theorem run_search (state : ModuleState) (arrays : List (List Nat)) :
    List.Forall₂ Fits arrays (run search state arrays).2 ∧
      (run search state arrays).1.certs = state.certs ∧
      (run search state arrays).2.flatMap Found.handles =
        List.range' state.findPosition
          (min (arrays.map List.length).sum (state.certs.length * 2 - state.findPosition)) := by
  induction arrays generalizing state with
  | nil => exact ⟨.nil, rfl, by simp⟩
  | cons array arrays ih =>
      obtain ⟨hfits, hcerts, hhandles⟩ := ih (findObjectsInto array state).2
      have hafter : (findObjectsInto array state).2 =
          { state with
            findPosition := state.findPosition +
              min array.length (state.certs.length * 2 - state.findPosition) } := by
        rw [findObjectsInto_eq, cFindObjects_eq]
      rw [run_cons]
      refine ⟨.cons (fits_findObjectsInto array state) hfits, ?_, ?_⟩
      · rw [search, hcerts, hafter]
      · rw [search, List.flatMap_append, hhandles, List.flatMap_singleton,
          handles_findObjectsInto, cFindObjects_eq, hafter]
        simp only [List.map_cons, List.sum_cons]
        rw [List.range'_append_1]
        congr 1
        omega

/-- A search returns each handle once and in order, in calls of any sizes: as many as there
is room for, and then none. -/
theorem search_returns_handles_once (coned : Coned) (state : ModuleState)
    (arrays : List (List Nat)) :
    (cFindObjectsInit coned state).1 = .ok ∧
      List.Forall₂ Fits arrays (run search (cFindObjectsInit coned state).2 arrays).2 ∧
      (run search (cFindObjectsInit coned state).2 arrays).2.flatMap Found.handles =
        List.range (min (arrays.map List.length).sum (2 * (listedCerts coned).length)) ∧
      (∀ found ∈ (run search (cFindObjectsInit coned state).2 arrays).2,
        ∀ handle ∈ found.handles,
          cGetAttributeValue handle (run search (cFindObjectsInit coned state).2 arrays).1 =
            .ok) ∧
      ∀ earlier found later,
        (run search (cFindObjectsInit coned state).2 arrays).2 = earlier ++ found :: later →
          (earlier.flatMap Found.handles).length = 2 * (listedCerts coned).length →
            found.count = 0 := by
  obtain ⟨hfits, hcerts, hhandles⟩ := run_search (cFindObjectsInit coned state).2 arrays
  have hstart : (cFindObjectsInit coned state).2.findPosition = 0 := rfl
  have hlisted : (cFindObjectsInit coned state).2.certs = listedCerts coned := rfl
  rw [hlisted] at hcerts
  rw [hstart, hlisted, Nat.sub_zero, Nat.mul_comm _ 2, ← List.range_eq_range'] at hhandles
  refine ⟨rfl, hfits, hhandles, ?_, ?_⟩
  · intro found hfound handle hhandle
    have hmem := List.mem_flatMap.mpr ⟨found, hfound, hhandle⟩
    rw [hhandles, List.mem_range] at hmem
    have hindex : handle / 2 < (listedCerts coned).length := by omega
    rw [cGetAttributeValue, denoted, hcerts, List.getElem?_eq_getElem hindex]
    rfl
  · intro earlier found later hsplit hall
    rw [hsplit] at hfits
    obtain ⟨array, -, hfit, -⟩ :=
      List.forall₂_cons_right_iff.mp (List.forall₂_drop_append _ _ _ hfits)
    have hlength := congrArg List.length hhandles
    rw [hsplit, List.flatMap_append, List.length_append, List.flatMap_cons, List.length_append,
      length_handles hfit, hall, List.length_range] at hlength
    omega

example : (run search (cFindObjectsInit (lists [workCert]) loaded).2 [[7], [8, 8], [9]]).2.map
    Found.handles = [[0], [1], []] := by decide

end TrafficCone.ObjectSearches
