import Mathlib.Data.List.Nodup
import TrafficCone.IndependentLoading

namespace TrafficCone.FirstComers

open TrafficCone.Outcomes
open TrafficCone.IndependentLoading

section Lists

variable {α κ : Type} [DecidableEq κ] (key : α → κ)

/-- The items whose key is neither known nor the key of an earlier item. -/
def newcomers : List κ → List α → List α
  | _, [] => []
  | known, item :: rest =>
      if key item ∈ known then newcomers known rest
      else item :: newcomers (known ++ [key item]) rest

/-- The other items. -/
def repeats : List κ → List α → List α
  | _, [] => []
  | known, item :: rest =>
      if key item ∈ known then item :: repeats known rest
      else repeats (known ++ [key item]) rest

variable {key} {known : List κ} {items : List α}

theorem length_newcomers_add_length_repeats :
    (newcomers key known items).length + (repeats key known items).length = items.length := by
  induction items generalizing known with
  | nil => rfl
  | cons item rest ih =>
      rw [newcomers, repeats]
      split
      · rw [List.length_cons, List.length_cons, ← @ih known]
        omega
      · rw [List.length_cons, List.length_cons, ← @ih (known ++ [key item])]
        omega

/-- Behind the newcomers every item's key is known. -/
theorem key_mem_newcomers {item : α} (h : item ∈ items) :
    key item ∈ known ++ (newcomers key known items).map key := by
  induction items generalizing known with
  | nil => cases h
  | cons first rest ih =>
      rw [newcomers]
      split
      · rename_i hknown
        rcases List.mem_cons.mp h with rfl | hrest
        · exact List.mem_append_left _ hknown
        · exact ih hrest
      · rw [List.map_cons, List.append_cons]
        rcases List.mem_cons.mp h with rfl | hrest
        · exact List.mem_append_left _ (by simp)
        · exact ih hrest

/-- Nothing is passed over exactly if no key is known or occurs again. -/
theorem repeats_eq_nil_iff :
    repeats key known items = [] ↔
      (items.map key).Nodup ∧ ∀ item ∈ items, key item ∉ known := by
  induction items generalizing known with
  | nil => simp [repeats]
  | cons item rest ih =>
      rw [repeats, List.forall_mem_cons, List.map_cons, List.nodup_cons]
      split
      · rename_i hknown
        simp [hknown]
      · rename_i hnew
        have hsplit : (∀ other ∈ rest, key other ∉ known ++ [key item]) ↔
            (∀ other ∈ rest, key other ∉ known) ∧ key item ∉ rest.map key := by
          simp only [List.mem_append, List.mem_singleton, not_or, List.mem_map, not_exists, not_and]
          exact forall₂_and
        rw [ih, hsplit]
        tauto

theorem length_newcomers_eq_iff :
    (newcomers key known items).length = items.length ↔
      (items.map key).Nodup ∧ ∀ item ∈ items, key item ∉ known := by
  rw [← repeats_eq_nil_iff, ← List.length_eq_zero_iff,
    ← @length_newcomers_add_length_repeats _ _ _ key known items]
  omega

end Lists

section Loops

variable {σ ε α κ : Type}

/-- A step passes over an item whose key is in the state, with a fixed count. For any other
item it fails, or adds it as one; it does not fail only for what it admits. -/
structure Gathers (step : α → Effect σ ε Nat) (keys : σ → List κ) (key : α → κ)
    (add : σ → α → σ) (admits : α → Prop) (passed : Nat) : Prop where
  passes : ∀ item s, key item ∈ keys s → step item s = (.ok passed, s)
  takes : ∀ item s counted s', key item ∉ keys s → step item s = (.ok counted, s') →
    counted = 1 ∧ s' = add s item ∧ admits item
  keys_add : ∀ s item, keys (add s item) = keys s ++ [key item]

variable {step : α → Effect σ ε Nat} {keys : σ → List κ} {key : α → κ} {add : σ → α → σ}
  {admits : α → Prop} {passed : Nat}

/-- A loop that goes through has added the newcomers, in their order. -/
theorem Gathers.of_loadAll [DecidableEq κ] (h : Gathers step keys key add admits passed)
    {items : List α} {s s' : σ} {counted : Nat} (hrun : loadAll step items s = (.ok counted, s')) :
    s' = (newcomers key (keys s) items).foldl add s ∧
      counted = (newcomers key (keys s) items).length +
        passed * (repeats key (keys s) items).length ∧
      ∀ item ∈ newcomers key (keys s) items, admits item := by
  induction items generalizing s counted with
  | nil =>
      obtain ⟨hcounted, rfl⟩ := Prod.mk.inj hrun
      exact ⟨rfl, (Outcome.ok.inj hcounted).symm, by simp [newcomers]⟩
  | cons item rest ih =>
      rw [loadAll] at hrun
      obtain ⟨first, middle, hstep, hrun⟩ := Effect.bind_eq_ok_iff.mp hrun
      obtain ⟨more, last, hrest, hlast⟩ := Effect.bind_eq_ok_iff.mp hrun
      obtain ⟨hcounted, rfl⟩ := Prod.mk.inj hlast
      obtain rfl : first + more = counted := Outcome.ok.inj hcounted
      obtain ⟨hstate, hmore, hadmits⟩ := ih hrest
      rw [newcomers, repeats]
      by_cases hknown : key item ∈ keys s
      · rw [h.passes item s hknown] at hstep
        obtain ⟨hfirst, rfl⟩ := Prod.mk.inj hstep
        rw [if_pos hknown, if_pos hknown]
        refine ⟨hstate, ?_, hadmits⟩
        rw [← Outcome.ok.inj hfirst, hmore, List.length_cons, Nat.mul_succ]
        omega
      · obtain ⟨rfl, rfl, hitem⟩ := h.takes item s first middle hknown hstep
        rw [h.keys_add] at hstate hmore hadmits
        rw [if_neg hknown, if_neg hknown]
        refine ⟨hstate, ?_, List.forall_mem_cons.mpr ⟨hitem, hadmits⟩⟩
        rw [hmore, List.length_cons]
        omega

/-- A loop over known items changes nothing. -/
theorem Gathers.loadAll_of_known (h : Gathers step keys key add admits passed) {items : List α}
    {s : σ} (hknown : ∀ item ∈ items, key item ∈ keys s) :
    loadAll step items s = (.ok (passed * items.length), s) := by
  induction items with
  | nil => rfl
  | cons item rest ih =>
      rw [List.forall_mem_cons] at hknown
      rw [loadAll, Effect.bind_of_ok (h.passes item s hknown.1), Effect.bind_of_ok (ih hknown.2),
        Effect.pure_apply, List.length_cons, Nat.mul_succ, Nat.add_comm]

end Loops

end TrafficCone.FirstComers
