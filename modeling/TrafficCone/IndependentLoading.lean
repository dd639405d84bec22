import TrafficCone.Outcomes

namespace TrafficCone.IndependentLoading

open TrafficCone.Outcomes

variable {σ ε α β ρ : Type}

def loadAll (step : α → Effect σ ε Nat) : List α → Effect σ ε Nat
  | [] => pure 0
  | item :: rest => do
      let counted ← step item
      let more ← loadAll step rest
      pure (counted + more)

theorem preserves_loadAll {step : α → Effect σ ε Nat} {invariant : σ → Prop}
    (hstep : ∀ item, Effect.Preserves (step item) invariant) (items : List α) :
    Effect.Preserves (loadAll step items) invariant := by
  induction items with
  | nil => exact Effect.preserves_of_unchanged fun _ => rfl
  | cons item rest ih =>
      apply (hstep item).bind
      intro counted
      exact ih.bind fun more => Effect.preserves_of_unchanged fun _ => rfl

/-- What a step is known to do: in a good state it takes the items that are allowed
there, and fails for the others. -/
structure Loads (step : α → Effect σ ε Nat) (invariant : σ → Prop) (allowed : σ → α → Prop)
    (next : σ → α → σ) : Prop where
  takes : ∀ s item, invariant s → allowed s item →
    ∃ counted, step item s = (.ok counted, next s item)
  keeps : ∀ s item, invariant s → allowed s item → invariant (next s item)
  refuses : ∀ s item, invariant s → ¬ allowed s item →
    ∃ error s', step item s = (.err error, s')

/-- Taking an item makes no difference to whether one apart from it is allowed. -/
def Independent (invariant : σ → Prop) (allowed : σ → α → Prop) (next : σ → α → σ)
    (apart : α → α → Prop) : Prop :=
  ∀ s first second, invariant s → allowed s first → apart first second →
    (allowed (next s first) second ↔ allowed s second)

section Rules

variable {step : α → Effect σ ε Nat} {invariant : σ → Prop} {allowed : σ → α → Prop}
  {next : σ → α → σ} {apart : α → α → Prop}

theorem loadAll_of_allowed (hloads : Loads step invariant allowed next)
    (hindependent : Independent invariant allowed next apart) {items : List α}
    (hapart : items.Pairwise apart) {s : σ} (hs : invariant s)
    (hallowed : ∀ item ∈ items, allowed s item) :
    (∃ counted, loadAll step items s = (.ok counted, items.foldl next s)) ∧
      invariant (items.foldl next s) := by
  induction items generalizing s with
  | nil => exact ⟨⟨0, rfl⟩, hs⟩
  | cons item rest ih =>
      rw [List.pairwise_cons] at hapart
      have hitem := hallowed item (by simp)
      obtain ⟨counted, hstep⟩ := hloads.takes s item hs hitem
      have hrest : ∀ other ∈ rest, allowed (next s item) other := by
        intro other hother
        apply (hindependent s item other hs hitem (hapart.1 other hother)).mpr
        exact hallowed other (by simp [hother])
      obtain ⟨⟨more, hmore⟩, hfinal⟩ := ih hapart.2 (hloads.keeps s item hs hitem) hrest
      refine ⟨⟨counted + more, ?_⟩, hfinal⟩
      rw [loadAll, Effect.bind_of_ok hstep, Effect.bind_of_ok hmore]
      rfl

/-- The loop goes through exactly if every item is allowed at its start. -/
theorem loadAll_ok_iff (hloads : Loads step invariant allowed next)
    (hindependent : Independent invariant allowed next apart) {items : List α}
    (hapart : items.Pairwise apart) {s : σ} (hs : invariant s) :
    (∃ counted s', loadAll step items s = (.ok counted, s')) ↔
      ∀ item ∈ items, allowed s item := by
  constructor
  · intro hok
    induction items generalizing s with
    | nil => simp
    | cons item rest ih =>
        rw [List.pairwise_cons] at hapart
        obtain ⟨counted, s', hrun⟩ := hok
        rw [loadAll, Effect.bind_eq_ok_iff] at hrun
        obtain ⟨first, middle, hstep, hrest⟩ := hrun
        obtain ⟨more, last, hmore, -⟩ := Effect.bind_eq_ok_iff.mp hrest
        -- A refusal ends the loop, so the head was taken; what it adds does not matter to the rest.
        have hitem : allowed s item := by
          by_contra hnot
          obtain ⟨error, s'', hfailed⟩ := hloads.refuses s item hs hnot
          rw [hfailed] at hstep
          cases hstep
        obtain ⟨counted', htaken⟩ := hloads.takes s item hs hitem
        obtain rfl : next s item = middle := by
          rw [htaken] at hstep
          exact (Prod.mk.inj hstep).2
        have hlater := ih hapart.2 (hloads.keeps s item hs hitem) ⟨more, last, hmore⟩
        intro other hother
        rcases List.mem_cons.mp hother with rfl | hother
        · exact hitem
        · exact (hindependent s item other hs hitem (hapart.1 other hother)).mp
            (hlater other hother)
  · intro hallowed
    obtain ⟨⟨counted, hrun⟩, -⟩ :=
      loadAll_of_allowed hloads hindependent hapart hs hallowed
    exact ⟨counted, _, hrun⟩

/-- After the loop every item has been taken in turn. -/
theorem eq_foldl_of_loadAll_ok (hloads : Loads step invariant allowed next)
    (hindependent : Independent invariant allowed next apart) {items : List α}
    (hapart : items.Pairwise apart) {s s' : σ} (hs : invariant s) {counted : Nat}
    (hrun : loadAll step items s = (.ok counted, s')) :
    (∀ item ∈ items, allowed s item) ∧ s' = items.foldl next s ∧ invariant s' := by
  have hallowed := (loadAll_ok_iff hloads hindependent hapart hs).mp ⟨counted, s', hrun⟩
  obtain ⟨⟨counted', hrun'⟩, hfinal⟩ :=
    loadAll_of_allowed hloads hindependent hapart hs hallowed
  obtain rfl : s' = items.foldl next s := by
    rw [hrun'] at hrun
    exact (Prod.mk.inj hrun).2.symm
  exact ⟨hallowed, rfl, hfinal⟩

theorem loadAll_bind_eq_ok_iff (hloads : Loads step invariant allowed next)
    (hindependent : Independent invariant allowed next apart) {items : List α}
    (hapart : items.Pairwise apart) {s s' : σ} (hs : invariant s) {rest : Nat → Effect σ ε β}
    {result : β} :
    (loadAll step items >>= rest) s = (.ok result, s') ↔
      (∀ item ∈ items, allowed s item) ∧
        ∃ counted, loadAll step items s = (.ok counted, items.foldl next s) ∧
          rest counted (items.foldl next s) = (.ok result, s') := by
  rw [Effect.bind_eq_ok_iff]
  constructor
  · rintro ⟨counted, middle, hrun, hrest⟩
    obtain ⟨hallowed, rfl, -⟩ := eq_foldl_of_loadAll_ok hloads hindependent hapart hs hrun
    exact ⟨hallowed, counted, hrun, hrest⟩
  · rintro ⟨-, counted, hrun, hrest⟩
    exact ⟨counted, _, hrun, hrest⟩

end Rules

def skipping (present : σ → α → Bool) (add : σ → α → σ) (s : σ) (item : α) : σ :=
  if present s item then s else add s item

def absent (present : σ → α → Bool) (s : σ) (items : List α) : List α :=
  items.filter fun item => !present s item

theorem foldl_skipping_frame {present : σ → α → Bool} (add : σ → α → σ) (view : σ → β)
    (h : ∀ s item, view (add s item) = view s) (items : List α) (s : σ) :
    view (items.foldl (skipping present add) s) = view s := by
  induction items generalizing s with
  | nil => rfl
  | cons item rest ih =>
      rw [List.foldl_cons, ih]
      unfold skipping
      split
      · rfl
      · exact h s item

/-- If each item added appends its row, and items do not make each other present, then
the rows of the items absent at the start are appended, in order. -/
theorem foldl_skipping {present : σ → α → Bool} (add : σ → α → σ) (view : σ → List ρ)
    (row : α → ρ) {apart : α → α → Prop}
    (hview : ∀ s item, view (add s item) = view s ++ [row item])
    (hpresent : ∀ s first second, apart first second →
      present (add s first) second = present s second)
    {items : List α} (hapart : items.Pairwise apart) (s : σ) :
    view (items.foldl (skipping present add) s) =
      view s ++ (absent present s items).map row := by
  unfold absent
  induction items generalizing s with
  | nil => simp
  | cons item rest ih =>
      rw [List.pairwise_cons] at hapart
      rw [List.foldl_cons, ih hapart.2]
      cases hitem : present s item with
      | true => simp [skipping, hitem]
      | false =>
          have hrest : (rest.filter fun other => !present (add s item) other) =
              rest.filter fun other => !present s other := by
            apply List.filter_congr
            intro other hother
            rw [hpresent s item other (hapart.1 other hother)]
          simp [skipping, hitem, hview, hrest]

end TrafficCone.IndependentLoading
