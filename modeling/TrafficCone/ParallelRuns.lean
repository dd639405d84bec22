import TrafficCone.Outcomes
import TrafficCone.TransducerRuns

namespace TrafficCone.ParallelRuns

open TrafficCone.Outcomes
open TrafficCone.TransducerRuns

section Calls

variable {σ ε δ α β : Type} {related : σ → σ → Prop}

/-- From related states the call ends alike, in related states. -/
def Parallel (related : σ → σ → Prop) (call : Effect σ ε α) : Prop :=
  ∀ s t, related s t → (call s).1 = (call t).1 ∧ related (call s).2 (call t).2

theorem parallel_lift (outcome : Outcome ε α) : Parallel related (Effect.lift outcome) :=
  fun _ _ h => ⟨rfl, h⟩

theorem parallel_pure (value : α) : Parallel related (pure value : Effect σ ε α) :=
  fun _ _ h => ⟨rfl, h⟩

theorem Parallel.bind {first : Effect σ ε α} {next : α → Effect σ ε β}
    (hfirst : Parallel related first) (hnext : ∀ value, Parallel related (next value)) :
    Parallel related (first >>= next) := by
  intro s t h
  obtain ⟨houtcome, hafter⟩ := hfirst s t h
  rcases hcall : first s with ⟨outcome, s'⟩
  rcases hother : first t with ⟨_, t'⟩
  rw [hcall, hother] at houtcome hafter
  obtain rfl := houtcome
  cases outcome with
  | ok value =>
      rw [Effect.bind_of_ok hcall, Effect.bind_of_ok hother]
      exact hnext value s' t' hafter
  | err error =>
      rw [Effect.bind_of_err hcall, Effect.bind_of_err hother]
      exact ⟨rfl, hafter⟩
  | panicked =>
      rw [Effect.bind_of_panicked hcall, Effect.bind_of_panicked hother]
      exact ⟨rfl, hafter⟩

end Calls

section Machines

variable {σ τ ι κ ω : Type*} {first : σ → ι → σ × List ω} {second : τ → κ → τ × List ω}
  {related : σ → τ → Prop} {alike : ι → κ → Prop}

/-- Machines that stay related at events that are alike put out the same in their runs. -/
theorem run_parallel
    (hstep : ∀ s t event other, related s t → alike event other →
      related (first s event).1 (second t other).1 ∧ (first s event).2 = (second t other).2)
    {s : σ} {t : τ} (h : related s t) {events : List ι} {others : List κ}
    (halike : List.Forall₂ alike events others) :
    related (run first s events).1 (run second t others).1 ∧
      (run first s events).2 = (run second t others).2 := by
  induction halike generalizing s t with
  | nil => exact ⟨h, rfl⟩
  | cons hevent _ ih =>
      obtain ⟨hnext, houtputs⟩ := hstep s t _ _ h hevent
      obtain ⟨hfinal, hlater⟩ := ih hnext
      rw [run_cons, run_cons, houtputs, hlater]
      exact ⟨hfinal, rfl⟩

/-- The first machine has events more than the second, at which it puts out nothing that is
looked at. -/
theorem run_skipping {kept : κ → Bool} {seen : ω → Bool}
    (hkept : ∀ s t event other, related s t → alike event other → kept other = true →
      related (first s event).1 (second t other).1 ∧
        (first s event).2.filter seen = (second t other).2)
    (hskipped : ∀ s t event other, related s t → alike event other → kept other = false →
      related (first s event).1 t ∧ (first s event).2.filter seen = [])
    {s : σ} {t : τ} (h : related s t) {events : List ι} {others : List κ}
    (halike : List.Forall₂ alike events others) :
    (run first s events).2.filter seen = (run second t (others.filter kept)).2 := by
  induction halike generalizing s t with
  | nil => rfl
  | @cons event other events others hevent _ ih =>
      rw [run_cons, List.filter_append]
      cases hother : kept other with
      | true =>
          obtain ⟨hnext, houtputs⟩ := hkept s t event other h hevent hother
          rw [List.filter_cons_of_pos hother, run_cons, houtputs, ih hnext]
      | false =>
          obtain ⟨hnext, houtputs⟩ := hskipped s t event other h hevent hother
          rw [List.filter_cons_of_neg (by simp [hother]), houtputs, List.nil_append, ih hnext]

/-- A machine that does at each step what another one does at the event into which this step's
is translated puts out what the other one does for the translated events. -/
theorem run_translated {view : σ → τ} {translating : σ → ι → σ × List κ}
    {condition : σ → ι → Prop}
    (hstep : ∀ s event, condition s event → ∃ question,
      translating s event = ((first s event).1, [question]) ∧
        second (view s) question = (view (first s event).1, (first s event).2))
    {s : σ} {events : List ι} (h : Along first condition s events) :
    (run first s events).2 = (run second (view s) (run translating s events).2).2 ∧
      view (run first s events).1 = (run second (view s) (run translating s events).2).1 := by
  induction events generalizing s with
  | nil => exact ⟨rfl, rfl⟩
  | cons event events ih =>
      obtain ⟨hevent, hevents⟩ := h
      obtain ⟨question, htranslated, hasked⟩ := hstep s event hevent
      obtain ⟨houtputs, hview⟩ := ih hevents
      simp only [run_cons, htranslated, List.singleton_append, hasked]
      exact ⟨congrArg _ houtputs, hview⟩

end Machines

end TrafficCone.ParallelRuns
