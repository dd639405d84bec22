import Mathlib.Tactic.Common

namespace TrafficCone.TransducerRuns

variable {σ ι ω : Type*}

/-- The state a machine ends in and everything it has put out, in order, after
reading a list of events. -/
def run (step : σ → ι → σ × List ω) : σ → List ι → σ × List ω
  | s, [] => (s, [])
  | s, event :: events =>
      let next := step s event
      let rest := run step next.1 events
      (rest.1, next.2 ++ rest.2)

@[simp] theorem run_nil (step : σ → ι → σ × List ω) (s : σ) : run step s [] = (s, []) := rfl

theorem run_cons (step : σ → ι → σ × List ω) (s : σ) (event : ι) (events : List ι) :
    run step s (event :: events) =
      ((run step (step s event).1 events).1,
        (step s event).2 ++ (run step (step s event).1 events).2) := rfl

theorem run_append (step : σ → ι → σ × List ω) (s : σ) (first second : List ι) :
    run step s (first ++ second) =
      ((run step (run step s first).1 second).1,
        (run step s first).2 ++ (run step (run step s first).1 second).2) := by
  induction first generalizing s with
  | nil => rfl
  | cons event first ih => rw [List.cons_append, run_cons, ih, run_cons, List.append_assoc]

def Along (step : σ → ι → σ × List ω) (condition : σ → ι → Prop) : σ → List ι → Prop
  | _, [] => True
  | s, event :: events => condition s event ∧ Along step condition (step s event).1 events

@[simp] theorem along_nil (step : σ → ι → σ × List ω) (condition : σ → ι → Prop) (s : σ) :
    Along step condition s [] := trivial

@[simp] theorem along_cons (step : σ → ι → σ × List ω) (condition : σ → ι → Prop) (s : σ)
    (event : ι) (events : List ι) :
    Along step condition s (event :: events) ↔
      condition s event ∧ Along step condition (step s event).1 events := Iff.rfl

instance decidableAlong (step : σ → ι → σ × List ω) (condition : σ → ι → Prop)
    [∀ s event, Decidable (condition s event)] :
    ∀ s events, Decidable (Along step condition s events)
  | _, [] => isTrue trivial
  | s, event :: events =>
      have := decidableAlong step condition (step s event).1 events
      inferInstanceAs (Decidable (condition s event ∧ _))

def quietly (next : σ → ι → σ) (s : σ) (event : ι) : σ × List Empty := (next s event, [])

/-- The step rule: an invariant kept by the steps that meet a condition holds
after every run whose steps meet it, and the outputs satisfy what each such
step guarantees. -/
theorem run_of_along {step : σ → ι → σ × List ω} {condition : σ → ι → Prop}
    {invariant : σ → Prop} {guarantee : ω → Prop}
    (hstep : ∀ s event, invariant s → condition s event →
      invariant (step s event).1 ∧ ∀ output ∈ (step s event).2, guarantee output)
    {s : σ} {events : List ι} (hs : invariant s) (halong : Along step condition s events) :
    invariant (run step s events).1 ∧ ∀ output ∈ (run step s events).2, guarantee output := by
  induction events generalizing s with
  | nil => exact ⟨hs, by simp⟩
  | cons event events ih =>
      obtain ⟨hcondition, hrest⟩ := halong
      obtain ⟨hnext, houtputs⟩ := hstep s event hs hcondition
      obtain ⟨hfinal, htail⟩ := ih hnext hrest
      refine ⟨hfinal, ?_⟩
      intro output houtput
      rw [run_cons] at houtput
      rcases List.mem_append.mp houtput with hhead | hlater
      · exact houtputs output hhead
      · exact htail output hlater

/-- A condition that the invariant strengthens to another one along the run. -/
theorem along_of_along {step : σ → ι → σ × List ω} {condition other : σ → ι → Prop}
    {invariant : σ → Prop}
    (hstep : ∀ s event, invariant s → condition s event →
      invariant (step s event).1 ∧ other s event)
    {s : σ} {events : List ι} (hs : invariant s) (halong : Along step condition s events) :
    Along step other s events := by
  induction events generalizing s with
  | nil => trivial
  | cons event events ih =>
      obtain ⟨hcondition, hrest⟩ := halong
      obtain ⟨hnext, hother⟩ := hstep s event hs hcondition
      exact ⟨hother, ih hnext hrest⟩

theorem along_true (step : σ → ι → σ × List ω) (s : σ) (events : List ι) :
    Along step (fun _ _ => True) s events := by
  induction events generalizing s with
  | nil => trivial
  | cons event events ih => exact ⟨trivial, ih _⟩

theorem run_invariant {step : σ → ι → σ × List ω} {invariant : σ → Prop}
    {guarantee : ω → Prop}
    (hstep : ∀ s event, invariant s →
      invariant (step s event).1 ∧ ∀ output ∈ (step s event).2, guarantee output)
    {s : σ} (hs : invariant s) (events : List ι) :
    invariant (run step s events).1 ∧ ∀ output ∈ (run step s events).2, guarantee output :=
  @run_of_along _ _ _ step (fun _ _ => True) _ _ (fun s event h _ => hstep s event h) s events hs
    (along_true step s events)

theorem quiet_run_of_along {next : σ → ι → σ} {condition : σ → ι → Prop} {invariant : σ → Prop}
    (hstep : ∀ s event, invariant s → condition s event → invariant (next s event))
    {s : σ} {events : List ι} (hs : invariant s)
    (halong : Along (quietly next) condition s events) :
    invariant (run (quietly next) s events).1 :=
  (@run_of_along _ _ _ (quietly next) condition invariant (fun _ => True)
    (fun s event h hcondition => ⟨hstep s event h hcondition, fun _ _ => trivial⟩)
    s events hs halong).1

/-- When a step's outputs are good exactly if the step meets a condition, and the
steps that meet it keep the invariant, a run's outputs are good exactly if all its
steps meet it. -/
theorem run_outputs_iff_along_of_kept {step : σ → ι → σ × List ω} {condition : σ → ι → Prop}
    {invariant : σ → Prop} {guarantee : ω → Prop}
    (hkept : ∀ s event, invariant s → condition s event → invariant (step s event).1)
    (hstep : ∀ s event, invariant s →
      ((∀ output ∈ (step s event).2, guarantee output) ↔ condition s event))
    {s : σ} (hs : invariant s) (events : List ι) :
    (∀ output ∈ (run step s events).2, guarantee output) ↔ Along step condition s events := by
  induction events generalizing s with
  | nil => simp
  | cons event events ih =>
      rw [run_cons, along_cons, ← hstep s event hs]
      simp only [List.mem_append, or_imp, forall_and]
      apply and_congr_right
      intro hgood
      exact ih (hkept s event hs ((hstep s event hs).mp hgood))

theorem run_outputs_iff_along {step : σ → ι → σ × List ω} {condition : σ → ι → Prop}
    {invariant : σ → Prop} {guarantee : ω → Prop}
    (hinvariant : ∀ s event, invariant s → invariant (step s event).1)
    (hstep : ∀ s event, invariant s →
      ((∀ output ∈ (step s event).2, guarantee output) ↔ condition s event))
    {s : σ} (hs : invariant s) (events : List ι) :
    (∀ output ∈ (run step s events).2, guarantee output) ↔ Along step condition s events :=
  run_outputs_iff_along_of_kept (fun s event h _ => hinvariant s event h) hstep hs events

/-- The machine that puts out every state it reaches. -/
def openly (next : σ → ι → σ) (s : σ) (event : ι) : σ × List σ := (next s event, [next s event])

/-- When the next state is good exactly if the step meets a condition, every state that a
run reaches is good exactly if all its steps meet it. -/
theorem states_iff_along {next : σ → ι → σ} {condition : σ → ι → Prop}
    {invariant good : σ → Prop}
    (hkept : ∀ s event, invariant s → condition s event → invariant (next s event))
    (hstep : ∀ s event, invariant s → (good (next s event) ↔ condition s event))
    {s : σ} (hs : invariant s) (events : List ι) :
    (∀ state ∈ (run (openly next) s events).2, good state) ↔
      Along (openly next) condition s events := by
  apply run_outputs_iff_along_of_kept hkept ?_ hs
  intro state event hstate
  rw [← hstep state event hstate]
  simp [openly]

end TrafficCone.TransducerRuns
