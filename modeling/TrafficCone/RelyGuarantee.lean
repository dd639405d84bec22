import Mathlib.Logic.Relation
import TrafficCone.Threads

namespace TrafficCone.RelyGuarantee

open Relation
open TrafficCone.Outcomes
open TrafficCone.Threads

variable {σ ε α β : Type}

/-- How a call may end: with a value and a state that goes with it, or without a value. -/
def Ends (returned : α → σ → Prop) (failed : σ → Prop) : Outcome ε α → σ → Prop
  | .ok value => returned value
  | _ => failed

/-- Whatever the others do within the rely, each step of the thread is within the guarantee,
and it ends as it should, also when the others go on. -/
def Assured (rely guarantee : σ → σ → Prop) (returned : α → σ → Prop) (failed : σ → Prop) :
    Thread σ ε α → σ → Prop
  | .done outcome, s => ∀ s', ReflTransGen rely s s' → Ends returned failed outcome s'
  | .step change next, s => ∀ s', ReflTransGen rely s s' →
      guarantee s' (change s') ∧
        Assured rely guarantee returned failed (next s') (change s')

/-- The others do not make the condition false. -/
def Stable (rely : σ → σ → Prop) (condition : σ → Prop) : Prop :=
  ∀ s s', rely s s' → condition s → condition s'

/-- From each state with the precondition the thread is assured. -/
def Secures (rely guarantee : σ → σ → Prop) (pre : σ → Prop) (thread : Thread σ ε α)
    (returned : α → σ → Prop) (failed : σ → Prop) : Prop :=
  ∀ s, pre s → Assured rely guarantee returned failed thread s

section Rules

variable {rely guarantee : σ → σ → Prop} {pre failed : σ → Prop} {returned : α → σ → Prop}
  {thread : Thread σ ε α}

theorem Stable.run {condition : σ → Prop} (h : Stable rely condition) {s s' : σ}
    (hsteps : ReflTransGen rely s s') (hs : condition s) : condition s' := by
  induction hsteps with
  | refl => exact hs
  | tail _ hstep ih => exact h _ _ hstep ih

theorem Stable.and {first second : σ → Prop} (hfirst : Stable rely first)
    (hsecond : Stable rely second) : Stable rely fun s => first s ∧ second s :=
  fun s s' hstep hs => ⟨hfirst s s' hstep hs.1, hsecond s s' hstep hs.2⟩

/-- Others that go on leave a thread assured. -/
theorem Assured.of_steps {s s' : σ} (h : Assured rely guarantee returned failed thread s)
    (hsteps : ReflTransGen rely s s') : Assured rely guarantee returned failed thread s' := by
  cases thread with
  | done outcome => exact fun s'' hmore => h s'' (hsteps.trans hmore)
  | step change next => exact fun s'' hmore => h s'' (hsteps.trans hmore)

theorem Secures.weaken {stronger : σ → Prop} {wider : σ → Prop} {after : α → σ → Prop}
    (h : Secures rely guarantee pre thread returned failed)
    (hpre : ∀ s, stronger s → pre s) (hreturned : ∀ value s, returned value s → after value s)
    (hfailed : ∀ s, failed s → wider s) :
    Secures rely guarantee stronger thread after wider := by
  intro s hs
  have hassured := h s (hpre s hs)
  clear h hs
  induction thread generalizing s with
  | done outcome =>
      intro s' hsteps
      have hends := hassured s' hsteps
      cases outcome with
      | ok value => exact hreturned value s' hends
      | err error => exact hfailed s' hends
      | panicked => exact hfailed s' hends
  | step change next ih =>
      intro s' hsteps
      obtain ⟨hguarantee, hrest⟩ := hassured s' hsteps
      exact ⟨hguarantee, ih s' (change s') hrest⟩

theorem secures_pure {value : α} (hstable : Stable rely (returned value))
    (h : ∀ s, pre s → returned value s) :
    Secures rely guarantee pre (pure value : Thread σ ε α) returned failed :=
  fun s hs _ hsteps => hstable.run hsteps (h s hs)

/-- What does not touch the shared state ends as it does by itself. -/
theorem secures_done {outcome : Outcome ε α} (hpre : Stable rely pre)
    (hreturned : ∀ value s, outcome = .ok value → pre s → returned value s)
    (hfailed : ∀ s, pre s → failed s) :
    Secures rely guarantee pre (.done outcome) returned failed := by
  intro s hs s' hsteps
  have hs' := hpre.run hsteps hs
  cases outcome with
  | ok value => exact hreturned value s' rfl hs'
  | err error => exact hfailed s' hs'
  | panicked => exact hfailed s' hs'

/-- The rule of one step: the precondition and what it leads to are stable. -/
theorem secures_atomic {call : Effect σ ε α} (hpre : Stable rely pre)
    (hreturned : ∀ value, Stable rely (returned value)) (hfailed : Stable rely failed)
    (h : ∀ s, pre s → guarantee s (call s).2 ∧ Ends returned failed (call s).1 (call s).2) :
    Secures rely guarantee pre (.atomic call) returned failed := by
  intro s hs s' hsteps
  obtain ⟨hguarantee, hends⟩ := h s' (hpre.run hsteps hs)
  refine ⟨hguarantee, ?_⟩
  intro s'' hmore
  rcases houtcome : (call s').1 with value | error | _
  · rw [houtcome] at hends
    exact (hreturned value).run hmore hends
  · rw [houtcome] at hends
    exact hfailed.run hmore hends
  · rw [houtcome] at hends
    exact hfailed.run hmore hends

/-- The rule of sequencing. -/
theorem Secures.bind {middle : α → σ → Prop} {after : α → Thread σ ε β} {last : β → σ → Prop}
    (hfirst : Secures rely guarantee pre thread middle failed)
    (hnext : ∀ value, Secures rely guarantee (middle value) (after value) last failed) :
    Secures rely guarantee pre (thread >>= after) last failed := by
  intro s hs
  have hassured := hfirst s hs
  clear hfirst hs
  induction thread generalizing s with
  | done outcome =>
      cases outcome with
      | ok value => exact hnext value s (hassured s .refl)
      | err error => exact hassured
      | panicked => exact hassured
  | step change next ih =>
      intro s' hsteps
      obtain ⟨hguarantee, hrest⟩ := hassured s' hsteps
      exact ⟨hguarantee, ih s' (change s') hrest⟩

/-- What is computed without the shared state only matters by what it comes to. -/
theorem secures_done_bind {outcome : Outcome ε α} {after : α → Thread σ ε β}
    {last : β → σ → Prop} (hpre : Stable rely pre) (hfailed : ∀ s, pre s → failed s)
    (h : ∀ value, outcome = .ok value → Secures rely guarantee pre (after value) last failed) :
    Secures rely guarantee pre (.done outcome >>= after) last failed := by
  cases outcome with
  | ok value => exact h value rfl
  | err error => exact fun s hs s' hsteps => hfailed s' (hpre.run hsteps hs)
  | panicked => exact fun s hs s' hsteps => hfailed s' (hpre.run hsteps hs)

theorem Secures.mapErr {δ : Type} {f : ε → δ}
    (h : Secures rely guarantee pre thread returned failed) :
    Secures rely guarantee pre (thread.mapErr f) returned failed := by
  intro s hs
  have hassured := h s hs
  clear h hs
  induction thread generalizing s with
  | done outcome =>
      intro s' hsteps
      have hends := hassured s' hsteps
      cases outcome with
      | ok value => exact hends
      | err error => exact hends
      | panicked => exact hends
  | step change next ih =>
      intro s' hsteps
      obtain ⟨hguarantee, hrest⟩ := hassured s' hsteps
      exact ⟨hguarantee, ih s' (change s') hrest⟩

end Rules

section Parallel

variable {κ ι : Type} {happen : κ → σ → σ} {rely guarantee : ι → σ → σ → Prop}
  {returned : ι → α → σ → Prop} {failed : ι → σ → Prop}

/-- Each thread keeps within what the others rely on, and so does what happens outside. -/
structure Compatible (happen : κ → σ → σ) (rely guarantee : ι → σ → σ → Prop) : Prop where
  threads : ∀ i j s s', i ≠ j → guarantee i s s' → rely j s s'
  outside : ∀ j event s, rely j s (happen event s)

/-- Every thread is assured in the state that they have come to. -/
def AllAssured (rely guarantee : ι → σ → σ → Prop) (returned : ι → α → σ → Prop)
    (failed : ι → σ → Prop) (pool : Pool σ ι ε α) : Prop :=
  ∀ i, Assured (rely i) (guarantee i) (returned i) (failed i) (pool.threads i) pool.state

/-- A step of the whole: one of the threads within its guarantee, or something outside. -/
def Progress (happen : κ → σ → σ) (guarantee : ι → σ → σ → Prop) (s s' : σ) : Prop :=
  (∃ i, guarantee i s s') ∨ ∃ event, s' = happen event s

/-- A thread that has come to its end has ended as it should. -/
theorem AllAssured.ends {pool : Pool σ ι ε α}
    (h : AllAssured rely guarantee returned failed pool) {i : ι} {outcome : Outcome ε α}
    (hdone : pool.threads i = .done outcome) :
    Ends (returned i) (failed i) outcome pool.state := by
  have hi := h i
  rw [hdone] at hi
  exact hi pool.state .refl

/-- What all the guarantees and all that happens outside keep is kept. -/
theorem invariant_of_progress {invariant : σ → Prop} {s s' : σ}
    (hthreads : ∀ i s s', guarantee i s s' → invariant s → invariant s')
    (houtside : ∀ event s, invariant s → invariant (happen event s))
    (hsteps : ReflTransGen (Progress happen guarantee) s s') (hs : invariant s) :
    invariant s' := by
  induction hsteps with
  | refl => exact hs
  | tail _ hstep ih =>
      rcases hstep with ⟨i, hguarantee⟩ | ⟨event, rfl⟩
      · exact hthreads i _ _ hguarantee ih
      · exact houtside event _ ih

variable [DecidableEq ι]

theorem AllAssured.move {pool : Pool σ ι ε α} (hcompatible : Compatible happen rely guarantee)
    (h : AllAssured rely guarantee returned failed pool) (next : Move κ ι) :
    AllAssured rely guarantee returned failed (pool.move happen next) ∧
      ReflTransGen (Progress happen guarantee) pool.state (pool.move happen next).state := by
  cases next with
  | outside event =>
      refine ⟨?_, .single (Or.inr ⟨event, rfl⟩)⟩
      intro j
      exact (h j).of_steps (.single (hcompatible.outside j event pool.state))
  | turn i =>
      rw [Pool.move]
      cases hthread : pool.threads i with
      | done outcome =>
          rw [Pool.turn_of_done hthread]
          exact ⟨h, .refl⟩
      | step change rest =>
          have hi := h i
          rw [hthread] at hi
          obtain ⟨hguarantee, hrest⟩ := hi pool.state .refl
          rw [Pool.turn_of_step hthread]
          refine ⟨?_, .single (Or.inl ⟨i, hguarantee⟩)⟩
          intro j
          by_cases hj : j = i
          · subst hj
            simpa only [Function.update_self] using hrest
          · have hrely := hcompatible.threads i j _ _ (Ne.symm hj) hguarantee
            simpa only [Function.update_of_ne hj] using (h j).of_steps (.single hrely)

/-- The rule of parallel composition. -/
theorem AllAssured.interleave {pool : Pool σ ι ε α}
    (hcompatible : Compatible happen rely guarantee)
    (h : AllAssured rely guarantee returned failed pool) (moves : List (Move κ ι)) :
    AllAssured rely guarantee returned failed (pool.interleave happen moves) ∧
      ReflTransGen (Progress happen guarantee) pool.state
        (pool.interleave happen moves).state := by
  induction moves generalizing pool with
  | nil => exact ⟨h, .refl⟩
  | cons next moves ih =>
      obtain ⟨hassured, hstep⟩ := h.move hcompatible next
      obtain ⟨hlater, hsteps⟩ := ih hassured
      exact ⟨hlater, hstep.trans hsteps⟩

end Parallel

end TrafficCone.RelyGuarantee
