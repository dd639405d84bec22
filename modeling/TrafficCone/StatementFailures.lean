import Mathlib.Order.Defs.Unbundled
import TrafficCone.IndependentLoading

namespace TrafficCone.StatementFailures

open TrafficCone.Outcomes
open TrafficCone.IndependentLoading

variable {σ τ ε α β : Type}

/-- A state in which calls issue statements, and how many have been issued. -/
structure Attempt (σ : Type) where
  state : σ
  issued : Nat

/-- The call is one statement. Which statements fail, and how, is given by their numbers;
one that fails changes nothing. -/
def issue (failures : Nat → Option ε) (call : Effect σ ε α) : Effect (Attempt σ) ε α :=
  fun attempt =>
    match failures attempt.issued with
    | some error => (.err error, { attempt with issued := attempt.issued + 1 })
    | none =>
        let result := call attempt.state
        (result.1, { state := result.2, issued := attempt.issued + 1 })

theorem issue_of_ok {failures : Nat → Option ε} {call : Effect σ ε α} {s s' : σ} {number : Nat}
    {value : α} (h : failures number = none) (hcall : call s = (.ok value, s')) :
    issue failures call { state := s, issued := number } =
      (.ok value, { state := s', issued := number + 1 }) := by
  simp only [issue, h, hcall]

/-- The call is no statement. -/
def compute (call : Effect σ ε α) : Effect (Attempt σ) ε α := fun attempt =>
  let result := call attempt.state
  (result.1, { attempt with state := result.2 })

section Agreement

/-- The two calls do the same. -/
def Agrees (attempted : Effect (Attempt σ) ε α) (call : Effect σ ε α) : Prop :=
  ∀ attempt, (attempted attempt).1 = (call attempt.state).1 ∧
    (attempted attempt).2.state = (call attempt.state).2

theorem agrees_issue (call : Effect σ ε α) : Agrees (issue (fun _ => none) call) call :=
  fun _ => ⟨rfl, rfl⟩

theorem agrees_compute (call : Effect σ ε α) : Agrees (compute call) call :=
  fun _ => ⟨rfl, rfl⟩

theorem agrees_pure (value : α) :
    Agrees (pure value : Effect (Attempt σ) ε α) (pure value : Effect σ ε α) :=
  fun _ => ⟨rfl, rfl⟩

theorem Agrees.bind {attempted : Effect (Attempt σ) ε α} {call : Effect σ ε α}
    {attemptedNext : α → Effect (Attempt σ) ε β} {next : α → Effect σ ε β}
    (hfirst : Agrees attempted call) (hnext : ∀ value, Agrees (attemptedNext value) (next value)) :
    Agrees (attempted >>= attemptedNext) (call >>= next) := by
  intro attempt
  obtain ⟨houtcome, hstate⟩ := hfirst attempt
  rcases hattempted : attempted attempt with ⟨outcome, after⟩
  rcases hcall : call attempt.state with ⟨found, state⟩
  rw [hattempted, hcall] at houtcome hstate
  obtain rfl : outcome = found := houtcome
  obtain rfl : after.state = state := hstate
  cases outcome with
  | ok value =>
      rw [Effect.bind_of_ok hattempted, Effect.bind_of_ok hcall]
      exact hnext value after
  | err error =>
      rw [Effect.bind_of_err hattempted, Effect.bind_of_err hcall]
      exact ⟨rfl, rfl⟩
  | panicked =>
      rw [Effect.bind_of_panicked hattempted, Effect.bind_of_panicked hcall]
      exact ⟨rfl, rfl⟩

theorem agrees_loadAll {attempted : α → Effect (Attempt σ) ε Nat} {step : α → Effect σ ε Nat}
    (hstep : ∀ item, Agrees (attempted item) (step item)) (items : List α) :
    Agrees (loadAll attempted items) (loadAll step items) := by
  induction items with
  | nil => exact agrees_pure 0
  | cons item rest ih =>
      apply (hstep item).bind
      intro counted
      exact ih.bind fun more => agrees_pure (counted + more)

end Agreement

section Growth

variable (view : σ → τ) (grown : τ → τ → Prop)

/-- However the call ends, what is seen of the state has only grown. -/
def Grows (call : Effect σ ε α) : Prop := ∀ s, grown (view s) (view (call s).2)

/-- If the call fails, what is seen of the state has only grown. -/
def FailsWithin (call : Effect σ ε α) : Prop :=
  ∀ s error, (call s).1 = .err error → grown (view s) (view (call s).2)

/-- The call fails, and what is seen of the state is as it was. -/
def FailsInPlace (call : Effect σ ε α) (s : σ) : Prop :=
  (∃ error, (call s).1 = .err error) ∧ view (call s).2 = view s

variable {view grown}

theorem grows_of_unchanged [Std.Refl grown] {call : Effect σ ε α}
    (h : ∀ s, view (call s).2 = view s) : Grows view grown call := by
  intro s
  rw [h s]
  exact Std.Refl.refl _

theorem Grows.bind [IsTrans τ grown] {first : Effect σ ε α} {next : α → Effect σ ε β}
    (hfirst : Grows view grown first) (hnext : ∀ value, Grows view grown (next value)) :
    Grows view grown (first >>= next) := by
  intro s
  have hbefore := hfirst s
  rcases hcall : first s with ⟨value | error | _, s'⟩
  · rw [hcall] at hbefore
    rw [Effect.bind_of_ok hcall]
    exact IsTrans.trans _ _ _ hbefore (hnext value s')
  · rw [hcall] at hbefore
    rw [Effect.bind_of_err hcall]
    exact hbefore
  · rw [hcall] at hbefore
    rw [Effect.bind_of_panicked hcall]
    exact hbefore

theorem Grows.failsWithin_bind [IsTrans τ grown] {first : Effect σ ε α}
    {next : α → Effect σ ε β} (hfirst : Grows view grown first)
    (hnext : ∀ value, FailsWithin view grown (next value)) :
    FailsWithin view grown (first >>= next) := by
  intro s error hfailed
  have hbefore := hfirst s
  rcases hcall : first s with ⟨value | found | _, s'⟩
  · rw [hcall] at hbefore
    rw [Effect.bind_of_ok hcall] at hfailed ⊢
    exact IsTrans.trans _ _ _ hbefore (hnext value s' error hfailed)
  · rw [hcall] at hbefore
    rw [Effect.bind_of_err hcall]
    exact hbefore
  · rw [Effect.bind_of_panicked hcall] at hfailed
    cases hfailed

/-- A state that only grows does not come back: the calls before the one that fails have
left it as it was. -/
theorem failsInPlace_bind_iff [IsPartialOrder τ grown] {first : Effect σ ε α}
    {next : α → Effect σ ε β} (hfirst : Grows view grown first)
    (hnext : ∀ value, FailsWithin view grown (next value)) {s : σ} :
    FailsInPlace view (first >>= next) s ↔
      FailsInPlace view first s ∨
        ∃ value s', first s = (.ok value, s') ∧ view s' = view s ∧
          FailsInPlace view (next value) s' := by
  have hbefore := hfirst s
  unfold FailsInPlace
  rcases hcall : first s with ⟨value | error | _, s'⟩
  · rw [hcall] at hbefore
    rw [Effect.bind_of_ok hcall]
    constructor
    · rintro ⟨⟨error, herror⟩, hsame⟩
      have hafter := hnext value s' error herror
      rw [hsame] at hafter
      have hmiddle : view s' = view s := antisymm hafter hbefore
      exact Or.inr ⟨value, s', rfl, hmiddle, ⟨error, herror⟩, hsame.trans hmiddle.symm⟩
    · rintro (⟨⟨error, herror⟩, -⟩ | ⟨found, after, hfound, hmiddle, hfails, hsame⟩)
      · cases herror
      · obtain ⟨hvalue, rfl⟩ := Prod.mk.inj hfound
        obtain rfl := Outcome.ok.inj hvalue
        exact ⟨hfails, hsame.trans hmiddle⟩
  · rw [Effect.bind_of_err hcall]
    simp
  · rw [Effect.bind_of_panicked hcall]
    simp

end Growth

section Loops

/-- The items are passed one after another, each with one statement, until one is refused or
there are none left. -/
def stops (refused passed : Nat → α → Prop) (last : Nat → Prop) : Nat → List α → Prop
  | number, [] => last number
  | number, item :: rest =>
      refused number item ∨ (passed number item ∧ stops refused passed last (number + 1) rest)

theorem stops_append {refused passed : Nat → α → Prop} {last : Nat → Prop} {number : Nat}
    (first second : List α) :
    stops refused passed last number (first ++ second) ↔
      stops refused passed (fun other => stops refused passed last other second) number first := by
  induction first generalizing number with
  | nil => rfl
  | cons item rest ih => rw [List.cons_append, stops, stops, ih]

theorem stops_map {refused passed : Nat → α → Prop} {last : Nat → Prop} {number : Nat}
    (f : β → α) (items : List β) :
    stops refused passed last number (items.map f) ↔
      stops (fun other item => refused other (f item)) (fun other item => passed other (f item))
        last number items := by
  induction items generalizing number with
  | nil => rfl
  | cons item rest ih => rw [List.map_cons, stops, stops, ih]

variable (view : σ → τ) (grown : τ → τ → Prop)

/-- From a state, the call fails in place exactly for some numbers of its first statement, and
it never fails with anything lost. -/
def StopsAt (call : Effect (Attempt σ) ε β) (state : σ) (last : Nat → Prop) : Prop :=
  FailsWithin (fun attempt : Attempt σ => view attempt.state) grown call ∧
    ∀ number, FailsInPlace (fun attempt : Attempt σ => view attempt.state) call
      { state := state, issued := number } ↔ last number

/-- Which items a step refuses before it has changed anything, and which it passes over with
one statement; for any other item something changes. -/
structure Sorts (step : α → Effect (Attempt σ) ε Nat) (refused passed : σ → Nat → α → Prop) :
    Prop where
  grows : ∀ item, Grows (fun attempt : Attempt σ => view attempt.state) grown (step item)
  refuses : ∀ attempt item, refused attempt.state attempt.issued item →
    FailsInPlace (fun other : Attempt σ => view other.state) (step item) attempt
  passes : ∀ attempt item, passed attempt.state attempt.issued item →
    ∃ counted, step item attempt = (.ok counted, { attempt with issued := attempt.issued + 1 })
  moves : ∀ attempt item, ¬ refused attempt.state attempt.issued item →
    ¬ passed attempt.state attempt.issued item →
      view (step item attempt).2.state ≠ view attempt.state

variable {view grown} {step : α → Effect (Attempt σ) ε Nat}
  {refused passed : σ → Nat → α → Prop} {next : Nat → Effect (Attempt σ) ε β} {state : σ}
  {last : Nat → Prop}

/-- One item: it is refused, or passed over and the rest fails in place. -/
theorem Sorts.failsInPlace_bind_iff [IsPartialOrder τ grown]
    (hsorts : Sorts view grown step refused passed)
    (hnext : ∀ counted, StopsAt view grown (next counted) state last) (item : α) (number : Nat) :
    FailsInPlace (fun attempt : Attempt σ => view attempt.state) (step item >>= next)
        { state := state, issued := number } ↔
      refused state number item ∨ (passed state number item ∧ last (number + 1)) := by
  rw [StatementFailures.failsInPlace_bind_iff (hsorts.grows item) fun counted => (hnext counted).1]
  by_cases hrefused : refused state number item
  · simp only [hrefused, true_or, iff_true]
    exact Or.inl (hsorts.refuses { state := state, issued := number } item hrefused)
  · by_cases hpassed : passed state number item
    · obtain ⟨counted, hcall⟩ := hsorts.passes { state := state, issued := number } item hpassed
      have hlast := (hnext counted).2 (number + 1)
      simp only [hrefused, hpassed, false_or, true_and, ← hlast, FailsInPlace, hcall]
      simp
    · have hmoves := hsorts.moves { state := state, issued := number } item hrefused hpassed
      simp only [hrefused, hpassed, false_and, or_self, iff_false]
      rintro (⟨-, hsame⟩ | ⟨counted, after, hcall, hsame, -⟩)
      · exact hmoves hsame
      · rw [hcall] at hmoves
        exact hmoves hsame

/-- A loop and what follows it fail in place exactly if an item is refused behind items that
are passed over, or all are and what follows fails in place. -/
theorem Sorts.stopsAt [IsPartialOrder τ grown] (hsorts : Sorts view grown step refused passed)
    (hnext : ∀ counted, StopsAt view grown (next counted) state last) (items : List α) :
    StopsAt view grown (loadAll step items >>= next) state
      (fun number => stops (refused state) (passed state) last number items) := by
  induction items generalizing next with
  | nil => exact hnext 0
  | cons item rest ih =>
      have hsplit : (loadAll step (item :: rest) >>= next) =
          step item >>= fun counted => loadAll step rest >>= fun more => next (counted + more) := by
        rw [loadAll, Effect.bind_assoc]
        simp only [Effect.bind_assoc, Effect.pure_bind]
      have hlater := fun counted => ih fun more => hnext (counted + more)
      rw [hsplit]
      exact ⟨(hsorts.grows item).failsWithin_bind fun counted => (hlater counted).1,
        hsorts.failsInPlace_bind_iff hlater item⟩

end Loops

end TrafficCone.StatementFailures
