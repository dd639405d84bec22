import TrafficCone.StatementFailures

namespace TrafficCone.CrashConditions

open TrafficCone.Outcomes
open TrafficCone.StatementFailures

variable {σ ε α β : Type}

/-- From a state with the precondition, a call that returns ends with the postcondition, and
one that fails with the crash condition. -/
structure Meets (call : Effect σ ε α) (pre : σ → Prop) (post : α → σ → Prop)
    (crash : ε → σ → Prop) : Prop where
  returned : ∀ s, pre s → ∀ value s', call s = (.ok value, s') → post value s'
  failed : ∀ s, pre s → ∀ error s', call s = (.err error, s') → crash error s'
  noPanic : ∀ s, pre s → ∀ s', call s ≠ (.panicked, s')

/-- The call, with its statements numbered from the first one it issues. -/
def counted (call : Effect (Attempt σ) ε α) : Effect σ ε α := fun s =>
  let result := call { state := s, issued := 0 }
  (result.1, result.2.state)

section Rules

variable {call : Effect σ ε α} {pre : σ → Prop} {post : α → σ → Prop} {crash : ε → σ → Prop}

theorem Meets.exists_ok (h : Meets call pre post crash) (hno : ∀ error s, ¬ crash error s)
    {s : σ} (hs : pre s) : ∃ value s', call s = (.ok value, s') := by
  rcases hcall : call s with ⟨value | error | _, s'⟩
  · exact ⟨value, s', rfl⟩
  · exact absurd (h.failed s hs error s' hcall) (hno error s')
  · exact absurd hcall (h.noPanic s hs s')

theorem Meets.weaken (h : Meets call pre post crash) {stronger : σ → Prop}
    (hpre : ∀ s, stronger s → pre s) : Meets call stronger post crash where
  returned s hs := h.returned s (hpre s hs)
  failed s hs := h.failed s (hpre s hs)
  noPanic s hs := h.noPanic s (hpre s hs)

/-- A fact that does not depend on the state may be assumed. -/
theorem meets_of_fact {fact : Prop} (h : fact → Meets call pre post crash) :
    Meets call (fun s => fact ∧ pre s) post crash where
  returned s hs := (h hs.1).returned s hs.2
  failed s hs := (h hs.1).failed s hs.2
  noPanic s hs := (h hs.1).noPanic s hs.2

/-- The state after a call, however it has ended. -/
theorem Meets.snd (h : Meets call pre post crash) {after : σ → Prop}
    (hpost : ∀ value s, post value s → after s) (hcrash : ∀ error s, crash error s → after s)
    {s : σ} (hs : pre s) : after (call s).2 := by
  rcases hcall : call s with ⟨value | error | _, s'⟩
  · exact hpost value s' (h.returned s hs value s' hcall)
  · exact hcrash error s' (h.failed s hs error s' hcall)
  · exact absurd hcall (h.noPanic s hs s')

/-- A call whose ends are known, one by one. -/
theorem meets_of_cases
    (h : ∀ s, pre s → (∃ value s', call s = (.ok value, s') ∧ post value s') ∨
      ∃ error s', call s = (.err error, s') ∧ crash error s') :
    Meets call pre post crash where
  returned s hs found after hcall := by
    rcases h s hs with ⟨value, s', hok, hpost⟩ | ⟨error, s', herr, -⟩
    · rw [hok] at hcall
      obtain ⟨hfound, rfl⟩ := Prod.mk.inj hcall
      obtain rfl := Outcome.ok.inj hfound
      exact hpost
    · rw [herr] at hcall
      cases (Prod.mk.inj hcall).1
  failed s hs found after hcall := by
    rcases h s hs with ⟨value, s', hok, -⟩ | ⟨error, s', herr, hcrash⟩
    · rw [hok] at hcall
      cases (Prod.mk.inj hcall).1
    · rw [herr] at hcall
      obtain ⟨hfound, rfl⟩ := Prod.mk.inj hcall
      obtain rfl := Outcome.err.inj hfound
      exact hcrash
  noPanic s hs after hcall := by
    rcases h s hs with ⟨value, s', hok, -⟩ | ⟨error, s', herr, -⟩
    · rw [hok] at hcall
      cases (Prod.mk.inj hcall).1
    · rw [herr] at hcall
      cases (Prod.mk.inj hcall).1

/-- A call that does not fail by itself. -/
theorem meets_of_ok (h : ∀ s, pre s → ∃ value s', call s = (.ok value, s') ∧ post value s') :
    Meets call pre post crash where
  returned s hs found after hcall := by
    obtain ⟨value, s', hok, hpost⟩ := h s hs
    rw [hok] at hcall
    obtain ⟨hfound, rfl⟩ := Prod.mk.inj hcall
    obtain rfl := Outcome.ok.inj hfound
    exact hpost
  failed s hs error after hcall := by
    obtain ⟨value, s', hok, -⟩ := h s hs
    rw [hok] at hcall
    cases (Prod.mk.inj hcall).1
  noPanic s hs after hcall := by
    obtain ⟨value, s', hok, -⟩ := h s hs
    rw [hok] at hcall
    cases (Prod.mk.inj hcall).1

theorem meets_pure {value : α} (h : ∀ s, pre s → post value s) :
    Meets (pure value : Effect σ ε α) pre post crash :=
  meets_of_ok fun s hs => ⟨value, s, rfl, h s hs⟩

/-- The rule of sequencing. -/
theorem Meets.bind {middle : α → σ → Prop} {next : α → Effect σ ε β} {last : β → σ → Prop}
    (hfirst : Meets call pre middle crash)
    (hnext : ∀ value, Meets (next value) (middle value) last crash) :
    Meets (call >>= next) pre last crash where
  returned s hs result s'' hboth := by
    obtain ⟨value, s', hcall, hrest⟩ := Effect.bind_eq_ok_iff.mp hboth
    exact (hnext value).returned s' (hfirst.returned s hs value s' hcall) result s'' hrest
  failed s hs error s'' hboth := by
    rcases hcall : call s with ⟨value | found | _, s'⟩
    · rw [Effect.bind_of_ok hcall] at hboth
      exact (hnext value).failed s' (hfirst.returned s hs value s' hcall) error s'' hboth
    · rw [Effect.bind_of_err hcall] at hboth
      obtain ⟨herror, rfl⟩ := Prod.mk.inj hboth
      obtain rfl := Outcome.err.inj herror
      exact hfirst.failed s hs found s' hcall
    · exact absurd hcall (hfirst.noPanic s hs s')
  noPanic s hs s'' hboth := by
    rcases hcall : call s with ⟨value | found | _, s'⟩
    · rw [Effect.bind_of_ok hcall] at hboth
      exact (hnext value).noPanic s' (hfirst.returned s hs value s' hcall) s'' hboth
    · rw [Effect.bind_of_err hcall] at hboth
      cases (Prod.mk.inj hboth).1
    · exact hfirst.noPanic s hs s' hcall

end Rules

section Statements

/-- The same of a call that issues statements, about the states they are issued in. -/
def StatementsMeet (call : Effect (Attempt σ) ε α) (pre : σ → Prop) (post : α → σ → Prop)
    (crash : ε → σ → Prop) : Prop :=
  Meets call (fun attempt => pre attempt.state) (fun value attempt => post value attempt.state)
    (fun error attempt => crash error attempt.state)

variable {pre : σ → Prop} {post : α → σ → Prop} {crash : ε → σ → Prop}

/-- A statement does what its call does, or it fails and nothing is done. -/
theorem Meets.issue {call : Effect σ ε α} {failures : Nat → Option ε}
    (h : Meets call pre post crash)
    (hfails : ∀ number error s, failures number = some error → pre s → crash error s) :
    StatementsMeet (issue failures call) pre post crash where
  returned attempt hpre value after hissued := by
    rw [StatementFailures.issue] at hissued
    split at hissued
    · cases (Prod.mk.inj hissued).1
    · obtain ⟨hvalue, rfl⟩ := Prod.mk.inj hissued
      exact h.returned attempt.state hpre value _ (Effect.eq_of_fst hvalue)
  failed attempt hpre error after hissued := by
    rw [StatementFailures.issue] at hissued
    split at hissued
    · rename_i found hfailure
      obtain ⟨herror, rfl⟩ := Prod.mk.inj hissued
      obtain rfl := Outcome.err.inj herror
      exact hfails _ found attempt.state hfailure hpre
    · obtain ⟨herror, rfl⟩ := Prod.mk.inj hissued
      exact h.failed attempt.state hpre error _ (Effect.eq_of_fst herror)
  noPanic attempt hpre after hissued := by
    rw [StatementFailures.issue] at hissued
    split at hissued
    · cases (Prod.mk.inj hissued).1
    · exact h.noPanic attempt.state hpre _ (Effect.eq_of_fst (Prod.mk.inj hissued).1)

theorem statementsMeet_pure {value : α} (h : ∀ s, pre s → post value s) :
    StatementsMeet (pure value : Effect (Attempt σ) ε α) pre post crash :=
  meets_pure fun attempt => h attempt.state

variable {call : Effect (Attempt σ) ε α}

theorem StatementsMeet.weaken (h : StatementsMeet call pre post crash) {stronger : σ → Prop}
    (hpre : ∀ s, stronger s → pre s) : StatementsMeet call stronger post crash :=
  Meets.weaken h fun attempt => hpre attempt.state

theorem StatementsMeet.bind {middle : α → σ → Prop} {next : α → Effect (Attempt σ) ε β}
    {last : β → σ → Prop} (hfirst : StatementsMeet call pre middle crash)
    (hnext : ∀ value, StatementsMeet (next value) (middle value) last crash) :
    StatementsMeet (call >>= next) pre last crash :=
  Meets.bind hfirst hnext

theorem StatementsMeet.counted (h : StatementsMeet call pre post crash) :
    Meets (counted call) pre post crash where
  returned s hs value after hcall := by
    obtain ⟨hvalue, rfl⟩ := Prod.mk.inj hcall
    exact h.returned { state := s, issued := 0 } hs value _ (Effect.eq_of_fst hvalue)
  failed s hs error after hcall := by
    obtain ⟨herror, rfl⟩ := Prod.mk.inj hcall
    exact h.failed { state := s, issued := 0 } hs error _ (Effect.eq_of_fst herror)
  noPanic s hs after hcall := by
    have hpanicked := (Prod.mk.inj hcall).1
    exact h.noPanic { state := s, issued := 0 } hs _ (Effect.eq_of_fst hpanicked)

end Statements

section Recovery

/-- The state after calls of which each starts where the one before it has ended or failed. -/
def afterCalls (calls : List (Effect σ ε α)) (s : σ) : σ :=
  calls.foldl (fun s call => (call s).2) s

/-- An invariant that every call keeps, also where it fails, is kept by any number of calls. -/
theorem afterCalls_invariant {calls : List (Effect σ ε α)} {invariant : σ → Prop}
    (h : ∀ call ∈ calls, ∀ s, invariant s → invariant (call s).2) {s : σ} (hs : invariant s) :
    invariant (afterCalls calls s) := by
  induction calls generalizing s with
  | nil => exact hs
  | cons call calls ih =>
      rw [List.forall_mem_cons] at h
      exact ih h.2 (h.1 s hs)

end Recovery

end TrafficCone.CrashConditions
