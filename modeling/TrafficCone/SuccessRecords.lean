import TrafficCone.IndependentLoading
import TrafficCone.TransducerRuns

namespace TrafficCone.SuccessRecords

open TrafficCone.Outcomes
open TrafficCone.IndependentLoading
open TrafficCone.TransducerRuns

variable {σ ε δ α β κ τ υ : Type}

/-- What a call is watched for: the log in the state, and a condition that it has to keep. -/
structure Watch (σ τ : Type) where
  log : σ → List τ
  sound : σ → Prop

/-- The call leaves the log as it is, however it ends. -/
def Silent (watch : Watch σ τ) (call : Effect σ ε α) : Prop :=
  ∀ s, watch.log (call s).2 = watch.log s ∧ (watch.sound s → watch.sound (call s).2)

/-- The call adds entries of the given shape to the log if it returns a value, and leaves the
log as it is if it does not. -/
structure Records (watch : Watch σ τ) (shape : τ → υ) (entries : σ → α → List υ)
    (call : Effect σ ε α) : Prop where
  returned : ∀ s value s', call s = (.ok value, s') →
    ∃ added, watch.log s' = watch.log s ++ added ∧ added.map shape = entries s value
  failed : ∀ s, (∀ value, (call s).1 ≠ .ok value) → watch.log (call s).2 = watch.log s
  sound : ∀ s, watch.sound s → watch.sound (call s).2

/-- What is recorded for a value, where there is one. -/
def ofOutcome (entries : α → List υ) : Outcome ε α → List υ
  | .ok value => entries value
  | _ => []

section Rules

variable {watch : Watch σ τ} {shape : τ → υ} {entries : σ → α → List υ}

theorem silent_pure (value : α) : Silent watch (pure value : Effect σ ε α) := fun _ => ⟨rfl, id⟩

theorem silent_lift (outcome : Outcome ε α) : Silent watch (Effect.lift outcome) :=
  fun _ => ⟨rfl, id⟩

theorem silent_reads (view : σ → Outcome ε α) : Silent watch (Effect.reads view) :=
  fun _ => ⟨rfl, id⟩

theorem Silent.bind {first : Effect σ ε α} {next : α → Effect σ ε β} (hfirst : Silent watch first)
    (hnext : ∀ value, Silent watch (next value)) : Silent watch (first >>= next) := by
  intro s
  obtain ⟨hsame, hsound⟩ := hfirst s
  rcases hcall : first s with ⟨value | error | _, s'⟩
  · rw [hcall] at hsame hsound
    rw [Effect.bind_of_ok hcall]
    obtain ⟨hlater, hlaterSound⟩ := hnext value s'
    exact ⟨hlater.trans hsame, fun hs => hlaterSound (hsound hs)⟩
  · rw [hcall] at hsame hsound
    rw [Effect.bind_of_err hcall]
    exact ⟨hsame, hsound⟩
  · rw [hcall] at hsame hsound
    rw [Effect.bind_of_panicked hcall]
    exact ⟨hsame, hsound⟩

theorem silent_loadAll {step : κ → Effect σ ε Nat} (hstep : ∀ item, Silent watch (step item))
    (items : List κ) : Silent watch (loadAll step items) := by
  induction items with
  | nil => exact silent_pure 0
  | cons item rest ih =>
      apply (hstep item).bind
      intro counted
      exact ih.bind fun more => silent_pure (counted + more)

theorem Silent.records {call : Effect σ ε α} (h : Silent watch call) :
    Records watch shape (fun _ _ => []) call where
  returned s value s' hcall := by
    have hsame := (h s).1
    rw [hcall] at hsame
    exact ⟨[], by rw [List.append_nil]; exact hsame, rfl⟩
  failed s _ := (h s).1
  sound s := (h s).2

/-- What is done before an entry is made must be silent. -/
theorem Silent.bind_records {first : Effect σ ε α} {next : α → Effect σ ε β}
    {entries : β → List υ} (hfirst : Silent watch first)
    (hnext : ∀ value, Records watch shape (fun _ => entries) (next value)) :
    Records watch shape (fun _ => entries) (first >>= next) where
  returned s value s'' hcall := by
    obtain ⟨middle, s', hbefore, hafter⟩ := Effect.bind_eq_ok_iff.mp hcall
    have hsame := (hfirst s).1
    rw [hbefore] at hsame
    rw [← hsame]
    exact (hnext middle).returned s' value s'' hafter
  failed s hfailed := by
    have hsame := (hfirst s).1
    rcases hcall : first s with ⟨value | error | _, s'⟩
    · rw [hcall] at hsame
      rw [Effect.bind_of_ok hcall] at hfailed ⊢
      exact ((hnext value).failed s' hfailed).trans hsame
    · rw [hcall] at hsame
      rw [Effect.bind_of_err hcall]
      exact hsame
    · rw [hcall] at hsame
      rw [Effect.bind_of_panicked hcall]
      exact hsame
  sound s hs := by
    have hsound := (hfirst s).2 hs
    rcases hcall : first s with ⟨value | error | _, s'⟩
    · rw [hcall] at hsound
      rw [Effect.bind_of_ok hcall]
      exact (hnext value).sound s' hsound
    · rw [hcall] at hsound
      rw [Effect.bind_of_err hcall]
      exact hsound
    · rw [hcall] at hsound
      rw [Effect.bind_of_panicked hcall]
      exact hsound

theorem Records.reads_bind {view : σ → Outcome ε α} {next : α → Effect σ ε β}
    (entries : α → β → List υ)
    (hnext : ∀ value, Records watch shape (fun _ => entries value) (next value)) :
    Records watch shape (fun s result => ofOutcome (fun value => entries value result) (view s))
      (Effect.reads view >>= next) where
  returned s result s' hcall := by
    obtain ⟨value, hview, hrest⟩ := Effect.reads_bind_eq_ok_iff.mp hcall
    rw [hview]
    exact (hnext value).returned s result s' hrest
  failed s hfailed := by
    rcases hview : view s with value | error | _
    · have hread : Effect.reads view s = (.ok value, s) := by rw [Effect.reads, hview]
      rw [Effect.bind_of_ok hread] at hfailed ⊢
      exact (hnext value).failed s hfailed
    · have hread : Effect.reads view s = (.err error, s) := by rw [Effect.reads, hview]
      rw [Effect.bind_of_err hread]
    · have hread : Effect.reads view s = (.panicked, s) := by rw [Effect.reads, hview]
      rw [Effect.bind_of_panicked hread]
  sound s hs := by
    rcases hview : view s with value | error | _
    · have hread : Effect.reads view s = (.ok value, s) := by rw [Effect.reads, hview]
      rw [Effect.bind_of_ok hread]
      exact (hnext value).sound s hs
    · have hread : Effect.reads view s = (.err error, s) := by rw [Effect.reads, hview]
      rw [Effect.bind_of_err hread]
      exact hs
    · have hread : Effect.reads view s = (.panicked, s) := by rw [Effect.reads, hview]
      rw [Effect.bind_of_panicked hread]
      exact hs

theorem records_lift_err (error : ε) :
    Records watch shape entries (Effect.lift (.err error) : Effect σ ε α) where
  returned s value s' hcall := by cases hcall
  failed s _ := rfl
  sound s hs := hs

/-- What is returned may be made of the value afterwards. -/
theorem Records.andPure {call : Effect σ ε α} {f : α → β} {shown : σ → β → List υ}
    (h : Records watch shape entries call)
    (hshown : ∀ s value, shown s (f value) = entries s value) :
    Records watch shape shown (call >>= fun value => pure (f value)) where
  returned s result s'' hcall := by
    obtain ⟨value, s', hvalue, hresult⟩ := Effect.bind_eq_ok_iff.mp hcall
    obtain ⟨hok, rfl⟩ := Prod.mk.inj hresult
    obtain rfl := Outcome.ok.inj hok
    rw [hshown]
    exact h.returned s value s' hvalue
  failed s hfailed := by
    rw [Effect.bind_pure_snd]
    apply h.failed s
    intro value hvalue
    apply hfailed (f value)
    rw [Effect.bind_of_ok (Effect.eq_of_fst hvalue)]
    rfl
  sound s hs := by
    rw [Effect.bind_pure_snd]
    exact h.sound s hs

theorem Records.mapErr {call : Effect σ ε α} (h : Records watch shape entries call) (f : ε → δ) :
    Records watch shape entries (Effect.mapErr f call) where
  returned s value s' hcall := h.returned s value s' (Effect.mapErr_eq_ok_iff.mp hcall)
  failed s hfailed := by
    apply h.failed s
    intro value hvalue
    exact hfailed value (Outcome.mapErr_eq_ok_iff.mpr hvalue)
  sound s hs := h.sound s hs

end Rules

section Runs

variable (perform : κ → Effect σ ε α) (entries : κ → σ → α → List υ)

/-- A command, with what it is to be recorded with if it returns a value. -/
def recording (s : σ) (command : κ) : σ × List υ :=
  ((perform command s).2, ofOutcome (entries command s) (perform command s).1)

variable {perform entries} {watch : Watch σ τ} {shape : τ → υ}

theorem log_recording {command : κ}
    (h : Records watch shape (entries command) (perform command)) (s : σ) :
    ∃ added, watch.log (recording perform entries s command).1 = watch.log s ++ added ∧
      added.map shape = (recording perform entries s command).2 := by
  rw [recording]
  cases houtcome : (perform command s).1 with
  | ok value => exact h.returned s value _ (Effect.eq_of_fst houtcome)
  | err error =>
      refine ⟨[], ?_, rfl⟩
      rw [List.append_nil]
      exact h.failed s (by rw [houtcome]; exact nofun)
  | panicked =>
      refine ⟨[], ?_, rfl⟩
      rw [List.append_nil]
      exact h.failed s (by rw [houtcome]; exact nofun)

/-- The log grows by what the commands that return a value are to be recorded with. -/
theorem log_run (h : ∀ command, Records watch shape (entries command) (perform command)) (s : σ)
    (commands : List κ) :
    ∃ added, watch.log (run (recording perform entries) s commands).1 = watch.log s ++ added ∧
      added.map shape = (run (recording perform entries) s commands).2 := by
  induction commands generalizing s with
  | nil => exact ⟨[], (List.append_nil _).symm, rfl⟩
  | cons command commands ih =>
      obtain ⟨first, hfirst, hfirstShape⟩ := log_recording (h command) s
      obtain ⟨rest, hrest, hrestShape⟩ := ih (recording perform entries s command).1
      refine ⟨first ++ rest, ?_, ?_⟩
      · rw [run_cons, hrest, hfirst, List.append_assoc]
      · rw [run_cons, List.map_append, hfirstShape, hrestShape]

theorem sound_run (h : ∀ command, Records watch shape (entries command) (perform command)) {s : σ}
    (hs : watch.sound s) (commands : List κ) :
    watch.sound (run (recording perform entries) s commands).1 :=
  (@run_invariant _ _ _ (recording perform entries) watch.sound (fun _ => True)
    (fun s command hs => ⟨(h command).sound s hs, fun _ _ => trivial⟩) s hs commands).1

end Runs

end TrafficCone.SuccessRecords
