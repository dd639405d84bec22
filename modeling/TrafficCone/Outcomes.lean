import Mathlib.Tactic.Common

namespace TrafficCone.Outcomes

/-- How a call ends: with a value, with an error, or with a panic that unwinds
the calling thread. -/
inductive Outcome (ε α : Type) where
  | ok (value : α)
  | err (error : ε)
  | panicked
  deriving DecidableEq, Repr

namespace Outcome

variable {ε δ α β : Type}

def andThen : Outcome ε α → (α → Outcome ε β) → Outcome ε β
  | .ok value, next => next value
  | .err error, _ => .err error
  | .panicked, _ => .panicked

instance : Monad (Outcome ε) where
  pure := .ok
  bind := andThen

@[simp] theorem pure_eq_ok (value : α) : (pure value : Outcome ε α) = .ok value := rfl

@[simp] theorem ok_bind (value : α) (next : α → Outcome ε β) :
    (Outcome.ok value >>= next) = next value := rfl

@[simp] theorem err_bind (error : ε) (next : α → Outcome ε β) :
    (Outcome.err error >>= next) = .err error := rfl

@[simp] theorem panicked_bind (next : α → Outcome ε β) :
    (Outcome.panicked >>= next) = .panicked := rfl

theorem bind_eq_ok_iff {first : Outcome ε α} {next : α → Outcome ε β} {result : β} :
    (first >>= next) = .ok result ↔ ∃ value, first = .ok value ∧ next value = .ok result := by
  cases first <;> simp

theorem bind_eq_err_iff {first : Outcome ε α} {next : α → Outcome ε β} {error : ε} :
    (first >>= next) = .err error ↔
      first = .err error ∨ ∃ value, first = .ok value ∧ next value = .err error := by
  cases first <;> simp

theorem bind_eq_panicked_iff {first : Outcome ε α} {next : α → Outcome ε β} :
    (first >>= next) = .panicked ↔
      first = .panicked ∨ ∃ value, first = .ok value ∧ next value = .panicked := by
  cases first <;> simp

def mapErr (f : ε → δ) : Outcome ε α → Outcome δ α
  | .ok value => .ok value
  | .err error => .err (f error)
  | .panicked => .panicked

@[simp] theorem mapErr_ok (f : ε → δ) (value : α) :
    (Outcome.ok value : Outcome ε α).mapErr f = .ok value := rfl

@[simp] theorem mapErr_err (f : ε → δ) (error : ε) :
    (Outcome.err error : Outcome ε α).mapErr f = .err (f error) := rfl

@[simp] theorem mapErr_panicked (f : ε → δ) :
    (Outcome.panicked : Outcome ε α).mapErr f = .panicked := rfl

theorem mapErr_eq_ok_iff {f : ε → δ} {outcome : Outcome ε α} {value : α} :
    outcome.mapErr f = .ok value ↔ outcome = .ok value := by
  cases outcome <;> simp

theorem mapErr_eq_err_iff {f : ε → δ} {outcome : Outcome ε α} {error : δ} :
    outcome.mapErr f = .err error ↔ ∃ cause, outcome = .err cause ∧ f cause = error := by
  cases outcome <;> simp

theorem mapErr_eq_panicked_iff {f : ε → δ} {outcome : Outcome ε α} :
    outcome.mapErr f = .panicked ↔ outcome = .panicked := by
  cases outcome <;> simp

def ofExcept : Except ε α → Outcome ε α
  | .ok value => .ok value
  | .error error => .err error

@[simp] theorem ofExcept_ok (value : α) :
    ofExcept (Except.ok value : Except ε α) = .ok value := rfl

@[simp] theorem ofExcept_error (error : ε) :
    ofExcept (Except.error error : Except ε α) = .err error := rfl

theorem ofExcept_eq_ok_iff {found : Except ε α} {value : α} :
    ofExcept found = .ok value ↔ found = .ok value := by
  cases found <;> simp

def ofOption (error : ε) : Option α → Outcome ε α
  | some value => .ok value
  | none => .err error

@[simp] theorem ofOption_some (error : ε) (value : α) :
    ofOption error (some value) = .ok value := rfl

@[simp] theorem ofOption_none (error : ε) :
    ofOption error (none : Option α) = .err error := rfl

theorem ofOption_eq_ok_iff {error : ε} {found : Option α} {value : α} :
    ofOption error found = .ok value ↔ found = some value := by
  cases found <;> simp

theorem ofOption_ne_panicked (error : ε) (value : Option α) :
    ofOption error value ≠ .panicked := by
  cases value <;> simp

def expect : Option α → Outcome ε α
  | some value => .ok value
  | none => .panicked

@[simp] theorem expect_some (value : α) :
    (expect (some value) : Outcome ε α) = .ok value := rfl

@[simp] theorem expect_none : (expect (none : Option α) : Outcome ε α) = .panicked := rfl

end Outcome

/-- A call that works on a state it shares with its caller. What it has done to
the state before an error or a panic stays done. -/
abbrev Effect (σ ε α : Type) : Type := σ → Outcome ε α × σ

namespace Effect

variable {σ ε δ α β : Type}

def andThen (first : Effect σ ε α) (next : α → Effect σ ε β) : Effect σ ε β := fun s =>
  match first s with
  | (.ok value, s') => next value s'
  | (.err error, s') => (.err error, s')
  | (.panicked, s') => (.panicked, s')

instance : Monad (Effect σ ε) where
  pure value s := (.ok value, s)
  bind := andThen

def lift (outcome : Outcome ε α) : Effect σ ε α := fun s => (outcome, s)

def reads (view : σ → Outcome ε α) : Effect σ ε α := fun s => (view s, s)

theorem pure_apply (value : α) (s : σ) : (pure value : Effect σ ε α) s = (.ok value, s) := rfl

theorem eq_of_fst {call : Effect σ ε α} {s : σ} {outcome : Outcome ε α}
    (h : (call s).1 = outcome) : call s = (outcome, (call s).2) := by
  rw [← h]

theorem bind_of_ok {first : Effect σ ε α} {next : α → Effect σ ε β} {s s' : σ} {value : α}
    (h : first s = (.ok value, s')) : (first >>= next) s = next value s' := by
  change andThen first next s = _
  simp only [andThen, h]

theorem lift_ok_bind (value : α) (next : α → Effect σ ε β) :
    (lift (.ok value) >>= next) = next value := rfl

theorem lift_err_bind (error : ε) (next : α → Effect σ ε β) :
    (lift (.err error) >>= next) = lift (.err error) := rfl

theorem bind_of_err {first : Effect σ ε α} {next : α → Effect σ ε β} {s s' : σ} {error : ε}
    (h : first s = (.err error, s')) : (first >>= next) s = (.err error, s') := by
  change andThen first next s = _
  simp only [andThen, h]

theorem pure_bind (value : α) (next : α → Effect σ ε β) :
    ((pure value : Effect σ ε α) >>= next) = next value := rfl

theorem bind_assoc {γ : Type} (first : Effect σ ε α) (next : α → Effect σ ε β)
    (last : β → Effect σ ε γ) :
    (first >>= next >>= last) = first >>= fun value => next value >>= last := by
  funext s
  change andThen (andThen first next) last s = andThen first (fun value => next value >>= last) s
  simp only [andThen]
  rcases first s with ⟨value | error | _, s'⟩ <;> rfl

theorem bind_of_panicked {first : Effect σ ε α} {next : α → Effect σ ε β} {s s' : σ}
    (h : first s = (.panicked, s')) : (first >>= next) s = (.panicked, s') := by
  change andThen first next s = _
  simp only [andThen, h]

theorem bind_pure_snd (first : Effect σ ε α) (f : α → β) (s : σ) :
    ((first >>= fun value => (pure (f value) : Effect σ ε β)) s).2 = (first s).2 := by
  change (andThen first (fun value => pure (f value)) s).2 = _
  unfold andThen
  rcases first s with ⟨value | error | _, s'⟩ <;> rfl

theorem bind_eq_ok_iff {first : Effect σ ε α} {next : α → Effect σ ε β} {s s'' : σ} {result : β} :
    (first >>= next) s = (.ok result, s'') ↔
      ∃ value s', first s = (.ok value, s') ∧ next value s' = (.ok result, s'') := by
  change andThen first next s = _ ↔ _
  unfold andThen
  rcases first s with ⟨value | error | _, s'⟩ <;> simp

theorem reads_bind_eq_ok_iff {view : σ → Outcome ε α} {next : α → Effect σ ε β} {s s' : σ}
    {result : β} :
    (reads view >>= next) s = (.ok result, s') ↔
      ∃ value, view s = .ok value ∧ next value s = (.ok result, s') := by
  rw [bind_eq_ok_iff]
  constructor
  · rintro ⟨value, middle, hview, hnext⟩
    obtain ⟨hvalue, rfl⟩ := Prod.mk.inj hview
    exact ⟨value, hvalue, hnext⟩
  · rintro ⟨value, hvalue, hnext⟩
    exact ⟨value, s, by rw [reads, hvalue], hnext⟩

theorem lift_bind_eq_ok_iff {outcome : Outcome ε α} {next : α → Effect σ ε β} {s s' : σ}
    {result : β} :
    (lift outcome >>= next) s = (.ok result, s') ↔
      ∃ value, outcome = .ok value ∧ next value s = (.ok result, s') :=
  reads_bind_eq_ok_iff

theorem bind_fst_eq_err_iff {first : Effect σ ε α} {next : α → Effect σ ε β} {s : σ}
    {error : ε} :
    ((first >>= next) s).1 = .err error ↔
      (first s).1 = .err error ∨
        ∃ value s', first s = (.ok value, s') ∧ (next value s').1 = .err error := by
  change (andThen first next s).1 = _ ↔ _
  simp only [andThen]
  rcases first s with ⟨value | found | _, s'⟩ <;> simp

theorem bind_lift_fst (first : Effect σ ε α) (next : α → Outcome ε β) (s : σ) :
    ((first >>= fun value => lift (next value)) s).1 = (first s).1 >>= next := by
  change (andThen first (fun value => lift (next value)) s).1 = _
  unfold andThen
  rcases first s with ⟨value | error | _, s'⟩ <;> rfl

def mapErr (f : ε → δ) (call : Effect σ ε α) : Effect σ δ α := fun s =>
  ((call s).1.mapErr f, (call s).2)

theorem mapErr_eq_ok_iff {f : ε → δ} {call : Effect σ ε α} {s s' : σ} {value : α} :
    mapErr f call s = (.ok value, s') ↔ call s = (.ok value, s') := by
  unfold mapErr
  rw [Prod.mk.injEq, Outcome.mapErr_eq_ok_iff, ← Prod.mk.injEq]

/-- The call keeps an invariant of the state, however it ends, and a value it
returns satisfies the guarantee. -/
def Keeps (call : Effect σ ε α) (invariant : σ → Prop) (guarantee : α → Prop) : Prop :=
  ∀ s, invariant s → invariant (call s).2 ∧ ∀ value, (call s).1 = .ok value → guarantee value

theorem keeps_lift {invariant : σ → Prop} {guarantee : α → Prop} {outcome : Outcome ε α}
    (h : ∀ value, outcome = .ok value → guarantee value) :
    Keeps (lift outcome) invariant guarantee :=
  fun _ hs => ⟨hs, h⟩

theorem keeps_reads {invariant : σ → Prop} {guarantee : α → Prop} {view : σ → Outcome ε α}
    (h : ∀ s value, view s = .ok value → guarantee value) :
    Keeps (reads view) invariant guarantee :=
  fun s hs => ⟨hs, h s⟩

theorem Keeps.mapErr {invariant : σ → Prop} {guarantee : α → Prop} {f : ε → δ}
    {call : Effect σ ε α} (h : Keeps call invariant guarantee) :
    Keeps (mapErr f call) invariant guarantee := by
  intro s hs
  obtain ⟨hkept, hguarantee⟩ := h s hs
  exact ⟨hkept, fun value hvalue => hguarantee value (Outcome.mapErr_eq_ok_iff.mp hvalue)⟩

theorem keeps_pure {invariant : σ → Prop} {guarantee : α → Prop} {value : α}
    (h : guarantee value) : Keeps (pure value : Effect σ ε α) invariant guarantee := by
  intro s hs
  refine ⟨hs, ?_⟩
  intro other hother
  obtain rfl := Outcome.ok.inj hother
  exact h

/-- The rule of sequencing. -/
theorem Keeps.bind {invariant : σ → Prop} {middle : α → Prop} {guarantee : β → Prop}
    {first : Effect σ ε α} {next : α → Effect σ ε β} (hfirst : Keeps first invariant middle)
    (hnext : ∀ value, middle value → Keeps (next value) invariant guarantee) :
    Keeps (first >>= next) invariant guarantee := by
  intro s hs
  obtain ⟨hkept, hmiddle⟩ := hfirst s hs
  rcases hcall : first s with ⟨value | error | _, s'⟩
  · rw [hcall] at hkept hmiddle
    rw [bind_of_ok hcall]
    exact hnext value (hmiddle value rfl) s' hkept
  · rw [hcall] at hkept
    rw [bind_of_err hcall]
    exact ⟨hkept, nofun⟩
  · rw [hcall] at hkept
    rw [bind_of_panicked hcall]
    exact ⟨hkept, nofun⟩

/-- A call that returns a value has kept the invariant. -/
def Preserves (call : Effect σ ε α) (invariant : σ → Prop) : Prop :=
  ∀ s value s', invariant s → call s = (.ok value, s') → invariant s'

theorem preserves_of_unchanged {invariant : σ → Prop} {call : Effect σ ε α}
    (h : ∀ s, (call s).2 = s) : Preserves call invariant := by
  intro s value s' hs hcall
  obtain rfl : s = s' := by rw [← h s, hcall]
  exact hs

theorem Preserves.bind {invariant : σ → Prop} {first : Effect σ ε α} {next : α → Effect σ ε β}
    (hfirst : Preserves first invariant) (hnext : ∀ value, Preserves (next value) invariant) :
    Preserves (first >>= next) invariant := by
  intro s value s'' hs hcall
  obtain ⟨middle, s', hbefore, hafter⟩ := bind_eq_ok_iff.mp hcall
  exact hnext middle s' value s'' (hfirst s middle s' hs hbefore) hafter

end Effect

end TrafficCone.Outcomes
