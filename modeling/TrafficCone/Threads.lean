import Mathlib.Data.List.Induction
import Mathlib.Logic.Function.Basic
import TrafficCone.Outcomes

namespace TrafficCone.Threads

open TrafficCone.Outcomes

variable {σ ε δ α β : Type}

/-- What is left of a call that works in the midst of others: nothing, or one atomic step and
then what depends on the state that the step has found. -/
inductive Thread (σ ε α : Type) where
  | done (outcome : Outcome ε α)
  | step (change : σ → σ) (next : σ → Thread σ ε α)

namespace Thread

def andThen : Thread σ ε α → (α → Thread σ ε β) → Thread σ ε β
  | .done (.ok value), after => after value
  | .done (.err error), _ => .done (.err error)
  | .done .panicked, _ => .done .panicked
  | .step change next, after => .step change fun s => (next s).andThen after

instance : Monad (Thread σ ε) where
  pure value := .done (.ok value)
  bind := andThen

/-- The whole call is one step. -/
def atomic (call : Effect σ ε α) : Thread σ ε α :=
  .step (fun s => (call s).2) fun s => .done (call s).1

def mapErr (f : ε → δ) : Thread σ ε α → Thread σ δ α
  | .done outcome => .done (outcome.mapErr f)
  | .step change next => .step change fun s => (next s).mapErr f

/-- The whole of a thread, with no other in between. -/
def alone : Thread σ ε α → Effect σ ε α
  | .done outcome, s => (outcome, s)
  | .step change next, s => (next s).alone (change s)

def isDone : Thread σ ε α → Bool
  | .done _ => true
  | .step _ _ => false

def ended : Thread σ ε α → Option (Outcome ε α)
  | .done outcome => some outcome
  | .step _ _ => none

theorem eq_done_of_ended {thread : Thread σ ε α} {outcome : Outcome ε α}
    (h : thread.ended = some outcome) : thread = .done outcome := by
  cases thread with
  | done found => rw [Option.some.inj h]
  | step change next => cases h

@[simp] theorem ok_bind (value : α) (after : α → Thread σ ε β) :
    ((.done (.ok value) : Thread σ ε α) >>= after) = after value := rfl

@[simp] theorem err_bind (error : ε) (after : α → Thread σ ε β) :
    ((.done (.err error) : Thread σ ε α) >>= after) = .done (.err error) := rfl

@[simp] theorem panicked_bind (after : α → Thread σ ε β) :
    ((.done .panicked : Thread σ ε α) >>= after) = .done .panicked := rfl

@[simp] theorem step_bind (change : σ → σ) (next : σ → Thread σ ε α)
    (after : α → Thread σ ε β) :
    (.step change next >>= after) = .step change fun s => next s >>= after := rfl

@[simp] theorem pure_eq_done (value : α) :
    (pure value : Thread σ ε α) = .done (.ok value) := rfl

@[simp] theorem alone_done (outcome : Outcome ε α) (s : σ) :
    (.done outcome : Thread σ ε α).alone s = (outcome, s) := rfl

theorem alone_atomic (call : Effect σ ε α) : (atomic call).alone = call := rfl

/-- Nothing comes between the parts of a sequence either. -/
theorem alone_bind (thread : Thread σ ε α) (after : α → Thread σ ε β) :
    (thread >>= after).alone = thread.alone >>= fun value => (after value).alone := by
  funext s
  induction thread generalizing s with
  | done outcome =>
      cases outcome with
      | ok value => rfl
      | err error => rfl
      | panicked => rfl
  | step change next ih => exact ih s (change s)

theorem alone_mapErr (f : ε → δ) (thread : Thread σ ε α) :
    (thread.mapErr f).alone = Effect.mapErr f thread.alone := by
  funext s
  induction thread generalizing s with
  | done outcome => rfl
  | step change next ih => exact ih s (change s)

end Thread

/-- Threads that share a state. -/
structure Pool (σ ι ε α : Type) where
  state : σ
  threads : ι → Thread σ ε α

/-- What happens next: a thread takes a step, or something does that is none of them. -/
inductive Move (κ ι : Type) where
  | turn (thread : ι)
  | outside (event : κ)

namespace Pool

variable {κ ι : Type} [DecidableEq ι]

/-- A thread that is done stays as it is. -/
def turn (pool : Pool σ ι ε α) (i : ι) : Pool σ ι ε α :=
  match pool.threads i with
  | .done _ => pool
  | .step change next =>
      { state := change pool.state
        threads := Function.update pool.threads i (next pool.state) }

def move (happen : κ → σ → σ) (pool : Pool σ ι ε α) : Move κ ι → Pool σ ι ε α
  | .turn i => pool.turn i
  | .outside event => { pool with state := happen event pool.state }

/-- What any interleaving makes of the threads; some may never come to their end. -/
def interleave (happen : κ → σ → σ) (pool : Pool σ ι ε α) (moves : List (Move κ ι)) :
    Pool σ ι ε α :=
  moves.foldl (move happen) pool

variable {happen : κ → σ → σ} {pool : Pool σ ι ε α}

theorem interleave_append (first second : List (Move κ ι)) :
    pool.interleave happen (first ++ second) =
      (pool.interleave happen first).interleave happen second :=
  List.foldl_append

theorem turn_of_done {i : ι} {outcome : Outcome ε α} (h : pool.threads i = .done outcome) :
    pool.turn i = pool := by
  rw [turn, h]

theorem turn_of_step {i : ι} {change : σ → σ} {next : σ → Thread σ ε α}
    (h : pool.threads i = .step change next) :
    pool.turn i =
      { state := change pool.state
        threads := Function.update pool.threads i (next pool.state) } := by
  rw [turn, h]

end Pool

section Notes

variable {κ ι τ : Type} (note : σ → τ → τ)

/-- The thread with notes taken of the states that it brings about. -/
def Thread.noted : Thread σ ε α → Thread (σ × τ) ε α
  | .done outcome => .done outcome
  | .step change next =>
      .step (fun s => (change s.1, note (change s.1) s.2)) fun s => (next s.1).noted

def noteCall (call : Effect σ ε α) : Effect (σ × τ) ε α := fun s =>
  ((call s.1).1, (call s.1).2, note (call s.1).2 s.2)

theorem Thread.noted_atomic (call : Effect σ ε α) :
    (atomic call).noted note = atomic (noteCall note call) := rfl

theorem Thread.noted_bind (thread : Thread σ ε α) (after : α → Thread σ ε β) :
    (thread >>= after).noted note =
      thread.noted note >>= fun value => (after value).noted note := by
  induction thread with
  | done outcome =>
      cases outcome with
      | ok value => rfl
      | err error => rfl
      | panicked => rfl
  | step change next ih =>
      simp only [step_bind, noted]
      congr 1
      funext s
      exact ih s.1

theorem Thread.noted_mapErr (f : ε → δ) (thread : Thread σ ε α) :
    (thread.mapErr f).noted note = (thread.noted note).mapErr f := by
  induction thread with
  | done outcome => rfl
  | step change next ih =>
      simp only [mapErr, noted]
      congr 1
      funext s
      exact ih s.1

def Pool.noted (pool : Pool σ ι ε α) (notes : τ) : Pool (σ × τ) ι ε α :=
  { state := (pool.state, notes)
    threads := fun i => (pool.threads i).noted note }

def noteEvent (happen : κ → σ → σ) (event : κ) (s : σ × τ) : σ × τ :=
  (happen event s.1, note (happen event s.1) s.2)

variable [DecidableEq ι] (happen : κ → σ → σ)

theorem Pool.noted_move (pool : Pool σ ι ε α) (notes : τ) (next : Move κ ι) :
    ∃ more, (pool.noted note notes).move (noteEvent note happen) next =
        (pool.move happen next).noted note more ∧
      (more = notes ∨ more = note (pool.move happen next).state notes) := by
  cases next with
  | outside event => exact ⟨note (happen event pool.state) notes, rfl, Or.inr rfl⟩
  | turn i =>
      simp only [move]
      cases hthread : pool.threads i with
      | done outcome =>
          have hnoted : (pool.noted note notes).threads i = .done outcome :=
            congrArg (Thread.noted note) hthread
          exact ⟨notes, by rw [turn_of_done hthread, turn_of_done hnoted], Or.inl rfl⟩
      | step change rest =>
          have hnoted : (pool.noted note notes).threads i = (Thread.step change rest).noted note :=
            congrArg (Thread.noted note) hthread
          rw [turn_of_step hthread]
          refine ⟨note (change pool.state) notes, ?_, Or.inr rfl⟩
          rw [turn_of_step hnoted, noted, noted]
          congr 1
          funext j
          by_cases hj : j = i
          · subst hj
            simp only [Function.update_self]
          · simp only [Function.update_of_ne hj]

/-- The notes make no difference to what the threads do. -/
theorem Pool.noted_interleave (pool : Pool σ ι ε α) (notes : τ) (moves : List (Move κ ι)) :
    ∃ more, (pool.noted note notes).interleave (noteEvent note happen) moves =
      (pool.interleave happen moves).noted note more := by
  induction moves generalizing pool notes with
  | nil => exact ⟨notes, rfl⟩
  | cons next moves ih =>
      obtain ⟨middle, hmove, -⟩ := pool.noted_move note happen notes next
      obtain ⟨more, hmore⟩ := ih (pool.move happen next) middle
      refine ⟨more, ?_⟩
      rw [interleave, List.foldl_cons, hmove]
      exact hmore

variable {happen} {υ : Type}

/-- Notes of one thing, at all the moments that there have been, the last one first. -/
def noteMoment (view : σ → υ) (s : σ) (moments : List υ) : List υ := view s :: moments

/-- What has been noted was so after some of the moves, and what had been noted before it
had been noted then. -/
theorem Pool.exists_moment {view : σ → υ} {pool : Pool σ ι ε α} {moves : List (Move κ ι)}
    {seen : υ} {past : List υ}
    (h : seen :: past <:+ ((pool.noted (noteMoment view) [view pool.state]).interleave
      (noteEvent (noteMoment view) happen) moves).state.2) :
    ∃ earlier later, moves = earlier ++ later ∧ seen = view (pool.interleave happen earlier).state ∧
      ((pool.noted (noteMoment view) [view pool.state]).interleave
        (noteEvent (noteMoment view) happen) earlier).state.2 = seen :: past := by
  induction moves using List.reverseRecOn with
  | nil =>
      have hall := h.eq_of_length_le (Nat.le_add_left 1 past.length)
      exact ⟨[], [], rfl, (List.cons.inj hall).1, hall.symm⟩
  | append_singleton moves next ih =>
      obtain ⟨notes, hnotes⟩ :=
        pool.noted_interleave (noteMoment view) happen [view pool.state] moves
      obtain ⟨more, hmove, hmore⟩ :=
        (pool.interleave happen moves).noted_move (noteMoment view) happen notes next
      have hlast : ((pool.noted (noteMoment view) [view pool.state]).interleave
          (noteEvent (noteMoment view) happen) (moves ++ [next])).state.2 = more := by
        rw [interleave_append, hnotes, interleave, List.foldl_cons, List.foldl_nil, hmove]
        rfl
      have hbefore : seen :: past <:+ notes →
          ∃ earlier later, moves ++ [next] = earlier ++ later ∧
            seen = view (pool.interleave happen earlier).state ∧
            ((pool.noted (noteMoment view) [view pool.state]).interleave
              (noteEvent (noteMoment view) happen) earlier).state.2 = seen :: past := by
        intro hnoted
        obtain ⟨earlier, later, hmoves, hseen⟩ := ih (by rw [hnotes]; exact hnoted)
        exact ⟨earlier, later ++ [next], by rw [hmoves, List.append_assoc], hseen⟩
      rw [hlast] at h
      rcases hmore with rfl | rfl
      · exact hbefore h
      · rcases List.suffix_cons_iff.mp h with hnow | hnoted
        · refine ⟨moves ++ [next], [], (List.append_nil _).symm, ?_, hlast.trans hnow.symm⟩
          rw [interleave_append]
          exact (List.cons.inj hnow).1
        · exact hbefore hnoted

end Notes

section Answers

/-- What is left of a thread after its next step, taken in this state. -/
def Thread.advance (s : σ) : Thread σ ε α → Thread σ ε α
  | .done outcome => .done outcome
  | .step _ next => next s

@[simp] theorem Thread.advance_done (s : σ) (outcome : Outcome ε α) :
    (.done outcome : Thread σ ε α).advance s = .done outcome := rfl

@[simp] theorem Thread.advance_step (s : σ) (change : σ → σ) (next : σ → Thread σ ε α) :
    (Thread.step change next).advance s = next s := rfl

/-- The step with which a thread returns a value takes nothing from the state any more; the
step before it has found a state that goes with the value. -/
def Thread.AnswersBy (seen : α → σ → Prop) : Thread σ ε α → Prop
  | .done _ => True
  | .step _ next =>
      (∀ s t value, next s = .done (.ok value) → next t = .done (.ok value)) ∧
        ∀ s, (next s).isDone = false →
          (∀ t value, (next s).advance t = .done (.ok value) → seen value s) ∧
            (next s).AnswersBy seen

variable {seen : α → σ → Prop}

/-- One reading of the state, and then what depends on nothing else. -/
theorem Thread.answersBy_reads {view : σ → Outcome ε β} {last : β → Outcome ε α}
    (h : ∀ s found value, view s = .ok found → last found = .ok value → seen value s) :
    (atomic (.reads view) >>= fun found => atomic (.reads fun _ => last found)).AnswersBy
      seen := by
  constructor
  · intro s t value hreturned
    change ((.done (view s) : Thread σ ε β) >>= _) = _ at hreturned
    cases hview : view s <;> rw [hview] at hreturned <;> cases hreturned
  · intro s hmore
    change ((.done (view s) : Thread σ ε β) >>= _).isDone = false at hmore
    change (∀ t value, ((.done (view s) : Thread σ ε β) >>= _).advance t = _ → _) ∧
      ((.done (view s) : Thread σ ε β) >>= _).AnswersBy seen
    cases hview : view s with
    | ok found =>
        refine ⟨?_, ?_, fun t hdone => (by cases hdone)⟩
        · intro t value hvalue
          exact h s found value hview (Thread.done.inj hvalue)
        · exact fun t other value hvalue => hvalue
    | err error =>
        rw [hview] at hmore
        cases hmore
    | panicked =>
        rw [hview] at hmore
        cases hmore

theorem Thread.bind_ne_done {thread : Thread σ ε β} {after : β → Thread σ ε α} {value : α}
    (hlast : ∀ middle, after middle ≠ .done (.ok value)) :
    (thread >>= after) ≠ .done (.ok value) := by
  cases thread with
  | step change next => exact nofun
  | done outcome =>
      cases outcome with
      | ok middle => exact hlast middle
      | err error => exact nofun
      | panicked => exact nofun

theorem Thread.advance_bind_ne_done {thread : Thread σ ε β} {after : β → Thread σ ε α}
    {s : σ} {value : α} (hlast : ∀ middle, after middle ≠ .done (.ok value))
    (hnext : ∀ middle, (after middle).advance s ≠ .done (.ok value)) :
    (thread >>= after).advance s ≠ .done (.ok value) := by
  cases thread with
  | step change next => exact bind_ne_done hlast
  | done outcome =>
      cases outcome with
      | ok middle => exact hnext middle
      | err error => exact nofun
      | panicked => exact nofun

/-- What comes before the last two steps does not matter. -/
theorem Thread.AnswersBy.bind {thread : Thread σ ε β} {after : β → Thread σ ε α}
    (hlast : ∀ middle value, after middle ≠ .done (.ok value))
    (hnext : ∀ middle s value, (after middle).advance s ≠ .done (.ok value))
    (h : ∀ middle, (after middle).AnswersBy seen) : (thread >>= after).AnswersBy seen := by
  induction thread with
  | done outcome =>
      cases outcome with
      | ok middle => exact h middle
      | err error => trivial
      | panicked => trivial
  | step change next ih =>
      constructor
      · intro s t value hvalue
        exact absurd hvalue (bind_ne_done fun middle => hlast middle value)
      · intro s _
        refine ⟨?_, ih s⟩
        intro t value hvalue
        exact absurd hvalue (advance_bind_ne_done (fun middle => hlast middle value)
          fun middle => hnext middle t value)

theorem Thread.map_eq_done_iff {thread : Thread σ ε β} {f : β → α} {result : α} :
    (thread >>= fun value => pure (f value)) = .done (.ok result) ↔
      ∃ value, thread = .done (.ok value) ∧ f value = result := by
  cases thread with
  | step change next => simp
  | done outcome => cases outcome <;> simp

theorem Thread.advance_map {thread : Thread σ ε β} {f : β → α} {s : σ} :
    (thread >>= fun value => pure (f value)).advance s =
      thread.advance s >>= fun value => pure (f value) := by
  cases thread with
  | step change next => rfl
  | done outcome => cases outcome <;> rfl

theorem Thread.AnswersBy.map {read : β → σ → Prop} {thread : Thread σ ε β} {f : β → α}
    (h : thread.AnswersBy read) (hseen : ∀ value s, read value s → seen (f value) s) :
    (thread >>= fun value => pure (f value)).AnswersBy seen := by
  induction thread with
  | done outcome => cases outcome <;> trivial
  | step change next ih =>
      constructor
      · intro s t result hresult
        obtain ⟨value, hvalue, rfl⟩ := map_eq_done_iff.mp hresult
        exact map_eq_done_iff.mpr ⟨value, h.1 s t value hvalue, rfl⟩
      · intro s hmore
        change (next s >>= fun value => pure (f value)).isDone = false at hmore
        have hundone : (next s).isDone = false := by
          cases hnext : next s with
          | step _ _ => rfl
          | done outcome =>
              rw [hnext] at hmore
              cases outcome <;> cases hmore
        obtain ⟨hread, hrest⟩ := h.2 s hundone
        refine ⟨?_, ih s hrest⟩
        intro t result hresult
        change (next s >>= fun value => pure (f value)).advance t = _ at hresult
        rw [advance_map] at hresult
        obtain ⟨value, hvalue, rfl⟩ := map_eq_done_iff.mp hresult
        exact hseen value s (hread t value hvalue)

variable {κ ι : Type} [DecidableEq ι] {happen : κ → σ → σ} {pool : Pool σ ι ε α}

theorem Pool.turn_self (pool : Pool σ ι ε α) (i : ι) :
    (pool.turn i).threads i = (pool.threads i).advance pool.state := by
  cases hthread : pool.threads i with
  | done outcome => rw [turn_of_done hthread, hthread, Thread.advance_done]
  | step change next =>
      rw [turn_of_step hthread, Thread.advance_step]
      exact Function.update_self i _ _

theorem Pool.turn_of_ne {i j : ι} (h : i ≠ j) :
    (pool.turn j).threads i = pool.threads i := by
  cases hthread : pool.threads j with
  | done outcome => rw [turn_of_done hthread]
  | step change next =>
      rw [turn_of_step hthread]
      exact Function.update_of_ne h _ _

theorem Thread.AnswersBy.advance {thread : Thread σ ε α} (h : thread.AnswersBy seen) (s : σ) :
    (thread.advance s).AnswersBy seen := by
  cases thread with
  | done outcome => trivial
  | step change next =>
      cases hnext : next s with
      | done outcome =>
          rw [advance_step, hnext]
          trivial
      | step later rest =>
          rw [advance_step]
          exact (h.2 s (by rw [hnext]; rfl)).2

theorem Pool.threads_move (i : ι) (next : Move κ ι) :
    (pool.move happen next).threads i = pool.threads i ∨
      (next = .turn i ∧
        (pool.move happen next).threads i = (pool.threads i).advance pool.state) := by
  cases next with
  | outside event => exact Or.inl rfl
  | turn j =>
      by_cases hj : i = j
      · subst hj
        exact Or.inr ⟨rfl, turn_self pool i⟩
      · exact Or.inl (turn_of_ne hj)

theorem Pool.answersBy_move {i : ι} (h : (pool.threads i).AnswersBy seen) (next : Move κ ι) :
    ((pool.move happen next).threads i).AnswersBy seen := by
  rcases @threads_move _ _ _ _ _ _ happen pool i next with hsame | ⟨-, hadvanced⟩
  · rw [hsame]
    exact h
  · rw [hadvanced]
    exact h.advance pool.state

theorem Pool.answersBy_interleave {i : ι} (h : (pool.threads i).AnswersBy seen)
    (moves : List (Move κ ι)) : ((pool.interleave happen moves).threads i).AnswersBy seen := by
  induction moves generalizing pool with
  | nil => exact h
  | cons next moves ih => exact ih (answersBy_move h next)

/-- In which state it returns a value makes no difference to a thread. -/
theorem Thread.AnswersBy.advance_eq {thread : Thread σ ε α} (h : thread.AnswersBy seen)
    {s t : σ} {value : α} (hreturned : thread.advance s = .done (.ok value)) :
    thread.advance t = .done (.ok value) := by
  cases thread with
  | done outcome => exact hreturned
  | step change next => exact h.1 s t value hreturned

/-- The step before the last one has been taken in a state that goes with the value. -/
theorem Thread.AnswersBy.seen_of_advance {thread : Thread σ ε α} (h : thread.AnswersBy seen)
    {s t : σ} {value : α} (hbefore : thread.advance s ≠ .done (.ok value))
    (hafter : (thread.advance s).advance t = .done (.ok value)) : seen value s := by
  cases thread with
  | done outcome => exact absurd hafter hbefore
  | step change next =>
      cases hnext : next s with
      | done outcome =>
          rw [advance_step, hnext] at hbefore hafter
          exact absurd hafter hbefore
      | step later rest => exact (h.2 s (by rw [hnext]; rfl)).1 t value hafter

/-- A thread that comes to return a value, but not by its very next step, has meanwhile found a
state that goes with the value. -/
theorem Pool.exists_seen {i : ι} {value : α} {moves : List (Move κ ι)}
    (hanswers : (pool.threads i).AnswersBy seen)
    (hbefore : (pool.turn i).threads i ≠ .done (.ok value))
    (hafter : (pool.interleave happen moves).threads i = .done (.ok value)) :
    ∃ earlier later, moves = earlier ++ later ∧
      seen value (pool.interleave happen earlier).state := by
  induction moves generalizing pool with
  | nil =>
      change pool.threads i = .done (.ok value) at hafter
      rw [turn_self, hafter] at hbefore
      exact absurd rfl hbefore
  | cons next moves ih =>
      by_cases hreturns : ((pool.move happen next).turn i).threads i = .done (.ok value)
      · refine ⟨[], next :: moves, rfl, ?_⟩
        rw [turn_self] at hbefore hreturns
        rcases @threads_move _ _ _ _ _ _ happen pool i next with hsame | ⟨-, hadvanced⟩
        · rw [hsame] at hreturns
          exact absurd (hanswers.advance_eq hreturns) hbefore
        · rw [hadvanced] at hreturns
          exact hanswers.seen_of_advance hbefore hreturns
      · obtain ⟨earlier, later, rfl, hseen⟩ := ih (answersBy_move hanswers next) hreturns hafter
        exact ⟨next :: earlier, later, rfl, hseen⟩

end Answers

end TrafficCone.Threads
