import TrafficCone.DatabaseTables
import TrafficCone.IndependentLoading

namespace TrafficCone.TableLoading

open TrafficCone.Outcomes
open TrafficCone.StoreModels
open TrafficCone.IndependentLoading
open TrafficCone.DatabaseTables

variable {ρ α : Type} (table : Table ρ) (column : String × (ρ → String)) (row : α → ρ)

def present (session : Session) (entry : α) : Bool :=
  (table.rows session.database).any fun other => column.2 other = column.2 (row entry)

def Insertable (session : Session) (entry : α) : Prop :=
  table.conflict session.database (row entry) = none ∧
    table.references session.database (row entry) = true

def Takes (session : Session) (entry : α) : Prop :=
  present table column row session entry = true ∨ Insertable table row session entry

def add (session : Session) (entry : α) : Session := table.append (row entry) session

/-- The session apart from the rows of the table. -/
def others (session : Session) : Nat × Database :=
  (session.drawn, table.withRows session.database [])

/-- Two entries have nothing unique in common. -/
def Apart (first second : α) : Prop :=
  ∀ found ∈ table.unique, found.2 (row first) ≠ found.2 (row second)

section Append

theorem rows_append (entry : ρ) (session : Session) :
    table.rows (table.append entry session).database =
      table.rows session.database ++ [entry] :=
  table.rows_withRows _ _

variable {table column row}

theorem others_add (session : Session) (entry : α) :
    others table (add table row session entry) = others table session :=
  congrArg (Prod.mk session.drawn) (table.withRows_withRows _ _ _)

theorem present_add (hcolumn : column ∈ table.unique) {first second : α}
    (hapart : Apart table row first second) (session : Session) :
    present table column row (add table row session first) second =
      present table column row session second := by
  unfold present add
  rw [rows_append, List.any_append, List.any_cons, List.any_nil]
  simp [hapart column hcolumn]

theorem insertable_add {first second : α} (hapart : Apart table row first second)
    (session : Session) :
    Insertable table row (add table row session first) second ↔
      Insertable table row session second := by
  have hreferences : table.references (add table row session first).database (row second) =
      table.references session.database (row second) := table.references_withRows _ _ _
  unfold Insertable
  rw [hreferences, Table.conflict_eq_none_iff, Table.conflict_eq_none_iff]
  apply and_congr_left
  intro _
  apply forall₂_congr
  intro found hfound
  unfold add
  rw [rows_append, List.map_append, List.mem_append, not_or]
  simp [Ne.symm (hapart found hfound)]

theorem takes_independent (hcolumn : column ∈ table.unique) (invariant : Session → Prop) :
    Independent invariant (Takes table column row)
      (skipping (present table column row) (add table row)) (Apart table row) := by
  intro session first second _ _ hapart
  unfold skipping
  split
  · rfl
  · unfold Takes
    rw [present_add hcolumn hapart, insertable_add hapart]

/-- Every absent entry has been added at the end of the table, and nothing else has
changed. -/
theorem foldl_add (hcolumn : column ∈ table.unique) {entries : List α}
    (hapart : entries.Pairwise (Apart table row)) (session : Session) :
    entries.foldl (skipping (present table column row) (add table row)) session =
      { session with
        database := table.withRows session.database (table.rows session.database ++
          (absent (present table column row) session entries).map row) } := by
  have hothers : others table
      (entries.foldl (skipping (present table column row) (add table row)) session) =
        others table session :=
    foldl_skipping_frame (add table row) (others table) others_add entries session
  have hrows : table.rows
      (entries.foldl (skipping (present table column row) (add table row)) session).database =
        table.rows session.database ++
          (absent (present table column row) session entries).map row :=
    foldl_skipping (add table row) (fun other => table.rows other.database) row
      (fun other entry => rows_append table (row entry) other)
      (fun other first second hboth => present_add hcolumn hboth other) hapart session
  generalize entries.foldl _ session = final at hothers hrows ⊢
  obtain ⟨database, drawn⟩ := final
  obtain ⟨hdrawn, hdatabase⟩ := Prod.mk.inj hothers
  obtain rfl : drawn = session.drawn := hdrawn
  have hfinal := congrArg (table.withRows · (table.rows database)) hdatabase
  simp only [table.withRows_withRows, table.withRows_rows] at hfinal
  rw [hfinal, hrows]

end Append

variable {table column row}

theorem loads_guarded {step : α → Effect Session StoreError Nat}
    (hstep : ∀ entry session, step entry session =
      if present table column row session entry then (.ok 0, session)
      else (table.insert (row entry) >>= fun _ => pure 1 : Effect Session StoreError Nat) session) :
    Loads step (fun _ => True) (Takes table column row)
      (skipping (present table column row) (add table row)) where
  keeps _ _ _ _ := trivial
  takes session entry _ htakes := by
    rw [hstep]
    unfold skipping
    split
    · exact ⟨0, rfl⟩
    · rename_i habsent
      obtain ⟨hunique, hreferences⟩ := htakes.resolve_left habsent
      refine ⟨1, ?_⟩
      rw [Effect.bind_of_ok (table.insert_of_admitted hunique hreferences)]
      rfl
  refuses session entry _ hnot := by
    rw [hstep]
    have habsent : ¬ present table column row session entry = true := fun h => hnot (Or.inl h)
    have hrefused : ¬ Insertable table row session entry := fun h => hnot (Or.inr h)
    obtain ⟨error, hinsert⟩ := table.insert_of_refused hrefused
    rw [if_neg habsent, Effect.bind_of_err hinsert]
    exact ⟨error, session, rfl⟩

theorem conflict_of_unique (hunique : table.unique = [column]) (session : Session)
    (entry : α) :
    table.conflict session.database (row entry) =
      if present table column row session entry then some column.1 else none := by
  unfold present Table.conflict
  rw [hunique, List.find?_singleton]
  split <;> rfl

theorem takes_iff_of_unique (hunique : table.unique = [column]) {session : Session}
    {entry : α} :
    Takes table column row session entry ↔
      present table column row session entry = true ∨
        table.references session.database (row entry) = true := by
  unfold Takes Insertable
  rw [conflict_of_unique hunique]
  cases present table column row session entry <;> simp

theorem insertOrIgnore_of_present (hunique : table.unique = [column]) {session : Session}
    {entry : α} (h : present table column row session entry = true) :
    table.insertOrIgnore (row entry) session = (.ok (), session) := by
  rw [Table.insertOrIgnore, conflict_of_unique hunique, if_pos h]

theorem insertOrIgnore_of_absent (hunique : table.unique = [column]) {session : Session}
    {entry : α} (h : ¬ present table column row session entry = true) :
    table.insertOrIgnore (row entry) session =
      if table.references session.database (row entry) = true then
        (.ok (), add table row session entry)
      else (.err Table.foreignKeyFailure, session) := by
  rw [Table.insertOrIgnore, conflict_of_unique hunique, if_neg h]
  rfl

theorem loads_ignoring (hunique : table.unique = [column])
    {step : α → Effect Session StoreError Nat}
    (hstep : ∀ entry, step entry = (do
      table.insertOrIgnore (row entry)
      pure 1)) :
    Loads step (fun _ => True) (Takes table column row)
      (skipping (present table column row) (add table row)) where
  keeps _ _ _ _ := trivial
  takes session entry _ htakes := by
    refine ⟨1, ?_⟩
    rw [hstep]
    unfold skipping
    split
    · rename_i hpresent
      rw [Effect.bind_of_ok (insertOrIgnore_of_present hunique hpresent)]
      rfl
    · rename_i habsent
      have hinserted := insertOrIgnore_of_absent hunique habsent
      rw [if_pos (htakes.resolve_left habsent).2] at hinserted
      rw [Effect.bind_of_ok hinserted]
      rfl
  refuses session entry _ hnot := by
    rw [hstep]
    have habsent : ¬ present table column row session entry = true := fun h => hnot (Or.inl h)
    have hnone : table.conflict session.database (row entry) = none := by
      rw [conflict_of_unique hunique, if_neg habsent]
    have hfailed := insertOrIgnore_of_absent hunique habsent
    rw [if_neg fun h => hnot (Or.inr ⟨hnone, h⟩)] at hfailed
    rw [Effect.bind_of_err hfailed]
    exact ⟨_, _, rfl⟩

end TrafficCone.TableLoading
