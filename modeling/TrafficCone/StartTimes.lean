import TrafficCone.KernelProcesses

namespace TrafficCone.StartTimes

open TrafficCone.Outcomes
open TrafficCone.TextScanning
open TrafficCone.ProcReaders
open TrafficCone.KernelProcesses

/-- A line as it stands in `/proc/PID/stat`. The name may be any text. -/
def statLine (pid : Nat) (comm : String) (fields : List ProcField) : String :=
  toString pid ++ " (" ++ comm ++ ") " ++
    " ".intercalate (fields.map fun field => String.ofList field.letters) ++ "\n"

theorem intercalate_letters {fields : List ProcField} (h : fields ≠ []) :
    ' ' :: [' '].intercalate (fields.map (·.letters)) =
      fields.flatMap fun field => ' ' :: field.letters := by
  induction fields with
  | nil => exact absurd rfl h
  | cons field fields ih =>
      cases fields with
      | nil => simp
      | cons next fields =>
          rw [List.map_cons, List.intercalate_cons_of_ne_nil (by simp), List.flatMap_cons,
            ← ih (by simp)]
          simp

/-- Behind the name stand the fields, and the name ends at the last closing parenthesis. -/
theorem toList_statLine (pid : Nat) (comm : String) {fields : List ProcField} (h : fields ≠ []) :
    (statLine pid comm fields).toList =
      Nat.toDigits 10 pid ++ ' ' :: '(' :: comm.toList ++ ')' :: fieldsText fields := by
  have hletters : (fields.map fun field => String.ofList field.letters).map String.toList =
      fields.map (·.letters) := by
    simp
  rw [statLine, fieldsText, ← intercalate_letters h]
  simp [String.toList_intercalate, hletters]

section Reading

variable {system : System} {pid : Nat} {comm : String} {fields : List ProcField}

/-- What is read depends on the fields alone. -/
theorem readProcessStartTime_of_statLine (hstat : system.stat pid = some (statLine pid comm fields))
    (hfields : fields ≠ []) :
    readProcessStartTime system pid =
      Outcome.ofOption ("failed to parse start time from /proc/" ++ toString pid ++ "/stat")
        (fields[19]?.bind fun field => parseUnsigned 10 (2 ^ 64) field.letters) := by
  have hafter : afterLast ')' (statLine pid comm fields).toList = some (fieldsText fields) := by
    rw [toList_statLine pid comm hfields]
    exact afterLast_statText pid comm.toList fields
  obtain ⟨first, others, rfl⟩ := List.exists_cons_of_ne_nil hfields
  have hskip : takeBytes (fieldsText (first :: others)) 1 =
      some ([' '], first.letters ++ fieldsText others) := by
    have hblank : ∀ letter ∈ [' '], letter.utf8Size = 1 := by
      rw [List.forall_mem_singleton]
      rfl
    rw [fieldsText_cons]
    exact takeBytes_append hblank _
  have hsplit : splitWhitespace (first.letters ++ fieldsText others) =
      (first :: others).map (·.letters) := by
    rw [← splitWhitespace_fieldsText, fieldsText_cons, splitWhitespace_gap (by decide)]
  rw [readProcessStartTime, hstat]
  dsimp only
  rw [hafter]
  dsimp only
  rw [hskip]
  dsimp only
  rw [hsplit, List.getElem?_map, Option.bind_map]
  rfl

/-- The start time is the twentieth field, whatever the process calls itself. -/
theorem start_time_under_any_name {startTime : Nat}
    (hstat : system.stat pid = some (statLine pid comm fields)) (hlength : 20 ≤ fields.length)
    (hfield : fields[19].letters = (toString startTime).toList) (htime : startTime < 2 ^ 64) :
    readProcessStartTime system pid = .ok startTime := by
  have hfields : fields ≠ [] := by
    rintro rfl
    exact absurd hlength (by decide)
  have hdigits : (toString startTime).toList = Nat.toDigits 10 startTime := by
    rw [Nat.toString_eq_ofList_toDigits, String.toList_ofList]
  rw [readProcessStartTime_of_statLine hstat hfields, List.getElem?_eq_getElem hlength,
    Option.bind_some, hfield, hdigits, parseUnsigned_toDigits htime, Outcome.ofOption_some]

/-- A process that looks like another one in its name. -/
def imitator : System :=
  { quietSystem [] [] with
    stat := fun pid => some (statLine pid "x) S 1 (é\n)"
      (List.replicate 19 (numberField 1) ++ [numberField 500, numberField 0])) }

theorem start_time_of_imitator : readProcessStartTime imitator 7 = .ok 500 :=
  start_time_under_any_name rfl (by decide) (by decide +kernel) (by decide)

end Reading

end TrafficCone.StartTimes
