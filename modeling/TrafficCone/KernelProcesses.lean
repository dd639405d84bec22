import TrafficCone.ProcReaders

namespace TrafficCone.KernelProcesses

open TrafficCone.Outcomes
open TrafficCone.TextScanning
open TrafficCone.ProcReaders

/-- A field of a line in `/proc` without blanks and without a closing parenthesis. -/
structure ProcField where
  letters : List Char
  nonempty : letters ≠ []
  plain : ∀ letter ∈ letters, isWhitespace letter = false ∧ letter ≠ ')'

theorem plain_of_all {letters : List Char}
    (h : letters.all (fun letter => !isWhitespace letter && letter != ')') = true) :
    ∀ letter ∈ letters, isWhitespace letter = false ∧ letter ≠ ')' := by
  simpa using h

def numberField (number : Nat) : ProcField where
  letters := Nat.toDigits 10 number
  nonempty := Nat.toDigits_ne_nil
  plain letter hletter := by
    have hdigit := Nat.isDigit_of_mem_toDigits (by decide) (by decide) hletter
    exact ⟨isWhitespace_of_isDigit hdigit, by rintro rfl; exact absurd hdigit (by decide)⟩

/-- What may change of a process while it lives: all that `/proc` says about it but
its start time. The name of its program is missing if it is not valid UTF-8. -/
structure Image where
  comm : Option (List Char)
  before : Fin 19 → ProcField
  after : List ProcField
  exe : Except String ExeLink
  netTcp : Option String
  netTcp6 : Option String

/-- A process, with a serial number that no other process of the run has. -/
structure Process where
  serial : Nat
  startTime : UInt64
  image : Image

structure Kernel where
  process : Nat → Option Process
  file : String → Except String (List UInt8)

def statFields (process : Process) : List ProcField :=
  List.ofFn process.image.before ++ numberField process.startTime.toNat :: process.image.after

def fieldsText (fields : List ProcField) : List Char :=
  fields.flatMap (fun field => ' ' :: field.letters) ++ ['\n']

def statText (pid : Nat) (process : Process) : Option String :=
  process.image.comm.map fun comm =>
    String.ofList (Nat.toDigits 10 pid ++ ' ' :: '(' :: comm ++
      ')' :: fieldsText (statFields process))

def startTimeOf (kernel : Kernel) (pid : Nat) : Option Nat :=
  (kernel.process pid).bind fun process =>
    process.image.comm.map fun _ => process.startTime.toNat

/-- The view of the running system that the kernel gives in `/proc`. -/
def systemOf (kernel : Kernel) : System where
  stat pid := (kernel.process pid).bind (statText pid)
  exe pid :=
    match kernel.process pid with
    | some process => process.image.exe
    | none => .error "No such file or directory (os error 2)"
  netTcp pid := (kernel.process pid).bind fun process => process.image.netTcp
  netTcp6 pid := (kernel.process pid).bind fun process => process.image.netTcp6
  file := kernel.file

/-- What `/proc` says, in a kernel to run the model on, of a process that runs an executable. -/
def plainImage (exePath : String) : Image where
  comm := some "app".toList
  before _ := numberField 0
  after := []
  exe := .ok (.path exePath)
  netTcp := none
  netTcp6 := none

theorem fieldsText_eq_cons (fields : List ProcField) :
    ∃ gap letters, isWhitespace gap = true ∧ fieldsText fields = gap :: letters := by
  cases fields with
  | nil => exact ⟨'\n', [], by decide, rfl⟩
  | cons field fields => exact ⟨' ', _, by decide, rfl⟩

theorem fieldsText_cons (field : ProcField) (fields : List ProcField) :
    fieldsText (field :: fields) = ' ' :: (field.letters ++ fieldsText fields) := by
  simp [fieldsText]

theorem splitWhitespace_fieldsText (fields : List ProcField) :
    splitWhitespace (fieldsText fields) = fields.map (·.letters) := by
  induction fields with
  | nil => decide
  | cons field fields ih =>
      obtain ⟨gap, letters, hgap, htext⟩ := fieldsText_eq_cons fields
      rw [fieldsText_cons, splitWhitespace_gap (by decide), htext,
        splitWhitespace_word field.nonempty (fun letter h => (field.plain letter h).1) hgap,
        ← splitWhitespace_gap hgap, ← htext, ih, List.map_cons]

theorem not_mem_fieldsText (fields : List ProcField) : ')' ∉ fieldsText fields := by
  rw [fieldsText, List.mem_append, List.mem_flatMap]
  rintro (⟨field, -, hmem⟩ | hmem)
  · rcases List.mem_cons.mp hmem with hspace | hletter
    · exact absurd hspace (by decide)
    · exact (field.plain ')' hletter).2 rfl
  · exact absurd hmem (by decide)

theorem afterLast_statText (pid : Nat) (comm : List Char) (fields : List ProcField) :
    afterLast ')' (Nat.toDigits 10 pid ++ ' ' :: '(' :: comm ++ ')' :: fieldsText fields) =
      some (fieldsText fields) :=
  afterLast_append (not_mem_fieldsText fields) _

theorem statFields_getElem (process : Process) :
    (statFields process)[19]? = some (numberField process.startTime.toNat) := by
  rw [statFields, List.getElem?_append_right (by simp)]
  simp

theorem fieldsText_statFields (process : Process) :
    ∃ rest, fieldsText (statFields process) = ' ' :: rest ∧
      splitWhitespace rest = (statFields process).map (·.letters) := by
  have hfields : ∃ first others, statFields process = first :: others := by
    rw [statFields, List.ofFn_succ, List.cons_append]
    exact ⟨_, _, rfl⟩
  obtain ⟨first, others, hcons⟩ := hfields
  refine ⟨first.letters ++ fieldsText others, ?_, ?_⟩
  · rw [hcons, fieldsText_cons]
  · rw [← splitWhitespace_fieldsText, hcons, fieldsText_cons, splitWhitespace_gap (by decide)]

/-- The start time is read from a stat line whatever the name of the program is. -/
theorem readProcessStartTime_of_statText {kernel : Kernel} {pid : Nat} {process : Process}
    {text : String} (hprocess : kernel.process pid = some process)
    (htext : statText pid process = some text) :
    readProcessStartTime (systemOf kernel) pid = .ok process.startTime.toNat := by
  obtain ⟨comm, -, hline⟩ := Option.map_eq_some_iff.mp htext
  obtain ⟨rest, hrest, hfields⟩ := fieldsText_statFields process
  have hstat : (systemOf kernel).stat pid = some text := by
    change (kernel.process pid).bind (statText pid) = some text
    rw [hprocess, Option.bind_some, htext]
  have hafter : afterLast ')' text.toList = some (' ' :: rest) := by
    rw [← hline, String.toList_ofList, afterLast_statText, hrest]
  have hskip : takeBytes (' ' :: rest) 1 = some ([' '], rest) := by
    cases rest <;> rfl
  rw [readProcessStartTime, hstat]
  dsimp only
  rw [hafter]
  dsimp only
  rw [hskip]
  dsimp only
  rw [hfields, List.getElem?_map, statFields_getElem, Option.map_some, Option.bind_some,
    numberField, parseUnsigned_toDigits process.startTime.toNat_lt]
  rfl

/-- A start time is read just of a process that lives and whose program has a readable
name, and it is its own. -/
theorem readProcessStartTime_systemOf (kernel : Kernel) (pid : Nat) :
    readProcessStartTime (systemOf kernel) pid =
      Outcome.ofOption ("process " ++ toString pid ++ " not found") (startTimeOf kernel pid) := by
  cases hstat : (kernel.process pid).bind (statText pid) with
  | none =>
      have hunread : (systemOf kernel).stat pid = none := hstat
      have hnone : startTimeOf kernel pid = none := by
        rw [Option.bind_eq_none_iff] at hstat
        apply Option.bind_eq_none_iff.mpr
        intro process hprocess
        rw [Option.map_eq_none_iff]
        exact Option.map_eq_none_iff.mp (hstat process hprocess)
      rw [readProcessStartTime, hunread, hnone]
      rfl
  | some text =>
      obtain ⟨process, hprocess, htext⟩ := Option.bind_eq_some_iff.mp hstat
      obtain ⟨comm, hcomm, -⟩ := Option.map_eq_some_iff.mp htext
      rw [readProcessStartTime_of_statText hprocess htext, startTimeOf, hprocess,
        Option.bind_some, hcomm]
      rfl

theorem startTimeOf_eq_some_iff {kernel : Kernel} {pid startTime : Nat} :
    startTimeOf kernel pid = some startTime ↔
      ∃ process, kernel.process pid = some process ∧ process.image.comm.isSome = true ∧
        process.startTime.toNat = startTime := by
  rw [startTimeOf, Option.bind_eq_some_iff]
  constructor
  · rintro ⟨process, hprocess, hstart⟩
    obtain ⟨comm, hcomm, rfl⟩ := Option.map_eq_some_iff.mp hstart
    exact ⟨process, hprocess, by rw [hcomm, Option.isSome_some], rfl⟩
  · rintro ⟨process, hprocess, hcomm, rfl⟩
    obtain ⟨comm, hcomm⟩ := Option.isSome_iff_exists.mp hcomm
    exact ⟨process, hprocess, by rw [hcomm, Option.map_some]⟩

theorem readProcessStartTime_ne_panicked (kernel : Kernel) (pid : Nat) :
    readProcessStartTime (systemOf kernel) pid ≠ .panicked := by
  rw [readProcessStartTime_systemOf]
  cases startTimeOf kernel pid <;> exact nofun

theorem readProcessStartTime_eq_ok_iff {kernel : Kernel} {pid startTime : Nat} :
    readProcessStartTime (systemOf kernel) pid = .ok startTime ↔
      startTimeOf kernel pid = some startTime := by
  rw [readProcessStartTime_systemOf]
  cases startTimeOf kernel pid <;> simp

end TrafficCone.KernelProcesses
