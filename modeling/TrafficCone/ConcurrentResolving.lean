import TrafficCone.PidReuse
import TrafficCone.RelyGuarantee

namespace TrafficCone.ConcurrentResolving

open TrafficCone.Outcomes
open TrafficCone.Threads
open TrafficCone.RelyGuarantee
open TrafficCone.LinkedCrates
open TrafficCone.ProcReaders
open TrafficCone.ProcessMonitoring
open TrafficCone.KernelProcesses
open TrafficCone.MonitorRuns
open TrafficCone.PidReuse

section Steps

/-- What the monitor reads of the system at one moment. -/
def look {α : Type} (view : System → Outcome String α) : Thread World String α :=
  .atomic (.reads fun world => view (systemOf world.kernel))

def rememberCall (pid : Nat) (entry : ProcessEntry) : Effect World String Unit := fun world =>
  (.ok (), { world with cache := Function.update world.cache pid (some entry) })

variable (crates : Crates)

/-- The entry is put together from two readings, and then it is remembered. -/
def examineSteps (pid startTime : Nat) : Thread World String ProcessEntry := do
  let exePath ← look fun system => readExePath system pid
  let exeHash ← look fun system => hashFile crates system exePath
  let entry : ProcessEntry :=
    { pid := pid, exePath := exePath, exeHash := exeHash, startTime := startTime }
  .atomic (rememberCall pid entry)
  pure entry

/-- `resolve`, access by access: the cache is locked only while it is looked at, and again
while an entry is put into it. -/
def resolveSteps (pid : Nat) : Thread World String ProcessEntry := do
  let startTime ← look fun system => readProcessStartTime system pid
  let cached ← .atomic (.reads fun world => .ok (world.cache pid))
  match cached.filter fun entry => entry.startTime = startTime with
  | some entry => pure entry
  | none => examineSteps crates pid startTime

def verifyHashSteps (pid : Nat) (expectedHash : String) : Thread World String ProcessEntry := do
  let entry ← resolveSteps crates pid
  if entry.exeHash ≠ expectedHash then
    .done (.err (hashMismatchForPid pid entry.exePath expectedHash entry.exeHash))
  else pure entry

theorem alone_examineSteps (pid startTime : Nat) (world : World) :
    (examineSteps crates pid startTime).alone world =
      match examine crates (systemOf world.kernel) pid startTime with
      | .ok entry =>
          (.ok entry, { world with cache := Function.update world.cache pid (some entry) })
      | .err error => (.err error, world)
      | .panicked => (.panicked, world) := by
  rw [examine]
  simp only [examineSteps, look, Thread.atomic, Effect.reads, Thread.step_bind, Thread.alone]
  cases readExePath (systemOf world.kernel) pid with
  | err error => rfl
  | panicked => rfl
  | ok exePath =>
      simp only [Thread.ok_bind, Thread.alone, Outcome.ok_bind]
      cases hashFile crates (systemOf world.kernel) exePath <;> rfl

/-- With nothing in between, the accesses make up the call. -/
theorem alone_resolveSteps (pid : Nat) (world : World) :
    (resolveSteps crates pid).alone world =
      ((resolve crates (systemOf world.kernel) pid world.cache).1,
        { world with cache := (resolve crates (systemOf world.kernel) pid world.cache).2 }) := by
  rw [resolve]
  simp only [resolveSteps, look, Thread.atomic, Effect.reads, Thread.step_bind, Thread.alone]
  cases readProcessStartTime (systemOf world.kernel) pid with
  | err error => rfl
  | panicked => rfl
  | ok startTime =>
      simp only [Thread.ok_bind, Thread.alone]
      cases (world.cache pid).filter fun entry => entry.startTime = startTime with
      | some entry => rfl
      | none =>
          rw [alone_examineSteps]
          cases examine crates (systemOf world.kernel) pid startTime <;> rfl

theorem alone_verifyHashSteps (pid : Nat) (expectedHash : String) (world : World) :
    (verifyHashSteps crates pid expectedHash).alone world =
      let result := verifyHash crates (systemOf world.kernel) pid expectedHash world.cache
      (result.1, { world with cache := result.2 }) := by
  rw [verifyHashSteps, Thread.alone_bind]
  simp only [verifyHash, bind, Effect.andThen, alone_resolveSteps]
  rcases resolve crates (systemOf world.kernel) pid world.cache with ⟨entry | error | _, cache⟩
  · by_cases hhash : entry.exeHash = expectedHash
    · simp only [hhash, ne_eq, not_true_eq_false, if_false]
      rfl
    · simp only [hhash, ne_eq, not_false_eq_true, if_true]
      rfl
  · rfl
  · rfl

end Steps

section Kernel

/-- A process exits when it has been waited for, too, so that its PID is free. -/
inductive KernelEvent where
  | starts (pid : Nat) (startTime : UInt64) (image : Image)
  | changes (pid : Nat) (image : Image)
  | exits (pid : Nat)
  | replaces (path : String) (content : Except String (List UInt8))

/-- What the kernel does meanwhile. A PID is not given out twice with one start time. -/
def happen : KernelEvent → World → World
  | .starts pid startTime image, world =>
      match world.births pid startTime with
      | none => startProcess pid startTime image world
      | some _ => world
  | .changes pid image, world => changeProcess pid image world
  | .exits pid, world => setProcess pid none world
  | .replaces path content, world => replaceFile path content world

/-- The world, and the kernel at all the moments that there have been, the last one first. -/
abbrev Chronicle : Type := World × List Kernel

def noteKernel : World → List Kernel → List Kernel := noteMoment World.kernel

/-- The process that was started with the start time does not hold the PID. -/
def Ended (pid : Nat) (startTime : UInt64) (world : World) : Prop :=
  ∀ holder, world.kernel.process pid = some holder → holder.startTime ≠ startTime

/-- At some moment the process with the serial number held the PID and ran the executable. -/
def RanPath (pid serial : Nat) (path : String) (history : List Kernel) : Prop :=
  ∃ kernel ∈ history, ∃ holder, kernel.process pid = some holder ∧ holder.serial = serial ∧
    readExePath (systemOf kernel) pid = .ok path

/-- Later, or at the same moment, the file at the path had the hash. -/
def HashedThen (crates : Crates) (pid serial : Nat) (path hash : String)
    (history : List Kernel) : Prop :=
  ∃ kernel past, kernel :: past <:+ history ∧
    hashFile crates (systemOf kernel) path = .ok hash ∧
    RanPath pid serial path (kernel :: past)

/-- A process was started at the PID with the start time, and what is claimed is true of it
unless it does not hold the PID any more. -/
def Owed (pid startTime : Nat) (claim : Nat → List Kernel → Prop) (now : Chronicle) : Prop :=
  ∃ started serial, started.toNat = startTime ∧ now.1.births pid started = some serial ∧
    (Ended pid started now.1 ∨ claim serial now.2)

/-- The entry is of the process that holds the PID, if that has the entry's start time. -/
def Attributed (crates : Crates) (pid : Nat) (entry : ProcessEntry) (now : Chronicle) : Prop :=
  entry.pid = pid ∧ Owed pid entry.startTime
    (fun serial => HashedThen crates pid serial entry.exePath entry.exeHash) now

/-- What the threads and the kernel may rely on each other to do. -/
structure Evolves (crates : Crates) (before after : Chronicle) : Prop where
  births : ∀ pid started serial, before.1.births pid started = some serial →
    after.1.births pid started = some serial
  ended : ∀ pid started serial, before.1.births pid started = some serial →
    Ended pid started before.1 → Ended pid started after.1
  known : Known before.1.births before.1.kernel → Known after.1.births after.1.kernel
  noted : after.2 = noteKernel after.1 before.2
  cached : ∀ pid entry, after.1.cache pid = some entry →
    before.1.cache pid = some entry ∨ Attributed crates pid entry after

/-- Every process is known, and every entry of the cache is attributed rightly. -/
structure Watched (crates : Crates) (now : Chronicle) : Prop where
  known : Known now.1.births now.1.kernel
  cached : ∀ pid entry, now.1.cache pid = some entry → Attributed crates pid entry now

variable {crates : Crates}

theorem RanPath.note {pid serial : Nat} {path : String} {history : List Kernel}
    (h : RanPath pid serial path history) (kernel : Kernel) :
    RanPath pid serial path (kernel :: history) := by
  obtain ⟨reading, hreading, hholder⟩ := h
  exact ⟨reading, List.mem_cons_of_mem kernel hreading, hholder⟩

theorem HashedThen.note {pid serial : Nat} {path hash : String} {history : List Kernel}
    (h : HashedThen crates pid serial path hash history) (kernel : Kernel) :
    HashedThen crates pid serial path hash (kernel :: history) := by
  obtain ⟨hashing, past, hsuffix, hread⟩ := h
  exact ⟨hashing, past, hsuffix.trans (List.suffix_cons kernel history), hread⟩

theorem stable_owed {pid startTime : Nat} {claim : Nat → List Kernel → Prop}
    (hclaim : ∀ serial history kernel, claim serial history → claim serial (kernel :: history)) :
    Stable (Evolves crates) (Owed pid startTime claim) := by
  rintro before after hstep ⟨started, serial, hstart, hborn, hcase⟩
  refine ⟨started, serial, hstart, hstep.births pid started serial hborn, ?_⟩
  rcases hcase with hended | hread
  · exact Or.inl (hstep.ended pid started serial hborn hended)
  · rw [hstep.noted]
    exact Or.inr (hclaim serial _ _ hread)

theorem stable_attributed (pid : Nat) (entry : ProcessEntry) :
    Stable (Evolves crates) (Attributed crates pid entry) := by
  intro before after hstep h
  exact ⟨h.1, stable_owed (fun _ _ kernel hread => hread.note kernel) before after hstep h.2⟩

theorem stable_watched : Stable (Evolves crates) (Watched crates) := by
  intro before after hstep h
  refine ⟨hstep.known h.known, ?_⟩
  intro pid entry hentry
  rcases hstep.cached pid entry hentry with hold | hnew
  · exact stable_attributed pid entry before after hstep (h.cached pid entry hold)
  · exact hnew

/-- Where only the processes change. -/
theorem evolves_of_same_cache {before after : World} {history : List Kernel}
    (hbirths : ∀ pid started serial, before.births pid started = some serial →
      after.births pid started = some serial)
    (hended : ∀ pid started serial, before.births pid started = some serial →
      Ended pid started before → Ended pid started after)
    (hknown : Known before.births before.kernel → Known after.births after.kernel)
    (hcache : after.cache = before.cache) :
    Evolves crates (before, history) (after, noteKernel after history) where
  births := hbirths
  ended := hended
  known := hknown
  noted := rfl
  cached pid entry hentry := by
    refine Or.inl ?_
    change before.cache pid = some entry
    rw [← hcache]
    exact hentry

/-- A process that is not started with the start time does not change that another has
ended. -/
theorem ended_of_update {pid other : Nat} {started : UInt64} {before : World}
    {changed : Option Process} {after : World}
    (hkernel : after.kernel.process = Function.update before.kernel.process pid changed)
    (hchanged : other = pid → ∀ process, changed = some process → process.startTime ≠ started)
    (h : Ended other started before) : Ended other started after := by
  intro holder hholder
  rw [hkernel] at hholder
  by_cases hother : other = pid
  · rw [hother, Function.update_self] at hholder
    exact hchanged hother holder hholder
  · rw [Function.update_of_ne hother] at hholder
    exact h holder hholder

theorem evolves_unchanged (world : World) (history : List Kernel) :
    Evolves crates (world, history) (world, noteKernel world history) :=
  evolves_of_same_cache (fun _ _ _ h => h) (fun _ _ _ _ h => h) id rfl

theorem evolves_changeProcess (pid : Nat) (image : Image) (world : World)
    (history : List Kernel) :
    Evolves crates (world, history)
      (changeProcess pid image world, noteKernel (changeProcess pid image world) history) := by
  rw [changeProcess]
  cases hheld : world.kernel.process pid with
  | none => exact evolves_unchanged world history
  | some held =>
      refine evolves_of_same_cache (fun _ _ _ h => h) ?_ ?_ rfl
      · intro other started serial _ h
        refine ended_of_update rfl ?_ h
        rintro rfl process hprocess
        obtain rfl := Option.some.inj hprocess
        exact h held hheld
      · intro h
        refine h.update rfl ?_
        intro process hprocess
        obtain rfl := Option.some.inj hprocess
        exact h pid held hheld

theorem evolves_startProcess {pid : Nat} {startTime : UInt64} {world : World}
    (hapart : world.births pid startTime = none) (image : Image) (history : List Kernel) :
    Evolves crates (world, history) (startProcess pid startTime image world,
      noteKernel (startProcess pid startTime image world) history) := by
  rw [startProcess]
  cases hheld : world.kernel.process pid with
  | some held => exact evolves_unchanged world history
  | none =>
      have hother : ∀ other started serial, world.births other started = some serial →
          other = pid → startTime ≠ started := by
        rintro other started serial hborn rfl rfl
        rw [hapart] at hborn
        cases hborn
      refine evolves_of_same_cache ?_ ?_ ?_ rfl
      · intro other started serial hborn
        change Function.update world.births pid _ other started = some serial
        by_cases hpid : other = pid
        · subst hpid
          rw [Function.update_self,
            Function.update_of_ne (Ne.symm (hother other started serial hborn rfl)), hborn]
        · rw [Function.update_of_ne hpid, hborn]
      · intro other started serial hborn h
        refine ended_of_update rfl ?_ h
        intro hpid process hprocess
        obtain rfl := Option.some.inj hprocess
        exact hother other started serial hborn hpid
      · intro h
        refine (h.birth hapart world.next).update rfl ?_
        intro process hprocess
        obtain rfl := Option.some.inj hprocess
        simp

theorem evolves_event (event : KernelEvent) (now : Chronicle) :
    Evolves crates now (noteEvent noteKernel happen event now) := by
  obtain ⟨world, history⟩ := now
  cases event with
  | replaces path content =>
      exact evolves_of_same_cache (fun _ _ _ h => h) (fun _ _ _ _ h => h) id rfl
  | exits pid =>
      refine evolves_of_same_cache (fun _ _ _ h => h) ?_ (fun h => h.update rfl nofun) rfl
      intro other started serial _ h
      exact ended_of_update rfl (fun _ => nofun) h
  | changes pid image => exact evolves_changeProcess pid image world history
  | starts pid startTime image =>
      simp only [noteEvent, happen]
      cases hborn : world.births pid startTime with
      | some serial => exact evolves_unchanged world history
      | none => exact evolves_startProcess hborn image history

end Kernel

section Readings

variable {crates : Crates}

theorem Watched.unchanged {world : World} {history : List Kernel}
    (h : Watched crates (world, history)) : Watched crates (world, noteKernel world history) :=
  stable_watched _ _ (evolves_unchanged world history) h

theorem stable_watched_owed {pid startTime : Nat} {claim : Nat → List Kernel → Prop}
    (hclaim : ∀ serial history kernel, claim serial history → claim serial (kernel :: history)) :
    Stable (Evolves crates) fun now => Watched crates now ∧ Owed pid startTime claim now :=
  stable_watched.and (stable_owed hclaim)

/-- What is read at one moment. -/
theorem secures_reads {α : Type} {view : World → Outcome String α} {pre : Chronicle → Prop}
    {returned : α → Chronicle → Prop} (hpre : Stable (Evolves crates) pre)
    (hreturned : ∀ value, Stable (Evolves crates) (returned value))
    (h : ∀ world history value, pre (world, history) → view world = .ok value →
      returned value (world, noteKernel world history)) :
    Secures (Evolves crates) (Evolves crates) pre
      ((Thread.atomic (.reads view) : Thread World String α).noted noteKernel) returned
      fun _ => True := by
  rw [Thread.noted_atomic]
  apply secures_atomic hpre hreturned fun _ _ _ _ => trivial
  rintro ⟨world, history⟩ hnow
  refine ⟨evolves_unchanged world history, ?_⟩
  simp only [noteCall, Effect.reads]
  cases hview : view world with
  | ok value => exact h world history value hnow hview
  | err error => trivial
  | panicked => trivial

/-- The start time that is read is that of a process that is known. -/
theorem secures_readStart (pid : Nat) :
    Secures (Evolves crates) (Evolves crates) (Watched crates)
      ((look fun system => readProcessStartTime system pid).noted noteKernel)
      (fun startTime now => Watched crates now ∧ Owed pid startTime (fun _ _ => True) now)
      fun _ => True := by
  apply secures_reads stable_watched fun _ => stable_watched_owed fun _ _ _ _ => trivial
  intro world history startTime hwatched hread
  rw [readProcessStartTime_eq_ok_iff, startTimeOf_eq_some_iff] at hread
  obtain ⟨process, hprocess, -, hstart⟩ := hread
  exact ⟨hwatched.unchanged, process.startTime, process.serial, hstart,
    hwatched.known pid process hprocess, Or.inr trivial⟩

theorem secures_readCache (pid startTime : Nat) :
    Secures (Evolves crates) (Evolves crates)
      (fun now => Watched crates now ∧ Owed pid startTime (fun _ _ => True) now)
      ((Thread.atomic (.reads fun world => .ok (world.cache pid)) :
        Thread World String (Option ProcessEntry)).noted noteKernel)
      (fun cached now => (Watched crates now ∧ Owed pid startTime (fun _ _ => True) now) ∧
        ∀ entry, cached = some entry → Attributed crates pid entry now)
      fun _ => True := by
  have hentries : ∀ cached : Option ProcessEntry, Stable (Evolves crates) fun now =>
      ∀ entry, cached = some entry → Attributed crates pid entry now :=
    fun _ before after hstep h entry hentry =>
      stable_attributed pid entry before after hstep (h entry hentry)
  apply secures_reads (stable_watched_owed fun _ _ _ _ => trivial)
    fun cached => (stable_watched_owed fun _ _ _ _ => trivial).and (hentries cached)
  rintro world history cached ⟨hwatched, howed⟩ hread
  obtain rfl := Outcome.ok.inj hread
  have hstep : Evolves crates _ _ := evolves_unchanged world history
  refine ⟨⟨hwatched.unchanged, stable_owed (fun _ _ _ _ => trivial) _ _ hstep howed⟩, ?_⟩
  intro entry hentry
  exact stable_attributed pid entry _ _ hstep (hwatched.cached pid entry hentry)

/-- The executable is that of the process whose start time has been read, or else this one does
not hold the PID any more. -/
theorem secures_readExe (pid startTime : Nat) :
    Secures (Evolves crates) (Evolves crates)
      (fun now => Watched crates now ∧ Owed pid startTime (fun _ _ => True) now)
      ((look fun system => readExePath system pid).noted noteKernel)
      (fun exePath now => Watched crates now ∧
        Owed pid startTime (fun serial => RanPath pid serial exePath) now)
      fun _ => True := by
  apply secures_reads (stable_watched_owed fun _ _ _ _ => trivial)
    fun _ => stable_watched_owed fun _ _ kernel h => h.note kernel
  rintro world history exePath ⟨hwatched, started, serial, hstart, hborn, -⟩ hread
  refine ⟨hwatched.unchanged, started, serial, hstart, hborn, ?_⟩
  by_cases hholds : ∃ holder, world.kernel.process pid = some holder ∧ holder.startTime = started
  · obtain ⟨holder, hholder, rfl⟩ := hholds
    have hknown := hwatched.known pid holder hholder
    rw [hborn, Option.some.injEq] at hknown
    exact Or.inr ⟨world.kernel, List.mem_cons_self, holder, hholder, hknown.symm, hread⟩
  · exact Or.inl fun holder hholder hsame => hholds ⟨holder, hholder, hsame⟩

theorem secures_readHash (pid startTime : Nat) (exePath : String) :
    Secures (Evolves crates) (Evolves crates)
      (fun now => Watched crates now ∧
        Owed pid startTime (fun serial => RanPath pid serial exePath) now)
      ((look fun system => hashFile crates system exePath).noted noteKernel)
      (fun exeHash now => Watched crates now ∧
        Owed pid startTime (fun serial => HashedThen crates pid serial exePath exeHash) now)
      fun _ => True := by
  apply secures_reads (stable_watched_owed fun _ _ kernel h => h.note kernel)
    fun _ => stable_watched_owed fun _ _ kernel h => h.note kernel
  rintro world history exeHash ⟨hwatched, started, serial, hstart, hborn, hcase⟩ hread
  refine ⟨hwatched.unchanged, started, serial, hstart, hborn, hcase.imp id ?_⟩
  intro hran
  exact ⟨world.kernel, history, List.suffix_refl _, hread, hran.note world.kernel⟩

theorem secures_rememberCall (pid : Nat) (entry : ProcessEntry) :
    Secures (Evolves crates) (Evolves crates) (Attributed crates pid entry)
      ((Thread.atomic (rememberCall pid entry)).noted noteKernel)
      (fun _ => Attributed crates pid entry) fun _ => True := by
  rw [Thread.noted_atomic]
  have hstable : Stable (Evolves crates) _ := stable_attributed pid entry
  apply secures_atomic hstable (fun _ => hstable) fun _ _ _ _ => trivial
  rintro ⟨world, history⟩ hattributed
  have hlater := hstable _ _ (evolves_unchanged world history) hattributed
  refine ⟨⟨fun _ _ _ h => h, fun _ _ _ _ h => h, id, rfl, ?_⟩, hlater⟩
  intro other found hfound
  change Function.update world.cache pid (some entry) other = some found at hfound
  by_cases hother : other = pid
  · subst hother
    rw [Function.update_self, Option.some.injEq] at hfound
    subst hfound
    exact Or.inr hlater
  · rw [Function.update_of_ne hother] at hfound
    exact Or.inl hfound

end Readings

end TrafficCone.ConcurrentResolving
