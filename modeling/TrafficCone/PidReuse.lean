import TrafficCone.MonitorRuns

namespace TrafficCone.PidReuse

open TrafficCone.Outcomes
open TrafficCone.LinkedCrates
open TrafficCone.ProcReaders
open TrafficCone.ProcessMonitoring
open TrafficCone.KernelProcesses
open TrafficCone.TransducerRuns
open TrafficCone.MonitorRuns

/-- No process has held the PID before with the start time of the one that is started. -/
def StartsApart (world : World) : Event → Prop
  | .starts pid startTime _ =>
      world.kernel.process pid = none → world.births pid startTime = none
  | _ => True

/-- The entry belongs to the process that holds the PID, and its path and hash were
read while this same process held it. -/
def ReadWhileAlive (crates : Crates) (world : World) (pid : Nat) (entry : ProcessEntry) : Prop :=
  ∃ process reading holder,
    world.kernel.process pid = some process ∧ entry.pid = pid ∧
      entry.startTime = process.startTime.toNat ∧ world.readAt pid = some reading ∧
        reading.process pid = some holder ∧ holder.serial = process.serial ∧
          readExePath (systemOf reading) pid = .ok entry.exePath ∧
            hashFile crates (systemOf reading) entry.exePath = .ok entry.exeHash

def Safe (crates : Crates) : Output → Prop
  | .resolved pid entry world => ReadWhileAlive crates world pid entry
  | .cleaned world =>
      ∀ pid entry, world.cache pid = some entry → ReadWhileAlive crates world pid entry

def Known (births : Nat → UInt64 → Option Nat) (kernel : Kernel) : Prop :=
  ∀ pid process, kernel.process pid = some process →
    births pid process.startTime = some process.serial

/-- Every process of the present, and of each time at which an executable was examined,
is the one that was started at its PID with its start time. -/
structure Recorded (world : World) : Prop where
  present : Known world.births world.kernel
  past : ∀ pid reading, world.readAt pid = some reading → Known world.births reading

theorem recorded_boot (file : String → Except String (List UInt8)) : Recorded (boot file) :=
  ⟨nofun, nofun⟩

theorem Known.birth {births : Nat → UInt64 → Option Nat} {kernel : Kernel}
    (h : Known births kernel) {pid : Nat} {startTime : UInt64}
    (hapart : births pid startTime = none) (serial : Nat) :
    Known (Function.update births pid
      (Function.update (births pid) startTime (some serial))) kernel := by
  intro other process hprocess
  have hborn := h other process hprocess
  by_cases hother : other = pid
  · rw [hother] at hborn ⊢
    rw [Function.update_self]
    by_cases hstart : process.startTime = startTime
    · rw [hstart, hapart] at hborn
      cases hborn
    · rwa [Function.update_of_ne hstart]
  · rwa [Function.update_of_ne hother]

theorem Known.update {births : Nat → UInt64 → Option Nat} {kernel kernel' : Kernel}
    (h : Known births kernel) {pid : Nat} {changed : Option Process}
    (hkernel : kernel'.process = Function.update kernel.process pid changed)
    (hchanged : ∀ process, changed = some process →
      births pid process.startTime = some process.serial) : Known births kernel' := by
  intro other process hprocess
  rw [hkernel] at hprocess
  by_cases hother : other = pid
  · rw [hother, Function.update_self] at hprocess
    rw [hother]
    exact hchanged process hprocess
  · rw [Function.update_of_ne hother] at hprocess
    exact h other process hprocess

theorem Recorded.starts {world : World} (h : Recorded world) {pid : Nat} {startTime : UInt64}
    {image : Image} (hapart : StartsApart world (.starts pid startTime image)) :
    Recorded (startProcess pid startTime image world) := by
  rw [startProcess]
  cases hheld : world.kernel.process pid with
  | some process => exact h
  | none =>
      have hnew := hapart hheld
      refine ⟨(h.present.birth hnew world.next).update rfl ?_, ?_⟩
      · intro process hprocess
        obtain rfl := Option.some.inj hprocess
        simp
      · intro other reading hreading
        exact (h.past other reading hreading).birth hnew world.next

theorem Recorded.changes {world : World} (h : Recorded world) (pid : Nat) (image : Image) :
    Recorded (changeProcess pid image world) := by
  rw [changeProcess]
  cases hheld : world.kernel.process pid with
  | none => exact h
  | some held =>
      refine ⟨h.present.update rfl ?_, h.past⟩
      intro process hprocess
      obtain rfl := Option.some.inj hprocess
      exact h.present pid held hheld

theorem Recorded.afterResolve {world : World} (h : Recorded world) (crates : Crates)
    (pid : Nat) : Recorded (afterResolve crates pid world) := by
  refine ⟨h.present, ?_⟩
  rcases afterResolve_cases crates pid world with
    ⟨entry, -, -, hafter⟩ | ⟨fresh, -, -, -, hafter⟩ | ⟨-, hafter⟩
  · rw [hafter]
    exact h.past
  · rw [hafter]
    intro other reading hreading
    dsimp only at hreading
    by_cases hother : other = pid
    · rw [hother, Function.update_self] at hreading
      obtain rfl := Option.some.inj hreading
      exact h.present
    · rw [Function.update_of_ne hother] at hreading
      exact h.past other reading hreading
  · rw [hafter]
    exact h.past

theorem Recorded.step {world : World} (h : Recorded world) (crates : Crates) {event : Event}
    (hapart : StartsApart world event) : Recorded (step crates world event).1 := by
  cases event with
  | starts pid startTime image => exact h.starts hapart
  | changes pid image => exact h.changes pid image
  | exits pid => exact ⟨h.present.update rfl nofun, h.past⟩
  | replaces path content => exact ⟨h.present, h.past⟩
  | resolves pid =>
      rw [MonitorRuns.step, ask_fst (resolving_resolve crates _ pid)]
      exact h.afterResolve crates pid
  | verifies pid expectedHash =>
      rw [MonitorRuns.step, ask_fst (resolving_verifyHash crates _ pid expectedHash)]
      exact h.afterResolve crates pid
  | invalidates pid => exact ⟨h.present, h.past⟩
  | cleansUp => exact ⟨h.present, h.past⟩

/-- A cached entry with the start time of the process that holds its PID was read of
this process. -/
theorem readWhileAlive_of_cached {crates : Crates} {world : World}
    (hconsistent : Consistent crates world) (hrecorded : Recorded world) {pid : Nat}
    {entry : ProcessEntry} (hcached : world.cache pid = some entry)
    (hcurrent : startTimeOf world.kernel pid = some entry.startTime) :
    ReadWhileAlive crates world pid entry := by
  obtain ⟨reading, hreading, hread⟩ := hconsistent.read pid entry hcached
  obtain ⟨process, hprocess, -, hstart⟩ := startTimeOf_eq_some_iff.mp hcurrent
  obtain ⟨holder, hholder, -, hheldStart⟩ := startTimeOf_eq_some_iff.mp hread.startTime_eq
  refine ⟨process, reading, holder, hprocess, hread.pid_eq, hstart.symm, hreading, hholder, ?_,
    hread.exePath_eq, hread.exeHash_eq⟩
  have hsame : holder.startTime = process.startTime := by
    rw [← UInt64.toNat_inj, hheldStart, hstart]
  have hborn := hrecorded.past pid reading hreading pid holder hholder
  rw [hsame, hrecorded.present pid process hprocess, Option.some.injEq] at hborn
  exact hborn.symm

theorem safe_of_asked {crates : Crates} {world : World} (hconsistent : Consistent crates world)
    (hrecorded : Recorded world) {pid : Nat} {accepts : ProcessEntry → Prop}
    {call : Effect Cache String ProcessEntry}
    (hcall : Resolving crates (systemOf world.kernel) pid accepts call) :
    ∀ output ∈ (ask crates pid call world).2, Safe crates output := by
  intro output houtput
  obtain ⟨entry, hresolved, -, rfl⟩ := (mem_ask_snd hcall).mp houtput
  obtain ⟨hcached, hcurrent⟩ := cached_of_resolved hresolved
  exact readWhileAlive_of_cached (hconsistent.afterResolve pid)
    (hrecorded.afterResolve crates pid) hcached hcurrent

theorem safe_step {crates : Crates} {world : World} (hconsistent : Consistent crates world)
    (hrecorded : Recorded world) (event : Event) :
    ∀ output ∈ (step crates world event).2, Safe crates output := by
  cases event with
  | resolves pid => exact safe_of_asked hconsistent hrecorded (resolving_resolve crates _ pid)
  | verifies pid expectedHash =>
      exact safe_of_asked hconsistent hrecorded (resolving_verifyHash crates _ pid expectedHash)
  | cleansUp =>
      obtain ⟨cache, hcleaned, hentries⟩ := cleanUp_spec hconsistent
      rw [MonitorRuns.step, hcleaned]
      intro output houtput
      rw [List.mem_singleton.mp houtput]
      intro pid entry hentry
      have hcurrent : cache pid = some entry := hentry
      rw [hentries pid, fromCache_eq_some_iff, readProcessStartTime_eq_ok_iff] at hcurrent
      exact readWhileAlive_of_cached hconsistent hrecorded hcurrent.2 hcurrent.1
  | _ =>
      intro output houtput
      exact absurd houtput List.not_mem_nil

/-- In every run in which no two processes hold a PID with one start time, each entry
the monitor gives out is of the process that holds the PID and was read of it, and only
such entries outlive a clean-up. -/
theorem entries_belong_to_live_processes (crates : Crates)
    (file : String → Except String (List UInt8)) (events : List Event)
    (hapart : Along (step crates) StartsApart (boot file) events) :
    ∀ output ∈ (run (step crates) (boot file) events).2, Safe crates output := by
  apply (@run_of_along _ _ _ (step crates) StartsApart
    (fun world => Consistent crates world ∧ Recorded world) (Safe crates) _ _ _
    ⟨consistent_boot file, recorded_boot file⟩ hapart).2
  intro world event hworld hevent
  exact ⟨⟨hworld.1.step event, hworld.2.step crates hevent⟩,
    safe_step hworld.1 hworld.2 event⟩

instance (world : World) : (event : Event) → Decidable (StartsApart world event)
  | .starts pid startTime _ =>
      inferInstanceAs (Decidable
        (world.kernel.process pid = none → world.births pid startTime = none))
  | .changes _ _ | .exits _ | .replaces _ _ | .resolves _ | .verifies _ _ | .invalidates _
  | .cleansUp => isTrue trivial

def reusedPid : List Event :=
  [.starts 7 500 (plainImage "/usr/bin/code"), .resolves 7, .exits 7,
    .starts 7 900 (plainImage "/usr/bin/curl"), .resolves 7, .cleansUp]

theorem entries_belong_across_reuse :
    (run (step plainCrates) (boot fun _ => .ok [1]) reusedPid).2.length = 3 ∧
      ∀ output ∈ (run (step plainCrates) (boot fun _ => .ok [1]) reusedPid).2,
        Safe plainCrates output :=
  ⟨by decide +kernel,
    entries_belong_to_live_processes plainCrates (fun _ => .ok [1]) reusedPid
      (by decide +kernel)⟩

end TrafficCone.PidReuse
