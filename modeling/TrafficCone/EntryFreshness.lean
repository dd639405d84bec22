import TrafficCone.MonitorRuns

namespace TrafficCone.EntryFreshness

open TrafficCone.Outcomes
open TrafficCone.LinkedCrates
open TrafficCone.ProcReaders
open TrafficCone.ProcessMonitoring
open TrafficCone.KernelProcesses
open TrafficCone.TransducerRuns
open TrafficCone.MonitorRuns

/-- An entry that is given out names the executable that the process runs now, with the
hash of the file that is there now. -/
def Fresh (crates : Crates) : Output → Prop
  | .resolved pid entry world =>
      readExePath (systemOf world.kernel) pid = .ok entry.exePath ∧
        hashFile crates (systemOf world.kernel) entry.exePath = .ok entry.exeHash
  | .cleaned _ => True

/-- The PID runs the executable that it ran before, and the hash of its file is the same. -/
def SameExecutable (crates : Crates) (before now : Kernel) (pid : Nat) : Prop :=
  readExePath (systemOf now) pid = readExePath (systemOf before) pid ∧
    ∀ exePath, readExePath (systemOf before) pid = .ok exePath →
      hashFile crates (systemOf now) exePath = hashFile crates (systemOf before) exePath

/-- If a PID is resolved from the cache, to an entry that the caller lets through, its
executable is the one that was examined for the entry. -/
def UnchangedFor (crates : Crates) (world : World) (pid : Nat)
    (accepts : ProcessEntry → Prop) : Prop :=
  ∀ entry, fromCache (systemOf world.kernel) pid world.cache = some entry → accepts entry →
    ∀ reading, world.readAt pid = some reading → SameExecutable crates reading world.kernel pid

def UnchangedSinceReading (crates : Crates) (world : World) : Event → Prop
  | .resolves pid => UnchangedFor crates world pid fun _ => True
  | .verifies pid expectedHash =>
      UnchangedFor crates world pid fun entry => entry.exeHash = expectedHash
  | _ => True

theorem fresh_iff_sameExecutable {crates : Crates} {reading now : Kernel} {pid : Nat}
    {entry : ProcessEntry} (hread : ReadAt crates reading pid entry) :
    (readExePath (systemOf now) pid = .ok entry.exePath ∧
        hashFile crates (systemOf now) entry.exePath = .ok entry.exeHash) ↔
      SameExecutable crates reading now pid := by
  rw [SameExecutable, hread.exePath_eq]
  apply and_congr_right
  intro _
  constructor
  · intro hhash exePath hexePath
    rw [← Outcome.ok.inj hexePath, hread.exeHash_eq, hhash]
  · intro hhash
    rw [hhash entry.exePath rfl, hread.exeHash_eq]

theorem fresh_asked_iff {crates : Crates} {world : World} (hconsistent : Consistent crates world)
    {pid : Nat} {accepts : ProcessEntry → Prop} {call : Effect Cache String ProcessEntry}
    (hcall : Resolving crates (systemOf world.kernel) pid accepts call) :
    (∀ output ∈ (ask crates pid call world).2, Fresh crates output) ↔
      UnchangedFor crates world pid accepts := by
  have houtputs : (∀ output ∈ (ask crates pid call world).2, Fresh crates output) ↔
      ∀ entry, (resolve crates (systemOf world.kernel) pid world.cache).1 = .ok entry →
        accepts entry → readExePath (systemOf world.kernel) pid = .ok entry.exePath ∧
          hashFile crates (systemOf world.kernel) entry.exePath = .ok entry.exeHash := by
    constructor
    · intro hfresh entry hresolved haccepted
      exact hfresh _ ((mem_ask_snd hcall).mpr ⟨entry, hresolved, haccepted, rfl⟩)
    · intro hfresh output houtput
      obtain ⟨entry, hresolved, haccepted, rfl⟩ := (mem_ask_snd hcall).mp houtput
      exact hfresh entry hresolved haccepted
  rw [houtputs, UnchangedFor]
  rcases afterResolve_cases crates pid world with
    ⟨cached, hcached, hresolved, -⟩ | ⟨fresh, hmissed, hread, hresolved, -⟩ | ⟨hnone, -⟩
  · obtain ⟨reading, hreading, hread⟩ :=
      hconsistent.read pid cached (fromCache_eq_some_iff.mp hcached).2
    rw [hresolved, hcached]
    constructor
    · intro hfresh entry hentry haccepted other hother
      obtain rfl := Option.some.inj hentry
      rw [hreading, Option.some.injEq] at hother
      rw [← hother]
      exact (fresh_iff_sameExecutable hread).mp (hfresh cached rfl haccepted)
    · intro hsame entry hentry haccepted
      obtain rfl := Outcome.ok.inj hentry
      exact (fresh_iff_sameExecutable hread).mpr (hsame cached rfl haccepted reading hreading)
  · rw [hresolved, hmissed]
    constructor
    · intro _ entry hentry
      cases hentry
    · intro _ entry hentry _
      obtain rfl := Outcome.ok.inj hentry
      exact ⟨hread.exePath_eq, hread.exeHash_eq⟩
  · constructor
    · intro _ entry hentry
      exact absurd (congrArg Prod.fst (resolve_of_cached hentry crates)) (hnone entry)
    · intro _ entry hentry
      exact absurd hentry (hnone entry)

theorem fresh_step_iff {crates : Crates} {world : World} (hconsistent : Consistent crates world)
    (event : Event) :
    (∀ output ∈ (step crates world event).2, Fresh crates output) ↔
      UnchangedSinceReading crates world event := by
  cases event with
  | resolves pid => exact fresh_asked_iff hconsistent (resolving_resolve crates _ pid)
  | verifies pid expectedHash =>
      exact fresh_asked_iff hconsistent (resolving_verifyHash crates _ pid expectedHash)
  | cleansUp =>
      obtain ⟨cache, hcleaned, -⟩ := cleanUp_spec hconsistent
      rw [step, hcleaned]
      simp [Fresh, UnchangedSinceReading]
  | _ =>
      refine ⟨fun _ => trivial, ?_⟩
      intro _ output houtput
      exact absurd houtput List.not_mem_nil

/-- The entries that a run gives out are all fresh exactly if no call uses a cached
entry whose process has come to another executable, or whose file to another hash. -/
theorem entries_fresh_iff (crates : Crates) (file : String → Except String (List UInt8))
    (events : List Event) :
    (∀ output ∈ (run (step crates) (boot file) events).2, Fresh crates output) ↔
      Along (step crates) (UnchangedSinceReading crates) (boot file) events :=
  @run_outputs_iff_along _ _ _ (step crates) (UnchangedSinceReading crates) (Consistent crates)
    (Fresh crates) (fun _ event hconsistent => hconsistent.step event)
    (fun _ event hconsistent => fresh_step_iff hconsistent event) _ (consistent_boot file) events

/-- A process is resolved, becomes another program by an exec, and is resolved again. -/
def resolvedThenExecuted : List Event :=
  [.starts 7 500 (plainImage "/usr/bin/cone"), .resolves 7, .changes 7 (plainImage "/usr/bin/curl"),
    .resolves 7]

instance (crates : Crates) : DecidablePred (Fresh crates)
  | .resolved pid entry world =>
      inferInstanceAs (Decidable
        (readExePath (systemOf world.kernel) pid = .ok entry.exePath ∧
          hashFile crates (systemOf world.kernel) entry.exePath = .ok entry.exeHash))
  | .cleaned _ => isTrue trivial

/-- The process that now runs `/usr/bin/curl` is given out as `/usr/bin/cone`. -/
theorem entry_outlives_exec :
    ¬ ∀ output ∈ (run (step plainCrates) (boot fun _ => .ok [1]) resolvedThenExecuted).2,
      Fresh plainCrates output := by
  decide +kernel

end TrafficCone.EntryFreshness
