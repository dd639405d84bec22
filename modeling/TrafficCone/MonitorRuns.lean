import TrafficCone.KernelProcesses
import TrafficCone.ProcessMonitoring
import TrafficCone.TransducerRuns

namespace TrafficCone.MonitorRuns

open TrafficCone.Outcomes
open TrafficCone.LinkedCrates
open TrafficCone.ProcReaders
open TrafficCone.ProcessMonitoring
open TrafficCone.KernelProcesses
open TrafficCone.TransducerRuns

/-- The kernel and the cache of the monitor. Nobody reads the rest: which process was
started at a PID with which start time, the PIDs among which are the keys of the cache,
and the kernel as it was when the executable of a PID was last examined. -/
structure World where
  kernel : Kernel
  next : Nat
  births : Nat → UInt64 → Option Nat
  cache : Cache
  pids : List Nat
  readAt : Nat → Option Kernel

def boot (file : String → Except String (List UInt8)) : World where
  kernel := { process := fun _ => none, file := file }
  next := 0
  births _ _ := none
  cache _ := none
  pids := []
  readAt _ := none

inductive Event where
  | starts (pid : Nat) (startTime : UInt64) (image : Image)
  /-- An exec, or any other change of a live process. -/
  | changes (pid : Nat) (image : Image)
  /-- The process has ended and has been waited for: its PID is free. -/
  | exits (pid : Nat)
  | replaces (path : String) (content : Except String (List UInt8))
  | resolves (pid : Nat)
  | verifies (pid : Nat) (expectedHash : String)
  | invalidates (pid : Nat)
  | cleansUp

inductive Output where
  | resolved (pid : Nat) (entry : ProcessEntry) (world : World)
  | cleaned (world : World)

def setProcess (pid : Nat) (process : Option Process) (world : World) : World :=
  { world with
    kernel := { world.kernel with process := Function.update world.kernel.process pid process } }

/-- A PID that is held is not given out again. -/
def startProcess (pid : Nat) (startTime : UInt64) (image : Image) (world : World) : World :=
  match world.kernel.process pid with
  | some _ => world
  | none =>
      setProcess pid (some { serial := world.next, startTime := startTime, image := image })
        { world with
          next := world.next + 1
          births := Function.update world.births pid
            (Function.update (world.births pid) startTime (some world.next)) }

def changeProcess (pid : Nat) (image : Image) (world : World) : World :=
  match world.kernel.process pid with
  | some process => setProcess pid (some { process with image := image }) world
  | none => world

def replaceFile (path : String) (content : Except String (List UInt8)) (world : World) : World :=
  { world with
    kernel := { world.kernel with file := Function.update world.kernel.file path content } }

variable (crates : Crates)

def readAtAfter (pid : Nat) (world : World) : Nat → Option Kernel :=
  match fromCache (systemOf world.kernel) pid world.cache,
      (resolve crates (systemOf world.kernel) pid world.cache).1 with
  | none, .ok _ => Function.update world.readAt pid (some world.kernel)
  | _, _ => world.readAt

/-- Let the monitor answer for a PID, in a call that resolves it. -/
def ask (pid : Nat) (call : Effect Cache String ProcessEntry) (world : World) :
    World × List Output :=
  let result := call world.cache
  let after :=
    { world with
      cache := result.2
      pids := pid :: world.pids
      readAt := readAtAfter crates pid world }
  (after,
    match result.1 with
    | .ok entry => [.resolved pid entry after]
    | _ => [])

def cleanUp (world : World) : World × List Output :=
  let result := cleanupStale (systemOf world.kernel) world.pids world.cache
  let after := { world with cache := result.2 }
  (after,
    match result.1 with
    | .ok _ => [.cleaned after]
    | _ => [])

def step (world : World) : Event → World × List Output
  | .starts pid startTime image => (startProcess pid startTime image world, [])
  | .changes pid image => (changeProcess pid image world, [])
  | .exits pid => (setProcess pid none world, [])
  | .replaces path content => (replaceFile path content world, [])
  | .resolves pid => ask crates pid (resolve crates (systemOf world.kernel) pid) world
  | .verifies pid expectedHash =>
      ask crates pid (verifyHash crates (systemOf world.kernel) pid expectedHash) world
  | .invalidates pid => ({ world with cache := invalidate pid world.cache }, [])
  | .cleansUp => cleanUp world

/-- The entry is what the kernel said of the PID. -/
structure ReadAt (kernel : Kernel) (pid : Nat) (entry : ProcessEntry) : Prop where
  pid_eq : entry.pid = pid
  startTime_eq : startTimeOf kernel pid = some entry.startTime
  exePath_eq : readExePath (systemOf kernel) pid = .ok entry.exePath
  exeHash_eq : hashFile crates (systemOf kernel) entry.exePath = .ok entry.exeHash

/-- A call of the monitor that resolves a PID and lets through some of the entries. -/
structure Resolving (system : System) (pid : Nat) (accepts : ProcessEntry → Prop)
    (call : Effect Cache String ProcessEntry) : Prop where
  state : ∀ cache, (call cache).2 = (resolve crates system pid cache).2
  result : ∀ cache entry, (call cache).1 = .ok entry ↔
    (resolve crates system pid cache).1 = .ok entry ∧ accepts entry

theorem resolving_resolve (system : System) (pid : Nat) :
    Resolving crates system pid (fun _ => True) (resolve crates system pid) :=
  ⟨fun _ => rfl, fun _ _ => by simp⟩

theorem resolving_verifyHash (system : System) (pid : Nat) (expectedHash : String) :
    Resolving crates system pid (fun entry => entry.exeHash = expectedHash)
      (verifyHash crates system pid expectedHash) :=
  ⟨verifyHash_snd crates system pid expectedHash, fun _ _ => verifyHash_eq_ok_iff⟩

def afterResolve (pid : Nat) (world : World) : World :=
  { world with
    cache := (resolve crates (systemOf world.kernel) pid world.cache).2
    pids := pid :: world.pids
    readAt := readAtAfter crates pid world }

variable {crates}

theorem ask_fst {pid : Nat} {world : World} {accepts : ProcessEntry → Prop}
    {call : Effect Cache String ProcessEntry}
    (h : Resolving crates (systemOf world.kernel) pid accepts call) :
    (ask crates pid call world).1 = afterResolve crates pid world := by
  rw [afterResolve, ← h.state]
  rfl

theorem mem_ask_snd {pid : Nat} {world : World} {accepts : ProcessEntry → Prop}
    {call : Effect Cache String ProcessEntry}
    (h : Resolving crates (systemOf world.kernel) pid accepts call) {output : Output} :
    output ∈ (ask crates pid call world).2 ↔
      ∃ entry, (resolve crates (systemOf world.kernel) pid world.cache).1 = .ok entry ∧
        accepts entry ∧ output = .resolved pid entry (afterResolve crates pid world) := by
  have houtputs : (ask crates pid call world).2 =
      match (call world.cache).1 with
      | .ok entry => [.resolved pid entry (ask crates pid call world).1]
      | _ => [] := rfl
  rw [houtputs, ask_fst h]
  simp only [← and_assoc, ← h.result]
  cases (call world.cache).1 <;> simp [eq_comm]

/-- A PID is resolved from the cache, from the executable, or not at all. -/
theorem afterResolve_cases (crates : Crates) (pid : Nat) (world : World) :
    (∃ entry, fromCache (systemOf world.kernel) pid world.cache = some entry ∧
      (resolve crates (systemOf world.kernel) pid world.cache).1 = .ok entry ∧
      afterResolve crates pid world = { world with pids := pid :: world.pids }) ∨
    (∃ entry, fromCache (systemOf world.kernel) pid world.cache = none ∧
      ReadAt crates world.kernel pid entry ∧
      (resolve crates (systemOf world.kernel) pid world.cache).1 = .ok entry ∧
      afterResolve crates pid world =
        { world with
          cache := Function.update world.cache pid (some entry)
          pids := pid :: world.pids
          readAt := Function.update world.readAt pid (some world.kernel) }) ∨
    (∀ entry, (resolve crates (systemOf world.kernel) pid world.cache).1 ≠ .ok entry) ∧
      afterResolve crates pid world = { world with pids := pid :: world.pids } := by
  rw [afterResolve, readAtAfter]
  cases hcached : fromCache (systemOf world.kernel) pid world.cache with
  | some entry =>
      rw [resolve_of_cached hcached]
      exact .inl ⟨entry, rfl, rfl, rfl⟩
  | none =>
      rw [resolve_of_not_cached hcached]
      cases hfresh : readProcessStartTime (systemOf world.kernel) pid >>=
          examine crates (systemOf world.kernel) pid with
      | err error => exact .inr (.inr ⟨nofun, rfl⟩)
      | panicked => exact .inr (.inr ⟨nofun, rfl⟩)
      | ok entry =>
          obtain ⟨startTime, hstart, hexamined⟩ := Outcome.bind_eq_ok_iff.mp hfresh
          obtain ⟨hpid, hstartTime, hexePath, hexeHash⟩ := examine_eq_ok_iff.mp hexamined
          rw [readProcessStartTime_eq_ok_iff, ← hstartTime] at hstart
          exact .inr (.inl ⟨entry, rfl, ⟨hpid, hstart, hexePath, hexeHash⟩, rfl, rfl⟩)

/-- The entry with which a PID is resolved is in the cache then, with the start time of
the process that holds the PID. -/
theorem cached_of_resolved {pid : Nat} {world : World} {entry : ProcessEntry}
    (h : (resolve crates (systemOf world.kernel) pid world.cache).1 = .ok entry) :
    (afterResolve crates pid world).cache pid = some entry ∧
      startTimeOf world.kernel pid = some entry.startTime := by
  rcases afterResolve_cases crates pid world with
    ⟨cached, hcached, hresolved, hafter⟩ | ⟨fresh, -, hread, hresolved, hafter⟩ | ⟨hnone, -⟩
  · rw [hresolved, Outcome.ok.injEq] at h
    rw [h, fromCache_eq_some_iff, readProcessStartTime_eq_ok_iff] at hcached
    rw [hafter]
    exact ⟨hcached.2, hcached.1⟩
  · rw [hresolved, Outcome.ok.injEq] at h
    rw [hafter, ← h]
    exact ⟨Function.update_self _ _ _, hread.startTime_eq⟩
  · exact absurd h (hnone entry)

variable (crates) in
/-- Every entry of the cache is under one of the listed PIDs and was read of it. -/
structure Consistent (world : World) : Prop where
  listed : ∀ pid entry, world.cache pid = some entry → pid ∈ world.pids
  read : ∀ pid entry, world.cache pid = some entry →
    ∃ reading, world.readAt pid = some reading ∧ ReadAt crates reading pid entry

theorem consistent_boot (file : String → Except String (List UInt8)) :
    Consistent crates (boot file) :=
  ⟨nofun, nofun⟩

/-- What the kernel does leaves the entries as they are. -/
theorem Consistent.of_same_cache {world world' : World} (h : Consistent crates world)
    (hcache : world'.cache = world.cache) (hpids : world'.pids = world.pids)
    (hreadAt : world'.readAt = world.readAt) : Consistent crates world' := by
  constructor
  · rw [hcache, hpids]
    exact h.listed
  · rw [hcache, hreadAt]
    exact h.read

theorem Consistent.of_fewer {world : World} (h : Consistent crates world) {cache : Cache}
    (hfewer : ∀ pid entry, cache pid = some entry → world.cache pid = some entry) :
    Consistent crates { world with cache := cache } :=
  ⟨fun pid entry hentry => h.listed pid entry (hfewer pid entry hentry),
    fun pid entry hentry => h.read pid entry (hfewer pid entry hentry)⟩

theorem Consistent.afterResolve {world : World} (h : Consistent crates world) (pid : Nat) :
    Consistent crates (afterResolve crates pid world) := by
  rcases afterResolve_cases crates pid world with
    ⟨entry, -, -, hafter⟩ | ⟨fresh, -, hread, -, hafter⟩ | ⟨-, hafter⟩
  · rw [hafter]
    exact ⟨fun other entry hentry => List.mem_cons_of_mem pid (h.listed other entry hentry),
      h.read⟩
  · rw [hafter]
    constructor
    · intro other entry hentry
      dsimp only at hentry ⊢
      by_cases hother : other = pid
      · exact List.mem_cons.mpr (.inl hother)
      · rw [Function.update_of_ne hother] at hentry
        exact List.mem_cons_of_mem pid (h.listed other entry hentry)
    · intro other entry hentry
      dsimp only at hentry ⊢
      by_cases hother : other = pid
      · rw [hother, Function.update_self] at hentry ⊢
        obtain rfl := Option.some.inj hentry
        exact ⟨world.kernel, rfl, hread⟩
      · rw [Function.update_of_ne hother] at hentry ⊢
        exact h.read other entry hentry
  · rw [hafter]
    exact ⟨fun other entry hentry => List.mem_cons_of_mem pid (h.listed other entry hentry),
      h.read⟩

theorem startProcess_frame (pid : Nat) (startTime : UInt64) (image : Image) (world : World) :
    (startProcess pid startTime image world).cache = world.cache ∧
      (startProcess pid startTime image world).pids = world.pids ∧
      (startProcess pid startTime image world).readAt = world.readAt := by
  rw [startProcess]
  cases world.kernel.process pid <;> exact ⟨rfl, rfl, rfl⟩

theorem changeProcess_frame (pid : Nat) (image : Image) (world : World) :
    (changeProcess pid image world).cache = world.cache ∧
      (changeProcess pid image world).pids = world.pids ∧
      (changeProcess pid image world).readAt = world.readAt := by
  rw [changeProcess]
  cases world.kernel.process pid <;> exact ⟨rfl, rfl, rfl⟩

theorem invalidate_eq_some {pid other : Nat} {cache : Cache} {entry : ProcessEntry}
    (h : invalidate pid cache other = some entry) : cache other = some entry := by
  rw [invalidate] at h
  by_cases hother : other = pid
  · rw [hother, Function.update_self] at h
    cases h
  · rwa [Function.update_of_ne hother] at h

/-- After a clean-up the entries are those with which their PIDs would be resolved. -/
theorem cleanUp_spec {world : World} (h : Consistent crates world) :
    ∃ cache,
      cleanUp world = ({ world with cache := cache }, [.cleaned { world with cache := cache }]) ∧
      ∀ pid, cache pid = fromCache (systemOf world.kernel) pid world.cache := by
  obtain ⟨cache, hcleaned, hentries⟩ := cleanupStale_of_readable
    (readProcessStartTime_ne_panicked world.kernel) world.pids world.cache
  refine ⟨cache, by rw [cleanUp, hcleaned], ?_⟩
  intro pid
  rw [hentries pid]
  split
  · rfl
  · rename_i hlisted
    have hnone : world.cache pid = none := by
      rw [Option.eq_none_iff_forall_ne_some]
      intro entry hentry
      exact hlisted (h.listed pid entry hentry)
    rw [hnone, eq_comm, Option.eq_none_iff_forall_ne_some]
    intro entry hentry
    rw [fromCache_eq_some_iff, hnone] at hentry
    cases hentry.2

theorem Consistent.step {world : World} (h : Consistent crates world) (event : Event) :
    Consistent crates (step crates world event).1 := by
  cases event with
  | starts pid startTime image =>
      obtain ⟨hcache, hpids, hreadAt⟩ := startProcess_frame pid startTime image world
      exact h.of_same_cache hcache hpids hreadAt
  | changes pid image =>
      obtain ⟨hcache, hpids, hreadAt⟩ := changeProcess_frame pid image world
      exact h.of_same_cache hcache hpids hreadAt
  | exits pid => exact h.of_same_cache rfl rfl rfl
  | replaces path content => exact h.of_same_cache rfl rfl rfl
  | resolves pid =>
      rw [MonitorRuns.step, ask_fst (resolving_resolve crates _ pid)]
      exact h.afterResolve pid
  | verifies pid expectedHash =>
      rw [MonitorRuns.step, ask_fst (resolving_verifyHash crates _ pid expectedHash)]
      exact h.afterResolve pid
  | invalidates pid => exact h.of_fewer fun other entry => invalidate_eq_some
  | cleansUp =>
      obtain ⟨cache, hcleaned, hentries⟩ := cleanUp_spec h
      rw [MonitorRuns.step, hcleaned]
      apply h.of_fewer
      intro pid entry hentry
      rw [hentries pid] at hentry
      exact (fromCache_eq_some_iff.mp hentry).2

end TrafficCone.MonitorRuns
