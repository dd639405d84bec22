import TrafficCone.ConcurrentResolving

namespace TrafficCone.EntryAttribution

open TrafficCone.Outcomes
open TrafficCone.Threads
open TrafficCone.RelyGuarantee
open TrafficCone.LinkedCrates
open TrafficCone.ProcReaders
open TrafficCone.ProcessMonitoring
open TrafficCone.KernelProcesses
open TrafficCone.MonitorRuns
open TrafficCone.ConcurrentResolving

section Calls

variable {crates : Crates}

theorem secures_examine (pid startTime : Nat) :
    Secures (Evolves crates) (Evolves crates)
      (fun now => Watched crates now ∧ Owed pid startTime (fun _ _ => True) now)
      ((examineSteps crates pid startTime).noted noteKernel)
      (fun entry => Attributed crates pid entry) fun _ => True := by
  simp only [examineSteps, Thread.noted_bind]
  apply (secures_readExe pid startTime).bind
  intro exePath
  apply (secures_readHash pid startTime exePath).bind
  intro exeHash
  refine Secures.bind ((secures_rememberCall pid
    { pid := pid, exePath := exePath, exeHash := exeHash, startTime := startTime }).weaken
    (fun now h => ⟨rfl, h.2⟩) (fun _ _ h => h) fun _ h => h) ?_
  intro _
  exact secures_pure (stable_attributed pid _) fun _ h => h

/-- A thread that resolves a PID, in the midst of others, gives out an entry that is of the
process that holds the PID, if this one has the entry's start time. -/
theorem secures_resolve (pid : Nat) :
    Secures (Evolves crates) (Evolves crates) (Watched crates)
      ((resolveSteps crates pid).noted noteKernel) (fun entry => Attributed crates pid entry)
      fun _ => True := by
  simp only [resolveSteps, Thread.noted_bind]
  apply (secures_readStart pid).bind
  intro startTime
  apply (secures_readCache pid startTime).bind
  intro cached
  cases hfound : cached.filter fun entry => entry.startTime = startTime with
  | some entry =>
      apply secures_pure (stable_attributed pid entry)
      exact fun now h => h.2 entry (Option.filter_eq_some_iff.mp hfound).1
  | none =>
      exact (secures_examine pid startTime).weaken (fun _ h => h.1) (fun _ _ h => h) fun _ h => h

/-- What the other parts of the daemon ask of the monitor. -/
inductive Call where
  | resolves (pid : Nat)
  | verifies (pid : Nat) (expectedHash : String)
  | invalidates (pid : Nat)

variable (crates) in
def Call.steps : Call → Thread World String (Option ProcessEntry)
  | .resolves pid => do return some (← resolveSteps crates pid)
  | .verifies pid expectedHash => do return some (← verifyHashSteps crates pid expectedHash)
  | .invalidates pid => .atomic fun world =>
      (.ok none, { world with cache := invalidate pid world.cache })

variable (crates) in
/-- The entry that a call gives out is for its PID, and has the hash that is expected. -/
def Answered (call : Call) (answer : Option ProcessEntry) (now : Chronicle) : Prop :=
  ∀ entry, answer = some entry →
    match call with
    | .resolves pid => Attributed crates pid entry now
    | .verifies pid expectedHash =>
        entry.exeHash = expectedHash ∧ Attributed crates pid entry now
    | .invalidates _ => False

theorem stable_answered (call : Call) (answer : Option ProcessEntry) :
    Stable (Evolves crates) (Answered crates call answer) := by
  intro before after hstep h entry hentry
  cases call with
  | resolves pid => exact stable_attributed pid entry before after hstep (h entry hentry)
  | verifies pid expectedHash =>
      obtain ⟨hhash, hattributed⟩ := h entry hentry
      exact ⟨hhash, stable_attributed pid entry before after hstep hattributed⟩
  | invalidates pid => exact h entry hentry

theorem evolves_invalidate (pid : Nat) (world : World) (history : List Kernel) :
    Evolves crates (world, history) ({ world with cache := invalidate pid world.cache },
      noteKernel { world with cache := invalidate pid world.cache } history) :=
  ⟨fun _ _ _ h => h, fun _ _ _ _ h => h, id, rfl, fun _ _ h => Or.inl (invalidate_eq_some h)⟩

theorem secures_verifyHash (pid : Nat) (expectedHash : String) :
    Secures (Evolves crates) (Evolves crates) (Watched crates)
      ((verifyHashSteps crates pid expectedHash).noted noteKernel)
      (fun entry now => entry.exeHash = expectedHash ∧ Attributed crates pid entry now)
      fun _ => True := by
  simp only [verifyHashSteps, Thread.noted_bind]
  apply (secures_resolve pid).bind
  intro entry
  by_cases hhash : entry.exeHash = expectedHash
  · rw [if_neg (not_not.mpr hhash)]
    refine secures_pure ?_ fun _ h => ⟨hhash, h⟩
    exact fun before after hstep h => ⟨h.1, stable_attributed pid entry before after hstep h.2⟩
  · rw [if_pos hhash]
    refine secures_done (stable_attributed pid entry) ?_ fun _ _ => trivial
    intro value now hvalue
    cases hvalue

theorem secures_call (call : Call) :
    Secures (Evolves crates) (Evolves crates) (Watched crates)
      ((call.steps crates).noted noteKernel) (Answered crates call) fun _ => True := by
  cases call with
  | resolves pid =>
      simp only [Call.steps, Thread.noted_bind]
      apply (secures_resolve pid).bind
      intro entry
      apply secures_pure (stable_answered _ _)
      rintro now h found hfound
      obtain rfl := Option.some.inj hfound
      exact h
  | verifies pid expectedHash =>
      simp only [Call.steps, Thread.noted_bind]
      apply (secures_verifyHash pid expectedHash).bind
      intro entry
      apply secures_pure (stable_answered _ _)
      rintro now h found hfound
      obtain rfl := Option.some.inj hfound
      exact h
  | invalidates pid =>
      rw [Call.steps, Thread.noted_atomic]
      apply secures_atomic stable_watched (fun _ => stable_answered _ _) fun _ _ _ _ => trivial
      rintro ⟨world, history⟩ _
      exact ⟨evolves_invalidate pid world history, nofun⟩

end Calls

section Runs

variable {ι : Type} [DecidableEq ι] {crates : Crates}
  {file : String → Except String (List UInt8)} {calls : ι → Call}

variable (crates file calls) in
/-- All the calls that are made of the monitor, from the start of the system on. -/
def monitorPool : Pool World ι String (Option ProcessEntry) :=
  { state := boot file, threads := fun i => (calls i).steps crates }

variable (crates file calls) in
/-- The same, with the kernel noted at all moments. -/
def chronicledPool : Pool Chronicle ι String (Option ProcessEntry) :=
  (monitorPool crates file calls).noted noteKernel [(boot file).kernel]

theorem chronicle_spec (moves : List (Move KernelEvent ι)) :
    AllAssured (fun _ => Evolves crates) (fun _ => Evolves crates)
        (fun i => Answered crates (calls i)) (fun _ _ => True)
        ((chronicledPool crates file calls).interleave (noteEvent noteKernel happen) moves) ∧
      Watched crates
        ((chronicledPool crates file calls).interleave (noteEvent noteKernel happen)
          moves).state := by
  have hboot : Watched crates (chronicledPool crates file calls).state := ⟨nofun, nofun⟩
  have hcompatible : Compatible (noteEvent noteKernel happen)
      (fun _ : ι => Evolves crates) fun _ => Evolves crates :=
    ⟨fun _ _ _ _ _ h => h, fun _ event now => evolves_event event now⟩
  have hassured : AllAssured (fun _ => Evolves crates) (fun _ => Evolves crates)
      (fun i => Answered crates (calls i)) (fun _ _ => True)
      (chronicledPool crates file calls) :=
    fun i => secures_call (calls i) _ hboot
  obtain ⟨hlater, hsteps⟩ := hassured.interleave hcompatible moves
  refine ⟨hlater, invariant_of_progress ?_ ?_ hsteps hboot⟩
  · exact fun _ before after hstep h => stable_watched before after hstep h
  · exact fun event now h => stable_watched now _ (evolves_event event now) h

variable (crates file calls) in
def kernelAfter (moves : List (Move KernelEvent ι)) : Kernel :=
  ((monitorPool crates file calls).interleave happen moves).state.kernel

variable (crates file calls) in
/-- After some of the moves the process ran the executable at the path, and after those or some
more the file at the path had the hash. -/
def ReadDuring (moves : List (Move KernelEvent ι)) (pid serial : Nat) (entry : ProcessEntry) :
    Prop :=
  ∃ first second third, moves = first ++ second ++ third ∧
    (∃ holder, (kernelAfter crates file calls first).process pid = some holder ∧
      holder.serial = serial ∧
      readExePath (systemOf (kernelAfter crates file calls first)) pid = .ok entry.exePath) ∧
    hashFile crates (systemOf (kernelAfter crates file calls (first ++ second))) entry.exePath =
      .ok entry.exeHash

theorem readDuring_of_hashedThen {moves : List (Move KernelEvent ι)} {pid serial : Nat}
    {entry : ProcessEntry}
    (h : HashedThen crates pid serial entry.exePath entry.exeHash
      ((chronicledPool crates file calls).interleave (noteEvent noteKernel happen)
        moves).state.2) :
    ReadDuring crates file calls moves pid serial entry := by
  obtain ⟨hashing, past, hnoted, hhash, reading, hreading, holder, hholder, hserial, hpath⟩ := h
  obtain ⟨earlier, third, rfl, rfl, hearlier⟩ := Pool.exists_moment hnoted
  obtain ⟨since, before, hsplit⟩ := List.append_of_mem hreading
  have hread : reading :: before <:+
      ((chronicledPool crates file calls).interleave (noteEvent noteKernel happen)
        earlier).state.2 :=
    ⟨since, (hearlier.trans hsplit).symm⟩
  obtain ⟨first, second, rfl, rfl, -⟩ := Pool.exists_moment hread
  exact ⟨first, second, third, rfl, ⟨holder, hholder, hserial, hpath⟩, hhash⟩

def Call.target : Call → Nat
  | .resolves pid => pid
  | .verifies pid _ => pid
  | .invalidates pid => pid

/-- The entry is in the cache for the PID, or a call has returned it for the PID. -/
def GivenOut (calls : ι → Call) (pool : Pool World ι String (Option ProcessEntry)) (pid : Nat)
    (entry : ProcessEntry) : Prop :=
  pool.state.cache pid = some entry ∨
    ∃ i, (calls i).target = pid ∧ pool.threads i = .done (.ok (some entry))

theorem attributed_of_answered {call : Call} {entry : ProcessEntry} {now : Chronicle}
    (h : Answered crates call (some entry) now) : Attributed crates call.target entry now := by
  cases call with
  | resolves pid => exact h entry rfl
  | verifies pid expectedHash => exact (h entry rfl).2
  | invalidates pid => exact (h entry rfl).elim

/-- However the calls of the monitor, the kernel's processes and changes of files interleave,
an entry that is cached or returned for a PID has the path of what this very process ran at
some moment, and the hash of the file that was at this path then or later, if the process that
holds the PID now was started at the entry's start time; and the hash is the one that a
verification was to find. -/
theorem entry_read_of_its_process (crates : Crates) (file : String → Except String (List UInt8))
    (calls : ι → Call) (moves : List (Move KernelEvent ι)) {pid : Nat} {entry : ProcessEntry}
    {process : Process}
    (hentry : GivenOut calls ((monitorPool crates file calls).interleave happen moves) pid entry)
    (hholds : (kernelAfter crates file calls moves).process pid = some process)
    (hstart : process.startTime.toNat = entry.startTime) :
    entry.pid = pid ∧ ReadDuring crates file calls moves pid process.serial entry ∧
      ∀ i expectedHash, calls i = .verifies pid expectedHash →
        ((monitorPool crates file calls).interleave happen moves).threads i =
          .done (.ok (some entry)) → entry.exeHash = expectedHash := by
  obtain ⟨hassured, hwatched⟩ := @chronicle_spec _ _ crates file calls moves
  obtain ⟨more, hmore⟩ := (monitorPool crates file calls).noted_interleave noteKernel happen
    [(boot file).kernel] moves
  have hstate : ((chronicledPool crates file calls).interleave (noteEvent noteKernel happen)
      moves).state.1 = ((monitorPool crates file calls).interleave happen moves).state := by
    rw [chronicledPool, hmore]
    rfl
  have hanswered : ∀ i, ((monitorPool crates file calls).interleave happen moves).threads i =
      .done (.ok (some entry)) → Answered crates (calls i) (some entry)
        ((chronicledPool crates file calls).interleave (noteEvent noteKernel happen)
          moves).state := by
    intro i hdone
    refine @AllAssured.ends _ _ _ _ _ _ _ _ _ hassured i (.ok (some entry)) ?_
    rw [chronicledPool, hmore]
    exact congrArg (Thread.noted noteKernel) hdone
  have hattributed : Attributed crates pid entry
      ((chronicledPool crates file calls).interleave (noteEvent noteKernel happen)
        moves).state := by
    rcases hentry with hcached | ⟨i, rfl, hdone⟩
    · rw [← hstate] at hcached
      exact hwatched.cached pid entry hcached
    · exact attributed_of_answered (hanswered i hdone)
  obtain ⟨hpid, started, serial, hstarted, hborn, hcase⟩ := hattributed
  have hholds' := hholds
  rw [kernelAfter, ← hstate] at hholds'
  have hsame : process.startTime = started := by
    rw [← UInt64.toNat_inj, hstart, hstarted]
  have hserial : process.serial = serial := by
    have hknown := hwatched.known pid process hholds'
    rw [hsame, hborn, Option.some.injEq] at hknown
    exact hknown.symm
  refine ⟨hpid, ?_, ?_⟩
  · rw [hserial]
    rcases hcase with hended | hhashed
    · exact absurd hsame (hended process hholds')
    · exact readDuring_of_hashedThen hhashed
  · intro i expectedHash hcall hdone
    have hverified := hanswered i hdone
    rw [hcall] at hverified
    exact (hverified entry rfl).1

end Runs

def binaries (path : String) : Except String (List UInt8) :=
  if path = "/usr/bin/curl" then .ok [2] else .ok [1]

def curlHash : String := "0200000000000000000000000000000000000000000000000000000000000000"

def curlEntry (startTime : Nat) : ProcessEntry where
  pid := 7
  exePath := "/usr/bin/curl"
  exeHash := curlHash
  startTime := startTime

def twoCalls : Bool → Call
  | false => .resolves 7
  | true => .verifies 7 curlHash

/-- The PID comes to another process after the first call has read the start time. -/
def overtaken : List (Move KernelEvent Bool) :=
  [.outside (.starts 7 500 (plainImage "/usr/bin/code")), .turn false, .turn false,
    .outside (.exits 7), .outside (.starts 7 900 (plainImage "/usr/bin/curl")), .turn true,
    .turn false, .turn false, .turn false, .turn true, .turn true, .turn true, .turn true]

theorem entry_read_overtaken :
    (((monitorPool plainCrates binaries twoCalls).interleave happen overtaken).threads true).ended =
        some (.ok (some (curlEntry 900))) ∧
      ReadDuring plainCrates binaries twoCalls overtaken 7 1 (curlEntry 900) :=
  have hended : (((monitorPool plainCrates binaries twoCalls).interleave happen
      overtaken).threads true).ended = some (.ok (some (curlEntry 900))) := by decide +kernel
  ⟨hended,
    (@entry_read_of_its_process _ _ plainCrates binaries twoCalls overtaken 7 (curlEntry 900)
      { serial := 1, startTime := 900, image := plainImage "/usr/bin/curl" }
      (Or.inr ⟨true, rfl, Thread.eq_done_of_ended hended⟩) rfl rfl).2.1⟩

/-- The first call has put the start time of one process together with the executable of the
next. -/
example :
    (((monitorPool plainCrates binaries twoCalls).interleave happen
      overtaken).threads false).ended = some (.ok (some (curlEntry 500))) := by
  decide +kernel

end TrafficCone.EntryAttribution
