import Mathlib.Logic.Function.Basic
import TrafficCone.LinkedCrates
import TrafficCone.ProcReaders

namespace TrafficCone.ProcessMonitoring

open TrafficCone.Outcomes
open TrafficCone.StoreModels
open TrafficCone.LinkedCrates
open TrafficCone.HexadecimalText
open TrafficCone.ProcReaders

structure ProcessEntry where
  pid : Nat
  exePath : String
  exeHash : String
  startTime : Nat
  deriving DecidableEq, Repr

abbrev Cache : Type := Nat → Option ProcessEntry

def hashFile (crates : Crates) (system : System) (path : String) : Outcome String String :=
  match system.file path with
  | .error error => .err ("failed to read " ++ path ++ ": " ++ error)
  | .ok bytes => .ok (hexEncode (crates.sha256 bytes))

def examine (crates : Crates) (system : System) (pid startTime : Nat) :
    Outcome String ProcessEntry := do
  let exePath ← readExePath system pid
  let exeHash ← hashFile crates system exePath
  pure { pid := pid, exePath := exePath, exeHash := exeHash, startTime := startTime }

/-- Resolve a PID, from the cache when the start time is still the same. -/
def resolve (crates : Crates) (system : System) (pid : Nat) :
    Effect Cache String ProcessEntry := fun cache =>
  match readProcessStartTime system pid with
  | .err error => (.err error, cache)
  | .panicked => (.panicked, cache)
  | .ok startTime =>
      match (cache pid).filter fun entry => entry.startTime = startTime with
      | some entry => (.ok entry, cache)
      | none =>
          match examine crates system pid startTime with
          | .ok entry => (.ok entry, Function.update cache pid (some entry))
          | .err error => (.err error, cache)
          | .panicked => (.panicked, cache)

/-- Add the connections of one table; a reader that fails is left out. -/
def extendConnections (system : System) (pid : Nat) (ipv6 : Bool)
    (connections : List Connection) : Outcome String (List Connection) :=
  match readProcNetTcp system pid ipv6 with
  | .ok more => .ok (connections ++ more)
  | .err _ => .ok connections
  | .panicked => .panicked

def getConnections (system : System) (pid : Nat) : Outcome String (List Connection) :=
  extendConnections system pid false [] >>= extendConnections system pid true

def hashMismatchForPid (pid : Nat) (exePath expectedHash foundHash : String) : String :=
  "Binary hash mismatch for PID " ++ toString pid ++ " (" ++ exePath ++ "): expected " ++
    expectedHash ++ ", found " ++ foundHash ++
    ". The binary may have been modified or replaced."

def verifyHash (crates : Crates) (system : System) (pid : Nat) (expectedHash : String) :
    Effect Cache String ProcessEntry := do
  let entry ← resolve crates system pid
  if entry.exeHash ≠ expectedHash then
    Effect.lift (.err (hashMismatchForPid pid entry.exePath expectedHash entry.exeHash))
  else pure entry

def invalidate (pid : Nat) (cache : Cache) : Cache := Function.update cache pid none

/-- Drop the entries of processes that no longer exist; the PIDs are the keys of the
map, in the order in which it is walked. -/
def cleanupStale (system : System) : List Nat → Effect Cache String Unit
  | [] => pure ()
  | pid :: pids => fun cache =>
      match cache pid with
      | none => cleanupStale system pids cache
      | some entry =>
          match readProcessStartTime system pid with
          | .panicked => (.panicked, cache)
          | .err _ => cleanupStale system pids (invalidate pid cache)
          | .ok currentStart =>
              if currentStart = entry.startTime then cleanupStale system pids cache
              else cleanupStale system pids (invalidate pid cache)

/-- The entry with which a PID is resolved without looking at its executable. -/
def fromCache (system : System) (pid : Nat) (cache : Cache) : Option ProcessEntry :=
  match readProcessStartTime system pid with
  | .ok startTime => (cache pid).filter fun entry => entry.startTime = startTime
  | _ => none

theorem fromCache_eq_some_iff {system : System} {pid : Nat} {cache : Cache}
    {entry : ProcessEntry} :
    fromCache system pid cache = some entry ↔
      readProcessStartTime system pid = .ok entry.startTime ∧ cache pid = some entry := by
  rw [fromCache]
  cases hstart : readProcessStartTime system pid with
  | ok startTime =>
      rw [Option.filter_eq_some_iff]
      simp [and_comm, eq_comm]
  | err error => simp
  | panicked => simp

theorem resolve_of_cached {system : System} {pid : Nat} {cache : Cache} {entry : ProcessEntry}
    (h : fromCache system pid cache = some entry) (crates : Crates) :
    resolve crates system pid cache = (.ok entry, cache) := by
  obtain ⟨hstart, hcached⟩ := fromCache_eq_some_iff.mp h
  rw [resolve, hstart]
  dsimp only
  rw [hcached, Option.filter_some, if_pos (by simp)]

/-- Without a cached entry the executable is examined, and a result is remembered. -/
theorem resolve_of_not_cached {system : System} {pid : Nat} {cache : Cache}
    (h : fromCache system pid cache = none) (crates : Crates) :
    resolve crates system pid cache =
      match readProcessStartTime system pid >>= examine crates system pid with
      | .ok entry => (.ok entry, Function.update cache pid (some entry))
      | .err error => (.err error, cache)
      | .panicked => (.panicked, cache) := by
  rw [fromCache] at h
  rw [resolve]
  cases hstart : readProcessStartTime system pid with
  | err error => rfl
  | panicked => rfl
  | ok startTime =>
      rw [hstart] at h
      dsimp only at h ⊢
      rw [h]
      rfl

theorem verifyHash_snd (crates : Crates) (system : System) (pid : Nat) (expectedHash : String)
    (cache : Cache) :
    (verifyHash crates system pid expectedHash cache).2 =
      (resolve crates system pid cache).2 := by
  rw [verifyHash]
  rcases hcall : resolve crates system pid cache with ⟨entry | error | _, cache'⟩
  · rw [Effect.bind_of_ok hcall]
    split <;> rfl
  · rw [Effect.bind_of_err hcall]
  · rw [Effect.bind_of_panicked hcall]

theorem verifyHash_eq_ok_iff {crates : Crates} {system : System} {pid : Nat}
    {expectedHash : String} {cache : Cache} {entry : ProcessEntry} :
    (verifyHash crates system pid expectedHash cache).1 = .ok entry ↔
      (resolve crates system pid cache).1 = .ok entry ∧ entry.exeHash = expectedHash := by
  rw [verifyHash]
  rcases hcall : resolve crates system pid cache with ⟨found | error | _, cache'⟩
  · rw [Effect.bind_of_ok hcall]
    by_cases hhash : found.exeHash = expectedHash
    · rw [if_neg (not_not_intro hhash), Effect.pure_apply, Outcome.ok.injEq]
      constructor
      · rintro rfl
        exact ⟨rfl, hhash⟩
      · exact And.left
    · rw [if_pos hhash, Outcome.ok.injEq]
      constructor
      · intro h
        cases h
      · rintro ⟨rfl, h⟩
        exact absurd h hhash
  · rw [Effect.bind_of_err hcall]
    simp
  · rw [Effect.bind_of_panicked hcall]
    simp

theorem examine_eq_ok_iff {crates : Crates} {system : System} {pid startTime : Nat}
    {entry : ProcessEntry} :
    examine crates system pid startTime = .ok entry ↔
      entry.pid = pid ∧ entry.startTime = startTime ∧
        readExePath system pid = .ok entry.exePath ∧
          hashFile crates system entry.exePath = .ok entry.exeHash := by
  rw [examine, Outcome.bind_eq_ok_iff]
  simp only [Outcome.bind_eq_ok_iff, Outcome.pure_eq_ok, Outcome.ok.injEq]
  constructor
  · rintro ⟨exePath, hexePath, exeHash, hexeHash, rfl⟩
    exact ⟨rfl, rfl, hexePath, hexeHash⟩
  · rintro ⟨rfl, rfl, hexePath, hexeHash⟩
    exact ⟨entry.exePath, hexePath, entry.exeHash, hexeHash, rfl⟩

theorem fromCache_update_of_ne {pid other : Nat} (h : other ≠ pid) (system : System)
    (cache : Cache) (entry : Option ProcessEntry) :
    fromCache system other (Function.update cache pid entry) = fromCache system other cache := by
  rw [fromCache, Function.update_of_ne h]
  rfl

theorem fromCache_update_self (system : System) (pid : Nat) (cache : Cache) :
    fromCache system pid (Function.update cache pid (fromCache system pid cache)) =
      fromCache system pid cache := by
  ext entry
  rw [fromCache_eq_some_iff, Function.update_self, fromCache_eq_some_iff]
  simp

theorem cleanupStale_cons {system : System} {pid : Nat}
    (h : readProcessStartTime system pid ≠ .panicked) (pids : List Nat) (cache : Cache) :
    cleanupStale system (pid :: pids) cache =
      cleanupStale system pids (Function.update cache pid (fromCache system pid cache)) := by
  rw [cleanupStale, fromCache]
  cases hcached : cache pid with
  | none =>
      have hsame : Function.update cache pid none = cache := by
        rw [← hcached, Function.update_eq_self]
      cases hstart : readProcessStartTime system pid <;> simp [hcached, hsame]
  | some entry =>
      cases hstart : readProcessStartTime system pid with
      | panicked => exact absurd hstart h
      | err error => simp [hcached, invalidate]
      | ok currentStart =>
          have hsame : Function.update cache pid (some entry) = cache := by
            rw [← hcached, Function.update_eq_self]
          by_cases hcurrent : currentStart = entry.startTime
          · simp [hcached, hcurrent, Option.filter_some, hsame]
          · simp [hcached, hcurrent, Option.filter_some, Ne.symm hcurrent, invalidate]

/-- Where no stat line is cut wrongly, the entries that stay are those with which the
PIDs would be resolved. -/
theorem cleanupStale_of_readable {system : System}
    (h : ∀ pid, readProcessStartTime system pid ≠ .panicked) (pids : List Nat) (cache : Cache) :
    ∃ cache', cleanupStale system pids cache = (.ok (), cache') ∧
      ∀ pid, cache' pid = if pid ∈ pids then fromCache system pid cache else cache pid := by
  induction pids generalizing cache with
  | nil => exact ⟨cache, rfl, by simp⟩
  | cons first pids ih =>
      obtain ⟨cache', hcleaned, hentries⟩ :=
        ih (Function.update cache first (fromCache system first cache))
      refine ⟨cache', by rw [cleanupStale_cons (h first), hcleaned], ?_⟩
      intro pid
      rw [hentries pid]
      by_cases hfirst : pid = first
      · rw [hfirst, fromCache_update_self, Function.update_self]
        simp
      · simp [hfirst, fromCache_update_of_ne, Function.update_of_ne]

theorem extendConnections_ne_err (system : System) (pid : Nat) (ipv6 : Bool)
    (connections : List Connection) (error : String) :
    extendConnections system pid ipv6 connections ≠ .err error := by
  unfold extendConnections
  cases readProcNetTcp system pid ipv6 <;> simp

theorem getConnections_ne_err (system : System) (pid : Nat) (error : String) :
    getConnections system pid ≠ .err error := by
  unfold getConnections
  cases hfirst : extendConnections system pid false [] with
  | ok connections => exact extendConnections_ne_err system pid true connections error
  | err other => exact absurd hfirst (extendConnections_ne_err system pid false [] other)
  | panicked => simp

theorem resolve_again {crates : Crates} {system : System} {pid : Nat} {cache cache' : Cache}
    {entry : ProcessEntry} (h : resolve crates system pid cache = (.ok entry, cache')) :
    resolve crates system pid cache' = (.ok entry, cache') := by
  apply resolve_of_cached
  cases hcached : fromCache system pid cache with
  | some cached =>
      rw [resolve_of_cached hcached, Prod.mk.injEq, Outcome.ok.injEq] at h
      obtain ⟨rfl, rfl⟩ := h
      exact hcached
  | none =>
      rw [resolve_of_not_cached hcached] at h
      cases hfresh : readProcessStartTime system pid >>= examine crates system pid with
      | err error => simp [hfresh] at h
      | panicked => simp [hfresh] at h
      | ok fresh =>
          simp only [hfresh, Prod.mk.injEq, Outcome.ok.injEq] at h
          obtain ⟨rfl, rfl⟩ := h
          obtain ⟨startTime, hstart, hexamined⟩ := Outcome.bind_eq_ok_iff.mp hfresh
          obtain ⟨-, rfl, -, -⟩ := examine_eq_ok_iff.mp hexamined
          exact fromCache_eq_some_iff.mpr ⟨hstart, Function.update_self pid _ cache⟩

end TrafficCone.ProcessMonitoring
