import TrafficCone.PidRouting
import TrafficCone.RestrictionSoundness

namespace TrafficCone.RegisteredHashes

open TrafficCone.Outcomes
open TrafficCone.StoreModels
open TrafficCone.LinkedCrates
open TrafficCone.ProcReaders
open TrafficCone.ProcessMonitoring
open TrafficCone.PidRouting
open TrafficCone.RestrictionSoundness

def HashRegistered (database : Database) (process : ProcessEntry) : Prop :=
  ∀ app ∈ database.apps, app.exePath = process.exePath → process.exeHash = app.exeHash

/-- A PID for which a certificate is found runs an app's executable only with the
hash of that app. -/
def RoutedHashIsRegistered (crates : Crates) (system : System) (store : Store) (pid : Nat)
    (knownHashes : KnownHashes) (cache : Cache) : Prop :=
  ∀ route cache', resolveForPid crates system store pid knownHashes cache = (.ok route, cache') →
    ∀ database master, store = .unlocked database master →
      HashRegistered database route.process

/-- The resolution never gets as far as a certificate: the binary of Traffic Cone
itself was replaced, the connections cannot be read, or no route is eligible. -/
def StoppedBeforeRouting (system : System) (database : Database) (knownHashes : KnownHashes)
    (pid : Nat) (process : ProcessEntry) : Prop :=
  binaryReplaced knownHashes process = true ∨ getConnections system pid = .panicked ∨
    ∃ connections, getConnections system pid = .ok connections ∧
      ¬ Routable database process.exePath connections

theorem stoppedBeforeRouting_iff (system : System) (database : Database) (master : Bytes)
    (knownHashes : KnownHashes) (pid : Nat) (process : ProcessEntry) :
    StoppedBeforeRouting system database knownHashes pid process ↔
      ∀ route, routeProcess system (.unlocked database master) knownHashes pid process ≠
        .ok route := by
  unfold StoppedBeforeRouting
  cases hreplaced : binaryReplaced knownHashes process with
  | true => simp [routeProcess_of_replaced hreplaced]
  | false =>
      rw [routeProcess_unlocked hreplaced]
      cases hconnections : getConnections system pid with
      | err error => exact absurd hconnections (getConnections_ne_err system pid error)
      | panicked => simp
      | ok connections =>
          rw [Outcome.ok_bind]
          simp only [Bool.false_eq_true, reduceCtorEq, false_or, Outcome.ok.injEq,
            exists_eq_left', ← exists_firstRoute_iff, not_exists, ne_eq, routedAnswer_eq_ok_iff,
            not_and, Prod.forall]
          constructor
          · intro hnone route certId ip hfound
            exact absurd hfound (hnone certId ip)
          · intro hnone certId ip hfound
            exact hnone _ certId ip hfound rfl

/-- The hash of the app is compared nowhere: a changed binary is kept from a
certificate only by what stops the resolution anyway. -/
theorem routedHashIsRegistered_iff (crates : Crates) (system : System) (store : Store) (pid : Nat)
    (knownHashes : KnownHashes) (cache : Cache) :
    RoutedHashIsRegistered crates system store pid knownHashes cache ↔
      ∀ process cache', resolve crates system pid cache = (.ok process, cache') →
        ∀ database master, store = .unlocked database master →
          HashRegistered database process ∨
            StoppedBeforeRouting system database knownHashes pid process := by
  unfold RoutedHashIsRegistered
  constructor
  · rintro hregistered process cache' hresolved database master rfl
    rw [or_iff_not_imp_right, stoppedBeforeRouting_iff system database master]
    intro hrouted
    push Not at hrouted
    obtain ⟨route, hroute⟩ := hrouted
    have hprocess : route.process = process := by
      obtain ⟨-, -, -, -, -, -, -, -, -, rfl⟩ := routeProcess_eq_ok_iff.mp hroute
      rfl
    rw [← hprocess]
    exact hregistered route cache'
      (resolveForPid_eq_ok_iff.mpr ⟨process, hresolved, hroute⟩) database master rfl
  · rintro hcondition route cache' hfound database master rfl
    obtain ⟨process, hresolved, hroute⟩ := resolveForPid_eq_ok_iff.mp hfound
    have hprocess : route.process = process := by
      obtain ⟨-, -, -, -, -, -, -, -, -, rfl⟩ := routeProcess_eq_ok_iff.mp hroute
      rfl
    rw [hprocess]
    apply (hcondition process cache' hresolved database master rfl).resolve_right
    intro hstopped
    exact (stoppedBeforeRouting_iff system database master knownHashes pid process).mp hstopped
      route hroute

/-- The executable of the registered app has been replaced by other bytes, whose
digest is not the recorded one, and is given the app's certificate. -/
theorem replaced_executable_is_routed :
    ¬ RoutedHashIsRegistered plainCrates
      (quietSystem [(7, "/usr/bin/code")] [("/usr/bin/code", [1])])
      (.unlocked appOnlyDatabase []) 7 (fun _ => none) (fun _ => none) := by
  intro hregistered
  have hrouted : (resolveForPid plainCrates
      (quietSystem [(7, "/usr/bin/code")] [("/usr/bin/code", [1])])
      (.unlocked appOnlyDatabase []) 7 (fun _ => none) fun _ => none).1 =
        .ok
          { certId := "c1"
            process :=
              { pid := 7
                exePath := "/usr/bin/code"
                exeHash := "01" ++ String.ofList (List.replicate 62 '0')
                startTime := 500 }
            remoteHost := none
            remoteIp := none } := by
    decide
  have hhash := hregistered _ _ (Prod.ext hrouted rfl) appOnlyDatabase [] rfl
    (appOnlyDatabase.apps.head (by decide)) (by decide) (by decide)
  exact absurd hhash (by decide)

end TrafficCone.RegisteredHashes
