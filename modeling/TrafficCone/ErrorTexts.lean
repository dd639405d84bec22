import TrafficCone.IpcServing
import TrafficCone.TextLeads

namespace TrafficCone.ErrorTexts

open TrafficCone.Outcomes
open TrafficCone.TextLeads
open TrafficCone.TextScanning
open TrafficCone.StoreModels
open TrafficCone.StoreListing
open TrafficCone.LinkedCrates
open TrafficCone.ProcReaders
open TrafficCone.ProcessMonitoring
open TrafficCone.PidRouting
open TrafficCone.IpcServing

inductive ErrorPoint where
  | identification
  | hashCheck
  | lock
  | routing
  | key
  deriving DecidableEq

/-- How the texts start that are formed at a point. -/
def ErrorPoint.leads : ErrorPoint → List String
  | .identification =>
      ["process ", "malformed /proc/", "failed to parse start time from /proc/",
        "failed to read /proc/", "exe path for PID ", "failed to read "]
  | .hashCheck => ["Binary hash mismatch for "]
  | .lock => ["store is locked — call unlock() first"]
  | .routing => ["No route matched for PID "]
  | .key => ["failed to retrieve key: ", "failed to parse EC key: ", "failed to parse RSA key: "]

theorem leads_apart {first second : ErrorPoint} (h : first ≠ second) :
    Apart first.leads second.leads := by
  cases first <;> cases second <;>
    first
    | exact absurd rfl h
    | decide

/-- A text tells at which point it was formed. -/
theorem errorPoint_unique {first second : ErrorPoint} {text : String}
    (hfirst : LedBy first.leads text) (hsecond : LedBy second.leads text) : first = second := by
  by_contra hne
  exact hfirst.not_of_apart (leads_apart hne) hsecond

theorem readProcessStartTime_err {system : System} {pid : Nat} {text : String}
    (h : readProcessStartTime system pid = .err text) :
    LedBy ErrorPoint.identification.leads text := by
  unfold readProcessStartTime at h
  split at h
  · obtain rfl := Outcome.err.inj h
    rw [String.append_assoc]
    exact ledBy_append (by decide) _
  · split at h
    · obtain rfl := Outcome.err.inj h
      rw [String.append_assoc]
      exact ledBy_append (by decide) _
    · split at h
      · cases h
      · rename_i rest _
        cases hfield : (splitWhitespace rest)[19]?.bind (parseUnsigned 10 (2 ^ 64)) with
        | some time =>
            rw [hfield, Outcome.ofOption_some] at h
            cases h
        | none =>
            rw [hfield, Outcome.ofOption_none] at h
            obtain rfl := Outcome.err.inj h
            rw [String.append_assoc]
            exact ledBy_append (by decide) _

theorem readExePath_err {system : System} {pid : Nat} {text : String}
    (h : readExePath system pid = .err text) : LedBy ErrorPoint.identification.leads text := by
  unfold readExePath at h
  split at h
  · obtain rfl := Outcome.err.inj h
    simp only [String.append_assoc]
    exact ledBy_append (by decide) _
  · obtain rfl := Outcome.err.inj h
    simp only [String.append_assoc]
    exact ledBy_append (by decide) _
  · cases h

theorem hashFile_err {crates : Crates} {system : System} {path text : String}
    (h : hashFile crates system path = .err text) : LedBy ErrorPoint.identification.leads text := by
  unfold hashFile at h
  split at h
  · obtain rfl := Outcome.err.inj h
    simp only [String.append_assoc]
    exact ledBy_append (by decide) _
  · cases h

theorem examine_err {crates : Crates} {system : System} {pid startTime : Nat} {text : String}
    (h : examine crates system pid startTime = .err text) :
    LedBy ErrorPoint.identification.leads text := by
  rcases Outcome.bind_eq_err_iff.mp h with hpath | ⟨exePath, -, hrest⟩
  · exact readExePath_err hpath
  · rcases Outcome.bind_eq_err_iff.mp hrest with hhash | ⟨exeHash, -, hentry⟩
    · exact hashFile_err hhash
    · cases hentry

theorem resolve_err {crates : Crates} {system : System} {pid : Nat} {cache : Cache}
    {text : String} (h : (resolve crates system pid cache).1 = .err text) :
    LedBy ErrorPoint.identification.leads text := by
  unfold resolve at h
  split at h
  · rename_i error hstart
    obtain rfl := Outcome.err.inj h
    exact readProcessStartTime_err hstart
  · cases h
  · split at h
    · cases h
    · split at h
      · cases h
      · rename_i error hfresh
        obtain rfl := Outcome.err.inj h
        exact examine_err hfresh
      · cases h

theorem signEcdsa_err {crates : Crates} {keyDer data : Bytes} {text : String}
    (h : signEcdsa crates keyDer data = .err text) : LedBy ErrorPoint.key.leads text := by
  rcases Outcome.bind_eq_err_iff.mp h with hparse | ⟨signingKey, -, hsigned⟩
  · obtain ⟨cause, -, rfl⟩ := Outcome.mapErr_eq_err_iff.mp hparse
    exact ledBy_append (by decide) _
  · cases hsigned

theorem signRsa_err {crates : Crates} {keyDer data : Bytes} {text : String}
    (h : signRsa crates keyDer data = .err text) : LedBy ErrorPoint.key.leads text := by
  rcases Outcome.bind_eq_err_iff.mp h with hparse | ⟨privateKey, -, hsigned⟩
  · obtain ⟨cause, -, rfl⟩ := Outcome.mapErr_eq_err_iff.mp hparse
    exact ledBy_append (by decide) _
  · cases hsign : crates.rsaSignSha256 privateKey data <;> simp [hsign] at hsigned

theorem signData_err {crates : Crates} {store : Store} {certId : String} {data : Bytes}
    {text : String} (h : signData crates store certId data = .err text) :
    LedBy ErrorPoint.key.leads text := by
  rcases Outcome.bind_eq_err_iff.mp h with hkey | ⟨⟨keyBytes, algorithm⟩, -, hsigned⟩
  · obtain ⟨cause, -, rfl⟩ := Outcome.mapErr_eq_err_iff.mp hkey
    exact ledBy_append (by decide) _
  · cases algorithm with
    | ecP256 | ecP384 => exact signEcdsa_err hsigned
    | rsa2048 | rsa4096 => exact signRsa_err hsigned

theorem hashMismatch_ledBy (exePath : String) (pid : Nat) :
    LedBy ErrorPoint.hashCheck.leads (hashMismatch exePath pid) := by
  unfold hashMismatch
  simp only [String.append_assoc]
  exact ledBy_append (by decide) _

theorem noRouteMatched_ledBy (pid : Nat) (exePath : String) :
    LedBy ErrorPoint.routing.leads (noRouteMatched pid exePath) := by
  unfold noRouteMatched
  simp only [String.append_assoc]
  exact ledBy_append (by decide) _

theorem locked_ledBy : LedBy ErrorPoint.lock.leads StoreError.locked.toText :=
  ⟨_, List.mem_singleton_self _, List.prefix_rfl⟩

/-- The text names the PID behind the path, whatever the path is. -/
theorem hashMismatch_inj {exePath exePath' : String} {pid pid' : Nat}
    (h : hashMismatch exePath pid = hashMismatch exePath' pid') : pid = pid' := by
  unfold hashMismatch at h
  rw [String.append_left_inj] at h
  have hletters := congrArg String.toList h
  rw [show " (PID " = " (PID" ++ " " from by decide] at hletters
  simp only [String.toList_append, show " ".toList = [' '] from by decide,
    ← List.append_assoc] at hletters
  rw [List.append_assoc, List.append_assoc _ [' '], List.singleton_append,
    List.singleton_append] at hletters
  exact number_eq_of_trailing (by decide) hletters

theorem noRouteMatched_inj {exePath exePath' : String} {pid pid' : Nat}
    (h : noRouteMatched pid exePath = noRouteMatched pid' exePath') : pid = pid' := by
  unfold noRouteMatched at h
  simp only [String.append_assoc, String.append_right_inj] at h
  have hletters := congrArg String.toList h
  rw [show " (" = " " ++ "(" from by decide] at hletters
  simp only [String.toList_append, show " ".toList = [' '] from by decide,
    List.singleton_append] at hletters
  exact number_eq_of_leading (by decide) hletters

end TrafficCone.ErrorTexts
