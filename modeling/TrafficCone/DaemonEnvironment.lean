import TrafficCone.FileImports

namespace TrafficCone.DaemonEnvironment

open TrafficCone.Outcomes
open TrafficCone.StoreModels
open TrafficCone.FileImports

/-- The variables of a process. Their values are bytes, which need not be a text. -/
abbrev Environment : Type := Bytes → Option Bytes

inductive VarError where
  | notPresent
  | notUnicode (value : Bytes)
  deriving DecidableEq, Repr

/-- `env::var`: the value of a variable as a text. -/
def var (environment : Environment) (key : String) : Except VarError String :=
  match environment (asBytes key) with
  | none => .error .notPresent
  | some value =>
      match String.fromUTF8? ⟨value.toArray⟩ with
      | some text => .ok text
      | none => .error (.notUnicode value)

def dangerous : List String :=
  ["LD_PRELOAD", "LD_AUDIT", "LD_DEBUG", "LD_PROFILE", "DYLD_INSERT_LIBRARIES"]

def refusal (name : String) : String :=
  "Traffic Cone refuses to start: " ++ name ++ " is set in the environment.\n" ++
    "Dynamic linker overrides allow code injection and cannot be " ++
    "permitted in a process that handles private key material.\n" ++
    "Unset " ++ name ++ " and try again."

def checkEach (environment : Environment) : List String → Outcome String Unit
  | [] => .ok ()
  | name :: names =>
      if (var environment name).isOk then .err (refusal name) else checkEach environment names

def checkEnvironment (environment : Environment) : Outcome String Unit :=
  checkEach environment dangerous

/-- The daemon goes on exactly if none of the variables is set. -/
def RefusesOverrides (environment : Environment) : Prop :=
  checkEnvironment environment = .ok () ↔
    ∀ name ∈ dangerous, environment (asBytes name) = none

theorem fromUTF8?_eq_some_iff {value : Bytes} {text : String} :
    String.fromUTF8? ⟨value.toArray⟩ = some text ↔ value = asBytes text := by
  constructor
  · intro h
    rw [String.fromUTF8?] at h
    split at h
    · obtain rfl := Option.some.inj h
      simp [asBytes, String.toUTF8, String.fromUTF8]
    · cases h
  · rintro rfl
    exact fromUTF8?_asBytes text

variable {environment : Environment} {names : List String} {name : String}

theorem isOk_var_iff :
    (var environment name).isOk = true ↔
      ∃ text, environment (asBytes name) = some (asBytes text) := by
  rw [var]
  cases hvalue : environment (asBytes name) with
  | none => simp [Except.isOk, Except.toBool]
  | some value =>
      dsimp only
      cases htext : String.fromUTF8? ⟨value.toArray⟩ with
      | some text =>
          obtain rfl := fromUTF8?_eq_some_iff.mp htext
          exact iff_of_true rfl ⟨text, rfl⟩
      | none =>
          refine iff_of_false Bool.false_ne_true ?_
          rintro ⟨text, hsome⟩
          rw [fromUTF8?_eq_some_iff.mpr (Option.some.inj hsome)] at htext
          cases htext

theorem checkEach_eq_ok_iff :
    checkEach environment names = .ok () ↔
      ∀ name ∈ names, (var environment name).isOk = false := by
  induction names with
  | nil => simp [checkEach]
  | cons first names ih =>
      rw [checkEach, List.forall_mem_cons]
      split
      · rename_i hok
        simp [hok]
      · rename_i hfailed
        rw [ih]
        exact (and_iff_right (Bool.eq_false_iff.mpr hfailed)).symm

/-- Whoever is refused is told of a variable that is set. -/
theorem exists_of_checkEach_eq_err {error : String}
    (h : checkEach environment names = .err error) :
    ∃ name ∈ names, error = refusal name ∧ environment (asBytes name) ≠ none := by
  induction names with
  | nil => cases h
  | cons first names ih =>
      rw [checkEach] at h
      split at h
      · rename_i hok
        obtain ⟨text, htext⟩ := isOk_var_iff.mp hok
        refine ⟨first, List.mem_cons_self, (Outcome.err.inj h).symm, ?_⟩
        rw [htext]
        exact Option.some_ne_none _
      · obtain ⟨name, hname, herror, hset⟩ := ih h
        exact ⟨name, List.mem_cons_of_mem _ hname, herror, hset⟩

theorem checkEnvironment_eq_ok_iff :
    checkEnvironment environment = .ok () ↔
      ¬ ∃ name ∈ dangerous, ∃ text, environment (asBytes name) = some (asBytes text) := by
  rw [checkEnvironment, checkEach_eq_ok_iff]
  push Not
  refine forall₂_congr fun name _ => ?_
  rw [← not_exists, ← isOk_var_iff, Bool.not_eq_true]

/-- A variable whose value is no text is overlooked, unless another one is found. -/
theorem refusesOverrides_iff (environment : Environment) :
    RefusesOverrides environment ↔
      (∀ name ∈ dangerous, environment (asBytes name) = none) ∨
        ∃ name ∈ dangerous, ∃ text, environment (asBytes name) = some (asBytes text) := by
  rw [RefusesOverrides, checkEnvironment_eq_ok_iff]
  constructor
  · intro hrefuses
    by_cases hfound :
        ∃ name ∈ dangerous, ∃ text, environment (asBytes name) = some (asBytes text)
    · exact .inr hfound
    · exact .inl (hrefuses.mp hfound)
  · rintro (hunset | hfound)
    · refine iff_of_true ?_ hunset
      rintro ⟨name, hname, text, hset⟩
      rw [hunset name hname] at hset
      cases hset
    · refine iff_of_false (not_not_intro hfound) ?_
      intro hunset
      obtain ⟨name, hname, text, hset⟩ := hfound
      rw [hunset name hname] at hset
      cases hset

/-- A library is preloaded from a path with a byte that no text has. -/
def preloaded : Environment := fun name =>
  if name = asBytes "LD_PRELOAD" then some [0xFF, 0x2E, 0x73, 0x6F]
  else if name = asBytes "HOME" then some (asBytes "/root")
  else none

theorem preloaded_counterexample :
    checkEnvironment preloaded = .ok () ∧
      preloaded (asBytes "LD_PRELOAD") = some [0xFF, 0x2E, 0x73, 0x6F] ∧
      ¬ RefusesOverrides preloaded := by
  have hok : checkEnvironment preloaded = .ok () := by decide +kernel
  have hset : preloaded (asBytes "LD_PRELOAD") = some [0xFF, 0x2E, 0x73, 0x6F] := by
    decide +kernel
  refine ⟨hok, hset, ?_⟩
  intro hrefuses
  have hunset := hrefuses.mp hok "LD_PRELOAD" (by decide)
  rw [hset] at hunset
  cases hunset

end TrafficCone.DaemonEnvironment
