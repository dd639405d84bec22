import TrafficCone.HexadecimalText
import TrafficCone.LinkedCrates
import TrafficCone.TransducerRuns

namespace TrafficCone.FirstUnlock

open TrafficCone.Outcomes
open TrafficCone.StoreModels
open TrafficCone.HexadecimalText
open TrafficCone.LinkedCrates
open TrafficCone.TransducerRuns

/-- The files of a store: that of the salt, and the database, which once it is not empty
opens under one key only. -/
structure Disk where
  salt : Option Bytes
  database : Option String
  deriving DecidableEq, Repr

/-- How far a call of `unlock` has come: whether it found the file of the salt, the salt it
has in memory, the key under which it has opened the database, what it has returned. -/
inductive Stage where
  | tested (found : Bool)
  | salted (salt : Bytes)
  | keyed (key : String)
  | returned (outcome : Outcome StoreError Unit)
  deriving DecidableEq, Repr

inductive Action where
  | loadOrCreateDbSalt (drawn : Bytes)
  | openDatabase
  | createSchema
  deriving DecidableEq, Repr

variable (crates : Crates) (passphrase : Bytes)

def databaseKey (salt : Bytes) : Outcome StoreError String := do
  let key ← deriveKey crates passphrase salt
  pure (hexEncode key)

def saltMissing : StoreError := .io "No such file or directory (os error 2)"

def notADatabase : StoreError := .database "file is not a database"

/-- An empty database opens under any key. -/
def opens (disk : Disk) (key : String) : Bool := disk.database.all fun found => found = key

def proceed (disk : Disk) : Stage → Action → Disk × Stage
  | .tested true, .loadOrCreateDbSalt _ =>
      match disk.salt with
      | some salt => (disk, .salted salt)
      | none => (disk, .returned (.err saltMissing))
  -- The file is written even if another call has written one since the test.
  | .tested false, .loadOrCreateDbSalt drawn => ({ disk with salt := some drawn }, .salted drawn)
  | .salted salt, .openDatabase =>
      match databaseKey crates passphrase salt with
      | .ok key =>
          if opens disk key then (disk, .keyed key) else (disk, .returned (.err notADatabase))
      | .err error => (disk, .returned (.err error))
      | .panicked => (disk, .returned .panicked)
  | .keyed key, .createSchema =>
      if opens disk key then ({ disk with database := some key }, .returned (.ok ()))
      else (disk, .returned (.err notADatabase))
  | stage, _ => (disk, stage)

/-- A call, and whether another one had returned `Ok` when it began. -/
structure Call where
  stage : Stage
  late : Bool
  deriving DecidableEq, Repr

structure World where
  disk : Disk
  succeeded : Bool
  calls : Nat → Option Call

inductive Event where
  | begins (id : Nat)
  | acts (id : Nat) (action : Action)
  deriving DecidableEq, Repr

def World.setCall (world : World) (id : Nat) (call : Call) : World :=
  { world with calls := fun other => if other = id then some call else world.calls other }

def succeeds : Stage → Bool
  | .returned (.ok _) => true
  | _ => false

/-- One step of one process. A call begins with the test for the file of the salt. -/
def World.next (world : World) : Event → World
  | .begins id =>
      match world.calls id with
      | none =>
          world.setCall id { stage := .tested world.disk.salt.isSome, late := world.succeeded }
      | some _ => world
  | .acts id action =>
      match world.calls id with
      | none => world
      | some call =>
          let result := proceed crates passphrase world.disk call.stage action
          { world with
            disk := result.1
            succeeded := world.succeeded || succeeds result.2 }.setCall id
              { call with stage := result.2 }

def noFiles : World where
  disk := { salt := none, database := none }
  succeeded := false
  calls _ := none

/-- The salt on disk is that of the database. -/
def SaltOpens (disk : Disk) : Prop :=
  ∃ key salt, disk.database = some key ∧ disk.salt = some salt ∧
    databaseKey crates passphrase salt = .ok key

/-- Once a call has returned `Ok`, the salt on disk is that of the database, and no call
that began later has returned anything else. -/
def Unlockable (world : World) : Prop :=
  world.succeeded = true →
    SaltOpens crates passphrase world.disk ∧
      ∀ id call outcome, world.calls id = some call → call.late = true →
        call.stage = .returned outcome → outcome = .ok ()

/-- A salt is not written over the one the database was created with, and the database is
created with the salt that is on disk. -/
def orderly (disk : Disk) : Stage → Action → Prop
  | .tested false, .loadOrCreateDbSalt drawn =>
      ∀ key, disk.database = some key → databaseKey crates passphrase drawn = .ok key
  | .keyed key, .createSchema =>
      disk.database = none →
        ∃ salt, disk.salt = some salt ∧ databaseKey crates passphrase salt = .ok key
  | _, _ => True

def Orderly (world : World) : Event → Prop
  | .begins _ => True
  | .acts id action =>
      ∀ call, world.calls id = some call → orderly crates passphrase world.disk call.stage action

/-- Where a call that began after a success stands, given the key of the database. -/
def Fits (key : String) : Stage → Prop
  | .tested found => found = true
  | .salted salt => databaseKey crates passphrase salt = .ok key
  | .keyed own => own = key
  | .returned outcome => outcome = .ok ()

structure Settled (world : World) : Prop where
  unopened : world.disk.database = none → world.succeeded = false ∧
    ∀ id call, world.calls id = some call → call.late = false ∧ succeeds call.stage = false
  opened : ∀ key, world.disk.database = some key → world.succeeded = true ∧
    (∃ salt, world.disk.salt = some salt ∧ databaseKey crates passphrase salt = .ok key) ∧
    ∀ id call, world.calls id = some call → call.late = true →
      Fits crates passphrase key call.stage

section Actions

variable {crates passphrase} {disk : Disk} {stage : Stage} {action : Action}

theorem proceed_of_opened {key : String} (hdatabase : disk.database = some key)
    (hsalt : ∃ salt, disk.salt = some salt ∧ databaseKey crates passphrase salt = .ok key)
    (horderly : orderly crates passphrase disk stage action) :
    (proceed crates passphrase disk stage action).1.database = some key ∧
      (∃ salt, (proceed crates passphrase disk stage action).1.salt = some salt ∧
        databaseKey crates passphrase salt = .ok key) ∧
      (Fits crates passphrase key stage →
        Fits crates passphrase key (proceed crates passphrase disk stage action).2) := by
  obtain ⟨salt, hfound, hkey⟩ := hsalt
  cases stage with
  | tested found =>
      cases found with
      | true => cases action <;> simp [proceed, hfound, hkey, hdatabase, Fits]
      | false =>
          cases action with
          | loadOrCreateDbSalt drawn =>
              refine ⟨hdatabase, ⟨drawn, rfl, horderly key hdatabase⟩, ?_⟩
              intro hfits
              cases hfits
          | _ => simp [proceed, hfound, hkey, hdatabase]
  | salted own =>
      cases action with
      | openDatabase =>
          simp only [proceed]
          cases hown : databaseKey crates passphrase own with
          | ok ownKey =>
              by_cases hopens : opens disk ownKey = true
              · simp only [hopens, if_true]
                refine ⟨hdatabase, ⟨salt, hfound, hkey⟩, ?_⟩
                intro hfits
                exact Outcome.ok.inj (hown.symm.trans hfits)
              · simp only [hopens]
                refine ⟨hdatabase, ⟨salt, hfound, hkey⟩, ?_⟩
                intro hfits
                obtain rfl : ownKey = key := Outcome.ok.inj (hown.symm.trans hfits)
                exact absurd (by simp [opens, hdatabase]) hopens
          | err error => simp [hfound, hkey, hdatabase, Fits, hown]
          | panicked => simp [hfound, hkey, hdatabase, Fits, hown]
      | _ => simp [proceed, hfound, hkey, hdatabase]
  | keyed own =>
      cases action with
      | createSchema =>
          simp only [proceed]
          by_cases hown : own = key
          · simp [opens, hdatabase, hown, hfound, hkey, Fits]
          · have hother : opens disk own = false := by simp [opens, hdatabase, Ne.symm hown]
            simp [hother, hdatabase, hown, hfound, hkey, Fits]
      | _ => simp [proceed, hfound, hkey, hdatabase]
  | returned outcome => cases action <;> simp [proceed, hfound, hkey, hdatabase]

theorem proceed_of_unopened (hdatabase : disk.database = none)
    (hstage : succeeds stage = false) (horderly : orderly crates passphrase disk stage action) :
    (proceed crates passphrase disk stage action).1.database = none ∧
        succeeds (proceed crates passphrase disk stage action).2 = false ∨
      succeeds (proceed crates passphrase disk stage action).2 = true ∧
        SaltOpens crates passphrase (proceed crates passphrase disk stage action).1 := by
  cases stage with
  | tested found =>
      left
      cases found with
      | true =>
          cases action with
          | loadOrCreateDbSalt drawn =>
              cases hsalt : disk.salt <;> simp [proceed, hsalt, hdatabase, succeeds]
          | _ => simp [proceed, hdatabase, succeeds]
      | false => cases action <;> simp [proceed, hdatabase, succeeds]
  | salted own =>
      left
      cases action with
      | openDatabase =>
          cases hown : databaseKey crates passphrase own <;>
            simp [proceed, hown, opens, hdatabase, succeeds]
      | _ => simp [proceed, hdatabase, succeeds]
  | keyed own =>
      cases action with
      | createSchema =>
          right
          obtain ⟨salt, hsalt, hkey⟩ := horderly hdatabase
          have hopens : opens disk own = true := by simp [opens, hdatabase]
          simp only [proceed, hopens, if_true]
          exact ⟨rfl, own, salt, rfl, hsalt, hkey⟩
      | _ => simp [proceed, hdatabase, succeeds]
  | returned outcome =>
      left
      cases action <;> exact ⟨hdatabase, hstage⟩

end Actions

section Worlds

variable {crates passphrase} {world : World}

theorem calls_setCall {id other : Nat} {call found : Call}
    (h : (world.setCall id call).calls other = some found) :
    found = call ∨ world.calls other = some found := by
  simp only [World.setCall] at h
  split at h
  · exact Or.inl (Option.some.inj h).symm
  · exact Or.inr h

theorem settled_begins (hsettled : Settled crates passphrase world) (id : Nat) :
    Settled crates passphrase (world.next crates passphrase (.begins id)) := by
  simp only [World.next]
  cases hcall : world.calls id with
  | some call => exact hsettled
  | none =>
      constructor
      · intro hdatabase
        obtain ⟨hsucceeded, hcalls⟩ := hsettled.unopened hdatabase
        refine ⟨hsucceeded, ?_⟩
        intro other found hfound
        rcases calls_setCall hfound with rfl | hold
        · exact ⟨hsucceeded, rfl⟩
        · exact hcalls other found hold
      · intro key hdatabase
        obtain ⟨hsucceeded, ⟨salt, hsalt, hkey⟩, hcalls⟩ := hsettled.opened key hdatabase
        refine ⟨hsucceeded, ⟨salt, hsalt, hkey⟩, ?_⟩
        intro other found hfound hlate
        rcases calls_setCall hfound with rfl | hold
        · simp [Fits, hsalt]
        · exact hcalls other found hold hlate

theorem settled_acts (hsettled : Settled crates passphrase world) {id : Nat} {action : Action}
    (horderly : Orderly crates passphrase world (.acts id action)) :
    Settled crates passphrase (world.next crates passphrase (.acts id action)) := by
  simp only [World.next]
  cases hcall : world.calls id with
  | none => exact hsettled
  | some call =>
      have horder := horderly call hcall
      cases hdatabase : world.disk.database with
      | none =>
          obtain ⟨hsucceeded, hcalls⟩ := hsettled.unopened hdatabase
          have hown := hcalls id call hcall
          rcases proceed_of_unopened hdatabase hown.2 horder with ⟨hstill, hnot⟩ | ⟨hnow, hopens⟩
          · constructor
            · intro _
              refine ⟨by simp [World.setCall, hsucceeded, hnot], ?_⟩
              intro other found hfound
              rcases calls_setCall hfound with rfl | hold
              · exact ⟨hown.1, hnot⟩
              · exact hcalls other found hold
            · intro key hkey
              exact absurd (hstill.symm.trans hkey) nofun
          · obtain ⟨key, salt, hcreated, hsalt, hkey⟩ := hopens
            constructor
            · intro hnone
              exact absurd (hcreated.symm.trans hnone) nofun
            · intro other hother
              obtain rfl : key = other := Option.some.inj (hcreated.symm.trans hother)
              refine ⟨by simp [World.setCall, hnow], ⟨salt, hsalt, hkey⟩, ?_⟩
              -- The first success is now, so no call has begun after one.
              intro otherId found hfound hlate
              have hnotLate : found.late = false := by
                rcases calls_setCall hfound with rfl | hold
                · exact hown.1
                · exact (hcalls otherId found hold).1
              rw [hnotLate] at hlate
              cases hlate
      | some key =>
          obtain ⟨hsucceeded, hsalt, hcalls⟩ := hsettled.opened key hdatabase
          obtain ⟨hstill, hsaltStill, hfits⟩ := proceed_of_opened hdatabase hsalt horder
          constructor
          · intro hnone
            exact absurd (hstill.symm.trans hnone) nofun
          · intro other hother
            obtain rfl : key = other := Option.some.inj (hstill.symm.trans hother)
            refine ⟨by simp [World.setCall, hsucceeded], hsaltStill, ?_⟩
            intro otherId found hfound hlate
            rcases calls_setCall hfound with rfl | hold
            · exact hfits (hcalls id call hcall hlate)
            · exact hcalls otherId found hold hlate

theorem settled_next (hsettled : Settled crates passphrase world) {event : Event}
    (horderly : Orderly crates passphrase world event) :
    Settled crates passphrase (world.next crates passphrase event) := by
  cases event with
  | begins id => exact settled_begins hsettled id
  | acts id action => exact settled_acts hsettled horderly

theorem unlockable_of_settled (hsettled : Settled crates passphrase world) :
    Unlockable crates passphrase world := by
  intro hsucceeded
  cases hdatabase : world.disk.database with
  | none =>
      rw [(hsettled.unopened hdatabase).1] at hsucceeded
      cases hsucceeded
  | some key =>
      obtain ⟨-, ⟨salt, hsalt, hkey⟩, hcalls⟩ := hsettled.opened key hdatabase
      refine ⟨⟨key, salt, hdatabase, hsalt, hkey⟩, ?_⟩
      intro id call outcome hcall hlate hstage
      have hfits := hcalls id call hcall hlate
      rw [hstage] at hfits
      exact hfits

/-- A step out of order leaves a salt on disk that does not open the database. -/
theorem orderly_of_unlockable_next (hsettled : Settled crates passphrase world) {event : Event}
    (hunlockable : Unlockable crates passphrase (world.next crates passphrase event)) :
    Orderly crates passphrase world event := by
  cases event with
  | begins id => trivial
  | acts id action =>
      intro call hcall
      obtain ⟨stage, late⟩ := call
      simp only [World.next, hcall] at hunlockable
      cases stage with
      | tested found =>
          cases found with
          | true => cases action <;> trivial
          | false =>
              cases action with
              | loadOrCreateDbSalt drawn =>
                  intro key hdatabase
                  obtain ⟨hsucceeded, -⟩ := hsettled.opened key hdatabase
                  obtain ⟨⟨other, salt, hother, hsalt, hkey⟩, -⟩ :=
                    hunlockable (by simp [World.setCall, hsucceeded])
                  obtain rfl : key = other := Option.some.inj (hdatabase.symm.trans hother)
                  obtain rfl : drawn = salt := Option.some.inj hsalt
                  exact hkey
              | openDatabase => trivial
              | createSchema => trivial
      | salted salt => cases action <;> trivial
      | keyed key =>
          cases action with
          | createSchema =>
              intro hdatabase
              have hopens : opens world.disk key = true := by simp [opens, hdatabase]
              simp only [proceed, hopens, if_true] at hunlockable
              obtain ⟨⟨other, salt, hother, hsalt, hkey⟩, -⟩ :=
                hunlockable (by simp [World.setCall, succeeds])
              obtain rfl : key = other := Option.some.inj hother
              exact ⟨salt, hsalt, hkey⟩
          | loadOrCreateDbSalt drawn => trivial
          | openDatabase => trivial
      | returned outcome => cases action <;> trivial

theorem settled_noFiles : Settled crates passphrase noFiles := by
  constructor
  · intro _
    exact ⟨rfl, nofun⟩
  · intro key hdatabase
    cases hdatabase

/-- In every state that a run of unlocking processes reaches, the salt on disk opens the
database and later calls succeed, exactly if all its steps are orderly. -/
theorem unlockable_iff_orderly (events : List Event) :
    (∀ world ∈ (run (openly (World.next crates passphrase)) noFiles events).2,
      Unlockable crates passphrase world) ↔
      Along (openly (World.next crates passphrase)) (Orderly crates passphrase) noFiles events := by
  refine @states_iff_along _ _ (World.next crates passphrase) _ (Settled crates passphrase) _ ?_ ?_
    noFiles settled_noFiles events
  · intro world event hsettled horderly
    exact settled_next hsettled horderly
  · intro world event hsettled
    constructor
    · exact orderly_of_unlockable_next hsettled
    · intro horderly
      exact unlockable_of_settled (settled_next hsettled horderly)

/-- Two calls find no salt; the second writes its own after the first has created the
database. A third call reads it, and is refused. -/
def saltOverwritten : List Event :=
  [.begins 0, .begins 1, .acts 0 (.loadOrCreateDbSalt (List.replicate 32 1)), .acts 0 .openDatabase,
    .acts 0 .createSchema, .acts 1 (.loadOrCreateDbSalt (List.replicate 32 2)), .begins 2,
    .acts 2 (.loadOrCreateDbSalt (List.replicate 32 3)), .acts 2 .openDatabase]

theorem saltOverwritten_locks_out :
    ((run (openly (World.next plainCrates [7])) noFiles saltOverwritten).1.calls 0 =
        some { stage := .returned (.ok ()), late := false }) ∧
      (run (openly (World.next plainCrates [7])) noFiles saltOverwritten).1.calls 2 =
        some { stage := .returned (.err notADatabase), late := true } ∧
      ¬ ∀ world ∈ (run (openly (World.next plainCrates [7])) noFiles saltOverwritten).2,
        Unlockable plainCrates [7] world := by
  have hfirst : (run (openly (World.next plainCrates [7])) noFiles saltOverwritten).1.calls 0 =
      some { stage := .returned (.ok ()), late := false } := by
    decide +kernel
  have hthird : (run (openly (World.next plainCrates [7])) noFiles saltOverwritten).1.calls 2 =
      some { stage := .returned (.err notADatabase), late := true } := by
    decide +kernel
  refine ⟨hfirst, hthird, ?_⟩
  intro hall
  have hlast : (run (openly (World.next plainCrates [7])) noFiles saltOverwritten).1 ∈
      (run (openly (World.next plainCrates [7])) noFiles saltOverwritten).2 := by
    simp [saltOverwritten, run_cons, openly]
  have hsucceeded :
      (run (openly (World.next plainCrates [7])) noFiles saltOverwritten).1.succeeded = true := by
    decide +kernel
  have hok := (hall _ hlast hsucceeded).2 2 _ _ hthird rfl rfl
  cases hok

end Worlds

end TrafficCone.FirstUnlock
