import Mathlib.Data.List.Infix
import Mathlib.Data.List.Nodup
import TrafficCone.StoreCommands

namespace TrafficCone.RouteRemoval

open TrafficCone.Outcomes
open TrafficCone.StoreModels
open TrafficCone.StoreListing
open TrafficCone.DatabaseTables
open TrafficCone.BackupArchives
open TrafficCone.StoreCommands

section Patterns

variable {letter other : Char} {pattern text : List Char}

theorem like_cons_cons (hany : letter ≠ '%') (hone : letter ≠ '_') :
    like (letter :: pattern) (other :: text) =
      (decide (letter.toLower = other.toLower) && like pattern text) := by
  simp [like]

theorem like_cons_nil (hany : letter ≠ '%') : like (letter :: pattern) [] = false := by
  simp [like]

theorem like_any (text : List Char) : like ['%'] text = true := by
  rw [like, List.any_eq_true]
  exact ⟨[], by simp, rfl⟩

/-- A letter that is no wildcard has to be met in the text, in either case. -/
theorem exists_of_like (hany : letter ≠ '%') (hone : letter ≠ '_') (hletter : letter ∈ pattern)
    (h : like pattern text = true) : ∃ other ∈ text, letter.toLower = other.toLower := by
  induction pattern generalizing text with
  | nil => cases hletter
  | cons first pattern ih =>
      by_cases hpercent : first = '%'
      · subst hpercent
        rw [like, List.any_eq_true] at h
        obtain ⟨tail, htail, h⟩ := h
        rcases List.mem_cons.mp hletter with rfl | hletter
        · exact absurd rfl hany
        · obtain ⟨other, hother, hcase⟩ := ih hletter h
          exact ⟨other, ((List.mem_tails _ _).mp htail).subset hother, hcase⟩
      · cases text with
        | nil =>
            rw [like_cons_nil hpercent] at h
            cases h
        | cons other text =>
            by_cases hunderscore : first = '_'
            · subst hunderscore
              rw [like] at h
              rcases List.mem_cons.mp hletter with rfl | hletter
              · exact absurd rfl hone
              · obtain ⟨found, hfound, hcase⟩ := ih hletter h
                exact ⟨found, List.mem_cons_of_mem _ hfound, hcase⟩
            · rw [like_cons_cons hpercent hunderscore, Bool.and_eq_true, decide_eq_true_eq] at h
              rcases List.mem_cons.mp hletter with rfl | hletter
              · exact ⟨other, List.mem_cons_self, h.1⟩
              · obtain ⟨found, hfound, hcase⟩ := ih hletter h.2
                exact ⟨found, List.mem_cons_of_mem _ hfound, hcase⟩

def hexDigits : List Char := "0123456789abcdef".toList

def isHex (letters : List Char) : Bool := letters.all hexDigits.contains

theorem isHex_iff {letters : List Char} :
    isHex letters = true ↔ ∀ letter ∈ letters, letter ∈ hexDigits := by
  simp [isHex]

theorem of_mem_hexDigits (h : letter ∈ hexDigits) :
    letter.toLower = letter ∧ letter ≠ '%' ∧ letter ≠ '_' := by
  have hall : hexDigits.all (fun letter =>
      decide (letter.toLower = letter ∧ letter ≠ '%' ∧ letter ≠ '_')) = true := by
    decide +kernel
  exact of_decide_eq_true (List.all_eq_true.mp hall letter h)

/-- Between texts in lower case, a pattern without wildcards but the last is a prefix. -/
theorem like_append_any_iff (hpattern : ∀ letter ∈ pattern, letter ∈ hexDigits)
    (htext : ∀ letter ∈ text, letter ∈ hexDigits) :
    like (pattern ++ ['%']) text = true ↔ pattern <+: text := by
  induction pattern generalizing text with
  | nil => simp [like_any]
  | cons letter pattern ih =>
      rw [List.forall_mem_cons] at hpattern
      obtain ⟨hlower, hany, hone⟩ := of_mem_hexDigits hpattern.1
      cases text with
      | nil => simp [like_cons_nil hany]
      | cons other text =>
          rw [List.forall_mem_cons] at htext
          rw [List.cons_append, like_cons_cons hany hone, Bool.and_eq_true, decide_eq_true_eq,
            hlower, (of_mem_hexDigits htext.1).1, ih hpattern.2 htext.2, List.cons_prefix_cons]

end Patterns

section Removing

/-- What the program gives to its rows as ids. -/
def IsId (id : String) : Prop := id.toList.length = 32 ∧ ∀ letter ∈ id.toList, letter ∈ hexDigits

/-- At most one route is gone, and one that is gone begins with the argument. -/
structure RemovesNamed (id : String) (database after : Database) : Prop where
  others : after = { database with routes := after.routes }
  sublist : after.routes.Sublist database.routes
  atMostOne : database.routes.length ≤ after.routes.length + 1
  named : ∀ row ∈ database.routes, row ∉ after.routes → id.toList <+: row.id.toList

/-- An argument of digits begins at most one id; any other argument is the pattern of none. -/
def NamesOne (id : String) (rows : List RouteRow) : Prop :=
  if isHex id.toList then
    (rows.filter fun row => id.toList.isPrefixOf row.id.toList).length ≤ 1
  else ∀ row ∈ rows, like (id ++ "%").toList row.id.toList = false

variable {id : String} {database : Database}

theorem routeRemove_unlocked (id : String) (database : Database) (master : Bytes) :
    routeRemove id (.unlocked database master) =
      (.ok ["Route removed."],
        .unlocked { database with routes := database.routes.filter fun row => !removes id row }
          master) :=
  rfl

theorem toList_append_any (id : String) : (id ++ "%").toList = id.toList ++ ['%'] := by
  rw [String.toList_append]
  rfl

/-- Of rows with ids, those go whose id is like the pattern. -/
theorem removes_eq_like {row : RouteRow} (hrow : IsId row.id) :
    removes id row = like (id ++ "%").toList row.id.toList := by
  rw [removes]
  by_cases hsame : row.id = id
  · subst hsame
    have hlike : like (row.id ++ "%").toList row.id.toList = true := by
      rw [toList_append_any, like_append_any_iff hrow.2 hrow.2]
    rw [hlike, Bool.or_true]
  · rw [decide_eq_false hsame, Bool.false_or]

theorem removes_eq_isPrefixOf {row : RouteRow} (hrow : IsId row.id)
    (hid : ∀ letter ∈ id.toList, letter ∈ hexDigits) :
    removes id row = id.toList.isPrefixOf row.id.toList := by
  rw [removes_eq_like hrow, toList_append_any, Bool.eq_iff_iff, like_append_any_iff hid hrow.2,
    List.isPrefixOf_iff_prefix]

theorem length_filter_not (p : RouteRow → Bool) (rows : List RouteRow) :
    rows.length = (rows.filter fun row => !p row).length + (rows.filter p).length := by
  rw [Nat.add_comm, List.length_eq_length_filter_add p]

/-- What goes is at most one row, and one that begins with the argument. -/
def RemovesOne (id : String) (rows : List RouteRow) : Prop :=
  (rows.filter (removes id)).length ≤ 1 ∧
    ∀ row ∈ rows, removes id row = true → id.toList <+: row.id.toList

theorem removesNamed_iff :
    RemovesNamed id database
        { database with routes := database.routes.filter fun row => !removes id row } ↔
      RemovesOne id database.routes := by
  have hlength := length_filter_not (removes id) database.routes
  constructor
  · rintro ⟨-, -, hone, hnamed⟩
    dsimp only at hone hnamed
    constructor
    · omega
    · intro row hrow hremoves
      apply hnamed row hrow
      simp [hremoves]
  · rintro ⟨hone, hnamed⟩
    refine ⟨rfl, List.filter_sublist, ?_, ?_⟩
    · dsimp only
      omega
    · intro row hrow hgone
      apply hnamed row hrow
      simpa [hrow] using hgone

theorem namesOne_iff (hids : ∀ row ∈ database.routes, IsId row.id) :
    NamesOne id database.routes ↔ RemovesOne id database.routes := by
  rw [NamesOne]
  split
  · rename_i hid
    rw [isHex_iff] at hid
    have hsame : database.routes.filter (removes id) =
        database.routes.filter fun row => id.toList.isPrefixOf row.id.toList :=
      List.filter_congr fun row hrow => removes_eq_isPrefixOf (hids row hrow) hid
    rw [RemovesOne, hsame, and_iff_left]
    intro row hrow hremoves
    rw [removes_eq_isPrefixOf (hids row hrow) hid] at hremoves
    exact List.isPrefixOf_iff_prefix.mp hremoves
  · rename_i hid
    rw [isHex_iff] at hid
    constructor
    · intro hnone
      have hkept : ∀ row ∈ database.routes, ¬ removes id row = true := by
        intro row hrow
        rw [removes_eq_like (hids row hrow), hnone row hrow]
        exact Bool.false_ne_true
      constructor
      · rw [List.filter_eq_nil_iff.mpr hkept]
        exact Nat.zero_le 1
      · exact fun row hrow hremoves => absurd hremoves (hkept row hrow)
    · rintro ⟨-, hnamed⟩ row hrow
      rw [← removes_eq_like (hids row hrow), Bool.eq_false_iff]
      intro hremoves
      apply hid
      intro letter hletter
      exact (hids row hrow).2 letter ((hnamed row hrow hremoves).subset hletter)

/-- No more than the one route that is named goes exactly if the argument names one. -/
theorem removes_named_iff (hids : ∀ row ∈ database.routes, IsId row.id) (id : String)
    (master : Bytes) :
    (∃ lines after, routeRemove id (.unlocked database master) =
        (.ok lines, .unlocked after master) ∧ RemovesNamed id database after) ↔
      NamesOne id database.routes := by
  rw [namesOne_iff hids, ← removesNamed_iff]
  constructor
  · rintro ⟨lines, after, hremoved, hnamed⟩
    rw [routeRemove_unlocked] at hremoved
    obtain ⟨-, hafter⟩ := Prod.mk.inj hremoved
    obtain ⟨rfl, -⟩ := Store.unlocked.inj hafter
    exact hnamed
  · intro hnamed
    exact ⟨_, _, routeRemove_unlocked id database master, hnamed⟩

/-- With a letter that is neither a digit nor a wildcard, nothing is removed. -/
theorem namesOne_of_foreign (hids : ∀ row ∈ database.routes, IsId row.id) {letter : Char}
    (hletter : letter ∈ id.toList) (hany : letter ≠ '%') (hone : letter ≠ '_')
    (hforeign : letter.toLower ∉ hexDigits) : NamesOne id database.routes := by
  have hid : ¬ isHex id.toList = true := by
    intro hid
    have hdigit := isHex_iff.mp hid letter hletter
    rw [(of_mem_hexDigits hdigit).1] at hforeign
    exact hforeign hdigit
  rw [NamesOne, if_neg hid]
  intro row hrow
  rw [Bool.eq_false_iff]
  intro hlike
  rw [toList_append_any] at hlike
  obtain ⟨other, hother, hcase⟩ :=
    exists_of_like hany hone (List.mem_append_left _ hletter) hlike
  have hdigit := (hids row hrow).2 other hother
  rw [hcase, (of_mem_hexDigits hdigit).1] at hforeign
  exact hforeign hdigit

/-- The whole id of a route names it. -/
theorem namesOne_of_id (hids : ∀ row ∈ database.routes, IsId row.id)
    (hsound : routes.Sound database) (hid : IsId id) : NamesOne id database.routes := by
  rw [NamesOne, if_pos (isHex_iff.mpr hid.2)]
  have hsame : database.routes.filter (fun row => id.toList.isPrefixOf row.id.toList) =
      database.routes.filter fun row => row.id = id := by
    refine List.filter_congr fun row hrow => ?_
    rw [Bool.eq_iff_iff, List.isPrefixOf_iff_prefix, decide_eq_true_eq]
    constructor
    · intro hleading
      have hlength : id.toList.length = row.id.toList.length := by
        rw [hid.1, (hids row hrow).1]
      exact String.toList_inj.mp (hleading.eq_of_length hlength).symm
    · rintro rfl
      exact List.prefix_rfl
  have hnodup : (database.routes.map (·.id)).Nodup := hsound.1 ("id", (·.id)) List.mem_cons_self
  have hcount := List.nodup_iff_count_le_one.mp hnodup id
  rw [List.count_eq_countP, List.countP_map, List.countP_eq_length_filter] at hcount
  rw [hsame]
  refine le_of_eq_of_le (congrArg List.length (List.filter_congr fun row _ => ?_)) hcount
  rfl

end Removing

section Wildcards

def routeOf (letter : Char) : RouteRow :=
  { id := String.ofList (List.replicate 32 letter)
    certId := "c1"
    appId := none
    matchType := "hostname"
    pattern := none
    requireBoth := 0
    priority := 0
    createdAt := 0 }

def twoRoutesDatabase : Database :=
  { certs := [
      { id := "c1", label := "Laptop", certDer := [48], fingerprint := "f1", subject := "CN=laptop",
        issuer := "CN=ca", notBefore := 0, notAfter := 1, createdAt := 0 }]
    routes := [routeOf 'a', routeOf 'b'] }

theorem isId_routeOf {letter : Char} (h : letter ∈ hexDigits) : IsId (routeOf letter).id := by
  simp [IsId, routeOf, h]

theorem isId_of_twoRoutes : ∀ row ∈ twoRoutesDatabase.routes, IsId row.id := by
  intro row hrow
  simp only [twoRoutesDatabase, List.mem_cons, List.not_mem_nil, or_false] at hrow
  obtain rfl | rfl := hrow
  · exact isId_routeOf (by decide)
  · exact isId_routeOf (by decide)

/-- The route that begins with `a` is removed, and the other one stays. -/
theorem removes_named_in_twoRoutes :
    ∃ lines after, routeRemove "a" (.unlocked twoRoutesDatabase [7]) =
      (.ok lines, .unlocked after [7]) ∧ RemovesNamed "a" twoRoutesDatabase after :=
  (removes_named_iff isId_of_twoRoutes "a" [7]).mpr (by unfold NamesOne; decide +kernel)

/-- One underscore removes all routes, of which none begins with one. -/
theorem underscore_removes_all_routes :
    (routeRemove "_" (.unlocked twoRoutesDatabase [7])).2 =
        .unlocked { twoRoutesDatabase with routes := [] } [7] ∧
      routes.Sound twoRoutesDatabase ∧ (∀ row ∈ twoRoutesDatabase.routes, IsId row.id) ∧
      ¬ ∃ lines after, routeRemove "_" (.unlocked twoRoutesDatabase [7]) =
        (.ok lines, .unlocked after [7]) ∧ RemovesNamed "_" twoRoutesDatabase after := by
  have hremoved : routeRemove "_" (.unlocked twoRoutesDatabase [7]) =
      (.ok ["Route removed."], .unlocked { twoRoutesDatabase with routes := [] } [7]) := by
    decide +kernel
  refine ⟨congrArg Prod.snd hremoved, ⟨by decide +kernel, by decide +kernel⟩,
    isId_of_twoRoutes, ?_⟩
  rintro ⟨lines, after, hafter, hnamed⟩
  obtain ⟨-, hstore⟩ := Prod.mk.inj (hremoved.symm.trans hafter)
  obtain ⟨rfl, -⟩ := Store.unlocked.inj hstore
  have hone := hnamed.atMostOne
  exact absurd hone (by decide)

end Wildcards

end TrafficCone.RouteRemoval
