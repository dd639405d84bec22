import TrafficCone.BackupRoundTrip
import TrafficCone.KeyedMerging

namespace TrafficCone.RestoreIntoExisting

open TrafficCone.Outcomes
open TrafficCone.StoreModels
open TrafficCone.HexadecimalText
open TrafficCone.IndependentLoading
open TrafficCone.KeyedMerging
open TrafficCone.DatabaseTables
open TrafficCone.TableLoading
open TrafficCone.BackupArchives
open TrafficCone.BackupRestoring
open TrafficCone.CollectedPayloads
open TrafficCone.BackupRoundTrip

/-- The other route leads to a certificate with the same fingerprint and, if the first
has an application, to one with the same path. -/
def LeadsAlike (database : Database) (route : RouteRow) (otherDatabase : Database)
    (other : RouteRow) : Prop :=
  (∀ cert ∈ database.certs, cert.id = route.certId →
    ∃ found ∈ otherDatabase.certs,
      found.id = other.certId ∧ found.fingerprint = cert.fingerprint) ∧
  ∀ app ∈ database.apps, route.appId = some app.id →
    ∃ found ∈ otherDatabase.apps, other.appId = some found.id ∧ found.exePath = app.exePath

/-- Every route of the original is there, and leads where it did. -/
def RoutesKept (original restored : Database) : Prop :=
  ∀ route ∈ original.routes, ∃ other ∈ restored.routes,
    other.id = route.id ∧ LeadsAlike original route restored other

/-- What the certificate and the application of a route are under in the target. -/
def RouteFits (source target : Database) (route : RouteRow) : Prop :=
  (∀ other ∈ target.routes, other.id = route.id → LeadsAlike source route target other) ∧
  ((∀ other ∈ target.routes, other.id ≠ route.id) →
    (∀ cert ∈ source.certs, cert.id = route.certId →
      Agrees (·.fingerprint) (·.id) target.certs cert) ∧
    ∀ app ∈ source.apps, route.appId = some app.id → Agrees (·.exePath) (·.id) target.apps app)

def SshRouteFits (source target : Database) (route : SshRoute) : Prop :=
  (∃ other ∈ target.sshRoutes, other.id = route.id) ∨
    ∀ app ∈ source.apps, route.appId = some app.id →
      (∃ found ∈ target.apps, found.id = app.id) ∨
        ∀ found ∈ target.apps, found.exePath ≠ app.exePath

structure Compatible (source target : Database) : Prop where
  caCerts : ∀ row ∈ source.caCerts, Admitted (·.fingerprint) (·.id) target.caCerts row
  certs : ∀ row ∈ source.certs, Admitted (·.fingerprint) (·.id) target.certs row
  apps : ∀ row ∈ source.apps, Admitted (·.exePath) (·.id) target.apps row
  routes : ∀ route ∈ source.routes, RouteFits source target route
  sshRoutes : ∀ route ∈ source.sshRoutes, SshRouteFits source target route

section Tables

variable {ρ α : Type} {table : Table ρ} {idColumn column : String × (ρ → String)} {row : α → ρ}
  {session : Session}

theorem present_iff {entry : α} :
    present table column row session entry = true ↔
      ∃ other ∈ table.rows session.database, column.2 other = column.2 (row entry) := by
  simp [present]

/-- An entry is taken by a table with two unique columns and no references exactly if
it is admitted to its rows. -/
theorem takes_iff_admitted (hunique : table.unique = [idColumn, column]) {entry : α}
    (hreferences : table.references session.database (row entry) = true) :
    Takes table column row session entry ↔
      Admitted column.2 idColumn.2 (table.rows session.database) (row entry) := by
  unfold Takes Insertable Admitted
  rw [present_iff, Table.conflict_eq_none_iff, hunique]
  constructor
  · rintro (hpresent | ⟨hnone, -⟩)
    · exact Or.inl hpresent
    · exact Or.inr fun other hother hsame =>
        hnone idColumn (by simp) (hsame ▸ List.mem_map_of_mem hother)
  · rintro (hpresent | hunused)
    · exact Or.inl hpresent
    · by_cases hpresent :
          ∃ other ∈ table.rows session.database, column.2 other = column.2 (row entry)
      · exact Or.inl hpresent
      · refine Or.inr ⟨?_, hreferences⟩
        simp only [List.mem_cons, List.not_mem_nil, or_false, forall_eq_or_imp, forall_eq,
          List.mem_map, not_exists, not_and]
        exact ⟨hunused, fun other hother hsame => hpresent ⟨other, hother, hsame⟩⟩

theorem merged_absent (entries : List α) :
    Merged column.2 (table.rows session.database) (entries.map row)
      (table.rows session.database ++
        (absent (present table column row) session entries).map row) := by
  intro found
  simp only [List.mem_append, List.mem_map, absent, List.mem_filter, Bool.not_eq_true',
    Bool.eq_false_iff, ne_eq, present_iff]
  constructor
  · rintro (hold | ⟨entry, ⟨hentry, habsent⟩, rfl⟩)
    · exact Or.inl hold
    · exact Or.inr ⟨⟨entry, hentry, rfl⟩, fun other hother hsame => habsent ⟨other, hother, hsame⟩⟩
  · rintro (hold | ⟨⟨entry, hentry, rfl⟩, hother⟩)
    · exact Or.inl hold
    · exact Or.inr ⟨entry, ⟨hentry, fun ⟨other, hfound, hsame⟩ => hother other hfound hsame⟩, rfl⟩

end Tables

section Collected

variable {order : JoinOrder} {source target : Database} {exportedAt : Int}

def mergedInto (order : JoinOrder) (source target : Database) (exportedAt : Int) : Database :=
  merged (payloadOf order source exportedAt) { database := target, drawn := 0 }

theorem mergedInto_certs (hone : OneKeyEach source) :
    Merged (·.fingerprint) target.certs source.certs
      (mergedInto order source target exportedAt).certs := by
  have h := @merged_absent _ _ certs ("fingerprint", (·.fingerprint)) restoredCert
    { database := target, drawn := 0 } (order.rows source)
  exact h.of_perm (restoredCerts_perm order hone)

theorem mergedInto_apps :
    Merged (·.exePath) target.apps source.apps
      (mergedInto order source target exportedAt).apps := by
  have h := @merged_absent _ _ apps ("exe_path", (·.exePath)) appRow
    { database := target, drawn := 0 } (source.apps.map backupApp)
  rw [List.map_map, map_appRow_backupApp] at h
  exact h

theorem mergedInto_sshKeys :
    Merged (·.id) target.sshKeys source.sshKeys
      (mergedInto order source target exportedAt).sshKeys := by
  have h := @merged_absent _ _ sshKeys ("id", (·.id)) sshKeyRow
    { database := target, drawn := 0 } (source.sshKeys.map backupSshKey)
  rw [List.map_map, map_sshKeyRow_backupSshKey] at h
  exact h

theorem mergedInto_routes :
    Merged (·.id) target.routes (source.routes.map (routeRow ∘ backupRoute))
      (mergedInto order source target exportedAt).routes := by
  have h := @merged_absent _ _ routes ("id", (·.id)) routeRow
    { database := target, drawn := 0 } (source.routes.map backupRoute)
  rw [List.map_map] at h
  exact h

structure Admits (order : JoinOrder) (source target : Database) (exportedAt : Int) : Prop where
  caCerts : ∀ row ∈ source.caCerts, Admitted (·.fingerprint) (·.id) target.caCerts row
  certs : ∀ row ∈ source.certs, Admitted (·.fingerprint) (·.id) target.certs row
  apps : ∀ row ∈ source.apps, Admitted (·.exePath) (·.id) target.apps row
  routes : ∀ route ∈ source.routes, (∃ other ∈ target.routes, other.id = route.id) ∨
    routes.references (mergedInto order source target exportedAt) route = true
  sshRoutes : ∀ route ∈ source.sshRoutes, (∃ other ∈ target.sshRoutes, other.id = route.id) ∨
    sshRoutes.references (mergedInto order source target exportedAt) route = true

theorem accepts_iff_admits (hone : OneKeyEach source) :
    Accepts (payloadOf order source exportedAt) { database := target, drawn := 0 } ↔
      Admits order source target exportedAt := by
  have hcaCerts : (∀ entry ∈ source.caCerts.map backupCaCert, Takes caCerts
      ("fingerprint", (·.fingerprint)) caCertRow { database := target, drawn := 0 } entry) ↔
        ∀ row ∈ source.caCerts, Admitted (·.fingerprint) (·.id) target.caCerts row := by
    rw [List.forall_mem_map]
    exact forall₂_congr fun _ _ =>
      @takes_iff_admitted _ _ caCerts ("id", (·.id)) _ _ _ rfl _ rfl
  have hcerts : (∀ entry ∈ order.rows source,
      TakesCert { database := target, drawn := 0 } entry) ↔
        ∀ row ∈ source.certs, Admitted (·.fingerprint) (·.id) target.certs row := by
    simp only [← (restoredCerts_perm order hone).mem_iff, List.forall_mem_map]
    apply forall₂_congr
    intro entry hentry
    rw [TakesCert, and_iff_left (hexDecode_of_mem_rows hentry)]
    exact @takes_iff_admitted _ _ certs ("id", (·.id)) _ _ _ rfl _ rfl
  have happs : (∀ entry ∈ source.apps.map backupApp, Takes apps
      ("exe_path", (·.exePath)) appRow { database := target, drawn := 0 } entry) ↔
        ∀ row ∈ source.apps, Admitted (·.exePath) (·.id) target.apps row := by
    rw [List.forall_mem_map]
    exact forall₂_congr fun _ _ => @takes_iff_admitted _ _ apps ("id", (·.id)) _ _ _ rfl _ rfl
  have hroutes : (∀ entry ∈ source.routes.map backupRoute,
      routePresent { database := target, drawn := 0 } entry = true ∨
        routes.references (mergedInto order source target exportedAt) (routeRow entry) = true) ↔
      ∀ route ∈ source.routes, (∃ other ∈ target.routes, other.id = route.id) ∨
        routes.references (mergedInto order source target exportedAt) route = true := by
    rw [List.forall_mem_map]
    exact forall₂_congr fun _ _ => or_congr_left present_iff
  have hsshRoutes : (∀ entry ∈ source.sshRoutes.map backupSshRoute,
      sshRoutePresent { database := target, drawn := 0 } entry = true ∨
        sshRoutes.references (mergedInto order source target exportedAt)
          (sshRouteRow entry) = true) ↔
      ∀ route ∈ source.sshRoutes, (∃ other ∈ target.sshRoutes, other.id = route.id) ∨
        sshRoutes.references (mergedInto order source target exportedAt) route = true := by
    rw [List.forall_mem_map]
    exact forall₂_congr fun _ _ => or_congr_left present_iff
  constructor
  · intro h
    exact
      { caCerts := hcaCerts.mp h.caCerts
        certs := hcerts.mp h.certs
        apps := happs.mp h.apps
        routes := hroutes.mp h.routes
        sshRoutes := hsshRoutes.mp h.sshRoutes }
  · intro h
    exact
      { caCerts := hcaCerts.mpr h.caCerts
        certs := hcerts.mpr h.certs
        apps := happs.mpr h.apps
        routes := hroutes.mpr h.routes
        sshRoutes := hsshRoutes.mpr h.sshRoutes }

end Collected

section Routes

variable {order : JoinOrder} {source target : Database} {exportedAt : Int} {route : RouteRow}

/-- A restored route keeps its ids, so it leads where it did if these are still the ids
of its certificate and its application. -/
theorem leadsAlike_restored_iff (hone : OneKeyEach source) (htarget : WellFormed target) :
    LeadsAlike source route (mergedInto order source target exportedAt) route ↔
      (∀ cert ∈ source.certs, cert.id = route.certId →
        Agrees (·.fingerprint) (·.id) target.certs cert) ∧
      ∀ app ∈ source.apps, route.appId = some app.id →
        Agrees (·.exePath) (·.id) target.apps app := by
  have hfingerprints : (target.certs.map (·.fingerprint)).Nodup :=
    htarget.certs.1 ("fingerprint", (·.fingerprint)) (by simp [certs])
  have hpaths : (target.apps.map (·.exePath)).Nodup :=
    htarget.apps.1 ("exe_path", (·.exePath)) (by simp [apps])
  apply and_congr
  · apply forall₃_congr
    intro cert hcert hid
    rw [← hid]
    exact found_iff_agrees (mergedInto_certs hone) hfingerprints hcert
  · apply forall₃_congr
    intro app happ hid
    have hmerged := @mergedInto_apps order source target exportedAt
    rw [← found_iff_agrees hmerged hpaths happ]
    simp only [hid, Option.some.injEq, eq_comm]

theorem references_of_leadsAlike (hsource : WellFormed source) (hroute : route ∈ source.routes)
    {database : Database} (h : LeadsAlike source route database route) :
    routes.references database route = true := by
  have hrefers := hsource.routes.2 route hroute
  simp only [routes, referencesApp, Bool.and_eq_true, List.any_eq_true, decide_eq_true_eq]
    at hrefers ⊢
  obtain ⟨⟨cert, hcert, hid⟩, happ⟩ := hrefers
  obtain ⟨found, hfound, hfoundId, -⟩ := h.1 cert hcert hid
  refine ⟨⟨found, hfound, hfoundId⟩, ?_⟩
  cases happId : route.appId with
  | none => rfl
  | some appId =>
      simp only [happId, Option.all_some, List.any_eq_true, decide_eq_true_eq] at happ ⊢
      obtain ⟨app, hmem, rfl⟩ := happ
      obtain ⟨found, hfound, hfoundId, -⟩ := h.2 app hmem happId
      rw [happId, Option.some.injEq] at hfoundId
      exact ⟨found, hfound, hfoundId.symm⟩

theorem leadsAlike_present_iff (hone : OneKeyEach source) (htarget : WellFormed target)
    (hcerts : ∀ row ∈ source.certs, Admitted (·.fingerprint) (·.id) target.certs row)
    (happs : ∀ row ∈ source.apps, Admitted (·.exePath) (·.id) target.apps row)
    {other : RouteRow} (hother : other ∈ target.routes) :
    LeadsAlike source route (mergedInto order source target exportedAt) other ↔
      LeadsAlike source route target other := by
  have hrefers := htarget.routes.2 other hother
  simp only [routes, referencesApp, Bool.and_eq_true, List.any_eq_true, decide_eq_true_eq]
    at hrefers
  obtain ⟨⟨owner, howner, hownerId⟩, happ⟩ := hrefers
  apply and_congr
  · apply forall₃_congr
    intro cert _ _
    constructor
    · rintro ⟨found, hfound, hid, hfingerprint⟩
      exact ⟨found, mem_rows_of_identifier (mergedInto_certs hone) hcerts hfound howner
        (hid.trans hownerId.symm), hid, hfingerprint⟩
    · rintro ⟨found, hfound, hboth⟩
      exact ⟨found, (mergedInto_certs hone found).mpr (Or.inl hfound), hboth⟩
  · apply forall₃_congr
    intro app _ _
    constructor
    · rintro ⟨found, hfound, hid, hpath⟩
      simp only [hid, Option.all_some, List.any_eq_true, decide_eq_true_eq] at happ
      obtain ⟨present, hpresent, hpresentId⟩ := happ
      exact ⟨found, mem_rows_of_identifier mergedInto_apps happs hfound hpresent
        hpresentId.symm, hid, hpath⟩
    · rintro ⟨found, hfound, hboth⟩
      exact ⟨found, (mergedInto_apps found).mpr (Or.inl hfound), hboth⟩

theorem kept_present_iff (hone : OneKeyEach source) (htarget : WellFormed target)
    (hcerts : ∀ row ∈ source.certs, Admitted (·.fingerprint) (·.id) target.certs row)
    (happs : ∀ row ∈ source.apps, Admitted (·.exePath) (·.id) target.apps row)
    (hpresent : ∃ other ∈ target.routes, other.id = route.id) :
    (∃ other ∈ (mergedInto order source target exportedAt).routes, other.id = route.id ∧
      LeadsAlike source route (mergedInto order source target exportedAt) other) ↔
        RouteFits source target route := by
  obtain ⟨own, hown, hid⟩ := hpresent
  have hids : (target.routes.map (·.id)).Nodup :=
    htarget.routes.1 ("id", (·.id)) (by simp [routes])
  constructor
  · rintro ⟨other, hother, hotherId, hleads⟩
    have hold : other ∈ target.routes := by
      rcases (mergedInto_routes other).mp hother with hold | ⟨-, habsent⟩
      · exact hold
      · exact absurd (hid.trans hotherId.symm) (habsent own hown)
    refine ⟨?_, fun habsent => absurd hid (habsent own hown)⟩
    intro found hfound hfoundId
    obtain rfl := List.inj_on_of_nodup_map hids hfound hold (hfoundId.trans hotherId.symm)
    exact (leadsAlike_present_iff hone htarget hcerts happs hold).mp hleads
  · intro hfits
    exact ⟨own, (mergedInto_routes own).mpr (Or.inl hown), hid,
      (leadsAlike_present_iff hone htarget hcerts happs hown).mpr (hfits.1 own hown hid)⟩

theorem kept_absent_iff (hsource : WellFormed source) (hone : OneKeyEach source)
    (htarget : WellFormed target) (hroute : route ∈ source.routes)
    (habsent : ∀ other ∈ target.routes, other.id ≠ route.id) :
    (∃ other ∈ (mergedInto order source target exportedAt).routes, other.id = route.id ∧
      LeadsAlike source route (mergedInto order source target exportedAt) other) ↔
        RouteFits source target route := by
  have hids : (source.routes.map (·.id)).Nodup :=
    hsource.routes.1 ("id", (·.id)) (by simp [routes])
  have hfits : RouteFits source target route ↔
      LeadsAlike source route (mergedInto order source target exportedAt) route := by
    rw [leadsAlike_restored_iff hone htarget]
    constructor
    · exact fun h => h.2 habsent
    · exact fun h => ⟨fun other hother hid => absurd hid (habsent other hother), fun _ => h⟩
  rw [hfits]
  constructor
  · rintro ⟨other, hother, hotherId, hleads⟩
    -- A row with this id can only come from the backup, which has one.
    rcases (mergedInto_routes other).mp hother with hold | ⟨hnew, -⟩
    · exact absurd hotherId (habsent other hold)
    · obtain ⟨origin, horigin, rfl⟩ := List.mem_map.mp hnew
      obtain rfl := List.inj_on_of_nodup_map hids horigin hroute hotherId
      exact hleads
  · intro hleads
    exact ⟨routeRow (backupRoute route), (mergedInto_routes _).mpr
      (Or.inr ⟨List.mem_map_of_mem hroute, habsent⟩), rfl, hleads⟩

theorem kept_iff_fits (hsource : WellFormed source) (hone : OneKeyEach source)
    (htarget : WellFormed target)
    (hcerts : ∀ row ∈ source.certs, Admitted (·.fingerprint) (·.id) target.certs row)
    (happs : ∀ row ∈ source.apps, Admitted (·.exePath) (·.id) target.apps row)
    (hroute : route ∈ source.routes) :
    (∃ other ∈ (mergedInto order source target exportedAt).routes, other.id = route.id ∧
      LeadsAlike source route (mergedInto order source target exportedAt) other) ↔
        RouteFits source target route := by
  by_cases hpresent : ∃ other ∈ target.routes, other.id = route.id
  · exact kept_present_iff hone htarget hcerts happs hpresent
  · apply kept_absent_iff hsource hone htarget hroute
    intro other hother hid
    exact hpresent ⟨other, hother, hid⟩

theorem references_of_fits (hsource : WellFormed source) (hone : OneKeyEach source)
    (htarget : WellFormed target) (hroute : route ∈ source.routes)
    (hfits : RouteFits source target route) :
    (∃ other ∈ target.routes, other.id = route.id) ∨
      routes.references (mergedInto order source target exportedAt) route = true := by
  by_cases hpresent : ∃ other ∈ target.routes, other.id = route.id
  · exact Or.inl hpresent
  · right
    apply references_of_leadsAlike hsource hroute
    apply (leadsAlike_restored_iff hone htarget).mpr
    apply hfits.2
    intro other hother hid
    exact hpresent ⟨other, hother, hid⟩

end Routes

section SshRoutes

variable {order : JoinOrder} {source target : Database} {exportedAt : Int} {route : SshRoute}

theorem sshKey_restored (hsource : WellFormed source) (hroute : route ∈ source.sshRoutes) :
    (mergedInto order source target exportedAt).sshKeys.any (fun key => key.id = route.sshKeyId) =
      true := by
  have hrefers := hsource.sshRoutes.2 route hroute
  simp only [sshRoutes, Bool.and_eq_true, List.any_eq_true, decide_eq_true_eq] at hrefers
  obtain ⟨⟨key, hkey, hid⟩, -⟩ := hrefers
  have hids : (source.sshKeys.map (·.id)).Nodup :=
    hsource.sshKeys.1 ("id", (·.id)) (by simp [sshKeys])
  obtain ⟨found, hfound, hfoundId⟩ :=
    (identifier_mem_merged_iff (@mergedInto_sshKeys order source target exportedAt) hids hkey).mpr
      ((em _).imp_right fun habsent other hother hsame => habsent ⟨other, hother, hsame⟩)
  exact List.any_eq_true.mpr ⟨found, hfound, decide_eq_true (hfoundId.trans hid)⟩

theorem sshRoute_accepted_iff (hsource : WellFormed source) (hroute : route ∈ source.sshRoutes) :
    ((∃ other ∈ target.sshRoutes, other.id = route.id) ∨
      sshRoutes.references (mergedInto order source target exportedAt) route = true) ↔
        SshRouteFits source target route := by
  have hids : (source.apps.map (·.id)).Nodup := hsource.apps.1 ("id", (·.id)) (by simp [apps])
  have hrefers := hsource.sshRoutes.2 route hroute
  apply or_congr_right
  change ((mergedInto order source target exportedAt).sshKeys.any
    (fun key => key.id = route.sshKeyId) &&
    referencesApp (mergedInto order source target exportedAt) route.appId) = true ↔ _
  rw [sshKey_restored hsource hroute, Bool.true_and]
  cases happId : route.appId with
  | none => simp [referencesApp]
  | some appId =>
      simp only [sshRoutes, referencesApp, happId, Bool.and_eq_true, Option.all_some,
        List.any_eq_true, decide_eq_true_eq] at hrefers ⊢
      obtain ⟨-, app, happ, rfl⟩ := hrefers
      rw [identifier_mem_merged_iff mergedInto_apps hids happ]
      constructor
      · intro h other hother hid
        rw [Option.some.injEq] at hid
        rwa [← List.inj_on_of_nodup_map hids happ hother hid]
      · exact fun h => h app happ rfl

end SshRoutes

section Restore

variable {codec : BackupCodec} {order : JoinOrder} {host : Host} {password : String}
  {backup : Bytes} {source target : Database} {exportedAt : Int} {master : Bytes}

theorem admits_of_compatible (hsource : WellFormed source) (hone : OneKeyEach source)
    (htarget : WellFormed target) (h : Compatible source target) :
    Admits order source target exportedAt where
  caCerts := h.caCerts
  certs := h.certs
  apps := h.apps
  routes route hroute := references_of_fits hsource hone htarget hroute (h.routes route hroute)
  sshRoutes route hroute := (sshRoute_accepted_iff hsource hroute).mpr (h.sshRoutes route hroute)

theorem compatible_iff (hsource : WellFormed source) (hone : OneKeyEach source)
    (htarget : WellFormed target) :
    (Admits order source target exportedAt ∧
      RoutesKept source (mergedInto order source target exportedAt)) ↔
      Compatible source target := by
  constructor
  · rintro ⟨hadmits, hkept⟩
    exact
      { caCerts := hadmits.caCerts
        certs := hadmits.certs
        apps := hadmits.apps
        routes := fun route hroute =>
          (kept_iff_fits hsource hone htarget hadmits.certs hadmits.apps hroute).mp
            (hkept route hroute)
        sshRoutes := fun route hroute =>
          (sshRoute_accepted_iff hsource hroute).mp (hadmits.sshRoutes route hroute) }
  · intro h
    refine ⟨admits_of_compatible hsource hone htarget h, ?_⟩
    intro route hroute
    exact (kept_iff_fits hsource hone htarget h.certs h.apps hroute).mpr (h.routes route hroute)

/-- A restore goes through with all routes leading where they did exactly if the two
stores are compatible. -/
theorem restore_keeps_routes_iff
    (hread : ∃ text, codec.decrypt password backup = .ok text ∧
      codec.fromSlice text = .ok (payloadOf order source exportedAt))
    (hsource : WellFormed source) (hone : OneKeyEach source) (htarget : WellFormed target)
    (hfresh : FreshIds host { database := target, drawn := 0 }) :
    (∃ result restored, restoreBackup codec host backup password (.unlocked target master) =
      (.ok result, .unlocked restored master) ∧ RoutesKept source restored) ↔
        Compatible source target := by
  have hdistinct := distinct_payloadOf order hsource hone exportedAt
  rw [← @compatible_iff order _ _ exportedAt hsource hone htarget, ← accepts_iff_admits hone,
    restoreBackup_eq hread]
  constructor
  · rintro ⟨result, restored, hrun, hkept⟩
    rcases hpayload : restorePayload host (payloadOf order source exportedAt)
      { database := target, drawn := 0 } with ⟨outcome, session⟩
    rw [withConn_unlocked hpayload, Prod.mk.injEq, Store.unlocked.injEq] at hrun
    obtain ⟨rfl, rfl, -⟩ := hrun
    obtain ⟨haccepts, hfinal⟩ := of_restorePayload_ok hfresh hdistinct hpayload
    rw [hfinal] at hkept
    exact ⟨haccepts, hkept⟩
  · rintro ⟨haccepts, hkept⟩
    obtain ⟨result, session, hpayload⟩ := restorePayload_ok_of_accepts hfresh hdistinct haccepts
    refine ⟨result, session.database, withConn_unlocked hpayload master, ?_⟩
    rw [(of_restorePayload_ok hfresh hdistinct hpayload).2]
    exact hkept

def renamedDatabase : Database :=
  { certs := [
      { id := "x9", label := "office", certDer := [0x30, 0x82], fingerprint := "aa11"
        subject := "CN=office", issuer := "CN=ca", notBefore := 0, notAfter := 100
        createdAt := 77 }]
    keys := [
      { id := "k9", certId := "x9", algorithm := "EcP256", keyEnc := [5], keySalt := [6]
        keyNonce := [7] }] }

theorem wellFormed_renamedDatabase : WellFormed renamedDatabase := by
  constructor <;> constructor <;> decide

theorem freshIds_renamedDatabase :
    FreshIds countingHost { database := renamedDatabase, drawn := 0 } where
  distinct := countingHost_distinct
  notKeys index _ h := by
    have hkey : countingHost.newId index = "k9" := by simpa [renamedDatabase] using h
    have hletter := congrArg (fun text => text.toList.head?) hkey
    simp [countingHost, List.replicate_succ] at hletter
  notAudit := by simp [renamedDatabase]

theorem restore_keeps_routes_iff_renamed :
    (∃ result restored, restoreBackup (onePayload officePayload) countingHost
      (asBytes "pwjson") "pw" (.unlocked renamedDatabase [1]) =
        (.ok result, .unlocked restored [1]) ∧ RoutesKept officeDatabase restored) ↔
          Compatible officeDatabase renamedDatabase :=
  restore_keeps_routes_iff (onePayload_reads _) portable_officeDatabase.wellFormed
    portable_officeDatabase.oneKeyEach wellFormed_renamedDatabase freshIds_renamedDatabase

/-- There the restore fails, although all constraints and the ids are in order. -/
theorem restore_fails_on_renamed_certificate :
    WellFormed officeDatabase ∧ OneKeyEach officeDatabase ∧ WellFormed renamedDatabase ∧
      OneKeyEach renamedDatabase ∧
      FreshIds countingHost { database := renamedDatabase, drawn := 0 } ∧
      (restoreBackup (onePayload officePayload) countingHost (asBytes "pwjson") "pw"
        (.unlocked renamedDatabase [1])).1 =
          .err (.database "FOREIGN KEY constraint failed") ∧
      ¬ ∃ result restored, restoreBackup (onePayload officePayload) countingHost
        (asBytes "pwjson") "pw" (.unlocked renamedDatabase [1]) =
          (.ok result, .unlocked restored [1]) ∧ RoutesKept officeDatabase restored := by
  have hfails : (restoreBackup (onePayload officePayload) countingHost
      (asBytes "pwjson") "pw" (.unlocked renamedDatabase [1])).1 =
        .err (.database "FOREIGN KEY constraint failed") := by decide
  refine ⟨portable_officeDatabase.wellFormed, portable_officeDatabase.oneKeyEach,
    wellFormed_renamedDatabase, ?_, freshIds_renamedDatabase, hfails, ?_⟩
  · simp [OneKeyEach, renamedDatabase]
  · rintro ⟨result, restored, hrun, -⟩
    rw [hrun] at hfails
    cases hfails

end Restore

end TrafficCone.RestoreIntoExisting
