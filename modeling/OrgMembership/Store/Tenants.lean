import OrgMembership.Store.Access

/-!
# Queries on tenants

The statements of the repositories of tenants, tenant departments, department
role labels and the trial signup ledger.  A multi-row `DELETE` is two steps: the
scan that finds its rows and the delete of each row, which waits for the row.
-/

namespace OrgMembership

open Relational

/-- The columns an `INSERT INTO tenants` sets. -/
structure TenantInsert where
  id : Uuid
  slug : String
  name : String
  plan : TenantPlan
  status : SubscriptionStatus
  trialEndsAt : Option Int
  realmID : String
  realmType : RealmType
  keycloakShard : String
  mfaFreshnessSeconds : Int
  localAccountsEnabled : Bool
  defaultLocale : String
  licensedSeats : Int
  deriving DecidableEq

/-- The row an `INSERT INTO tenants` would add, with the column defaults. -/
def TenantInsert.row (now : Int) (values : TenantInsert) : Tenant where
  id := values.id
  slug := values.slug
  name := values.name
  plan := values.plan
  status := values.status
  trialEndsAt := values.trialEndsAt.map pgTime
  trialReactivationCount := 0
  subscriptionStartedAt := none
  cancelledAt := none
  suspensionSource := none
  lastEventAt := none
  realmID := values.realmID
  realmType := values.realmType
  keycloakShard := values.keycloakShard
  mfaFreshnessSeconds := values.mfaFreshnessSeconds
  localAccountsEnabled := values.localAccountsEnabled
  realmSyncPending := false
  defaultLocale := values.defaultLocale
  licensedSeats := values.licensedSeats
  ownerlessSince := none
  overageSince := none
  residencyMode := .standard
  recordVersion := 1
  createdAt := now
  updatedAt := now
  deletedAt := none

/-- No other tenant has the row's slug or its dedicated realm. -/
def tenantUnique (db : Db) (row : Tenant) : List (Constraint × Bool) :=
  [(.uqTenantsSlug,
      ((db.tenants.first? fun other => other.id ≠ row.id && other.slug = row.slug)).isNone),
    (.uqTenantsRealmIDDedicated,
      row.realmType ≠ .dedicated ||
        (db.tenants.first? fun other =>
          other.id ≠ row.id && other.realmType = .dedicated && other.realmID = row.realmID).isNone)]

/-- The new version of a row under the trigger, the CHECK constraints and the
unique indexes. -/
def updateTenant (db : Db) (computed : Except PgError Tenant) : Except PgError Tenant :=
  match computed with
  | .error error => .error error
  | .ok row =>
      match firstViolated (tenantUnique db row) with
      | none => .ok row
      | some error => .error error

/-- The settings a P-2 request changes, and the version it changes. -/
structure TenantPatch where
  name : Option String
  defaultLocale : Option String
  localAccountsEnabled : Option Bool
  mfaFreshnessSeconds : Option Int
  residencyMode : Option ResidencyMode
  recordVersion : Int
  deriving DecidableEq

/-- Whether a request changes nothing. -/
def TenantPatch.isEmpty (patch : TenantPatch) : Bool :=
  patch.name.isNone && patch.defaultLocale.isNone && patch.localAccountsEnabled.isNone &&
    patch.mfaFreshnessSeconds.isNone && patch.residencyMode.isNone

/-- An `UPDATE` of one tenants row besides the lifecycle patches, with its arguments. -/
inductive TenantUpdate
  | patch (values : TenantPatch)
  | setFeatureFlags (flags : String) (expectedVersion : Int)
  | setRealmFields (realmID : String) (realmType : RealmType) (keycloakShard : String)
      (expectedVersion : Int)
  | setRealmSyncPending
  | clearRealmSyncPending
  | clearOwnerlessSince
  | setOverageSince (since : Option Int)
  deriving DecidableEq

namespace TenantUpdate

/-- The condition of the update besides the row's id. -/
def selects (tenant : Tenant) : TenantUpdate → Bool
  | patch values => tenant.recordVersion = values.recordVersion && tenant.live
  | setFeatureFlags _ expectedVersion => tenant.recordVersion = expectedVersion && tenant.live
  | setRealmFields _ _ _ expectedVersion => tenant.recordVersion = expectedVersion
  | setRealmSyncPending => tenant.live
  | clearRealmSyncPending | clearOwnerlessSince | setOverageSince _ => true

/-- The columns the update sets. -/
def set (tenant : Tenant) : TenantUpdate → Tenant
  | patch values =>
      { tenant with
        name := values.name.getD tenant.name
        defaultLocale := values.defaultLocale.getD tenant.defaultLocale
        localAccountsEnabled := values.localAccountsEnabled.getD tenant.localAccountsEnabled
        mfaFreshnessSeconds := values.mfaFreshnessSeconds.getD tenant.mfaFreshnessSeconds
        residencyMode := values.residencyMode.getD tenant.residencyMode }
  | setFeatureFlags flags _ => { tenant with featureFlags := flags }
  | setRealmFields realmID realmType keycloakShard _ =>
      { tenant with realmID, realmType, keycloakShard }
  | setRealmSyncPending => { tenant with realmSyncPending := true }
  | clearRealmSyncPending => { tenant with realmSyncPending := false }
  | clearOwnerlessSince => { tenant with ownerlessSince := none }
  | setOverageSince since => { tenant with overageSince := since.map pgTime }

@[simp]
theorem set_id (tenant : Tenant) (update : TenantUpdate) : (update.set tenant).id = tenant.id := by
  cases update <;> rfl

@[simp]
theorem set_live (tenant : Tenant) (update : TenantUpdate) :
    (update.set tenant).live = tenant.live := by
  cases update <;> rfl

end TenantUpdate

/-- The default labels of a tenant's department roles. -/
def seededLabels : List (DeptRole × String) :=
  [(.preparator, "Preparator"), (.reviewer, "Reviewer"), (.approver, "Approver")]

/-- The order in which a query without `ORDER BY` returns its rows. -/
structure RowOrder where
  arrange : List Uuid → List Uuid
  perm : ∀ ids, (arrange ids).Perm ids

/-- The statements on `tenants` and the tables of a tenant's settings. -/
inductive TenantQuery
  | findByID (id : Uuid)
  | findByIDIncludingDeleted (id : Uuid)
  /-- `SELECT … WHERE id = $1 AND deleted_at IS NULL FOR UPDATE`. -/
  | lockLive (id : Uuid)
  | insert (values : TenantInsert)
  | applyLifecyclePatch (id : Uuid) (patch : LifecyclePatch)
  | setLastEventAt (id : Uuid) (timestamp : Int)
  | markOwnerlessIfUnset (id : Uuid)
  | update (id : Uuid) (update : TenantUpdate)
  | listRealmSyncPending (limit : Nat)
  | listSeatOverageCandidates (order : RowOrder) (limit : Nat)
  | listExpiredTrialTenants (graceDays : Int) (limit : Nat)
  | hardDeleteTenant (id : Uuid)
  | findDept (tenantID departmentID : Uuid)
  | activateDept (tenantID departmentID : Uuid)
  | scanDepts (tenantID : Uuid)
  | deleteDept (id : Uuid × Uuid)
  | seedLabels (tenantID : Uuid)
  | scanLabels (tenantID : Uuid)
  | deleteLabel (id : Uuid)
  | claimEmailHash (emailHash : String) (tenantID : Uuid)

/-- What they return. -/
abbrev TenantQuery.Result : TenantQuery → Type
  | findByID _ => Option Tenant
  | findByIDIncludingDeleted _ => Option Tenant
  | lockLive _ => Option Tenant
  | insert _ => Option Tenant
  | applyLifecyclePatch _ _ => Nat
  | setLastEventAt _ _ => Unit
  | markOwnerlessIfUnset _ => Bool
  | update _ _ => Option Tenant
  | listRealmSyncPending _ => List (Uuid × Bool)
  | listSeatOverageCandidates _ _ => List Uuid
  | listExpiredTrialTenants _ _ => List Uuid
  | hardDeleteTenant _ => Unit
  | findDept _ _ => Option TenantDepartment
  | activateDept _ _ => Option TenantDepartment
  | scanDepts _ => List (Uuid × Uuid)
  | deleteDept _ => Unit
  | seedLabels _ => Unit
  | scanLabels _ => List Uuid
  | deleteLabel _ => Unit
  | claimEmailHash _ _ => Option Uuid

/-- A trial that ended more than the grace period ago. -/
def Tenant.trialLapsed (tenant : Tenant) (graceDays now : Int) : Bool :=
  tenant.status = .trialExpired && tenant.trialEndsAt.any (· < now - days graceDays)

/-- The live tenants whose realm is to be told its settings again, those that forbid
local accounts first. -/
def realmSyncPending (db : Db) : List (Uuid × Bool) :=
  let pending := fun enabled => db.tenants.select fun row =>
    row.realmSyncPending && row.live && row.localAccountsEnabled == enabled
  (pending false ++ pending true).map fun row => (row.id, row.localAccountsEnabled)

/-- Insert the default labels the tenant does not have yet. -/
def seedLabels (context : Context) (db : Db) (tenantID : Uuid) : DbEffect Unit :=
  let rows := seededLabels.zipIdx.map fun ((roleCode, displayName), index) =>
    ({ id := context.fresh + index, tenantID, roleCode, displayName, recordVersion := 1,
       createdAt := txNow context, updatedAt := txNow context } : DeptRoleLabel)
  let added := rows.filter fun row =>
    (db.labels.first? fun other =>
      other.tenantID = tenantID && other.roleCode = row.roleCode).isNone
  let waiting := rows.map fun row => ⟨.uqDeptRoleLabels tenantID row.roleCode, .update⟩
  match firstViolated
      [(.primaryKey, added.all fun row => (db.labels.find? row.id).isNone),
        (.fkTenant, added.isEmpty || (db.tenants.find? tenantID).isSome)] with
  | some error => ⟨.error error, [], waiting⟩
  | none =>
      ⟨.ok ((), added.map fun row => .label (.put row)),
        added.flatMap (labelAccess.written .update) ++
          (if added.isEmpty then [] else [⟨.tenant tenantID, .keyShare⟩]), waiting⟩

/-- `INSERT … ON CONFLICT (email_hash) DO UPDATE … RETURNING tenant_id`: the
holder of the hash, which stays locked. -/
def claimEmailHash (context : Context) (db : Db) (emailHash : String) (tenantID : Uuid) :
    DbEffect (Option Uuid) :=
  match db.ledger.find? emailHash with
  | some record => ⟨.ok (record.tenantID, []), ledgerAccess.written .noKeyUpdate record, []⟩
  | none =>
      let record : TrialSignupRecord := ⟨emailHash, some tenantID, txNow context⟩
      ⟨.ok (some tenantID, [.ledger (.put record)]), ledgerAccess.written .update record, []⟩

/-- `DELETE FROM tenants`, with every row that belongs to the tenant. -/
def hardDeleteTenant (db : Db) (id : Uuid) : DbEffect Unit :=
  match db.tenants.find? id with
  | none => .read ()
  | some row =>
      let children :=
        [cascade tenantDeptAccess db TenantDepartment.tenantID id,
          cascade membershipAccess db TenantMembership.tenantID id,
          cascade roleAccess db TenantRole.tenantID id,
          cascade deptAccess db DeptMembership.tenantID id,
          cascade labelAccess db DeptRoleLabel.tenantID id,
          cascade invitationAccess db PendingInvitation.tenantID id]
      ⟨.ok ((), .tenant (.delete id) :: children.flatMap Prod.fst),
        tenantAccess.written .update row ++ children.flatMap Prod.snd, []⟩

namespace TenantQuery

/-- What each statement does. -/
def effect : (query : TenantQuery) → Context → Db → DbEffect query.Result
  | findByID id, _, db => .read ((db.tenants.find? id).filter Tenant.live)
  | findByIDIncludingDeleted id, _, db => .read (db.tenants.find? id)
  | lockLive id, _, db => tenantAccess.lockRow db id Tenant.live
  | insert values, context, db =>
      let row := values.row (txNow context)
      if values.licensedSeats ≤ 2147483647 then
        match row.violated with
        | some check => .refuse (.violation (.tenantCheck check))
        | none =>
            tenantAccess.insertRow db row (·.id = values.id)
              (firstViolated (tenantUnique db row)) []
      else
        .refuse .numericValueOutOfRange
  | applyLifecyclePatch id patch, context, db =>
      if patch.encodes then
        (tenantAccess.updateRow db id (patch.selects ·) fun row =>
          updateTenant db ((execLifecyclePatch (txNow context) row patch).map Prod.fst)).map
            fun updated => if updated.isSome then 1 else 0
      else
        .refuse .numericValueOutOfRange
  | setLastEventAt id timestamp, context, db =>
      (tenantAccess.updateRow db id (fun _ => true) fun row =>
        updateTenant db (row.update (txNow context) fun row =>
          { row with lastEventAt := some (pgTime timestamp) })).map fun _ => ()
  | markOwnerlessIfUnset id, context, db =>
      (tenantAccess.updateRow db id (fun row => row.ownerlessSince.isNone) fun row =>
        updateTenant db (row.update (txNow context) fun row =>
          { row with ownerlessSince := some (txNow context) })).map Option.isSome
  | update id change, context, db =>
      tenantAccess.updateRow db id (change.selects ·) fun row =>
        updateTenant db (row.update (txNow context) (change.set ·))
  | listRealmSyncPending limit, _, db => .read ((realmSyncPending db).take limit)
  | listSeatOverageCandidates order limit, _, db =>
      .read ((order.arrange ((db.tenants.select Tenant.live).map Tenant.id)).take limit)
  | listExpiredTrialTenants graceDays limit, context, db =>
      .read (((db.tenants.select fun row =>
        row.trialLapsed graceDays (txNow context) && row.live).map Tenant.id).take limit)
  | hardDeleteTenant id, _, db => OrgMembership.hardDeleteTenant db id
  | findDept tenantID departmentID, _, db => .read (db.tenantDepts.find? (tenantID, departmentID))
  | activateDept tenantID departmentID, context, db =>
      let row : TenantDepartment :=
        { tenantID, departmentID, isActive := true, recordVersion := 1,
          createdAt := txNow context, updatedAt := txNow context }
      tenantDeptAccess.insertRow db row
        (fun other => other.tenantID = tenantID && other.departmentID = departmentID)
        (firstViolated [(.fkTenant, (db.tenants.find? tenantID).isSome)]) [.tenant tenantID]
  | scanDepts tenantID, _, db => tenantDeptAccess.scan db fun row => row.tenantID = tenantID
  | deleteDept id, _, db =>
      (tenantDeptAccess.deleteRow db id (fun _ => true) fun _ =>
        firstViolated [(.fkTenantDept, (db.depts.first? fun row =>
          row.tenantID = id.1 && row.departmentID = id.2).isNone)]).map fun _ => ()
  | seedLabels tenantID, context, db => OrgMembership.seedLabels context db tenantID
  | scanLabels tenantID, _, db => labelAccess.scan db fun row => row.tenantID = tenantID
  | deleteLabel id, _, db =>
      (labelAccess.deleteRow db id (fun _ => true) fun _ => none).map fun _ => ()
  | claimEmailHash emailHash tenantID, context, db =>
      OrgMembership.claimEmailHash context db emailHash tenantID

end TenantQuery

end OrgMembership
