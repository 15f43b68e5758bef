import OrgMembership.Lifecycle.Patch
import OrgMembership.Store.Db

/-!
# Access to the tables

For every table: which rows are live, what the `touch_row` trigger does to an
updated row, and which locks the writers of a row take.
-/

namespace OrgMembership

open Relational

/-- `now()`: the start of the transaction at database resolution. -/
def txNow (context : Context) : Int :=
  pgTime context.startedAt

/-- The row is not soft-deleted. -/
def Tenant.live (tenant : Tenant) : Bool :=
  tenant.deletedAt.isNone

/-- `tenants`. -/
def tenantAccess : Access Db Write LockKey Tenant Uuid where
  key := Tenant.id
  table := Db.tenants
  change := .tenant
  rowKey := .tenant
  entries row :=
    [.tenantsPkey row.id, .uqTenantsSlug row.slug] ++
      if row.realmType = .dedicated then [.uqTenantsRealmIDDedicated row.realmID] else []

/-- `tenant_departments`. -/
def tenantDeptAccess : Access Db Write LockKey TenantDepartment (Uuid × Uuid) where
  key row := (row.tenantID, row.departmentID)
  table := Db.tenantDepts
  change := .tenantDept
  rowKey id := .tenantDept id.1 id.2
  entries row := [.tenantDepartmentsPkey row.tenantID row.departmentID]

/-- `dept_role_labels`. -/
def labelAccess : Access Db Write LockKey DeptRoleLabel Uuid where
  key := DeptRoleLabel.id
  table := Db.labels
  change := .label
  rowKey := .label
  entries row := [.uqDeptRoleLabels row.tenantID row.roleCode]

/-- `trial_signup_ledger`. -/
def ledgerAccess : Access Db Write LockKey TrialSignupRecord String where
  key := TrialSignupRecord.emailHash
  table := Db.ledger
  change := .ledger
  rowKey := .ledger
  entries row := [.trialSignupLedgerPkey row.emailHash]

/-- The row is not deleted. -/
def TenantMembership.live (row : TenantMembership) : Bool :=
  row.deletedAt.isNone

/-- The row is not deleted. -/
def TenantRole.live (row : TenantRole) : Bool :=
  row.deletedAt.isNone

/-- The row is not deleted. -/
def DeptMembership.live (row : DeptMembership) : Bool :=
  row.deletedAt.isNone

/-- What the trigger makes of an update. -/
def TenantMembership.touch (now : Int) : TenantMembership → TenantMembership → TenantMembership :=
  touchRow TenantMembership.recordVersion fun version row =>
    { row with updatedAt := now, recordVersion := version }

/-- What the trigger leaves alone. -/
theorem TenantMembership.touch_proj {γ : Type} (field : TenantMembership → γ)
    (unstamped : ∀ now version row,
      field { row with updatedAt := now, recordVersion := version } = field row)
    (now : Int) (old new : TenantMembership) : field (old.touch now new) = field new :=
  touchRow_proj field (unstamped now) old new

/-- What the trigger makes of an update. -/
def TenantRole.touch (now : Int) : TenantRole → TenantRole → TenantRole :=
  touchRow TenantRole.recordVersion fun version row =>
    { row with updatedAt := now, recordVersion := version }

/-- What the trigger leaves alone. -/
theorem TenantRole.touch_proj {γ : Type} (field : TenantRole → γ)
    (unstamped : ∀ now version row,
      field { row with updatedAt := now, recordVersion := version } = field row)
    (now : Int) (old new : TenantRole) : field (old.touch now new) = field new :=
  touchRow_proj field (unstamped now) old new

/-- What the trigger makes of an update. -/
def DeptMembership.touch (now : Int) : DeptMembership → DeptMembership → DeptMembership :=
  touchRow DeptMembership.recordVersion fun version row =>
    { row with updatedAt := now, recordVersion := version }

/-- What the trigger leaves alone. -/
theorem DeptMembership.touch_proj {γ : Type} (field : DeptMembership → γ)
    (unstamped : ∀ now version row,
      field { row with updatedAt := now, recordVersion := version } = field row)
    (now : Int) (old new : DeptMembership) : field (old.touch now new) = field new :=
  touchRow_proj field (unstamped now) old new

/-- `tenant_memberships`, with one live row for a user. -/
def membershipAccess : Access Db Write LockKey TenantMembership Uuid where
  key := TenantMembership.id
  table := Db.memberships
  change := .membership
  rowKey := .membership
  entries row := if row.live then [.uqTmActiveUser row.tenantID row.userID] else []

/-- `tenant_roles`, with one live grant of a role to a user. -/
def roleAccess : Access Db Write LockKey TenantRole Uuid where
  key := TenantRole.id
  table := Db.roles
  change := .role
  rowKey := .role
  entries row :=
    if row.live then [.uqTenantRolesActive row.tenantID row.userID row.roleCode] else []

/-- `dept_memberships`, with one live row for a user and a department. -/
def deptAccess : Access Db Write LockKey DeptMembership Uuid where
  key := DeptMembership.id
  table := Db.depts
  change := .dept
  rowKey := .dept
  entries row :=
    if row.live then [.uqDmActiveMembership row.tenantID row.userID row.departmentID] else []

/-- What the trigger makes of an update. -/
def PendingInvitation.touch (now : Int) :
    PendingInvitation → PendingInvitation → PendingInvitation :=
  touchRow PendingInvitation.recordVersion fun version row =>
    { row with updatedAt := now, recordVersion := version }

/-- What the trigger leaves alone. -/
theorem PendingInvitation.touch_proj {γ : Type} (field : PendingInvitation → γ)
    (unstamped : ∀ now version row,
      field { row with updatedAt := now, recordVersion := version } = field row)
    (now : Int) (old new : PendingInvitation) : field (old.touch now new) = field new :=
  touchRow_proj field (unstamped now) old new

/-- `pending_invitations`, with one pending row for an email. -/
def invitationAccess : Access Db Write LockKey PendingInvitation Uuid where
  key := PendingInvitation.id
  table := Db.invitations
  change := .invitation
  rowKey := .invitation
  entries row := if row.status = .pending then [.uqPiPending row.tenantID row.email] else []

/-- `processed_events`. -/
def processedAccess : Access Db Write LockKey ProcessedEvent Uuid where
  key := ProcessedEvent.eventID
  table := Db.processed
  change := .processed
  rowKey := .processed
  entries row := [.processedEventsPkey row.eventID]

/-- `pending_tenant_events`. -/
def parkedAccess : Access Db Write LockKey ParkedTenantEvent Uuid where
  key := ParkedTenantEvent.eventID
  table := Db.parked
  change := .parked
  rowKey := .parked
  entries row := [.pendingTenantEventsPkey row.eventID]

/-- The writes and locks of deleting the rows of one table that belong to a
tenant, as `ON DELETE CASCADE` does. -/
def cascade {Row Id : Type} (access : Access Db Write LockKey Row Id) (db : Db)
    (tenantOf : Row → Uuid) (tenantID : Uuid) : List Write × List (Lock LockKey) :=
  let rows := (access.table db).select fun row => tenantOf row = tenantID
  (rows.map fun row => access.change (.delete (access.key row)),
    rows.flatMap (access.written .update))

end OrgMembership
