import OrgMembership.Store.Access

/-!
# Queries on members

The statements of the repositories of memberships, tenant roles and department
memberships.  An `UPDATE` that does not select by primary key is two steps: the
scan that finds its rows at the statement's snapshot, and the update of each
row, which waits for the row and checks the condition on its newest version.
-/

namespace OrgMembership

open Relational

/-- The membership row a grant refers to, whatever its state. -/
def membershipExists (db : Db) (membershipID tenantID userID : Uuid) : Bool :=
  (db.memberships.find? membershipID).any fun row =>
    row.tenantID = tenantID && row.userID = userID

/-! ## Memberships -/

/-- The statements on `tenant_memberships`. -/
inductive MembershipQuery
  | findByUserID (tenantID userID : Uuid)
  | insert (tenantID userID : Uuid) (status : MembershipStatus)
  | countActive (tenantID : Uuid)
  /-- The rows an `UPDATE … WHERE tenant_id, user_id, live, record_version`
  visits. -/
  | scan (tenantID userID : Uuid) (expectedVersion : Int)
  | setStatus (id tenantID userID : Uuid) (status : MembershipStatus) (expectedVersion : Int)
  | softDelete (id tenantID userID : Uuid) (expectedVersion : Int)
  | scanTenant (tenantID : Uuid)
  | delete (id : Uuid)

/-- What they return. -/
abbrev MembershipQuery.Result : MembershipQuery → Type
  | findByUserID _ _ => Option TenantMembership
  | insert _ _ _ => Option TenantMembership
  | countActive _ => Nat
  | scan _ _ _ => List Uuid
  | setStatus _ _ _ _ _ => Option TenantMembership
  | softDelete _ _ _ _ => Option TenantMembership
  | scanTenant _ => List Uuid
  | delete _ => Unit

/-- The live row of a user. -/
def TenantMembership.isOf (tenantID userID : Uuid) (row : TenantMembership) : Bool :=
  row.tenantID = tenantID && row.userID = userID && row.live

/-- An active member of the tenant. -/
def TenantMembership.activeIn (tenantID : Uuid) (row : TenantMembership) : Bool :=
  row.tenantID = tenantID && row.live && row.status = .active

/-- The condition of an optimistically locked update. -/
def TenantMembership.isVersionOf (tenantID userID : Uuid) (expectedVersion : Int)
    (row : TenantMembership) : Bool :=
  row.isOf tenantID userID && row.recordVersion = expectedVersion

/-- The row an `INSERT INTO tenant_memberships` would add. -/
def newMembership (context : Context) (tenantID userID : Uuid) (status : MembershipStatus) :
    TenantMembership :=
  { id := context.fresh, tenantID, userID, status, recordVersion := 1,
    createdAt := txNow context, updatedAt := txNow context, deletedAt := none }

/-- Two active members of one tenant. -/
def twoMembers : Table TenantMembership.id :=
  ⟨[newMembership ⟨0, 0, 11⟩ 1 101 .active, newMembership ⟨0, 0, 12⟩ 1 102 .active], by decide⟩

/-- The membership with another status. -/
def TenantMembership.withStatus (now : Int) (status : MembershipStatus) (row : TenantMembership) :
    TenantMembership :=
  row.touch now { row with status }

/-- The membership after its end. -/
def TenantMembership.ended (now : Int) (row : TenantMembership) : TenantMembership :=
  row.touch now { row with deletedAt := some now, status := .left }

section

variable (now : Int) (status : MembershipStatus) (row : TenantMembership)

@[simp]
theorem TenantMembership.withStatus_id : (row.withStatus now status).id = row.id :=
  TenantMembership.touch_proj TenantMembership.id (fun _ _ _ => rfl) now row _

@[simp]
theorem TenantMembership.withStatus_tenantID :
    (row.withStatus now status).tenantID = row.tenantID :=
  TenantMembership.touch_proj TenantMembership.tenantID (fun _ _ _ => rfl) now row _

@[simp]
theorem TenantMembership.withStatus_userID : (row.withStatus now status).userID = row.userID :=
  TenantMembership.touch_proj TenantMembership.userID (fun _ _ _ => rfl) now row _

@[simp]
theorem TenantMembership.withStatus_createdAt :
    (row.withStatus now status).createdAt = row.createdAt :=
  TenantMembership.touch_proj TenantMembership.createdAt (fun _ _ _ => rfl) now row _

@[simp]
theorem TenantMembership.withStatus_status : (row.withStatus now status).status = status :=
  TenantMembership.touch_proj TenantMembership.status (fun _ _ _ => rfl) now row _

@[simp]
theorem TenantMembership.withStatus_live : (row.withStatus now status).live = row.live :=
  TenantMembership.touch_proj TenantMembership.live (fun _ _ _ => rfl) now row _

@[simp]
theorem TenantMembership.ended_id : (row.ended now).id = row.id :=
  TenantMembership.touch_proj TenantMembership.id (fun _ _ _ => rfl) now row _

@[simp]
theorem TenantMembership.ended_tenantID : (row.ended now).tenantID = row.tenantID :=
  TenantMembership.touch_proj TenantMembership.tenantID (fun _ _ _ => rfl) now row _

@[simp]
theorem TenantMembership.ended_userID : (row.ended now).userID = row.userID :=
  TenantMembership.touch_proj TenantMembership.userID (fun _ _ _ => rfl) now row _

@[simp]
theorem TenantMembership.ended_createdAt : (row.ended now).createdAt = row.createdAt :=
  TenantMembership.touch_proj TenantMembership.createdAt (fun _ _ _ => rfl) now row _

@[simp]
theorem TenantMembership.ended_live : (row.ended now).live = false :=
  TenantMembership.touch_proj TenantMembership.live (fun _ _ _ => rfl) now row _

end

namespace MembershipQuery

/-- What each statement does. -/
def effect : (query : MembershipQuery) → Context → Db → DbEffect query.Result
  | findByUserID tenantID userID, _, db =>
      .read (db.memberships.first? (·.isOf tenantID userID))
  | insert tenantID userID status, context, db =>
      membershipAccess.insertRow db (newMembership context tenantID userID status)
        (·.isOf tenantID userID)
        (firstViolated
          [(.primaryKey, (db.memberships.find? context.fresh).isNone),
            (.fkTenant, (db.tenants.find? tenantID).isSome)])
        [.tenant tenantID]
  | countActive tenantID, _, db => .read (db.memberships.count (·.activeIn tenantID))
  | scan tenantID userID expectedVersion, _, db =>
      membershipAccess.scan db (·.isVersionOf tenantID userID expectedVersion)
  | setStatus id tenantID userID status expectedVersion, context, db =>
      membershipAccess.updateRow db id (·.isVersionOf tenantID userID expectedVersion)
        fun row => .ok (row.withStatus (txNow context) status)
  | softDelete id tenantID userID expectedVersion, context, db =>
      membershipAccess.updateRow db id (·.isVersionOf tenantID userID expectedVersion)
        fun row => .ok (row.ended (txNow context))
  | scanTenant tenantID, _, db =>
      membershipAccess.scan db fun row => row.tenantID = tenantID
  | delete id, _, db =>
      (membershipAccess.deleteRow db id (fun _ => true) fun row =>
        firstViolated
          [(.fkTenantMembership,
            (db.roles.first? (·.tenantMembershipID = row.id)).isNone &&
              (db.depts.first? (·.tenantMembershipID = row.id)).isNone)]).map fun _ => ()

end MembershipQuery

/-! ## Tenant roles -/

/-- The rows an `UPDATE` or `DELETE` of roles selects. -/
inductive RoleFilter
  | grant (tenantID userID : Uuid) (roleCode : TenantRoleCode)
  | user (tenantID userID : Uuid)
  | tenant (tenantID : Uuid)

/-- The `WHERE` of a filter. -/
def RoleFilter.selects (row : TenantRole) : RoleFilter → Bool
  | grant tenantID userID roleCode =>
      row.tenantID = tenantID && row.userID = userID && row.roleCode = roleCode && row.live
  | user tenantID userID => row.tenantID = tenantID && row.userID = userID && row.live
  | tenant tenantID => row.tenantID = tenantID

theorem RoleFilter.selects_user {row : TenantRole} {tenantID userID : Uuid} :
    RoleFilter.selects row (.user tenantID userID) = true ↔
      (row.tenantID = tenantID ∧ row.userID = userID) ∧ row.live = true := by
  simp [RoleFilter.selects]

/-- A live owner grant of the tenant. -/
def TenantRole.ownerOf (tenantID : Uuid) (row : TenantRole) : Bool :=
  row.tenantID = tenantID && row.roleCode = .tenantOwner && row.live

/-- The statements on `tenant_roles`. -/
inductive RoleQuery
  | listByUser (tenantID userID : Uuid)
  | countActiveOwners (tenantID : Uuid)
  | insert (tenantID userID membershipID : Uuid) (roleCode : TenantRoleCode) (grantedBy : Uuid)
  | find (tenantID userID : Uuid) (roleCode : TenantRoleCode)
  | scan (filter : RoleFilter)
  | softDelete (filter : RoleFilter) (id : Uuid)
  | delete (id : Uuid)

/-- What they return. -/
abbrev RoleQuery.Result : RoleQuery → Type
  | listByUser _ _ => List TenantRole
  | countActiveOwners _ => Nat
  | insert _ _ _ _ _ => Option TenantRole
  | find _ _ _ => Option TenantRole
  | scan _ => List Uuid
  | softDelete _ _ => Option TenantRole
  | delete _ => Unit

/-- The row an `INSERT INTO tenant_roles` would add. -/
def newRole (context : Context) (tenantID userID membershipID : Uuid) (roleCode : TenantRoleCode)
    (grantedBy : Uuid) : TenantRole :=
  { id := context.fresh, tenantID, userID, tenantMembershipID := membershipID, roleCode, grantedBy,
    recordVersion := 1, createdAt := txNow context, updatedAt := txNow context,
    deletedAt := none }

/-- The grant after its revocation. -/
def TenantRole.revoked (now : Int) (row : TenantRole) : TenantRole :=
  row.touch now { row with deletedAt := some now }

section

variable (now : Int) (row : TenantRole)

@[simp]
theorem TenantRole.revoked_id : (row.revoked now).id = row.id :=
  TenantRole.touch_proj TenantRole.id (fun _ _ _ => rfl) now row _

@[simp]
theorem TenantRole.revoked_tenantID : (row.revoked now).tenantID = row.tenantID :=
  TenantRole.touch_proj TenantRole.tenantID (fun _ _ _ => rfl) now row _

@[simp]
theorem TenantRole.revoked_userID : (row.revoked now).userID = row.userID :=
  TenantRole.touch_proj TenantRole.userID (fun _ _ _ => rfl) now row _

@[simp]
theorem TenantRole.revoked_tenantMembershipID :
    (row.revoked now).tenantMembershipID = row.tenantMembershipID :=
  TenantRole.touch_proj TenantRole.tenantMembershipID (fun _ _ _ => rfl) now row _

@[simp]
theorem TenantRole.revoked_roleCode : (row.revoked now).roleCode = row.roleCode :=
  TenantRole.touch_proj TenantRole.roleCode (fun _ _ _ => rfl) now row _

@[simp]
theorem TenantRole.revoked_live : (row.revoked now).live = false :=
  TenantRole.touch_proj TenantRole.live (fun _ _ _ => rfl) now row _

end

namespace RoleQuery

/-- What each statement does. -/
def effect : (query : RoleQuery) → Context → Db → DbEffect query.Result
  | listByUser tenantID userID, _, db =>
      .read (db.roles.select (RoleFilter.selects · (.user tenantID userID)))
  | countActiveOwners tenantID, _, db => .read (db.roles.count (·.ownerOf tenantID))
  | insert tenantID userID membershipID roleCode grantedBy, context, db =>
      roleAccess.insertRow db (newRole context tenantID userID membershipID roleCode grantedBy)
        (RoleFilter.selects · (.grant tenantID userID roleCode))
        (firstViolated
          [(.chkTrNoMember, roleCode ≠ .member),
            (.primaryKey, (db.roles.find? context.fresh).isNone),
            (.fkTenant, (db.tenants.find? tenantID).isSome),
            (.fkTenantMembership, membershipExists db membershipID tenantID userID)])
        [.tenant tenantID, .membership membershipID]
  | find tenantID userID roleCode, _, db =>
      .read (db.roles.first? (RoleFilter.selects · (.grant tenantID userID roleCode)))
  | scan filter, _, db => roleAccess.scan db (RoleFilter.selects · filter)
  | softDelete filter id, context, db =>
      roleAccess.updateRow db id (RoleFilter.selects · filter) fun row =>
        .ok (row.revoked (txNow context))
  | delete id, _, db => (roleAccess.deleteRow db id (fun _ => true) fun _ => none).map fun _ => ()

end RoleQuery

/-! ## Department memberships -/

/-- The rows an `UPDATE`, `DELETE` or `SELECT … FOR UPDATE` of department
memberships selects. -/
inductive DeptFilter
  | assignment (tenantID userID departmentID : Uuid)
  | user (tenantID userID : Uuid)
  | tenant (tenantID : Uuid)
  | row

/-- The `WHERE` of a filter. -/
def DeptFilter.selects (row : DeptMembership) : DeptFilter → Bool
  | assignment tenantID userID departmentID =>
      row.tenantID = tenantID && row.userID = userID && row.departmentID = departmentID && row.live
  | user tenantID userID => row.tenantID = tenantID && row.userID = userID && row.live
  | tenant tenantID => row.tenantID = tenantID
  | .row => true

theorem DeptFilter.selects_user {row : DeptMembership} {tenantID userID : Uuid} :
    DeptFilter.selects row (.user tenantID userID) = true ↔
      (row.tenantID = tenantID ∧ row.userID = userID) ∧ row.live = true := by
  simp [DeptFilter.selects]

/-- The statements on `dept_memberships`. -/
inductive DeptQuery
  | lockAssign (tenantID userID departmentID : Uuid)
  | listByUser (tenantID userID : Uuid)
  | insert (tenantID userID departmentID membershipID : Uuid) (level : DeptRole)
      (grantedBy : Uuid)
  | find (tenantID userID departmentID : Uuid)
  | scan (filter : DeptFilter)
  | lock (filter : DeptFilter) (id : Uuid)
  | softDelete (filter : DeptFilter) (id : Uuid)
  | delete (id : Uuid)

/-- What they return. -/
abbrev DeptQuery.Result : DeptQuery → Type
  | lockAssign _ _ _ => Unit
  | listByUser _ _ => List DeptMembership
  | insert _ _ _ _ _ _ => Option DeptMembership
  | find _ _ _ => Option DeptMembership
  | scan _ => List Uuid
  | lock _ _ => Option DeptMembership
  | softDelete _ _ => Option DeptMembership
  | delete _ => Unit

/-- The row an `INSERT INTO dept_memberships` would add. -/
def newDept (context : Context) (tenantID userID departmentID membershipID : Uuid)
    (level : DeptRole) (grantedBy : Uuid) : DeptMembership :=
  { id := context.fresh, tenantID, userID, tenantMembershipID := membershipID, departmentID,
    roleLevel := level, grantedBy, recordVersion := 1, createdAt := txNow context,
    updatedAt := txNow context, deletedAt := none }

/-- Insert the row, unless the user has a live assignment to the department. -/
def insertDept (db : Db) (row : DeptMembership) : DbEffect (Option DeptMembership) :=
  deptAccess.insertRow db row
    (DeptFilter.selects · (.assignment row.tenantID row.userID row.departmentID))
    (firstViolated
      [(.primaryKey, (db.depts.find? row.id).isNone),
        (.fkTenant, (db.tenants.find? row.tenantID).isSome),
        (.fkTenantDept, (db.tenantDepts.find? (row.tenantID, row.departmentID)).isSome),
        (.fkTenantMembership,
          membershipExists db row.tenantMembershipID row.tenantID row.userID)])
    [.tenant row.tenantID, .tenantDept row.tenantID row.departmentID,
      .membership row.tenantMembershipID]

/-- The assignment after its revocation. -/
def DeptMembership.revoked (now : Int) (row : DeptMembership) : DeptMembership :=
  row.touch now { row with deletedAt := some now }

section

variable (now : Int) (row : DeptMembership)

@[simp]
theorem DeptMembership.revoked_id : (row.revoked now).id = row.id :=
  DeptMembership.touch_proj DeptMembership.id (fun _ _ _ => rfl) now row _

@[simp]
theorem DeptMembership.revoked_tenantID : (row.revoked now).tenantID = row.tenantID :=
  DeptMembership.touch_proj DeptMembership.tenantID (fun _ _ _ => rfl) now row _

@[simp]
theorem DeptMembership.revoked_userID : (row.revoked now).userID = row.userID :=
  DeptMembership.touch_proj DeptMembership.userID (fun _ _ _ => rfl) now row _

@[simp]
theorem DeptMembership.revoked_tenantMembershipID :
    (row.revoked now).tenantMembershipID = row.tenantMembershipID :=
  DeptMembership.touch_proj DeptMembership.tenantMembershipID (fun _ _ _ => rfl) now row _

@[simp]
theorem DeptMembership.revoked_departmentID : (row.revoked now).departmentID = row.departmentID :=
  DeptMembership.touch_proj DeptMembership.departmentID (fun _ _ _ => rfl) now row _

@[simp]
theorem DeptMembership.revoked_live : (row.revoked now).live = false :=
  DeptMembership.touch_proj DeptMembership.live (fun _ _ _ => rfl) now row _

end

namespace DeptQuery

/-- What each statement does. -/
def effect : (query : DeptQuery) → Context → Db → DbEffect query.Result
  | lockAssign tenantID userID departmentID, _, _ =>
      .advisory (.deptAssign tenantID userID departmentID)
  | listByUser tenantID userID, _, db =>
      .read (db.depts.select (DeptFilter.selects · (.user tenantID userID)))
  | insert tenantID userID departmentID membershipID level grantedBy, context, db =>
      -- the column is an enum, and the argument is read before the row is made
      if level.inEnum then
        insertDept db (newDept context tenantID userID departmentID membershipID level grantedBy)
      else
        .refuse .invalidTextRepresentation
  | find tenantID userID departmentID, _, db =>
      .read (db.depts.first? (DeptFilter.selects · (.assignment tenantID userID departmentID)))
  | scan filter, _, db => deptAccess.scan db (DeptFilter.selects · filter)
  | lock filter id, _, db => deptAccess.lockRow db id (DeptFilter.selects · filter)
  | softDelete filter id, context, db =>
      deptAccess.updateRow db id (DeptFilter.selects · filter) fun row =>
        .ok (row.revoked (txNow context))
  | delete id, _, db => (deptAccess.deleteRow db id (fun _ => true) fun _ => none).map fun _ => ()

section Insert

variable {tenantID userID departmentID membershipID grantedBy : Uuid} {level : DeptRole}
  {context : Context} {db : Db}

theorem effect_insert (inEnum : level.inEnum = true) :
    (insert tenantID userID departmentID membershipID level grantedBy).effect context db =
      insertDept db
        (newDept context tenantID userID departmentID membershipID level grantedBy) := by
  rw [effect, if_pos inEnum]

theorem inEnum_of_yields_insert {result : Option DeptMembership} {writes : List Write}
    (yields : ((insert tenantID userID departmentID membershipID level grantedBy).effect context
      db).Yields result writes) : level.inEnum = true := by
  by_contra unknown
  rw [effect, if_neg unknown] at yields
  exact Effect.not_yields_refuse yields

end Insert

end DeptQuery

end OrgMembership
