import Mathlib.Data.List.Sort
import OrgMembership.Service.Membership

/-!
# Reads

What P-4 `List`, P-5 `Get` and the query of I-8 read, as functions of the
rows they see.
-/

namespace OrgMembership

open Relational

/-! ## The rows of a user -/

/-- The rows of one user in one tenant, live or not. -/
structure MemberRows where
  memberships : List TenantMembership
  roles : List TenantRole
  depts : List DeptMembership
  deriving DecidableEq

/-- What the tables hold of the user. -/
def rowsOf (tenantID userID : Uuid) (db : Db) : MemberRows where
  memberships := db.memberships.select fun row => row.tenantID = tenantID && row.userID = userID
  roles := db.roles.select fun row => row.tenantID = tenantID && row.userID = userID
  depts := db.depts.select fun row => row.tenantID = tenantID && row.userID = userID

/-- A row of one user is no row of another. -/
theorem apart_of_ne {tenantID userID otherTenant otherUser rowTenant rowUser : Uuid}
    (other : (otherTenant, otherUser) ≠ (tenantID, userID))
    (about : rowTenant = tenantID ∧ rowUser = userID) :
    (decide (rowTenant = otherTenant) && decide (rowUser = otherUser)) = false := by
  obtain ⟨rfl, rfl⟩ := about
  rw [Bool.and_eq_false_iff]
  by_contra same
  simp only [decide_eq_false_iff_not, not_or, not_not] at same
  exact other (by rw [same.1, same.2])

/-- The user has a live membership. -/
def isMember (tenantID userID : Uuid) (db : Db) : Bool :=
  (db.memberships.first? (·.isOf tenantID userID)).isSome

/-- The live role rows of the user. -/
def rolesOf (tenantID userID : Uuid) (db : Db) : List TenantRole :=
  db.roles.select (RoleFilter.selects · (.user tenantID userID))

/-- The live department rows of the user. -/
def deptsOf (tenantID userID : Uuid) (db : Db) : List DeptMembership :=
  db.depts.select (DeptFilter.selects · (.user tenantID userID))

/-- The live membership rows of the user: at most one, by the unique index. -/
def membershipsOf (tenantID userID : Uuid) (db : Db) : List TenantMembership :=
  db.memberships.select (·.isOf tenantID userID)

/-! ## Departments of a member -/

/-- A department as the reads list it. -/
structure DeptMembershipView where
  departmentID : Uuid
  /-- Only I-8 fills it in, from the catalog. -/
  code : String
  roleLevel : DeptRole
  deriving DecidableEq

/-- A row as P-4 and P-5 list it. -/
def DeptMembership.view (row : DeptMembership) : DeptMembershipView :=
  ⟨row.departmentID, "", row.roleLevel⟩

/-- `ORDER BY department_id`. -/
def DeptMembershipView.before (first second : DeptMembershipView) : Prop :=
  first.departmentID ≤ second.departmentID

instance : DecidableRel DeptMembershipView.before :=
  fun _ _ => inferInstanceAs (Decidable (_ ≤ _))

/-- The place of a code in the enum of the database. -/
def TenantRoleCode.rank : TenantRoleCode → Nat
  | .tenantOwner => 0
  | .tenantAdmin => 1
  | .tenderAdmin => 2
  | .member => 3

/-- `ORDER BY role_code`. -/
def TenantRole.before (first second : TenantRole) : Prop :=
  first.roleCode.rank ≤ second.roleCode.rank

instance : DecidableRel TenantRole.before :=
  fun _ _ => inferInstanceAs (Decidable (_ ≤ _))

/-! ## The query of I-8 -/

/-- The columns of the membership and its tenant, which the query groups by. -/
structure GroupKey where
  membershipStatus : MembershipStatus
  subscriptionStatus : SubscriptionStatus
  tenantPlan : TenantPlan
  locale : String
  mfaFreshnessSeconds : Int
  localAccountsEnabled : Bool
  residencyMode : ResidencyMode
  tenantFeatureFlags : String
  deriving DecidableEq

/-- What `FindMembershipProjection` returns. -/
structure MembershipProjectionRow where
  columns : GroupKey
  roles : List TenantRoleCode
  departments : List DeptMembershipView
  deriving DecidableEq

/-- `LEFT JOIN`: the matching rows, or one null. -/
def leftJoin {α : Type} : List α → List (Option α)
  | [] => [none]
  | row :: rows => (row :: rows).map some

/-- A row of the four-table join. -/
structure JoinedRow where
  membership : TenantMembership
  tenant : Tenant
  role : Option TenantRole
  dept : Option DeptMembership

/-- The `GROUP BY` list. -/
def JoinedRow.group (row : JoinedRow) : GroupKey :=
  ⟨row.membership.status, row.tenant.status, row.tenant.plan, row.tenant.defaultLocale,
    row.tenant.mfaFreshnessSeconds, row.tenant.localAccountsEnabled, row.tenant.residencyMode,
    row.tenant.featureFlags⟩

namespace AuthZRepository

/-- The join, before it is grouped. -/
def joined (tenantID userID : Uuid) (db : Db) : List JoinedRow :=
  (membershipsOf tenantID userID db).flatMap fun membership =>
    (db.tenants.select (·.id = membership.tenantID)).flatMap fun tenant =>
      (leftJoin (rolesOf membership.tenantID membership.userID db)).flatMap fun role =>
        (leftJoin (deptsOf membership.tenantID membership.userID db)).map fun dept =>
          ⟨membership, tenant, role, dept⟩

/-- `array_agg(DISTINCT role_code ORDER BY role_code)`, without nulls. -/
def aggregateRoles (group : List JoinedRow) : List TenantRoleCode :=
  MapOrder.declared.visit fun code => group.any fun row => row.role.any (·.roleCode = code)

/-- `json_agg(… ORDER BY department_id)`, without nulls. -/
def aggregateDepartments (group : List JoinedRow) : List DeptMembershipView :=
  ((group.filterMap JoinedRow.dept).map DeptMembership.view).insertionSort
    DeptMembershipView.before

/-- The first group of the join. -/
def findMembershipProjection (tenantID userID : Uuid) (db : Db) : Option MembershipProjectionRow :=
  match joined tenantID userID db with
  | [] => none
  | first :: rest =>
      let group := (first :: rest).filter fun row => row.group = first.group
      some ⟨first.group, aggregateRoles group, aggregateDepartments group⟩

end AuthZRepository

/-! ## P-4 and P-5 -/

/-- A member as P-4 and P-5 list it. -/
structure MembershipListItem where
  membership : TenantMembership
  tenantRoles : List TenantRoleCode
  departments : List DeptMembershipView
  deriving DecidableEq

/-- The last row of a page. -/
structure MembershipListCursor where
  createdAt : Int
  id : Uuid
  deriving DecidableEq

/-- A page of P-4. -/
structure MembershipListPage where
  items : List MembershipListItem
  nextCursor : Option MembershipListCursor
  deriving DecidableEq

/-- `(created_at, id) > (cursor.created_at, cursor.id)`. -/
def TenantMembership.isAfter (cursor : MembershipListCursor) (row : TenantMembership) : Bool :=
  cursor.createdAt < row.createdAt || cursor.createdAt = row.createdAt && cursor.id < row.id

/-- `ORDER BY created_at, id`. -/
def TenantMembership.before (first second : TenantMembership) : Prop :=
  first.createdAt < second.createdAt ∨ first.createdAt = second.createdAt ∧ first.id ≤ second.id

instance : DecidableRel TenantMembership.before :=
  fun _ _ => inferInstanceAs (Decidable (_ ∨ _ ∧ _))

namespace MembershipService

/-- A page that is asked for with a limit out of range has 50 items. -/
def pageLimit (limit : Int) : Nat :=
  if limit ≤ 0 ∨ 200 < limit then 50 else limit.toNat

/-- The rows of one page, and where the next one starts. -/
def pageOf (tenantID : Uuid) (cursor : Option MembershipListCursor) (limit : Int) (db : Db) :
    List TenantMembership × Option MembershipListCursor :=
  let rows := ((db.memberships.select fun row =>
    row.tenantID = tenantID && row.live &&
      cursor.all fun cursor => row.isAfter cursor).insertionSort TenantMembership.before).take
    (pageLimit limit + 1)
  if pageLimit limit < rows.length then
    (rows.take (pageLimit limit),
      rows[pageLimit limit - 1]?.map fun last => ⟨last.createdAt, last.id⟩)
  else
    (rows, none)

/-- The live roles of a batch of users. -/
def rolesOfUsers (tenantID : Uuid) (userIDs : List Uuid) (db : Db) : List TenantRole :=
  (db.roles.select fun row =>
    row.tenantID = tenantID && userIDs.contains row.userID && row.live).insertionSort
      TenantRole.before

/-- `ORDER BY user_id, department_id`. -/
def deptBefore (first second : DeptMembership) : Prop :=
  first.userID < second.userID ∨
    first.userID = second.userID ∧ first.departmentID ≤ second.departmentID

instance : DecidableRel deptBefore :=
  fun _ _ => inferInstanceAs (Decidable (_ ∨ _ ∧ _))

/-- The live department rows of a batch of users. -/
def deptsOfUsers (tenantID : Uuid) (userIDs : List Uuid) (db : Db) : List DeptMembership :=
  (db.depts.select fun row =>
    row.tenantID = tenantID && userIDs.contains row.userID && row.live).insertionSort deptBefore

/-- P-4 `List`: the roles and departments of a page are read at once. -/
def list (tenantID : Uuid) (cursor : Option MembershipListCursor) (limit : Int) (db : Db) :
    MembershipListPage :=
  let page := pageOf tenantID cursor limit db
  let userIDs := page.1.map TenantMembership.userID
  let allRoles := rolesOfUsers tenantID userIDs db
  let allDepts := deptsOfUsers tenantID userIDs db
  { items := page.1.map fun membership =>
      { membership
        -- `member` is derived, and comes first
        tenantRoles := .member :: (allRoles.filter (·.userID = membership.userID)).map
          TenantRole.roleCode
        departments := (allDepts.filter (·.userID = membership.userID)).map DeptMembership.view }
    nextCursor := page.2 }

/-- P-5 `Get`. -/
def get (tenantID userID : Uuid) (db : Db) : Except Failure MembershipListItem :=
  match db.memberships.first? (·.isOf tenantID userID) with
  | none => .error (newError .memberNotFound "member not found")
  | some membership => .ok
      { membership
        tenantRoles := .member :: ((rolesOf tenantID userID db).insertionSort TenantRole.before).map
          TenantRole.roleCode
        departments := ((deptsOf tenantID userID db).map DeptMembership.view).insertionSort
          DeptMembershipView.before }

end MembershipService

end OrgMembership
