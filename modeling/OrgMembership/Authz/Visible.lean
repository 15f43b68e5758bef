import OrgMembership.Members.Frame
import OrgMembership.Service.AuthZ

/-!
# What I-8 shows of a member

The status, the roles and the department levels of the projection depend only on the rows of
the user and on whether the tenant exists.
-/

namespace OrgMembership

open Relational

/-- The part of a projection that the rows of the user determine. -/
structure Visible where
  status : MembershipStatus
  roles : List TenantRoleCode
  departments : List (Uuid × DeptRole)
  deriving DecidableEq

/-- A department with the level held in it. -/
def DeptMembershipView.grant (view : DeptMembershipView) : Uuid × DeptRole :=
  (view.departmentID, view.roleLevel)

/-- What I-8 shows of a user. -/
def MembershipProjection.visible (projection : MembershipProjection) : Visible :=
  ⟨projection.status, projection.roles, projection.departments.map DeptMembershipView.grant⟩

/-- What the query of I-8 shows of a user, to whom `member` is always given. -/
def MembershipProjectionRow.visible (row : MembershipProjectionRow) : Visible :=
  ⟨row.columns.membershipStatus, .member :: row.roles, row.departments.map DeptMembershipView.grant⟩

/-- What a fresh read shows. -/
def visibleOf (tenantID userID : Uuid) (db : Db) : Option Visible :=
  (AuthZRepository.findMembershipProjection tenantID userID db).map MembershipProjectionRow.visible

theorem visible_composeProjection (lookups : Lookups) (tenantID userID : Uuid)
    (row : MembershipProjectionRow) :
    (composeProjection lookups tenantID userID row).visible = row.visible := by
  simp only [MembershipProjection.visible, composeProjection, MembershipProjectionRow.visible,
    List.map_map]
  rfl

theorem map_visible_readFromDB (lookups : Lookups) (tenantID userID : Uuid) (db : Db) :
    (readFromDB lookups tenantID userID db).map MembershipProjection.visible =
      visibleOf tenantID userID db := by
  rw [readFromDB, visibleOf, Option.map_map]
  exact congrArg (fun part => Option.map part _)
    (funext (visible_composeProjection lookups tenantID userID))

namespace AuthZRepository

variable {tenantID userID : Uuid} {db other : Db}

/-- What a group of the join shows, for rows of one tenant. -/
def summary : List JoinedRow → Option Visible
  | [] => none
  | first :: rest =>
      let group := (first :: rest).filter fun row =>
        row.membership.status = first.membership.status
      some ⟨first.membership.status, .member :: aggregateRoles group,
        (aggregateDepartments group).map DeptMembershipView.grant⟩

theorem visibleOf_eq_summary (tenant : Tenant)
    (same : ∀ row ∈ joined tenantID userID db, row.tenant = tenant) :
    visibleOf tenantID userID db = summary (joined tenantID userID db) := by
  rw [visibleOf, findMembershipProjection]
  cases shape : joined tenantID userID db with
  | nil => rfl
  | cons first rest =>
      have groups : (first :: rest).filter (fun row => row.group = first.group) =
          (first :: rest).filter fun row => row.membership.status = first.membership.status := by
        refine List.filter_congr fun row mem => ?_
        rw [shape] at same
        simp [JoinedRow.group, same row mem, same first List.mem_cons_self]
      dsimp only
      rw [groups]
      rfl

/-- A summary does not look at the tenant. -/
theorem summary_map {rows : List JoinedRow} (tenant : Tenant) :
    summary (rows.map fun row => { row with tenant }) = summary rows := by
  cases rows with
  | nil => rfl
  | cons first rest =>
      have kept : ((first :: rest).map fun row => ({ row with tenant } : JoinedRow)).filter
          (fun row => row.membership.status = first.membership.status) =
          ((first :: rest).filter fun row => row.membership.status = first.membership.status).map
            fun row => { row with tenant } := by
        rw [List.filter_map]
        rfl
      have roles : ∀ group : List JoinedRow,
          aggregateRoles (group.map fun row => { row with tenant }) = aggregateRoles group := by
        intro group
        simp only [aggregateRoles, List.any_map]
        rfl
      have departments : ∀ group : List JoinedRow,
          aggregateDepartments (group.map fun row => { row with tenant }) =
            aggregateDepartments group := by
        intro group
        simp only [aggregateDepartments, List.filterMap_map]
        rfl
      rw [List.map_cons] at kept ⊢
      simp only [summary, kept, roles, departments]

theorem membershipsOf_eq_filter :
    membershipsOf tenantID userID db =
      (rowsOf tenantID userID db).memberships.filter TenantMembership.live := by
  simp only [membershipsOf, rowsOf, Table.select, List.filter_filter]
  refine List.filter_congr fun row _ => ?_
  rw [TenantMembership.isOf, Bool.and_comm]

theorem rolesOf_eq_filter :
    rolesOf tenantID userID db = (rowsOf tenantID userID db).roles.filter TenantRole.live := by
  simp only [rolesOf, rowsOf, Table.select, List.filter_filter]
  refine List.filter_congr fun row _ => ?_
  rw [RoleFilter.selects, Bool.and_comm]

theorem deptsOf_eq_filter :
    deptsOf tenantID userID db = (rowsOf tenantID userID db).depts.filter DeptMembership.live := by
  simp only [deptsOf, rowsOf, Table.select, List.filter_filter]
  refine List.filter_congr fun row _ => ?_
  rw [DeptFilter.selects, Bool.and_comm]

/-- The rows of the join for one tenants row. -/
def joinedWith (tenant : Tenant) (rows : MemberRows) : List JoinedRow :=
  (rows.memberships.filter TenantMembership.live).flatMap fun membership =>
    (leftJoin (rows.roles.filter TenantRole.live)).flatMap fun role =>
      (leftJoin (rows.depts.filter DeptMembership.live)).map fun dept =>
        ⟨membership, tenant, role, dept⟩

theorem joined_eq :
    joined tenantID userID db = (db.tenants.find? tenantID).toList.flatMap fun tenant =>
      joinedWith tenant (rowsOf tenantID userID db) := by
  have tenants : db.tenants.select (·.id = tenantID) = (db.tenants.find? tenantID).toList := by
    cases found : db.tenants.find? tenantID with
    | none =>
        apply Table.select_eq_nil
        exact fun row mem => decide_eq_false (Table.find?_eq_none.mp found row mem)
    | some tenant =>
        obtain ⟨mem, about⟩ := Table.find?_eq_some.mp found
        apply Table.select_eq_singleton mem (decide_eq_true about)
        exact fun other memOther same =>
          Table.eq_of_key_eq memOther mem ((of_decide_eq_true same).trans about.symm)
  have rows : joined tenantID userID db = (membershipsOf tenantID userID db).flatMap
      fun membership => (db.tenants.find? tenantID).toList.flatMap fun tenant =>
        (leftJoin (rolesOf tenantID userID db)).flatMap fun role =>
          (leftJoin (deptsOf tenantID userID db)).map fun dept =>
            ⟨membership, tenant, role, dept⟩ := by
    refine List.flatMap_congr fun membership mem => ?_
    have isOf := (Table.mem_select.mp mem).2
    simp only [TenantMembership.isOf, Bool.and_eq_true, decide_eq_true_eq] at isOf
    rw [isOf.1.1, isOf.1.2, tenants]
  rw [rows, membershipsOf_eq_filter, rolesOf_eq_filter, deptsOf_eq_filter]
  cases db.tenants.find? tenantID with
  | none => simp
  | some tenant =>
      simp only [Option.toList_some, List.flatMap_singleton]
      rfl

/-- What I-8 shows depends on the rows of the user and on whether there is the tenant. -/
theorem visibleOf_congr (rows : rowsOf tenantID userID db = rowsOf tenantID userID other)
    (tenants : db.tenants.Has tenantID ↔ other.tenants.Has tenantID) :
    visibleOf tenantID userID db = visibleOf tenantID userID other := by
  cases here : db.tenants.find? tenantID with
  | none =>
      have gone : other.tenants.find? tenantID = none := by
        rw [← Option.not_isSome_iff_eq_none, Table.isSome_find?, ← tenants, ← Table.isSome_find?,
          here]
        simp
      have empty : ∀ rows : Db, rows.tenants.find? tenantID = none →
          visibleOf tenantID userID rows = none := by
        intro rows none
        rw [visibleOf, findMembershipProjection, joined_eq, none]
        rfl
      rw [empty db here, empty other gone]
  | some tenant =>
      obtain ⟨tenant', there⟩ : ∃ tenant', other.tenants.find? tenantID = some tenant' := by
        rw [← Option.isSome_iff_exists, Table.isSome_find?, ← tenants, ← Table.isSome_find?, here]
        rfl
      have shows : ∀ {rows : Db} {tenant : Tenant}, rows.tenants.find? tenantID = some tenant →
          visibleOf tenantID userID rows =
            summary (joinedWith tenant (rowsOf tenantID userID rows)) := by
        intro rows tenant found
        have shape : joined tenantID userID rows =
            joinedWith tenant (rowsOf tenantID userID rows) := by
          rw [joined_eq, found, Option.toList_some, List.flatMap_singleton]
        rw [visibleOf_eq_summary tenant, shape]
        intro row mem
        rw [shape] at mem
        simp only [joinedWith, List.mem_flatMap, List.mem_map] at mem
        obtain ⟨_, _, _, _, _, _, rfl⟩ := mem
        rfl
      have moved : joinedWith tenant' (rowsOf tenantID userID other) =
          (joinedWith tenant (rowsOf tenantID userID other)).map
            fun row => { row with tenant := tenant' } := by
        simp only [joinedWith, List.map_flatMap, List.map_map]
        rfl
      rw [shows here, shows there, rows, moved, summary_map]

end AuthZRepository

end OrgMembership
