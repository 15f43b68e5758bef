import OrgMembership.Repository.Member
import OrgMembership.Repository.Tenant
import OrgMembership.Service.Membership

/-!
# Department assignment

P-10 `Assign` and P-11 `Remove` of the department membership service and I-10
`AssignFromGroups` of the group mapping service.  The answers of the catalog, the Delegation
Service, the Workflow Service and the group resolution are arguments.
-/

namespace OrgMembership

open Concurrency Relational

variable {σ : Type}

/-- `DeptRole.Rank`. -/
def DeptRole.rank : DeptRole → Int
  | .preparator => 1
  | .reviewer => 2
  | .approver => 3
  | .other _ => -1

/-! ## P-10 -/

/-- What P-10 learns from other services. -/
structure AssignAnswers where
  isServiceAccount : Bool
  /-- Whether the catalog knows the department as active; `none` without a
  catalog. -/
  catalog : Option (Except Failure Bool)
  /-- The delegation scoped to the department, if the lookup finds one. -/
  delegation : Option Uuid
  workflow : WorkflowAnswer

/-- Refuse a demotion that active workflows depend on. -/
def demotionGate (tenantID userID departmentID : Uuid) (level : DeptRole)
    (answers : AssignAnswers) : DbM σ Unit :=
  match answers.workflow with
  | .unwired => return ()
  | workflow => do
      let snapshot ← (withPool (DeptMembershipRepository.listByUser tenantID userID)).observe
      let current := (snapshot.toOption.getD []).find? fun row => row.departmentID = departmentID
      match current, answers.delegation, workflow with
      | some row, some _, .impact impact =>
          if level.rank < row.roleLevel.rank ∧ 0 < impact.activeWorkflows then
            throw (newErrorWith .workflowResolutionRequired
              "active workflows depend on this delegate at the current level"
              [("active_workflows", .int impact.activeWorkflows),
                ("workflow_ids", .ids impact.workflowIDs),
                ("allowed_actions", .texts ["replace_delegate", "stop_workflows"])])
          else
            return ()
      | _, _, _ => return ()

/-- The event of an assignment: a new grant, a changed level, or none. -/
def assignmentEvent (tenantID userID departmentID actorID : Uuid) (level : DeptRole)
    (previous : Option DeptMembership) : Option DomainEvent :=
  match previous with
  | none =>
      some ⟨tenantID, userID,
        .departmentMembershipGranted userID tenantID departmentID level actorID⟩
  | some row =>
      if row.roleLevel = level then
        none
      else
        some ⟨tenantID, userID, .departmentMembershipLevelChanged userID tenantID departmentID
          row.roleLevel level actorID⟩

/-- The transaction of `Assign`. -/
def assignTx (tenantID userID departmentID membershipID actorID : Uuid) (level : DeptRole) :
    DbM σ DeptMembership := do
  let (row, previous) ← DeptMembershipRepository.assign tenantID userID departmentID membershipID
    level actorID
  (assignmentEvent tenantID userID departmentID actorID level previous).toList.forM enqueue
  return row

/-- The department must be active in the catalog. -/
def checkCatalog : Option (Except Failure Bool) → Except Failure Unit
  | none => .ok ()
  | some (.error failure) => .error failure
  | some (.ok true) => .ok ()
  | some (.ok false) =>
      .error (newError .departmentRetired "cannot assign to a globally retired department")

/-- The department must be active for the tenant. -/
def checkTenantDept (tenantID departmentID : Uuid) : DbM σ Unit := do
  match ← tenantQuery (.findDept tenantID departmentID) with
  | none =>
      throw (newError .departmentDeactivated "department is not activated for this tenant")
  | some row =>
      if row.isActive then
        return ()
      else
        throw (newError .departmentDeactivated "department is deactivated for this tenant")

/-- The grantee must be an active member. -/
def findActiveMember (tenantID userID : Uuid) : DbM σ TenantMembership := do
  match ← membershipQuery (.findByUserID tenantID userID) with
  | none => throw (newError .memberNotActive "grantee must be an active tenant member")
  | some row =>
      if row.status = .active then
        return row
      else
        throw (newError .memberNotActive "grantee must be an active tenant member")

/-- P-10 `Assign`.  The gate runs before the transaction. -/
def assign (tenantID userID departmentID : Uuid) (level : DeptRole) (actorID : Uuid)
    (answers : AssignAnswers) : DbM σ DeptMembership :=
  if level.inEnum = false then
    throw (newErrorWith .invalidRole "invalid role_level" [("code", .text "invalid_role_level")])
  else if answers.isServiceAccount then
    throw (newError .serviceAccountNotGrantable
      "service accounts cannot be granted a department role")
  else
    match checkCatalog answers.catalog with
    | .error failure => throw failure
    | .ok _ => do
        withPool (checkTenantDept tenantID departmentID)
        let membership ← withPool (findActiveMember tenantID userID)
        demotionGate tenantID userID departmentID level answers
        runInTx (assignTx tenantID userID departmentID membership.id actorID level)

/-! ## P-11 -/

/-- The transaction of `Remove`. -/
def removeTx (tenantID userID departmentID actorID : Uuid) : DbM σ DeptMembership := do
  let row ← DeptMembershipRepository.remove tenantID userID departmentID
  enqueue ⟨tenantID, userID, .departmentMembershipRevoked userID tenantID departmentID actorID⟩
  return row

/-- The Workflow Service may not say what depends on the user. -/
def remove (tenantID userID departmentID actorID : Uuid) (impact : Option DelegateImpact) :
    DbM σ DeptMembership :=
  match impact with
  | none => runInTx (removeTx tenantID userID departmentID actorID)
  | some impact =>
      if 0 < impact.activeWorkflows then
        throw (newErrorWith .workflowResolutionRequired "active workflows depend on this delegate"
          [("active_workflows", .int impact.activeWorkflows),
            ("workflow_ids", .ids impact.workflowIDs),
            ("allowed_actions", .texts ["replace_delegate", "stop_workflows"])])
      else
        runInTx (removeTx tenantID userID departmentID actorID)

/-! ## I-10 -/

/-- The mapping rows of a tenant, each with its group name. -/
structure GroupMappings where
  depts : List (String × Uuid)
  levels : List (String × DeptRole)
  roles : List (String × TenantRoleCode)

/-- The departments and levels the groups map to: a group that maps to both. -/
def resolveDeptRoles (mappings : GroupMappings) (groups : List String) :
    List (Uuid × DeptRole) :=
  (((mappings.depts.filter fun dept => groups.contains dept.1).flatMap fun dept =>
    (mappings.levels.filter fun level => level.1 = dept.1).map fun level =>
      (dept.2, level.2)).reverse.dedup).reverse

/-- Whether the groups map to the role. -/
def resolvesRole (mappings : GroupMappings) (groups : List String) (code : TenantRoleCode) : Bool :=
  code ≠ .member && mappings.roles.any fun role => groups.contains role.1 && role.2 = code

/-- What I-10 reports. -/
structure JITResult where
  assignedDepts : List Uuid
  grantedTenantRoles : List TenantRoleCode
  deriving DecidableEq

/-- Assign one resolved department and publish the change. -/
def assignResolved (tenantID userID membershipID : Uuid) (target : Uuid × DeptRole) :
    DbM JITResult Unit := do
  let (row, previous) ← DeptMembershipRepository.assign tenantID userID target.1 membershipID
    target.2 0
  modify fun result => { result with assignedDepts := result.assignedDepts ++ [row.departmentID] }
  (assignmentEvent tenantID userID row.departmentID 0 row.roleLevel previous).toList.forM enqueue

/-- Grant one resolved role and publish it. -/
def grantResolved (tenantID userID membershipID : Uuid) (code : TenantRoleCode) :
    DbM JITResult Unit := do
  let role ← TenantRoleRepository.grant tenantID userID membershipID code 0
  modify fun result =>
    { result with grantedTenantRoles := result.grantedTenantRoles ++ [role.roleCode] }
  enqueue ⟨tenantID, userID, .tenantRoleGranted userID tenantID role.roleCode 0⟩

/-- The transaction of `AssignFromGroups`. -/
def assignFromGroupsTx (tenantID userID membershipID : Uuid) (targets : List (Uuid × DeptRole))
    (roles : TenantRoleCode → Bool) (order : MapOrder) : DbM JITResult Unit := do
  targets.forM (assignResolved tenantID userID membershipID)
  let existing ← TenantRoleRepository.listByUser tenantID userID
  (order.visit fun code => roles code && !existing.any fun row => row.roleCode = code).forM
    (grantResolved tenantID userID membershipID)

/-- I-10 `AssignFromGroups`.  The result is gathered over all attempts. -/
def assignFromGroups (tenantID userID : Uuid) (groups : List String) (mappings : GroupMappings)
    (order : MapOrder) : DbM σ JITResult :=
  if groups.isEmpty then
    return ⟨[], []⟩
  else do
    let membership ← withPool (MembershipRepository.findByUserID tenantID userID)
    let (_, result) ← Fallible.capturing ⟨[], []⟩
      (runInTx (assignFromGroupsTx tenantID userID membership.id
        (resolveDeptRoles mappings groups) (resolvesRole mappings groups) order))
    return result

end OrgMembership
