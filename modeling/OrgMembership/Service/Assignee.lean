import OrgMembership.Service.Department

/-!
# Assignees of Workflow tasks

I-13 `ValidateAndEmitAssigneeOverride` of the membership service and I-19 `CheckEligibility`
of the department membership service: two checks of an assignee against a department and a
level.
-/

namespace OrgMembership

open Concurrency Relational

variable {σ : Type}

/-- Whether a level meets or exceeds the required minimum. -/
def DeptRole.satisfies (level minimum : DeptRole) : Bool :=
  if level.rank < 0 ∨ minimum.rank < 0 then false else minimum.rank ≤ level.rank

/-! ## I-13 -/

/-- Whether one of the roles lets the actor override an assignee. -/
def hasElevated (actorRoles : List TenantRole) : Bool :=
  actorRoles.any fun role =>
    role.roleCode = .tenderAdmin || role.roleCode = .tenantAdmin || role.roleCode = .tenantOwner

/-- Whether one of the assignments is to the department, at the required level. -/
def isAssignable (departmentID : Uuid) (requiredLevel : DeptRole)
    (assigneeDepts : List DeptMembership) : Bool :=
  assigneeDepts.any fun row =>
    row.departmentID = departmentID && row.roleLevel.satisfies requiredLevel

/-- Whatever goes wrong when the membership is looked up, the assignee is refused. -/
def validateAndEmitAssigneeOverride (tenantID tenderID newUserID departmentID : Uuid)
    (requiredLevel : DeptRole) (actorID : Uuid) : DbM σ Unit := do
  let actorRoles ← withPool (TenantRoleRepository.listByUser tenantID actorID)
  if hasElevated actorRoles = false then
    throw (newError .insufficientRole "actor must hold tender_admin, tenant_admin, or tenant_owner")
  else do
    let assignee ← (withPool (MembershipRepository.findByUserID tenantID newUserID)).mapError
      fun _ => newError .assigneeIneligible "assignee is not a member of this tenant"
    if assignee.status ≠ .active then
      throw (newError .assigneeIneligible "assignee is not an active member")
    else do
      let assigneeDepts ← withPool (DeptMembershipRepository.listByUser tenantID newUserID)
      if isAssignable departmentID requiredLevel assigneeDepts then
        runInTx (enqueue ⟨tenantID, tenderID,
          .tenderAssigneeOverridden tenderID tenantID newUserID actorID⟩)
      else
        throw (newError .assigneeIneligible "assignee not at required level in department")

/-! ## I-19 -/

/-- Why an assignee is not eligible. -/
inductive EligibilityReason
  | notMember
  | memberNotActive
  | departmentNotActive
  | notInDepartment
  | levelInsufficient
  deriving DecidableEq

/-- The answer of I-19; the level is the one that the user has in the department. -/
structure AssigneeEligibility where
  eligible : Bool
  reason : Option EligibilityReason
  roleLevel : Option DeptRole
  deriving DecidableEq

/-- The answer without a level. -/
def notEligible (reason : EligibilityReason) : AssigneeEligibility :=
  ⟨false, some reason, none⟩

/-- The answer for the assignments of an active member to departments, from the first one
to the department. -/
def levelEligibility (departmentID : Uuid) (requiredLevel : DeptRole) :
    List DeptMembership → AssigneeEligibility
  | [] => notEligible .notInDepartment
  | row :: rest =>
      if row.departmentID ≠ departmentID then
        levelEligibility departmentID requiredLevel rest
      else if row.roleLevel.satisfies requiredLevel = false then
        ⟨false, some .levelInsufficient, some row.roleLevel⟩
      else
        ⟨true, none, some row.roleLevel⟩

/-- I-19 `CheckEligibility`: who is not eligible is told why, without an error. -/
def checkEligibility (tenantID userID departmentID : Uuid) (requiredLevel : DeptRole) :
    DbM σ AssigneeEligibility :=
  if requiredLevel.rank < 0 then
    throw (newErrorWith .validation "required_level must be one of preparator, reviewer, approver"
      [("code", .text "invalid_role_level")])
  else do
    match ← (withPool (MembershipRepository.findByUserID tenantID userID)).observe with
    | .error failure =>
        if failure.is .memberNotFound then
          return notEligible .notMember
        else
          throw failure
    | .ok membership =>
        if membership.status ≠ .active then
          return notEligible .memberNotActive
        else do
          match ← (withPool (TenantDepartmentRepository.find tenantID departmentID)).observe with
          | .error failure =>
              if failure.is .departmentNotFound then
                return notEligible .departmentNotActive
              else
                throw failure
          | .ok tenantDept =>
              if tenantDept.isActive = false then
                return notEligible .departmentNotActive
              else do
                let assignments ← withPool (DeptMembershipRepository.listByUser tenantID userID)
                return levelEligibility departmentID requiredLevel assignments

end OrgMembership
