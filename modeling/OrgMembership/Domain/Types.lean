import Mathlib.Data.Int.Basic

/-!
# Rows of the organisation-membership service

The enumerations of the schema and one record per table row, with the columns
the service reads or writes.  Identifiers are natural numbers and instants are
nanoseconds; Postgres keeps instants at microsecond resolution.
-/

namespace OrgMembership

/-- Identifiers; `uuid.Nil` is `0`. -/
abbrev Uuid : Type := Nat

/-- An instant as `timestamptz` stores it. -/
def pgTime (time : Int) : Int :=
  time - time % 1000

theorem pgTime_le (time : Int) : pgTime time ≤ time := by
  have nonneg := Int.emod_nonneg time (by decide : (1000 : Int) ≠ 0)
  rw [pgTime]
  omega

theorem pgTime_mono {first second : Int} (le : first ≤ second) : pgTime first ≤ pgTime second := by
  rw [pgTime, pgTime]
  omega

/-- An interval of whole days. -/
def days (count : Int) : Int :=
  count * 86400000000000

/-- `touch_row`: an update that changes a row stamps it with the next version. -/
def touchRow {Row : Type} [DecidableEq Row] (version : Row → Int) (stamp : Int → Row → Row)
    (old new : Row) : Row :=
  if new = old then old else stamp (version old + 1) new

/-- What stamping leaves alone, the trigger leaves alone. -/
theorem touchRow_proj {Row γ : Type} [DecidableEq Row] {version : Row → Int}
    {stamp : Int → Row → Row} (field : Row → γ)
    (unstamped : ∀ next row, field (stamp next row) = field row) (old new : Row) :
    field (touchRow version stamp old new) = field new := by
  rw [touchRow]
  split
  case isTrue same => rw [same]
  case isFalse => exact unstamped _ _

/-- The plans of the catalog. -/
inductive TenantPlan
  | starter
  | pro
  | enterprise
  deriving DecidableEq

/-- The status of a tenant's subscription. -/
inductive SubscriptionStatus
  | trial
  | active
  | pastDue
  | cancelled
  | suspended
  | trialExpired
  | offboarded
  deriving DecidableEq

/-- Whether tenants share the Keycloak realm. -/
inductive RealmType
  | shared
  | dedicated
  deriving DecidableEq

/-- Who suspended a tenant. -/
inductive SuspensionSource
  | billingLapse
  | operator
  deriving DecidableEq

/-- Where a tenant's data may be kept. -/
inductive ResidencyMode
  | standard
  | strict
  deriving DecidableEq

/-- The status of a member in a tenant. -/
inductive MembershipStatus
  | active
  | suspended
  | left
  deriving DecidableEq

/-- `member` is derived and never stored. -/
inductive TenantRoleCode
  | tenantOwner
  | tenantAdmin
  | tenderAdmin
  | member
  deriving DecidableEq

/-- Whether a role is an elevated grant with a row of its own. -/
def TenantRoleCode.isElevated : TenantRoleCode → Bool
  | .member => false
  | _ => true

/-- The level of an assignment.  In the service it is a string. -/
inductive DeptRole
  | preparator
  | reviewer
  | approver
  /-- Any other string. -/
  | other (text : String)
  deriving DecidableEq

/-- Whether the level is a value of the `dept_role` enum of the database. -/
def DeptRole.inEnum : DeptRole → Bool
  | .other _ => false
  | _ => true

/-- The status of an invitation: only pending ones can be accepted. -/
inductive InvitationStatus
  | pending
  | accepted
  | expired
  | revoked
  deriving DecidableEq

/-- A `tenants` row. -/
structure Tenant where
  id : Uuid
  slug : String
  name : String
  plan : TenantPlan
  status : SubscriptionStatus
  trialEndsAt : Option Int
  trialReactivationCount : Int
  subscriptionStartedAt : Option Int
  cancelledAt : Option Int
  suspensionSource : Option SuspensionSource
  lastEventAt : Option Int
  realmID : String
  realmType : RealmType
  keycloakShard : String
  mfaFreshnessSeconds : Int
  localAccountsEnabled : Bool
  realmSyncPending : Bool
  defaultLocale : String
  licensedSeats : Int
  ownerlessSince : Option Int
  overageSince : Option Int
  residencyMode : ResidencyMode
  /-- A JSON object, as the column keeps it. -/
  featureFlags : String := "\x7b\x7d"
  recordVersion : Int
  createdAt : Int
  updatedAt : Int
  deletedAt : Option Int
  deriving DecidableEq

/-- A `tenant_memberships` row. -/
structure TenantMembership where
  id : Uuid
  tenantID : Uuid
  userID : Uuid
  status : MembershipStatus
  recordVersion : Int
  createdAt : Int
  updatedAt : Int
  deletedAt : Option Int
  deriving DecidableEq

/-- A `tenant_roles` row. -/
structure TenantRole where
  id : Uuid
  tenantID : Uuid
  userID : Uuid
  tenantMembershipID : Uuid
  roleCode : TenantRoleCode
  grantedBy : Uuid
  recordVersion : Int
  createdAt : Int
  updatedAt : Int
  deletedAt : Option Int
  deriving DecidableEq

/-- A `dept_memberships` row. -/
structure DeptMembership where
  id : Uuid
  tenantID : Uuid
  userID : Uuid
  tenantMembershipID : Uuid
  departmentID : Uuid
  roleLevel : DeptRole
  grantedBy : Uuid
  recordVersion : Int
  createdAt : Int
  updatedAt : Int
  deletedAt : Option Int
  deriving DecidableEq

/-- A `tenant_departments` row, identified by its tenant and department. -/
structure TenantDepartment where
  tenantID : Uuid
  departmentID : Uuid
  isActive : Bool
  recordVersion : Int
  createdAt : Int
  updatedAt : Int
  deriving DecidableEq

/-- A `dept_role_labels` row. -/
structure DeptRoleLabel where
  id : Uuid
  tenantID : Uuid
  roleCode : DeptRole
  displayName : String
  recordVersion : Int
  createdAt : Int
  updatedAt : Int
  deriving DecidableEq

/-- A `trial_signup_ledger` row, identified by the hash. -/
structure TrialSignupRecord where
  emailHash : String
  tenantID : Option Uuid
  createdAt : Int
  deriving DecidableEq

/-- One entry of an invitation's department list. -/
structure InvitationDeptMapping where
  departmentID : Uuid
  level : DeptRole
  deriving DecidableEq

/-- A `pending_invitations` row. -/
structure PendingInvitation where
  id : Uuid
  tenantID : Uuid
  email : String
  fullName : String
  initialTenantRoles : List TenantRoleCode
  initialDeptMappings : List InvitationDeptMapping
  invitedBy : Uuid
  keycloakUserID : Option Uuid
  status : InvitationStatus
  expiresAt : Int
  acceptedAt : Option Int
  kcCleanupPending : Bool
  recordVersion : Int
  createdAt : Int
  updatedAt : Int
  deriving DecidableEq

end OrgMembership
