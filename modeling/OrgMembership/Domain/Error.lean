import OrgMembership.Domain.Types

/-!
# Errors

Database errors as the service distinguishes them, the domain errors it answers
with, and the sentinel errors of the event consumer.
-/

namespace OrgMembership

/-- The CHECK constraints of the `tenants` table. -/
inductive TenantCheck
  | chkCancelledAtRequired
  | chkOffboardedSoftDeleted
  | chkSubscriptionStartedRequired
  | chkSuspensionSourceRequired
  | chkTrialEndsAtRequired
  | keycloakShardNotEmpty
  | licensedSeatsPositive
  | mfaFreshnessRange
  | nameNotEmpty
  | reactivationRange
  | realmIDNotEmpty
  | recordVersionPositive
  | slugNotEmpty
  deriving DecidableEq

/-- The other constraints a statement of the service can violate. -/
inductive Constraint
  | tenantCheck (check : TenantCheck)
  | uqTenantsSlug
  | uqTenantsRealmIDDedicated
  | uqPiPending
  | primaryKey
  | fkTenant
  | fkTenantMembership
  | fkTenantDept
  | chkTrNoMember
  | piExpiresAt
  | piFullNameNotEmpty
  | chkPiAcceptedAtOnlyIfAccepted
  | chkPiAcceptedRequiresAt
  deriving DecidableEq

/-- What a statement can fail with. -/
inductive PgError
  | deadlockDetected
  | serializationFailure
  | connectionException
  | lockNotAvailable
  | violation (constraint : Constraint)
  | numericValueOutOfRange
  | invalidTextRepresentation
  | undefinedColumn
  | noRows
  deriving DecidableEq

/-- The error codes of the service's answers. -/
inductive ErrorCode
  | validation
  | missingIdentity
  | insufficientRole
  | serviceAccountNotGrantable
  | optimisticLockConflict
  | tenantNotFound
  | memberNotFound
  | invitationNotFound
  | conflict
  | slugAlreadyTaken
  | workflowResolutionRequired
  | seatLimitReached
  | invitationAlreadyExists
  | memberNotActive
  | departmentNotFound
  | planNotFound
  | catalogUnavailable
  | departmentRetired
  | departmentDeactivated
  | departmentAlreadyActivated
  | trialAlreadyUsed
  | tenantOffboarded
  | tenantTrialExpired
  | tenantSuspended
  | tenantReadOnly
  | invalidOwnerCandidate
  | invalidRole
  | invalidPlan
  | invalidRealmType
  | lastOwnerRemoval
  | assigneeIneligible
  | reinviteTooSoon
  | inviteRateLimited
  | dbUnavailable
  | requestTimeout
  | workflowServiceUnavailable
  | realmProvisionerUnavailable
  | dependencyUnavailable
  deriving DecidableEq

/-- A value in the details of an error. -/
inductive Detail
  | int (value : Int)
  | text (value : String)
  | ids (value : List Uuid)
  | texts (value : List String)
  deriving DecidableEq

/-- An answer of the service that reports a failure; `cause` is the database
error behind it, if any. -/
structure DomainError where
  code : ErrorCode
  message : String
  details : List (String × Detail)
  cause : Option PgError
  deriving DecidableEq

/-- What a call can fail with. -/
inductive Failure
  | pg (error : PgError)
  | domain (error : DomainError)
  | tenantNotYetProvisioned
  | poisonPill
  /-- A consumed payload violates its embedded schema. -/
  | schemaViolation (cause : String)
  | provisioningRejected (cause : String)
  /-- The envelope of a message names no tenant. -/
  | invalidTenantID
  deriving DecidableEq

/-- `domain.NewError` without details. -/
def newError (code : ErrorCode) (message : String) : Failure :=
  .domain ⟨code, message, [], none⟩

/-- `domain.NewError` with details. -/
def newErrorWith (code : ErrorCode) (message : String) (details : List (String × Detail)) :
    Failure :=
  .domain ⟨code, message, details, none⟩

/-- `errors.Is` for a domain error. -/
def Failure.is (code : ErrorCode) : Failure → Bool
  | .domain error => error.code = code
  | _ => false

/-- The classes of database errors the service answers with an error of its
own; every other error passes through. -/
def wrapConnErr : Failure → Failure
  | .pg .deadlockDetected =>
      .domain ⟨.conflict, "concurrent update conflict — retry the request",
        [("code", .text "concurrent_update")], some .deadlockDetected⟩
  | .pg .serializationFailure =>
      .domain ⟨.conflict, "concurrent update conflict — retry the request",
        [("code", .text "concurrent_update")], some .serializationFailure⟩
  | .pg .lockNotAvailable =>
      .domain ⟨.requestTimeout, "database statement or lock timeout", [], some .lockNotAvailable⟩
  | .pg .connectionException =>
      .domain ⟨.dbUnavailable, "database unavailable", [], some .connectionException⟩
  | failure => failure

/-- The failures after which a transaction is attempted again. -/
def Failure.retryable : Failure → Bool
  | .pg .deadlockDetected => true
  | .pg .serializationFailure => true
  | _ => false

end OrgMembership
