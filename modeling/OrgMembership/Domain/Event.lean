import OrgMembership.Domain.Types

/-!
# Consumed and published events

The lifecycle and billing events the service consumes, with the payload fields
it reads, and the events it publishes through its outbox.
-/

namespace OrgMembership

/-- A lifecycle or billing event with its decoded payload.  A plan that is
absent from the payload, or empty, is `none`. -/
inductive ConsumedEvent
  | tenantRealmReady (realm keycloakShard : String)
  | tenantConverted (plan : Option TenantPlan)
  | directPaidSignup (plan : Option TenantPlan)
  | trialExpired
  | trialReactivated
  | tenantSuspended (source : SuspensionSource)
  | tenantOffboarded
  | tenantPlanChanged (plan : Option TenantPlan)
  | tenantPaymentPastDue
  | tenantSubscriptionCancelled
  | tenantReactivated
  | tenantSeatsChanged (licensedSeats : Int)
  deriving DecidableEq

/-- The types of events of the subscription lifecycle. -/
inductive EventType
  | tenantRealmReady
  | tenantConverted
  | directPaidSignup
  | trialExpired
  | trialReactivated
  | tenantSuspended
  | tenantOffboarded
  | tenantPlanChanged
  | tenantPaymentPastDue
  | tenantSubscriptionCancelled
  | tenantReactivated
  | tenantSeatsChanged
  deriving DecidableEq

/-- The type an envelope of the event carries. -/
def ConsumedEvent.type : ConsumedEvent → EventType
  | .tenantRealmReady _ _ => .tenantRealmReady
  | .tenantConverted _ => .tenantConverted
  | .directPaidSignup _ => .directPaidSignup
  | .trialExpired => .trialExpired
  | .trialReactivated => .trialReactivated
  | .tenantSuspended _ => .tenantSuspended
  | .tenantOffboarded => .tenantOffboarded
  | .tenantPlanChanged _ => .tenantPlanChanged
  | .tenantPaymentPastDue => .tenantPaymentPastDue
  | .tenantSubscriptionCancelled => .tenantSubscriptionCancelled
  | .tenantReactivated => .tenantReactivated
  | .tenantSeatsChanged _ => .tenantSeatsChanged

/-- A consumed message: its id, the tenant it is about, the producer's clock,
and the event. -/
structure Envelope where
  id : Uuid
  tenantID : Uuid
  timestamp : Int
  event : ConsumedEvent
  deriving DecidableEq

/-- What a consumed message is about. -/
inductive MessageKind
  | lifecycle (event : ConsumedEvent)
  | tenantIdentityProvisioned
  | unknown (eventType : String)
  deriving DecidableEq

/-- A `pending_tenant_events` row: an event kept until its tenant exists. -/
structure ParkedTenantEvent where
  eventID : Uuid
  tenantID : Uuid
  occurredAt : Int
  envelope : Envelope
  parkedAt : Int
  deriving DecidableEq

/-- A `processed_events` row of the membership consumer. -/
structure ProcessedEvent where
  eventID : Uuid
  processedAt : Int
  deriving DecidableEq

/-- The payload of a published event. -/
inductive EventData
  | tenantCreated (tenantID : Uuid) (slug : String) (plan : TenantPlan)
      (status : SubscriptionStatus)
  | trialStarted (tenantID : Uuid) (plan : TenantPlan) (trialEndsAt : Int)
  | tenantRoleGranted (userID tenantID : Uuid) (roleCode : TenantRoleCode) (actorID : Uuid)
  | tenantRoleRevoked (userID tenantID : Uuid) (roleCode : TenantRoleCode) (actorID : Uuid)
  | departmentMembershipGranted (userID tenantID departmentID : Uuid) (level : DeptRole)
      (actorID : Uuid)
  | departmentMembershipRevoked (userID tenantID departmentID actorID : Uuid)
  | departmentMembershipLevelChanged (userID tenantID departmentID : Uuid)
      (previousLevel newLevel : DeptRole) (actorID : Uuid)
  | membershipRevoked (tenantID userID actorID : Uuid)
  | tenantStateChanged (tenantID : Uuid) (status previousStatus : SubscriptionStatus)
      (plan previousPlan : TenantPlan) (changedAt : Int) (cause : EventType)
  | tenantMembershipsPurged (tenantID actorID : Uuid)
  | tenantSettingChanged (tenantID : Uuid) (setting oldValue newValue : String) (actorID : Uuid)
  | tenantSeatOverageStarted (tenantID : Uuid) (licensedSeats : Int) (activeUsers : Nat)
      (pendingInvitations : Nat) (overageSince : Int)
  | tenantSeatOverageResolved (tenantID : Uuid) (resolvedAt : Int)
  | tenderAssigneeOverridden (tenderID tenantID userID actorID : Uuid)
  deriving DecidableEq

/-- A published event.  Events of one tenant and subject are ordered. -/
structure DomainEvent where
  tenantID : Uuid
  subject : Uuid
  data : EventData
  deriving DecidableEq

/-- The actor recorded for changes the service makes on its own behalf. -/
def systemActorID : Uuid :=
  1

end OrgMembership
