import OrgMembership.Lifecycle.Relay
import OrgMembership.Lifecycle.Retention

/-!
# Followers of the state stream

Other services keep the status and the plan of a tenant from the TenantStateChanged events.  A
follower that trusts nothing, and takes an event only if it starts from the state it has and
changes it, takes every event of every run and has the stored status and plan after each.
-/

namespace OrgMembership

/-- What the delivery of one event publishes.  A refused event is rolled back with its events. -/
def Delivery.published (delivery : Delivery) (tenant : Tenant) : List DomainEvent :=
  match projectRow delivery.now delivery.trialDurationDays delivery.env tenant with
  | .ok projected => projected.published
  | .error _ => []

/-- What a sequence of deliveries publishes. -/
def publishAll : List Delivery → Tenant → List DomainEvent
  | [], _ => []
  | delivery :: deliveries, tenant =>
      delivery.published tenant ++ publishAll deliveries (delivery.projectOnto tenant)

/-- A strict follower: the state after one event, or nothing if the event does not fit. -/
def follow (state : SubscriptionStatus × TenantPlan) (event : DomainEvent) :
    Option (SubscriptionStatus × TenantPlan) :=
  match event.data with
  | .tenantStateChanged _ status previousStatus plan previousPlan _ _ =>
      if (previousStatus, previousPlan) = state ∧ (status, plan) ≠ state then some (status, plan)
      else none
  | _ => some state

theorem follow_of_other {event : DomainEvent} (other : event.isStateChange = false)
    (state : SubscriptionStatus × TenantPlan) : follow state event = some state := by
  unfold follow
  split
  case h_1 data => simp [DomainEvent.isStateChange, data] at other
  case h_2 => rfl

@[simp]
theorem follow_stateChange {tenantID : Uuid} {env : Envelope}
    {before after : SubscriptionStatus × TenantPlan} (changed : after ≠ before) :
    follow before (stateChange tenantID env before after) = some after :=
  if_pos ⟨rfl, changed⟩

/-- The follower looks only at the state changes. -/
theorem foldlM_follow_filter (events : List DomainEvent) (state : SubscriptionStatus × TenantPlan) :
    (events.filter DomainEvent.isStateChange).foldlM follow state = events.foldlM follow state := by
  induction events generalizing state with
  | nil => rfl
  | cons event events ih =>
      cases kind : event.isStateChange with
      | true =>
          rw [List.filter_cons_of_pos kind, List.foldlM_cons, List.foldlM_cons]
          exact congrArg _ (funext ih)
      | false =>
          rw [List.filter_cons_of_neg (by simp [kind]), ih, List.foldlM_cons,
            follow_of_other kind]
          rfl

/-- One delivery moves the follower as it moves the row. -/
theorem Delivery.foldlM_follow (delivery : Delivery) (tenant : Tenant) :
    (delivery.published tenant).foldlM follow tenant.state =
      some (delivery.projectOnto tenant).state := by
  rw [published, projectOnto]
  cases ran : projectRow delivery.now delivery.trialDurationDays delivery.env tenant with
  | error _ => rfl
  | ok projected =>
      cases stale : tenant.projectionLock.stale delivery.env.timestamp with
      | true =>
          cases (projectRow_of_stale stale).symm.trans ran
          rfl
      | false =>
          obtain ⟨_, marked, _, _, silent, _, relayed⟩ := projectRow_relays stale ran
          have told : projected.published.filter DomainEvent.isStateChange =
              marked.published.filter DomainEvent.isStateChange ++
                if projected.tenant.state = tenant.state then []
                else [stateChange tenant.id delivery.env tenant.state projected.tenant.state] :=
            relay_tells relayed
          rw [silent, List.filter_nil, List.nil_append] at told
          dsimp only
          rw [← foldlM_follow_filter, told]
          split
          case isTrue same => exact congrArg some same.symm
          case isFalse changed =>
            rw [List.foldlM_cons, follow_stateChange changed]
            rfl

/-- The follower of a whole run takes every event and ends with the stored status and plan, however
the deliveries are ordered, repeated, stale or refused. -/
theorem foldlM_follow_publishAll (deliveries : List Delivery) (tenant : Tenant) :
    (publishAll deliveries tenant).foldlM follow tenant.state =
      some (projectAll deliveries tenant).state := by
  induction deliveries generalizing tenant with
  | nil => rfl
  | cons delivery deliveries ih =>
      rw [publishAll, List.foldlM_append, delivery.foldlM_follow]
      exact ih (delivery.projectOnto tenant)

end OrgMembership
