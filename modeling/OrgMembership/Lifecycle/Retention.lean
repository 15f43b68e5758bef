import OrgMembership.Lifecycle.Order

/-!
# The retention clock

`cancelled_at` starts the retention of a tenant that leaves.  Three updates write it, each with
`COALESCE(cancelled_at, now())`, and only a reactivation clears it, so the clock is never set
back, whatever else is projected and whatever the constraints refuse.
-/

namespace OrgMembership

/-- A patch that does not reactivate the tenant keeps a running clock. -/
theorem LifecyclePatch.cancelledAt_set {now since : Int} {tenant : Tenant} {patch : LifecyclePatch}
    (plain : patch.reactivates = false) (running : tenant.cancelledAt = some since) :
    (patch.set now tenant).cancelledAt = some since := by
  cases patch with
  | reactivatePaid => cases plain
  | reactivateTrial => cases plain
  | suspendBillingLapse => exact congrArg (fun cancelled => some (cancelled.getD now)) running
  | offboard => exact congrArg (fun cancelled => some (cancelled.getD now)) running
  | cancel => exact congrArg (fun cancelled => some (cancelled.getD now)) running
  | _ => exact running

theorem Tenant.cancelledAt_update {now since : Int} {set : Tenant → Tenant}
    {tenant updated : Tenant}
    (ran : tenant.update now set = .ok updated) (kept : (set tenant).cancelledAt = some since) :
    updated.cancelledAt = some since := by
  rw [(Tenant.update_eq_ok.mp ran).1, Tenant.touch_proj Tenant.cancelledAt fun _ _ _ => rfl]
  exact kept

theorem applyLifecyclePatch_keeps_cancelledAt {now since : Int} {patch : LifecyclePatch}
    (plain : patch.reactivates = false) :
    RowM.Keeps (fun row => row.tenant.cancelledAt = some since)
      ((rowOps now).applyLifecyclePatch patch) := by
  intro row out running ran
  obtain ⟨tenant, executed, updated⟩ := rowOps_applyLifecyclePatch_eq_ok.mp ran
  rw [updated]
  rcases (execLifecyclePatch_eq_ok.mp executed).2 with ⟨_, ran, _⟩ | ⟨_, rfl, _⟩
  · exact Tenant.cancelledAt_update ran (LifecyclePatch.cancelledAt_set plain running)
  · exact running

/-- The event is a reactivation, and it is applied: past the recency guard, to a tenant that is
not offboarded, and without a constraint that refuses it. -/
structure Delivery.Reactivates (delivery : Delivery) (tenant : Tenant) : Prop where
  reactivated : delivery.env.event = .tenantReactivated
  recent : tenant.projectionLock.stale delivery.env.timestamp = false
  live : tenant.status ≠ .offboarded
  accepted : ∃ projected,
    projectRow delivery.now delivery.trialDurationDays delivery.env tenant = .ok projected

/-- Project one event; a refused one leaves the row as it is. -/
def Delivery.projectOnto (delivery : Delivery) (tenant : Tenant) : Tenant :=
  match projectRow delivery.now delivery.trialDurationDays delivery.env tenant with
  | .ok projected => projected.tenant
  | .error _ => tenant

/-- Project one event after the other. -/
def projectAll (deliveries : List Delivery) (tenant : Tenant) : Tenant :=
  deliveries.foldl (fun row delivery => delivery.projectOnto row) tenant

/-- What one event does to a running clock. -/
theorem Delivery.cancelledAt_projectOnto {delivery : Delivery} {tenant : Tenant} {since : Int}
    (running : tenant.cancelledAt = some since) (other : ¬delivery.Reactivates tenant) :
    (delivery.projectOnto tenant).cancelledAt = some since := by
  rw [projectOnto]
  cases ran : projectRow delivery.now delivery.trialDurationDays delivery.env tenant with
  | error _ => exact running
  | ok projected =>
      cases recent : tenant.projectionLock.stale delivery.env.timestamp with
      | true =>
          cases (projectRow_of_stale recent).symm.trans ran
          exact running
      | false =>
          obtain ⟨_, middle, applied, marked⟩ := projectRow_of_recent recent ran
          have keeps : RowM.Keeps (fun row => row.tenant.cancelledAt = some since)
              (applyProjection (rowOps delivery.now) delivery.env.event tenant.status tenant.plan
                delivery.trialDurationDays) := by
            refine applyProjection_keeps _ _ _ _ fun patch asked => ?_
            refine applyLifecyclePatch_keeps_cancelledAt
              (Bool.eq_false_iff.mpr fun reactivates => ?_)
            obtain ⟨event, live⟩ := asked reactivates
            exact other ⟨event, recent, live, projected, ran⟩
          exact Tenant.cancelledAt_update marked (keeps _ _ running applied)

/-- Once the clock runs it keeps its start until a reactivation is applied. -/
theorem projectAll_keeps_cancelledAt (tenant : Tenant) (since : Int) (deliveries : List Delivery)
    (running : tenant.cancelledAt = some since)
    (others : ∀ earlier delivery later, deliveries = earlier ++ delivery :: later →
      ¬delivery.Reactivates (projectAll earlier tenant)) :
    (projectAll deliveries tenant).cancelledAt = some since := by
  induction deliveries generalizing tenant with
  | nil => exact running
  | cons delivery deliveries ih =>
      refine ih _ (Delivery.cancelledAt_projectOnto running (others [] delivery deliveries rfl)) ?_
      rintro earlier next later rfl
      exact others (delivery :: earlier) next later rfl

/-- A suspension for a lapsed bill, a second cancellation and the end of the tenant, after a
cancellation at time 0. -/
def departure : List Delivery :=
  [⟨1000, 0, ⟨7, 1, 5000, .tenantSuspended .billingLapse⟩⟩,
    ⟨2000, 0, ⟨8, 1, 6000, .tenantSubscriptionCancelled⟩⟩,
    ⟨3000, 0, ⟨9, 1, 7000, .tenantConverted none⟩⟩,
    ⟨4000, 0, ⟨10, 1, 8000, .tenantOffboarded⟩⟩]

theorem departure_keeps_cancelledAt :
    (projectAll departure cancelledRow).status = .offboarded ∧
      (projectAll departure cancelledRow).cancelledAt = some 0 := by
  refine ⟨rfl, projectAll_keeps_cancelledAt cancelledRow 0 departure rfl ?_⟩
  intro earlier delivery later split reactivates
  have mem : delivery ∈ departure := split ▸ List.mem_append_right _ List.mem_cons_self
  have none : ∀ delivery ∈ departure, delivery.env.event ≠ .tenantReactivated := by decide
  exact none delivery mem reactivates.reactivated

end OrgMembership
