import OrgMembership.Lifecycle.Order

/-!
# One reactivation per trial

`TrialReactivated` counts the reactivations of a trial and the table allows one.
`TenantReactivated` brings a tenant that never paid back to its trial without counting.  So an
expired trial is reactivated at most once, if no `TenantReactivated` is applied to it.
-/

namespace OrgMembership

namespace Reactivation

/-- The row after a delivery; a database error rolls the transaction back. -/
def settle (delivery : Delivery) (tenant : Tenant) : Tenant :=
  match deliver delivery tenant with
  | .ok settled => settled
  | .error _ => tenant

/-- The rows a tenant goes through, the first one included. -/
def rowsAlong : List Delivery → Tenant → List Tenant
  | [], tenant => [tenant]
  | delivery :: deliveries, tenant => tenant :: rowsAlong deliveries (settle delivery tenant)

/-- The number of transitions from `trial_expired` to `trial`. -/
def reactivations : List Delivery → Tenant → Nat
  | [], _ => 0
  | delivery :: deliveries, tenant =>
      (if tenant.status = .trialExpired ∧ (settle delivery tenant).status = .trial then 1 else 0) +
        reactivations deliveries (settle delivery tenant)

/-- No `TenantReactivated` is applied to an expired trial. -/
def Uncounted : List Delivery → Tenant → Prop
  | [], _ => True
  | delivery :: deliveries, tenant =>
      ¬(tenant.admits delivery.env = true ∧ delivery.env.event = .tenantReactivated ∧
          tenant.status = .trialExpired) ∧
        Uncounted deliveries (settle delivery tenant)

/-! ## One event -/

/-- The count does not go down, and goes up when an expired trial is a trial again. -/
structure Counts (start tenant : Tenant) : Prop where
  kept : start.trialReactivationCount ≤ tenant.trialReactivationCount
  counted : start.status = .trialExpired → tenant.status = .trial →
    start.trialReactivationCount < tenant.trialReactivationCount

variable {start : Tenant} {now : Int}

theorem Counts.refl (tenant : Tenant) : Counts tenant tenant := by
  refine ⟨Int.le_refl _, fun expired trial => ?_⟩
  rw [expired] at trial
  cases trial

theorem Counts.touch {old new : Tenant} (counts : Counts start new) :
    Counts start (old.touch now new) := by
  have status := Tenant.touch_proj Tenant.status (fun _ _ _ => rfl) now old new
  have count := Tenant.touch_proj Tenant.trialReactivationCount (fun _ _ _ => rfl) now old new
  constructor
  · rw [count]
    exact counts.kept
  · rw [status, count]
    exact counts.counted

/-- The patches that start a trial without counting. -/
def startsTrial : LifecyclePatch → Bool
  | .reactivateTrial => true
  | .setStatusClearSuspension .trial => true
  | _ => false

theorem Counts.set {tenant : Tenant} {patch : LifecyclePatch} (counts : Counts start tenant)
    (quiet : start.status = .trialExpired → startsTrial patch = false) :
    Counts start (patch.set now tenant) := by
  have kept := counts.kept
  constructor
  · cases patch with
    | trialReactivate days =>
        change _ ≤ tenant.trialReactivationCount + 1
        omega
    | _ => exact kept
  · intro expired trial
    have silent := quiet expired
    cases patch with
    | trialReactivate days =>
        change _ < tenant.trialReactivationCount + 1
        omega
    | setStatusClearSuspension status =>
        have same : status = .trial := trial
        subst same
        cases silent
    | reactivateTrial => cases silent
    | setRealm => exact counts.counted expired trial
    | setPlan => exact counts.counted expired trial
    | setLicensedSeats => exact counts.counted expired trial
    | _ => cases trial

theorem counts_patch {patch : LifecyclePatch}
    (quiet : start.status = .trialExpired → startsTrial patch = false) :
    RowM.Keeps (fun row => Counts start row.tenant) ((rowOps now).applyLifecyclePatch patch) := by
  intro row out counts ran
  obtain ⟨tenant, executed, rest⟩ := rowOps_applyLifecyclePatch_eq_ok.mp ran
  rw [rest]
  obtain ⟨_, ⟨_, updated, _⟩ | ⟨_, same, _⟩⟩ := execLifecyclePatch_eq_ok.mp executed
  · rw [(Tenant.update_eq_ok.mp updated).1]
    exact (counts.set quiet).touch
  · rw [same]
    exact counts

theorem counts_applyProjection {event : ConsumedEvent} {prevPlan : TenantPlan}
    {trialDurationDays : Int}
    (counted : ¬(event = .tenantReactivated ∧ start.status = .trialExpired)) :
    RowM.Keeps (fun row => Counts start row.tenant)
      (applyProjection (rowOps now) event start.status prevPlan trialDurationDays) := by
  cases event with
  | trialReactivated =>
      exact (counts_patch fun _ => rfl).bind fun rows => .ite (fun _ => .pure _) fun _ => .pure _
  | tenantReactivated =>
      refine .ite (fun _ => .pure _) fun _ => (counts_patch fun _ => rfl).bind fun rows =>
        .ite (fun _ => .pure _) fun _ => (counts_patch fun expired => ?_).bind fun _ => .pure _
      exact absurd ⟨rfl, expired⟩ counted
  | tenantSuspended source =>
      refine (counts_patch fun _ => ?_).bind fun _ => .pure _
      split <;> rfl
  | _ => exact (counts_patch fun _ => rfl).bind fun _ => .pure _

/-- A delivery leaves the row alone, or projects its event and marks it. -/
theorem settle_cases (delivery : Delivery) (tenant : Tenant) :
    settle delivery tenant = tenant ∨
      tenant.admits delivery.env = true ∧ ∃ answer middle,
        applyProjection (rowOps delivery.now) delivery.env.event tenant.status tenant.plan
          delivery.trialDurationDays ⟨tenant, [], false⟩ = .ok (answer, middle) ∧
        middle.tenant.update delivery.now (Tenant.markEvent delivery.env.timestamp) =
          .ok (settle delivery tenant) := by
  rw [settle]
  cases ran : deliver delivery tenant with
  | error error => exact .inl rfl
  | ok settled =>
      rcases deliver_eq_ok ran with ⟨_, same⟩ | ⟨admits, projected, projects, same⟩
      · exact .inl same
      · have recent : tenant.projectionLock.stale delivery.env.timestamp = false := by
          simp only [Tenant.admits, Bool.and_eq_true, Bool.not_eq_true'] at admits
          exact admits.2
        obtain ⟨answer, middle, applied, marked⟩ := projectRow_of_recent recent projects
        exact .inr ⟨admits, answer, middle, applied, same ▸ marked⟩

theorem counts_settle {delivery : Delivery} {tenant : Tenant}
    (counted : ¬(tenant.admits delivery.env = true ∧ delivery.env.event = .tenantReactivated ∧
      tenant.status = .trialExpired)) :
    Counts tenant (settle delivery tenant) := by
  rcases settle_cases delivery tenant with same | ⟨admits, _, middle, applied, marked⟩
  · rw [same]
    exact .refl tenant
  · have counts : Counts tenant middle.tenant := counts_applyProjection
      (fun both => counted ⟨admits, both⟩) _ _ (Counts.refl tenant) applied
    have unchanged : Counts tenant (middle.tenant.markEvent delivery.env.timestamp) :=
      ⟨counts.kept, counts.counted⟩
    rw [(Tenant.update_eq_ok.mp marked).1]
    exact unchanged.touch

theorem valid_settle {delivery : Delivery} {tenant : Tenant} (valid : tenant.Valid) :
    (settle delivery tenant).Valid := by
  rcases settle_cases delivery tenant with same | ⟨_, _, _, _, marked⟩
  · rw [same]
    exact valid
  · exact (Tenant.update_eq_ok.mp marked).2

/-! ## Every sequence -/

/-- A valid row has room for at most one more reactivation. -/
theorem reactivations_le {deliveries : List Delivery} {tenant : Tenant} (valid : tenant.Valid)
    (uncounted : Uncounted deliveries tenant) :
    tenant.trialReactivationCount + reactivations deliveries tenant ≤ 1 := by
  induction deliveries generalizing tenant with
  | nil =>
      have range := valid .reactivationRange
      simp only [Tenant.passes, Bool.and_eq_true, decide_eq_true_eq] at range
      simpa [reactivations] using range.2
  | cons delivery deliveries ih =>
      have counts := counts_settle uncounted.1
      have rest := ih (valid_settle valid) uncounted.2
      have kept := counts.kept
      rw [reactivations]
      by_cases reactivated : tenant.status = .trialExpired ∧
          (settle delivery tenant).status = .trial
      · have more := counts.counted reactivated.1 reactivated.2
        rw [if_pos reactivated]
        push_cast
        omega
      · rw [if_neg reactivated]
        push_cast
        omega

end Reactivation

/-- Whatever events are delivered, an expired trial becomes a trial again at most once, if no
`TenantReactivated` is applied to an expired trial. -/
theorem reactivated_at_most_once {deliveries : List Delivery} {tenant : Tenant}
    (valid : tenant.Valid) (uncounted : Reactivation.Uncounted deliveries tenant) :
    Reactivation.reactivations deliveries tenant ≤ 1 := by
  have bound := Reactivation.reactivations_le valid uncounted
  have range := valid .reactivationRange
  simp only [Tenant.passes, Bool.and_eq_true, decide_eq_true_eq] at range
  omega

namespace Reactivation

/-- Deliveries of some events to the tenant, one second after the other. -/
def deliveriesOf (events : List ConsumedEvent) : List Delivery :=
  events.zipIdx.map fun event =>
    ⟨0, 14, ⟨event.2, 1, (event.2 + 1 : Int) * 1000000000, event.1⟩⟩

/-- A trial that expires, is reactivated, and expires for good. -/
theorem reactivated_once :
    reactivations (deliveriesOf [.trialExpired, .trialReactivated, .trialExpired,
      .trialReactivated]) trialRow = 1 ∧
    reactivations (deliveriesOf [.trialExpired, .trialReactivated, .trialExpired,
      .trialReactivated]) trialRow ≤ 1 :=
  ⟨by decide +kernel, reactivated_at_most_once (by decide) (by simp [deliveriesOf, Uncounted])⟩

/-- A trial that never pays, expires and comes back twice. -/
theorem reactivated_twice :
    trialRow.Valid ∧
    (∀ row ∈ rowsAlong (deliveriesOf [.trialExpired, .tenantReactivated, .trialExpired,
      .tenantReactivated]) trialRow, row.subscriptionStartedAt = none) ∧
    reactivations (deliveriesOf [.trialExpired, .tenantReactivated, .trialExpired,
      .tenantReactivated]) trialRow = 2 :=
  ⟨by decide, by decide +kernel, by decide +kernel⟩

end Reactivation

end OrgMembership
