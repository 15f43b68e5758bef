import OrgMembership.Lifecycle.Totality

/-!
# What the relay tells of a projection

`applyProjection` computes the status and plan it answers beside the updates it runs,
and some updates select no row.  The answer is what the row has afterwards, and so
the relay of `project` tells each change of the stored status or plan exactly once.
-/

namespace OrgMembership

variable {env : Envelope} {now trialDurationDays : Int} {row row' : ProjectedRow} {tenant : Tenant}

/-! ## What a projection answers -/

/-- The status and plan of a row. -/
def Tenant.state (tenant : Tenant) : SubscriptionStatus × TenantPlan :=
  (tenant.status, tenant.plan)

@[simp]
theorem Tenant.state_touch (now : Int) (old new : Tenant) :
    (old.touch now new).state = new.state :=
  Tenant.touch_proj Tenant.state (fun _ _ _ => rfl) now old new

/-- A patch changes the row it selects and counts it. -/
theorem state_of_applyLifecyclePatch {patch : LifecyclePatch} {rows : Nat}
    (ran : (rowOps now).applyLifecyclePatch patch row = .ok (rows, row')) :
    patch.selects row.tenant = true ∧ rows = 1 ∧
        row'.tenant.state = (patch.set now row.tenant).state ∨
      patch.selects row.tenant = false ∧ rows = 0 ∧ row' = row := by
  obtain ⟨tenant, executed, rfl⟩ := rowOps_applyLifecyclePatch_eq_ok.mp ran
  obtain ⟨_, ⟨selected, updated, counted⟩ | ⟨skipped, same, counted⟩⟩ :=
    execLifecyclePatch_eq_ok.mp executed
  · refine .inl ⟨selected, counted, ?_⟩
    rw [(Tenant.update_eq_ok.mp updated).1, Tenant.state_touch]
  · refine .inr ⟨skipped, counted, ?_⟩
    rw [same]

/-- A computation whose answer is the status and plan it leaves. -/
def RowM.Tells (action : RowM (SubscriptionStatus × TenantPlan)) (row : ProjectedRow) : Prop :=
  ∀ out, action row = .ok out → out.1 = out.2.tenant.state

theorem tells_pure {answer : SubscriptionStatus × TenantPlan} (same : answer = row.tenant.state) :
    RowM.Tells (pure answer) row := by
  intro out ran
  rw [RowM.pure_eq_ok.mp ran]
  exact same

/-- A patch that selects its row, followed by an answer. -/
theorem tells_patch {patch : LifecyclePatch} {answer : SubscriptionStatus × TenantPlan}
    (selects : patch.selects row.tenant = true) (same : answer = (patch.set now row.tenant).state) :
    RowM.Tells ((rowOps now).applyLifecyclePatch patch >>= fun _ => pure answer) row := by
  intro out ran
  obtain ⟨rows, middle, patched, answered⟩ := RowM.bind_eq_ok.mp ran
  rcases state_of_applyLifecyclePatch patched with ⟨_, _, state⟩ | ⟨skipped, _, _⟩
  · exact tells_pure (same.trans state.symm) out answered
  · rw [selects] at skipped
    cases skipped

/-- The answer of `applyProjection` is the status and plan of the row it leaves. -/
theorem applyProjection_tells (now : Int) (event : ConsumedEvent) (row : ProjectedRow)
    (trialDurationDays : Int) :
    RowM.Tells (applyProjection (rowOps now) event row.tenant.status row.tenant.plan
      trialDurationDays) row := by
  cases event with
  | trialReactivated =>
      intro out ran
      obtain ⟨rows, middle, patched, answered⟩ := RowM.bind_eq_ok.mp ran
      rcases state_of_applyLifecyclePatch patched with ⟨_, rfl, state⟩ | ⟨_, rfl, rfl⟩
      · exact tells_pure state.symm out answered
      · exact tells_pure rfl out answered
  | tenantReactivated =>
      rw [applyProjection]
      by_cases ended : row.tenant.status = .offboarded
      · rw [if_pos ended]
        exact tells_pure rfl
      · rw [if_neg ended]
        intro out ran
        obtain ⟨rows, middle, patched, answered⟩ := RowM.bind_eq_ok.mp ran
        rcases state_of_applyLifecyclePatch patched with ⟨_, rfl, state⟩ | ⟨unpaid, rfl, rfl⟩
        · exact tells_pure state.symm out answered
        · -- a row without a subscription is the one the second patch selects
          have inTrial : LifecyclePatch.selects middle.tenant .reactivateTrial = true := by
            simpa [LifecyclePatch.selects] using unpaid
          exact tells_patch inTrial rfl out answered
  | tenantSuspended source =>
      cases source with
      | operator => exact tells_patch rfl rfl
      | billingLapse => exact tells_patch rfl rfl
  | tenantRealmReady | tenantConverted | directPaidSignup | trialExpired | tenantOffboarded
  | tenantPlanChanged | tenantPaymentPastDue | tenantSubscriptionCancelled
  | tenantSeatsChanged => exact tells_patch rfl rfl

/-! ## What a projection publishes -/

/-- The event that tells a change of status or plan. -/
def stateChange (tenantID : Uuid) (env : Envelope)
    (before after : SubscriptionStatus × TenantPlan) : DomainEvent :=
  ⟨tenantID, tenantID, .tenantStateChanged tenantID after.1 before.1 after.2 before.2
    env.timestamp env.event.type⟩

/-- The event is a `TenantStateChanged`. -/
def DomainEvent.isStateChange (event : DomainEvent) : Bool :=
  event.data matches .tenantStateChanged ..

/-- The purge of an offboarded tenant is no change of state to tell. -/
theorem purge_tells_nothing {tenantID : Uuid} {condition : Prop} [Decidable condition]
    {wiped : Bool} (ran : (if condition then do
        (rowOps now).wipeTenantChildren
        (rowOps now).enqueue ⟨tenantID, tenantID, .tenantMembershipsPurged tenantID systemActorID⟩
        return true
      else
        return false : RowM Bool) row = .ok (wiped, row')) :
    row'.published.filter DomainEvent.isStateChange =
      row.published.filter DomainEvent.isStateChange := by
  split at ran
  · cases ran
    simp [DomainEvent.isStateChange]
  · cases RowM.pure_eq_ok.mp ran
    rfl

/-- The relay tells a change of the answered status or plan once. -/
theorem relay_tells {tenantID : Uuid} {before after : SubscriptionStatus × TenantPlan}
    {wiped : Bool} (ran : relay (rowOps now) tenantID env before.1 before.2 after.1 after.2 row =
      .ok (wiped, row')) :
    row'.published.filter DomainEvent.isStateChange =
      row.published.filter DomainEvent.isStateChange ++
        if after = before then [] else [stateChange tenantID env before after] := by
  have changed : (after.1 ≠ before.1 ∨ after.2 ≠ before.2) ↔ ¬after = before := by
    rw [Prod.ext_iff, not_and_or]
  rw [relay] at ran
  by_cases same : after = before
  · rw [if_neg (by simp [same])] at ran
    rw [if_pos same, List.append_nil]
    exact purge_tells_nothing ran
  · rw [if_pos (changed.mpr same)] at ran
    obtain ⟨_, middle, enqueued, purged⟩ := RowM.bind_eq_ok.mp ran
    cases enqueued
    rw [if_neg same, purge_tells_nothing purged, List.filter_append]
    rfl

/-- Nothing is published or wiped before the relay. -/
theorem applyProjection_silent {event : ConsumedEvent} {prevStatus : SubscriptionStatus}
    {prevPlan : TenantPlan} {out : (SubscriptionStatus × TenantPlan) × ProjectedRow}
    (ran : applyProjection (rowOps now) event prevStatus prevPlan trialDurationDays
      ⟨tenant, [], false⟩ = .ok out) : out.2.published = [] ∧ out.2.wiped = false := by
  have patches : ∀ patch, RowM.Keeps (fun row => row.published = [] ∧ row.wiped = false)
      ((rowOps now).applyLifecyclePatch patch) := by
    intro patch row out silent patched
    obtain ⟨_, _, same⟩ := rowOps_applyLifecyclePatch_eq_ok.mp patched
    rw [same]
    exact silent
  exact applyProjection_keeps event prevStatus prevPlan trialDurationDays
    (fun patch _ => patches patch) _ out ⟨rfl, rfl⟩ ran

/-- A projection past the recency guard ends in the relay of the status and plan it
has stored. -/
theorem projectRow_relays {projected : ProjectedRow}
    (recent : tenant.projectionLock.stale env.timestamp = false)
    (ran : projectRow now trialDurationDays env tenant = .ok projected) :
    ∃ middle marked wiped,
      applyProjection (rowOps now) env.event tenant.status tenant.plan trialDurationDays
          ⟨tenant, [], false⟩ = .ok (projected.tenant.state, middle) ∧
        marked.published = [] ∧ marked.wiped = false ∧
        relay (rowOps now) tenant.id env tenant.status tenant.plan projected.tenant.status
          projected.tenant.plan marked = .ok (wiped, projected) := by
  obtain ⟨wiped, projects⟩ := projectRow_eq_ok.mp ran
  rw [project, recent] at projects
  obtain ⟨answer, middle, applied, rest⟩ := RowM.bind_eq_ok.mp projects
  obtain ⟨_, marked, mark, relayed⟩ := RowM.bind_eq_ok.mp rest
  obtain ⟨only, updated⟩ := setLastEventAt_eq_ok mark
  have stored : answer = projected.tenant.state := by
    have kept : projected.tenant = marked.tenant :=
      relay_keeps_tenant now tenant.id env marked.tenant _ _ _ _ marked _ rfl relayed
    rw [kept, (Tenant.update_eq_ok.mp updated).1, Tenant.state_touch]
    exact applyProjection_tells now env.event ⟨tenant, [], false⟩ _ _ applied
  obtain ⟨silent, unwiped⟩ := applyProjection_silent applied
  rw [stored] at applied relayed
  refine ⟨middle, marked, wiped, applied, ?_, ?_, relayed⟩
  · exact (congrArg ProjectedRow.published only).trans silent
  · exact (congrArg ProjectedRow.wiped only).trans unwiped

/-- A projection that runs answers the status and plan it stores, and publishes the
change of the stored status or plan, with both values and the type of the event, if
there is one, and no such event otherwise. -/
theorem projectRow_tells_stored {now trialDurationDays : Int} {env : Envelope} {tenant : Tenant}
    {projected : ProjectedRow} (ran : projectRow now trialDurationDays env tenant = .ok projected) :
    (tenant.projectionLock.stale env.timestamp = false → ∀ answer middle,
      applyProjection (rowOps now) env.event tenant.status tenant.plan trialDurationDays
          ⟨tenant, [], false⟩ = .ok (answer, middle) →
        answer = (projected.tenant.status, projected.tenant.plan)) ∧
    projected.published.filter DomainEvent.isStateChange =
      if projected.tenant.status = tenant.status ∧ projected.tenant.plan = tenant.plan then []
      else [⟨tenant.id, tenant.id, .tenantStateChanged tenant.id projected.tenant.status
        tenant.status projected.tenant.plan tenant.plan env.timestamp env.event.type⟩] := by
  cases stale : tenant.projectionLock.stale env.timestamp with
  | true =>
      rw [projectRow_of_stale stale] at ran
      cases ran
      exact ⟨nofun, by simp⟩
  | false =>
      obtain ⟨middle, marked, wiped, applied, silent, _, relayed⟩ := projectRow_relays stale ran
      constructor
      · intro _ other row again
        cases applied.symm.trans again
        rfl
      · have told : projected.published.filter DomainEvent.isStateChange =
            marked.published.filter DomainEvent.isStateChange ++
              if projected.tenant.state = tenant.state then []
              else [stateChange tenant.id env tenant.state projected.tenant.state] :=
          relay_tells relayed
        rw [silent] at told
        rw [told]
        simp only [Tenant.state, Prod.mk.injEq]
        rfl

/-- The conversion of the trial row is told. -/
theorem projectRow_tells_conversion :
    ∃ projected, projectRow 0 0 ⟨7, 1, 5000, .tenantConverted (some .pro)⟩ trialRow =
        .ok projected ∧
      projected.published.filter DomainEvent.isStateChange =
        [⟨1, 1, .tenantStateChanged 1 .active .trial .pro .starter 5000 .tenantConverted⟩] := by
  obtain ⟨projected, ran, active, pro⟩ : ∃ projected,
      projectRow 0 0 ⟨7, 1, 5000, .tenantConverted (some .pro)⟩ trialRow = .ok projected ∧
        projected.tenant.status = .active ∧ projected.tenant.plan = .pro :=
    ⟨_, rfl, rfl, rfl⟩
  refine ⟨projected, ran, ?_⟩
  rw [(projectRow_tells_stored ran).2, active, pro]
  rfl

end OrgMembership
