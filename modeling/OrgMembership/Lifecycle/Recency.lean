import OrgMembership.Lifecycle.Order
import OrgMembership.Lifecycle.Relay

/-!
# The resolution of the recency guard

The guard compares the exact time of an event with the stored time of the last
applied one, which has lost what is below a microsecond.  So an event that is not
newer than an applied one is skipped unless the stored mark has fallen behind it.
Then it is applied once more, which goes unnoticed only if it changes nothing.
-/

namespace OrgMembership

section Marks

variable {delivery : Delivery} {deliveries : List Delivery} {tenant tenant' final : Tenant}
  {mark : Int}

/-- The high-water mark only rises. -/
theorem deliver_mark (marked : tenant.lastEventAt = some (pgTime mark))
    (ran : deliver delivery tenant = .ok tenant') :
    ∃ last, tenant'.lastEventAt = some (pgTime last) ∧ pgTime mark ≤ pgTime last := by
  obtain ⟨_, rfl⟩ | ⟨admits, projected, projects, rfl⟩ := deliver_eq_ok ran
  · exact ⟨mark, marked, Int.le_refl _⟩
  · have recent := (admits_iff.mp admits).2
    refine ⟨delivery.env.timestamp, lastEventAt_of_recent recent projects, ?_⟩
    rw [TenantProjectionLock.stale, Tenant.projectionLock, marked] at recent
    have later := of_decide_eq_false recent
    unfold pgTime at *
    omega

theorem deliverAll_mark (marked : tenant.lastEventAt = some (pgTime mark))
    (ran : deliverAll deliveries tenant = .ok final) :
    ∃ last, final.lastEventAt = some (pgTime last) ∧ pgTime mark ≤ pgTime last := by
  induction deliveries generalizing tenant mark with
  | nil =>
      cases ran
      exact ⟨mark, marked, Int.le_refl _⟩
  | cons delivery deliveries ih =>
      obtain ⟨tenant', delivered, rest⟩ := deliverAll_cons_eq_ok.mp ran
      obtain ⟨next, markedNext, risen⟩ := deliver_mark marked delivered
      obtain ⟨last, markedLast, later⟩ := ih markedNext rest
      exact ⟨last, markedLast, Int.le_trans risen later⟩

end Marks

section Again

variable {now trialDurationDays : Int} {env : Envelope} {current : Tenant} {outcome : ProjectedRow}

/-- A projection that leaves the row as it is has set no column to another value: the trigger
would have counted the update. -/
theorem onto_eq_of_unchanged (recent : current.projectionLock.stale env.timestamp = false)
    (ran : projectRow now trialDurationDays env current = .ok outcome)
    (unchanged : outcome.tenant = current) :
    env.event.onto now trialDurationDays current = current := by
  obtain ⟨middle, updated, stamped, _⟩ := projectRow_onto recent ran
  by_contra changed
  have first : middle.recordVersion = current.recordVersion + 1 := by
    rw [updated, Tenant.recordVersion_touch changed]
  have second : middle.recordVersion ≤ outcome.tenant.recordVersion := by
    by_cases same : middle.markEvent env.timestamp = middle
    · have kept : outcome.tenant = middle := by rw [stamped, same, Tenant.touch_self]
      exact Int.le_of_eq (congrArg Tenant.recordVersion kept.symm)
    · rw [stamped, Tenant.recordVersion_touch same]
      omega
  rw [unchanged] at second
  omega

/-- A projection that sets no column to another value, and whose time is the mark already,
changes nothing and publishes nothing. -/
theorem unchanged_of_onto_eq (recent : current.projectionLock.stale env.timestamp = false)
    (ran : projectRow now trialDurationDays env current = .ok outcome)
    (marked : current.lastEventAt = some (pgTime env.timestamp))
    (same : env.event.onto now trialDurationDays current = current) :
    outcome = ⟨current, [], false⟩ := by
  have kept : outcome.tenant = current := by
    obtain ⟨middle, updated, stamped, _⟩ := projectRow_onto recent ran
    rw [same, Tenant.touch_self] at updated
    have stays : current.markEvent env.timestamp = current := by
      rw [Tenant.markEvent, ← marked]
    rw [stamped, updated, stays, Tenant.touch_self]
  obtain ⟨_, marked, wiped, _, silent, unwiped, relayed⟩ := projectRow_relays recent ran
  rw [kept, relay, if_neg (by simp), if_neg (by simp)] at relayed
  cases RowM.pure_eq_ok.mp relayed
  rw [← kept, ← silent, ← unwiped]

end Again

/-- Once an event is applied, whatever has been delivered since and whatever else of the row has
changed, an event that is not newer changes nothing and publishes nothing if and only if the
stored mark has not fallen behind it or it sets no column to another value. -/
theorem projectRow_skips_older_iff {tenant later current : Tenant} {first second : Envelope}
    {deliveries : List Delivery} {now now' days days' : Int} {projected outcome : ProjectedRow}
    (recent : tenant.projectionLock.stale first.timestamp = false)
    (ran : projectRow now days first tenant = .ok projected)
    (between : deliverAll deliveries projected.tenant = .ok later)
    (kept : current.lastEventAt = later.lastEventAt)
    (older : second.timestamp ≤ first.timestamp)
    (ran' : projectRow now' days' second current = .ok outcome) :
    outcome = ⟨current, [], false⟩ ↔
      current.projectionLock.stale second.timestamp = true ∨
        second.event.onto now' days' current = current := by
  obtain ⟨last, marked, risen⟩ := deliverAll_mark (lastEventAt_of_recent recent ran) between
  rw [← kept] at marked
  cases stale : current.projectionLock.stale second.timestamp with
  | true =>
      rw [projectRow_of_stale stale] at ran'
      cases ran'
      exact iff_of_true rfl (.inl rfl)
  | false =>
      rw [or_iff_right Bool.false_ne_true]
      constructor
      · exact fun unchanged =>
          onto_eq_of_unchanged stale ran' (congrArg ProjectedRow.tenant unchanged)
      · refine unchanged_of_onto_eq stale ran' ?_
        -- the second event lies in the microsecond of the mark
        rw [TenantProjectionLock.stale, Tenant.projectionLock, marked] at stale
        have later := of_decide_eq_false stale
        rw [marked]
        congr 1
        unfold pgTime at *
        omega

/-- The plan becomes pro. -/
def upgrade (timestamp : Int) : Envelope :=
  ⟨11, 1, timestamp, .tenantPlanChanged (some .pro)⟩

/-- The plan becomes starter. -/
def downgrade (timestamp : Int) : Envelope :=
  ⟨12, 1, timestamp, .tenantPlanChanged (some .starter)⟩

/-- The plan changes at 1500 and at 5000 nanoseconds, so a change at 1200 is skipped. -/
theorem projectRow_skips_downgrade :
    ∃ projected later, projectRow 0 0 (upgrade 1500) trialRow = .ok projected ∧
      deliverAll [⟨0, 0, upgrade 5000⟩] projected.tenant = .ok later ∧
      projectRow 0 0 (downgrade 1200) later = .ok ⟨later, [], false⟩ := by
  obtain ⟨projected, later, ran, between, outcome, again, stale⟩ : ∃ projected later,
      projectRow 0 0 (upgrade 1500) trialRow = .ok projected ∧
      deliverAll [⟨0, 0, upgrade 5000⟩] projected.tenant = .ok later ∧
      ∃ outcome, projectRow 0 0 (downgrade 1200) later = .ok outcome ∧
        later.projectionLock.stale 1200 = true :=
    ⟨_, _, rfl, rfl, _, rfl, rfl⟩
  refine ⟨projected, later, ran, between, ?_⟩
  rw [← (projectRow_skips_older_iff rfl ran between rfl (by decide) again).mpr (.inl stale)]
  exact again

/-- Two plan changes in one microsecond: the older one is applied after the newer one
and takes the plan back. -/
theorem projectRow_applies_downgrade :
    ∃ projected overwritten,
      projectRow 0 0 (upgrade 1500) trialRow = .ok projected ∧
      projectRow 0 0 (downgrade 1200) projected.tenant = .ok overwritten ∧
      projected.tenant.plan = .pro ∧ overwritten.tenant.plan = .starter ∧
      overwritten.published.length = 1 :=
  ⟨_, _, rfl, rfl, rfl, rfl, rfl⟩

end OrgMembership
