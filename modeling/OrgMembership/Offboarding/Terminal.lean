import OrgMembership.Offboarding.Simulation

/-!
# Offboarding is terminal

Deliveries and replays of lifecycle and billing events for one tenant, in any
interleaving.  The lock that every projection starts with selects live tenants only, and
a row that is offboarded is not live.  So no event changes an offboarded row, and the
transaction that offboards the tenant is the only one that wipes and purges it: none of its rows
is left in the child tables, which no other transaction changes.
-/

namespace OrgMembership

open Concurrency Relational

namespace Offboarding

variable {start : DbServer} {env : Envelope} {now trialDurationDays duration : Int}
  {tenant : Tenant}

/-- The event tells that the tenant's members were purged. -/
def isPurge (tenantID : Uuid) (event : DomainEvent) : Bool :=
  match event.data with
  | .tenantMembershipsPurged id _ => id = tenantID
  | _ => false

/-! ## The purge of a row -/

/-- The relay wipes and purges what is offboarded now and was not before. -/
theorem relay_purges {tenantID : Uuid} {prevStatus newStatus : SubscriptionStatus}
    {prevPlan newPlan : TenantPlan} {row row' : ProjectedRow} {wiped : Bool}
    (ran : relay (rowOps now) tenantID env prevStatus prevPlan newStatus newPlan row =
      .ok (wiped, row')) :
    wiped = decide (prevStatus ≠ .offboarded ∧ newStatus = .offboarded) ∧
      row'.wiped = (row.wiped || wiped) ∧
      row'.published.countP (isPurge tenantID) =
        row.published.countP (isPurge tenantID) + wiped.toNat := by
  have purges : ∀ {middle : ProjectedRow},
      (if prevStatus ≠ .offboarded ∧ newStatus = .offboarded then do
        (rowOps now).wipeTenantChildren
        (rowOps now).enqueue ⟨tenantID, tenantID, .tenantMembershipsPurged tenantID systemActorID⟩
        return true
      else
        return false : RowM Bool) middle = .ok (wiped, row') →
      wiped = decide (prevStatus ≠ .offboarded ∧ newStatus = .offboarded) ∧
        row'.wiped = (middle.wiped || wiped) ∧
        row'.published.countP (isPurge tenantID) =
          middle.published.countP (isPurge tenantID) + wiped.toNat := by
    intro middle purged
    split at purged
    case isTrue ends =>
      cases purged
      simp [ends, isPurge]
    case isFalse goesOn =>
      cases RowM.pure_eq_ok.mp purged
      simp [goesOn]
  rw [relay] at ran
  split at ran
  · obtain ⟨_, middle, enqueued, purged⟩ := RowM.bind_eq_ok.mp ran
    cases enqueued
    obtain ⟨ends, wipes, counts⟩ := purges purged
    refine ⟨ends, wipes, ?_⟩
    rw [counts, List.countP_append]
    rfl
  · exact purges ran

theorem projectRow_purges {projected : ProjectedRow}
    (ran : projectRow now trialDurationDays env tenant = .ok projected) :
    projected.wiped =
        decide (tenant.status ≠ .offboarded ∧ projected.tenant.status = .offboarded) ∧
      projected.published.countP (isPurge tenant.id) = projected.wiped.toNat := by
  cases stale : tenant.projectionLock.stale env.timestamp with
  | true =>
      rw [projectRow_of_stale stale] at ran
      cases ran
      simp
  | false =>
      obtain ⟨_, marked, wiped, _, silent, unwiped, relayed⟩ := projectRow_relays stale ran
      obtain ⟨ends, wipes, counts⟩ := relay_purges relayed
      rw [unwiped, Bool.false_or] at wipes
      rw [silent] at counts
      rw [wipes]
      exact ⟨ends, by simpa using counts⟩

/-- A row that a projection changes passes the checks of its table. -/
theorem projectRow_checked {projected : ProjectedRow}
    (ran : projectRow now trialDurationDays env tenant = .ok projected) :
    projected.tenant = tenant ∨ projected.tenant.Valid := by
  cases stale : tenant.projectionLock.stale env.timestamp with
  | true =>
      rw [projectRow_of_stale stale] at ran
      cases ran
      exact .inl rfl
  | false =>
      obtain ⟨_, middle, _, updated⟩ := projectRow_of_recent stale ran
      exact .inr (Tenant.update_eq_ok.mp updated).2

theorem ended_of_valid (valid : tenant.Valid) (ended : tenant.status = .offboarded) :
    tenant.live = false := by
  rw [Tenant.live, ← Option.not_isSome, tenant.deleted_of_offboarded valid ended]
  rfl

/-! ## The protocol -/

/-- The tenant is offboarded. -/
def offboarded (tenantID : Uuid) (db : Db) : Bool :=
  (db.tenants.find? tenantID).any fun tenant => tenant.status = .offboarded

/-- The purges of the tenant that have been published. -/
def purges (tenantID : Uuid) (db : Db) : Nat :=
  db.outbox.countP (isPurge tenantID)

/-- The transaction has begun `WipeTenantChildren`. -/
def hasWiped (session : DbSession) : Bool :=
  session.hasSent Query.wipes

/-- The tenant has been purged if and only if it is offboarded, and then it is
soft-deleted too. -/
structure Sealed (tenantID : Uuid) (db : Db) : Prop where
  ended : ∀ tenant ∈ db.tenants, tenant.id = tenantID → tenant.status = .offboarded →
    tenant.live = false
  purged : purges tenantID db = (offboarded tenantID db).toNat

/-- What a commit does to the tenant. -/
structure Step (tenantID : Uuid) (actor : DbSession) (before after : Db) : Prop where
  final : offboarded tenantID before = true →
    after.tenants.find? tenantID = before.tenants.find? tenantID
  wipes : hasWiped actor = true ↔
    offboarded tenantID before = false ∧ offboarded tenantID after = true
  shrinks : Shrinks before after
  cleared : hasWiped actor = true → Childless tenantID after
  spared : hasWiped actor = false → after.children = before.children

section Protocol

variable (tenantID : Uuid)

/-- A projection commits under the lock of the tenant, if it does anything to it. -/
def protocol : DbProtocol where
  Inv server := Sealed tenantID server.db
  Admits _ server session := Disciplined server session
  Coexist server actor other := Disciplined server actor ∧ Compatible actor.locks other.locks
  Guar actor before after := after = before ∨
    after = dialect.committed before actor ∧ Step tenantID actor before.db after.db
  Drift before after := after.db = before.db

/-- The transaction has not come to the tenant yet. -/
structure Calm (session : DbSession) : Prop where
  inside : session.inTx = true
  untouched : ∀ change, .tenant change ∉ session.writes
  silent : session.writes.filterMap Write.published = []
  unwiped : hasWiped session = false
  aside : ∀ write ∈ session.writes, write.table ∉ gdprWipeTables

/-- The transaction holds the live tenant, if there is one. -/
def Locked : Option TenantProjectionLock → Assertion DbServer DbSession
  | none, _, session => Calm session
  | some locked, server, session => ∃ now tenant, tenant.live = true ∧
      locked = tenant.projectionLock ∧
      Carried tenantID now tenant ⟨tenant, [], false⟩ server session

/-- The transaction may commit: it has left the tenant alone, or projected an event onto
its live row. -/
def Ready (server : DbServer) (session : DbSession) : Prop :=
  Calm session ∨ ∃ now trialDurationDays env tenant row, tenant.live = true ∧
    projectRow now trialDurationDays env tenant = .ok row ∧
    Carried tenantID now tenant row server session

variable {tenantID}

theorem lenient : Lenient (protocol tenantID) :=
  fun _ _ => .inl rfl

theorem stable_projected {base : Tenant} (row : ProjectedRow) :
    (protocol tenantID).Stable (Projected tenantID now base row) := by
  intro before after session _ _ rely projected
  rcases rely with ⟨actor, ⟨disciplined, compatible⟩, same | ⟨rfl, _⟩⟩ | same
  · exact same ▸ projected
  · exact projected.of_committed disciplined compatible
  · have view : dialect.view after session = dialect.view before session := by
      rw [Dialect.view, Dialect.view, same]
    exact { projected with
      committed := same ▸ projected.committed
      seen := view ▸ projected.seen }

theorem stable_during {base : Tenant} (row : ProjectedRow) (own : DbSession → Prop)
    (kept : Db → Prop) (shrinking : Shrinking kept) :
    (protocol tenantID).Stable (During (Held tenantID now base row own) kept) := by
  intro before after session inv inv' rely during
  have shrinks : Shrinks before.db after.db := by
    rcases rely with ⟨actor, _, same | ⟨_, step⟩⟩ | same
    · exact same ▸ .refl _
    · exact step.shrinks
    · exact same ▸ .refl _
  refine ⟨⟨?_, during.holds.2⟩, during.erasing, ?_⟩
  · exact stable_projected row before after session inv inv' rely during.holds.1
  · exact shrinking _ _ (shrinks.view session) during.kept

theorem stable_ready : (protocol tenantID).Stable (Ready tenantID) := by
  rintro before after session inv inv' rely
    (calm | ⟨now, duration, env, tenant, row, live, ran, carried⟩)
  · exact .inl calm
  · exact .inr ⟨now, duration, env, tenant, row, live, ran,
      stable_during row _ _ shrinking_childless before after session inv inv' rely carried⟩

end Protocol

/-! ## Commits -/

section Commit

variable {tenantID : Uuid} {server : DbServer} {session : DbSession}

theorem offboarded_of_mem {db : Db} (mem : tenant ∈ db.tenants) (same : tenant.id = tenantID) :
    offboarded tenantID db = decide (tenant.status = .offboarded) := by
  rw [offboarded, Table.find?_eq_some.mpr ⟨mem, same⟩, Option.any_some]

theorem purges_view :
    purges tenantID (dialect.view server session) =
      purges tenantID server.db +
        (session.writes.filterMap Write.published).countP (isPurge tenantID) := by
  rw [purges, Dialect.view, outbox_applyAll, List.countP_append]
  rfl

theorem commits_calm (inv : Sealed tenantID server.db) (calm : Calm session) :
    Sealed tenantID (dialect.committed server session).db ∧
      Step tenantID session server.db (dialect.committed server session).db := by
  have tenants : (dialect.view server session).tenants = server.db.tenants :=
    tenantLawful.table_view_of_untouched calm.untouched
  have same :
      offboarded tenantID (dialect.view server session) = offboarded tenantID server.db := by
    rw [offboarded, tenants, offboarded]
  have children : (dialect.view server session).children = server.db.children :=
    children_view calm.aside
  refine ⟨⟨?_, ?_⟩, ?_, ?_, .of_children children, ?_, fun _ => children⟩
  · change ∀ tenant ∈ (dialect.view server session).tenants, _
    rw [tenants]
    exact inv.ended
  · change purges tenantID (dialect.view server session) = _
    rw [purges_view, calm.silent, Dialect.committed, same]
    exact inv.purged
  · intro _
    rw [Dialect.committed, tenants]
  · rw [calm.unwiped, Dialect.committed, same]
    simp
  · rw [calm.unwiped]
    exact fun wiped => (Bool.false_ne_true wiped).elim

theorem commits_projected {row : ProjectedRow} (inv : Sealed tenantID server.db)
    (live : tenant.live = true) (ran : projectRow now trialDurationDays env tenant = .ok row)
    (carried : Carried tenantID now tenant row server session) :
    Sealed tenantID (dialect.committed server session).db ∧
      Step tenantID session server.db (dialect.committed server session).db := by
  obtain ⟨⟨projected, untouched⟩, erasing, childless⟩ := carried
  obtain ⟨wiped, purged⟩ := projectRow_purges ran
  have unended : tenant.status ≠ .offboarded := by
    intro ended
    rw [inv.ended tenant projected.committed projected.baseID ended] at live
    exact Bool.false_ne_true live
  have before : offboarded tenantID server.db = false := by
    rw [offboarded_of_mem projected.committed projected.baseID]
    exact decide_eq_false unended
  have after : offboarded tenantID (dialect.view server session) = row.wiped := by
    rw [offboarded_of_mem projected.seen projected.seenID, wiped]
    simp [unended]
  refine ⟨⟨?_, ?_⟩, ?_, ?_, shrinks_applyAll erasing, ?_, ?_⟩
  · intro other mem same ended
    rw [projected.eq_of_id mem same] at ended ⊢
    rcases projectRow_checked ran with unchanged | valid
    · rw [unchanged] at ended
      exact absurd ended unended
    · exact ended_of_valid valid ended
  · change purges tenantID (dialect.view server session) = _
    rw [purges_view, inv.purged, before, projected.published, ← projected.baseID, purged,
      projected.baseID, Dialect.committed, after]
    simp
  · rw [before]
    exact fun impossible => absurd impossible Bool.false_ne_true
  · rw [before, Dialect.committed, after, hasWiped, projected.wiped]
    simp
  · rw [hasWiped, projected.wiped]
    exact childless
  · rw [hasWiped, projected.wiped]
    exact fun unwiped => children_view (untouched unwiped)

/-- A transaction whose body gets ready keeps the protocol. -/
theorem idles_ready {σ α : Type} {body : DbM σ α}
    (runs : Within (protocol tenantID) (fun _ => Calm) body fun _ => Ready tenantID) :
    Idles (protocol tenantID) (transaction .pg body) := by
  apply attempt_transaction lenient (Protocol.stable_local _) (fun _ => stable_ready)
    (fun _ => Protocol.stable_local fun _ => True) _ runs
  · rintro value server session inv
      (calm | ⟨now, duration, env, tenant, row, live, ran, carried⟩) _
    · obtain ⟨kept, step⟩ := commits_calm inv calm
      exact ⟨kept, .inr ⟨rfl, step⟩, session.idle_closed⟩
    · obtain ⟨kept, step⟩ := commits_projected inv live ran carried
      exact ⟨kept, .inr ⟨rfl, step⟩, session.idle_closed⟩
  · exact fun _ _ _ session _ _ => session.idle_closed
  · exact fun _ _ session _ _ _ => session.idle_closed
  · exact fun _ _ session _ _ => session.idle_closed
  · exact fun _ _ _ _ idle => idle
  · exact fun _ _ _ _ =>
      ⟨rfl, fun _ => List.not_mem_nil, rfl, rfl, fun _ mem => absurd mem List.not_mem_nil⟩

end Commit

/-! ## The transactions of the consumer -/

section Transactions

variable {σ α : Type} {tenantID : Uuid}

/-- A statement that neither wipes nor writes tenants, their children or events. -/
structure Aloof (query : Query) : Prop where
  tenants : .tenants ∉ query.writesTo
  outbox : .outbox ∉ query.writesTo
  unwiping : query.wipes = false
  children : ∀ table ∈ gdprWipeTables, table ∉ query.writesTo

theorem Calm.extended {session : DbSession} (calm : Calm session) {query : Query}
    {result : query.Result} {locks : List (Lock LockKey)} {writes : List Write} {context : Context}
    {db : Db} (aloof : Aloof query) (yields : (query.effect context db).Yields result writes) :
    Calm (session.extended query result locks writes) where
  inside := calm.inside
  untouched change mem := by
    rcases List.mem_append.mp mem with old | new
    · exact calm.untouched change old
    · exact aloof.tenants (Query.table_mem_writesTo yields new)
  silent := by
    have unpublished : writes.filterMap Write.published = [] :=
      Query.filterMap_eq_nil yields aloof.outbox
        fun write other => by cases write <;> first | rfl | exact absurd rfl other
    rw [Session.extended, List.filterMap_append, calm.silent, unpublished, List.append_nil]
  unwiped := by
    rw [hasWiped, Session.hasSent_extended, aloof.unwiping, Bool.and_false, Bool.false_or]
    exact calm.unwiped
  aside write mem := by
    rcases List.mem_append.mp mem with old | new
    · exact calm.aside write old
    · exact fun child => aloof.children _ child (Query.table_mem_writesTo yields new)

theorem Calm.reading {session : DbSession} (calm : Calm session) {query : Query}
    {result : query.Result} {locks : List (Lock LockKey)} (unwiping : query.wipes = false) :
    Calm (session.extended query result locks []) where
  inside := calm.inside
  untouched change := by
    rw [Session.extended, List.append_nil]
    exact calm.untouched change
  silent := by
    rw [Session.extended, List.append_nil]
    exact calm.silent
  unwiped := by
    rw [hasWiped, Session.hasSent_extended, unwiping, Bool.and_false, Bool.false_or]
    exact calm.unwiped
  aside write := by
    rw [Session.extended, List.append_nil]
    exact calm.aside write

/-- A transaction that comes to the tenant with the lock of its row. -/
theorem Calm.projected {server : DbServer} {session : DbSession} (calm : Calm session)
    (sees : SeesTenant server session tenantID tenant) :
    Projected tenantID (pgTime session.startedAt) tenant ⟨tenant, [], false⟩ server
      (session.extended (.tenant (.lockLive tenantID)) (some tenant)
        [⟨.tenant tenantID, .update⟩] []) where
  inside := calm.inside
  started := rfl
  locked := List.mem_append_right _ List.mem_cons_self
  committed := by
    have tenants : (dialect.view server session).tenants = server.db.tenants :=
      tenantLawful.table_view_of_untouched calm.untouched
    exact tenants ▸ sees.mem
  baseID := sees.id
  seen := by
    rw [Dialect.view_extended_nil]
    exact sees.mem
  seenID := sees.id
  published := (calm.reading rfl).silent
  wiped := (calm.reading rfl).unwiped

theorem Calm.carried {server : DbServer} {session : DbSession} (calm : Calm session)
    (sees : SeesTenant server session tenantID tenant) :
    Carried tenantID (pgTime session.startedAt) tenant ⟨tenant, [], false⟩ server
      (session.extended (.tenant (.lockLive tenantID)) (some tenant)
        [⟨.tenant tenantID, .update⟩] []) := by
  have locking : Calm (session.extended (.tenant (.lockLive tenantID)) (some tenant)
      [⟨.tenant tenantID, .update⟩] []) := calm.reading rfl
  exact ⟨⟨calm.projected sees, fun _ => locking.aside⟩,
    fun write mem => adds_of_aside (locking.aside write mem), nofun⟩

theorem keeps_calm {body : DbM σ α} (issues : Fallible.Issues (Only Aloof) body) :
    Keeps (protocol tenantID) (fun _ => Calm) body :=
  attempt_only lenient (Protocol.stable_local _)
    (fun _ aloof _ _ _ _ _ _ calm _ yields => calm.extended aloof yields) issues
    fun _ _ _ calm => calm

theorem within_calm {body : DbM σ α} (issues : Fallible.Issues (Only Aloof) body) :
    Within (protocol tenantID) (fun _ => Calm) body fun _ _ => Calm :=
  Attempt.weaken (keeps_calm issues) (fun _ _ _ calm => calm) (fun _ _ _ _ calm => calm)
    fun _ _ _ _ _ => trivial

theorem aloof_settle (entry : JournalEntry) : Aloof (.event (.settle entry)) :=
  ⟨by simp, by simp, rfl, by simp [gdprWipeTables]⟩

theorem within_lockForProjection :
    Within (protocol tenantID) (fun _ => Calm)
      (TenantRepository.lockForProjection tenantID : DbM σ _) (Locked tenantID) := by
  have locks : Within (protocol tenantID) (fun _ => Calm)
      (tenantQuery (.lockLive tenantID) : DbM σ _)
      fun found => Locked tenantID (found.map Tenant.projectionLock) := by
    apply within_lockLive _ lenient (Protocol.stable_local _)
    · exact fun _ _ _ _ calm _ => calm.reading rfl
    · exact fun _ _ tenant _ calm sees => ⟨_, tenant, sees.live, rfl, calm.carried sees⟩
  exact Attempt.bind locks fun _ => Attempt.pure fun _ _ _ locked => locked

theorem within_parkUnlessProvisioned (about : env.tenantID = tenantID) :
    Within (protocol tenantID) (fun _ => Calm) (parkUnlessProvisioned env : DbM σ _)
      (Locked tenantID) := by
  subst about
  have waits : Within (protocol env.tenantID) (fun _ => Calm)
      (ParkedTenantEventRepository.lockTenantProvisioning env.tenantID : DbM σ _) fun _ _ => Calm :=
    within_calm (issues_send ⟨by simp, by simp, rfl, by simp [gdprWipeTables]⟩)
  refine Attempt.bind waits fun _ => ?_
  refine Attempt.bind within_lockForProjection fun locked => ?_
  cases locked with
  | some locked => exact Attempt.pure fun _ _ _ holds => holds
  | none =>
      have parks : Within (protocol env.tenantID) (Locked env.tenantID none)
          (ParkedTenantEventRepository.park env.tenantID env : DbM σ _) fun _ _ => Calm :=
        within_calm (issues_send ⟨by simp, by simp, rfl, by simp [gdprWipeTables]⟩)
      exact Attempt.bind parks fun _ => Attempt.pure fun _ _ _ calm => calm

theorem keeps_findByIDIncludingDeleted :
    Keeps (protocol tenantID) (fun _ => Calm)
      (TenantRepository.findByIDIncludingDeleted tenantID : DbM σ _) := by
  apply keeps_calm
  refine (issues_send ⟨by simp, by simp, rfl, by simp [gdprWipeTables]⟩).bind fun found => ?_
  cases found with
  | none => exact Fallible.issues_throw _
  | some tenant => exact Fallible.issues_pure _

theorem within_settle (env : Envelope) (settlement : Settlement) :
    Within (protocol tenantID) (fun _ => Calm) (settle env settlement : DbM σ _) fun _ _ => Calm :=
  within_calm (issues_send (aloof_settle _))

theorem within_tenantAbsent (about : env.tenantID = tenantID) :
    Within (protocol tenantID) (fun _ => Calm) (tenantAbsent env : DbM σ _)
      (Locked tenantID) := by
  subst about
  rw [tenantAbsent]
  split
  · exact Attempt.bind (within_settle env _) fun _ => Attempt.pure fun _ _ _ calm => calm
  · refine Attempt.bind (Attempt.observe keeps_findByIDIncludingDeleted) fun found => ?_
    cases found with
    | ok tenant =>
        exact Attempt.bind (within_settle env _) fun _ => Attempt.pure fun _ _ _ calm => calm
    | error failure =>
        dsimp only
        split
        · exact within_parkUnlessProvisioned rfl
        · exact within_throw

/-- Projecting an event onto the locked row. -/
theorem within_projectLocked {locked : TenantProjectionLock} :
    Within (protocol tenantID) (Locked tenantID (some locked))
      (projectLocked tenantID env locked duration : DbM σ _) fun _ => Ready tenantID := by
  refine Attempt.of_exists fun now => Attempt.of_exists fun tenant => ?_
  refine Attempt.of_fact fun live => Attempt.of_fact fun same => ?_
  subst same
  refine Attempt.relax (within_projectRow lenient tenant stable_during env duration) ?_
  rintro _ server session _ ⟨row, ran, projected⟩
  exact .inr ⟨now, duration, env, tenant, row, live, ran, projected⟩

theorem within_handleTx (about : env.tenantID = tenantID) :
    Within (protocol tenantID) (fun _ => Calm) (handleTx env duration : DbM σ _)
      fun _ => Ready tenantID := by
  subst about
  refine Attempt.bind within_lockForProjection fun locked => ?_
  cases locked with
  | some locked =>
      exact Attempt.bind within_projectLocked fun _ => Attempt.pure fun _ _ _ ready => ready
  | none =>
      refine Attempt.bind (within_tenantAbsent rfl) fun absent => ?_
      cases absent with
      | none => exact Attempt.pure fun _ _ _ calm => .inl calm
      | some locked =>
          dsimp only
          split
          · exact within_throw
          · exact Attempt.bind within_projectLocked fun _ => Attempt.pure fun _ _ _ ready => ready

/-- The transaction of `Handle`. -/
theorem within_claimed (about : env.tenantID = tenantID) :
    Within (protocol tenantID) (fun _ => Calm)
      (do
        if ← eventQuery (.claimProcessed env.id) then
          handleTx env duration : DbM σ Unit)
      fun _ => Ready tenantID := by
  have claims : Within (protocol tenantID) (fun _ => Calm)
      (eventQuery (.claimProcessed env.id) : DbM σ _) fun _ _ => Calm :=
    within_calm (issues_send ⟨by simp, by simp, rfl, by simp [gdprWipeTables]⟩)
  refine Attempt.bind claims fun claimed => ?_
  cases claimed with
  | true => exact within_handleTx about
  | false => exact Attempt.pure fun _ _ _ calm => .inl calm

theorem within_replayTx {parked : ParkedTenantEvent} :
    Within (protocol tenantID) (fun _ => Calm) (replayTx tenantID parked duration)
      fun _ => Ready tenantID := by
  have claims : Within (protocol tenantID) (fun _ => Calm)
      (ParkedTenantEventRepository.claim parked.eventID : DbM Bool _) fun _ _ => Calm :=
    within_calm (issues_send ⟨by simp, by simp, rfl, by simp [gdprWipeTables]⟩)
  refine Attempt.bind claims fun claimed => ?_
  cases claimed with
  | false => exact Attempt.pure fun _ _ _ calm => .inl calm
  | true =>
      refine Attempt.bind within_lockForProjection fun locked => ?_
      cases locked with
      | some locked =>
          refine Attempt.bind Attempt.assign fun _ => ?_
          exact Attempt.bind within_projectLocked fun _ => Attempt.pure fun _ _ _ ready => ready
      | none =>
          refine Attempt.bind (Attempt.observe keeps_findByIDIncludingDeleted) fun found => ?_
          cases found with
          | ok tenant => exact Attempt.relax (within_settle _ _) fun _ _ _ _ calm => .inl calm
          | error failure =>
              dsimp only
              split <;> exact within_throw

end Transactions

/-! ## Every run -/

/-- The delivery of an event for the tenant, and the replay of its parked events. -/
inductive Call
  | handle (event : Envelope)
  | replayParked

/-- The program of a call for the tenant. -/
def code (skew : Int) (catalog : PlanCatalog) (tenantID : Uuid) :
    Call → DbProgram (Except Failure Unit)
  | .handle event => (handle skew catalog { event with tenantID }).run
  | .replayParked =>
      Fallible.run do
        let _ ← replayParked catalog tenantID
        return ()

variable {skew : Int} {catalog : PlanCatalog} {tenantID : Uuid}

theorem verified : Verified server (protocol tenantID) (code skew catalog tenantID)
    (fun _ => True) fun _ _ _ session => session.Idle where
  triple call _ := by
    cases call with
    | handle event =>
        exact triple_of_idles (idles_handle lenient fun _ => idles_ready (within_claimed rfl))
    | replayParked =>
        exact triple_of_idles (idles_replayParked lenient fun _ _ =>
          idles_ready within_replayTx).drop
  settled _ _ := fun _ _ _ _ _ _ holds => holds
  drift _ _ inv := ⟨inv, rfl⟩

theorem enforces :
    Enforces server (protocol tenantID) (code skew catalog tenantID) (fun _ => True)
      (fun _ _ => True) (Config.initial start) where
  admits _ _ _ := trivial
  executes config index choice config' call session statement next reaches permitted executes := by
    obtain ⟨disciplined, others⟩ := facts_of_executes reaches executes
    exact ⟨disciplined, fun position other apart found _ =>
      ⟨disciplined, (others position other apart found).1⟩⟩

/-- What an action does to an offboarded tenant. -/
theorem final_of_act {config config' : DbConfig Call (Except Failure Unit)}
    {action : Action Call (Chance PgError) Nat} (sealed : Sealed tenantID start.db)
    (reaches : server.Reaches (code skew catalog tenantID) (fun _ _ => True)
      (Config.initial start) config)
    (acted : server.act (code skew catalog tenantID) action config = some config')
    (ended : offboarded tenantID config.shared.db = true) :
    config'.shared.db.tenants.find? tenantID = config.shared.db.tenants.find? tenantID := by
  cases action with
  | start | crash | signal =>
      cases acted
      rfl
  | step index choice =>
      obtain ⟨process, _, same | ⟨_, step⟩⟩ :=
        reaches.guarantees verified enforces sealed trivial acted
      · rw [same]
      · exact step.final ended

/-- From a state in which the tenant has been purged if and only if it is offboarded, in
every run of deliveries and replays: that stays so; nothing changes the row of an
offboarded tenant any more; and a step that changes the database commits a wipe if and
only if it is the one that offboards the tenant.  After that commit no row of the tenant is left
in the child tables, and every other commit leaves these tables as they are. -/
theorem terminal_of_reaches {start : DbServer} {config : DbConfig Call (Except Failure Unit)}
    (checked : ∀ tenant ∈ start.db.tenants, tenant.id = tenantID → tenant.Valid)
    (purged : purges tenantID start.db = (offboarded tenantID start.db).toNat)
    (reaches : server.Reaches (code skew catalog tenantID) (fun _ _ => True)
      (Config.initial start) config) :
    purges tenantID config.shared.db = (offboarded tenantID config.shared.db).toNat ∧
    (∀ later, server.Reaches (code skew catalog tenantID) (fun _ _ => True) config later →
      offboarded tenantID config.shared.db = true →
        later.shared.db.tenants.find? tenantID = config.shared.db.tenants.find? tenantID) ∧
    ∀ index choice next, server.act (code skew catalog tenantID) (.step index choice) config =
        some next → next.shared.db ≠ config.shared.db →
      ∃ process, config.processes[index]? = some process ∧
        (hasWiped process.loc = true ↔ offboarded tenantID config.shared.db = false ∧
          offboarded tenantID next.shared.db = true) ∧
        (hasWiped process.loc = true → Childless tenantID next.shared.db) ∧
        (hasWiped process.loc = false →
          next.shared.db.children = config.shared.db.children) := by
  have sealed : Sealed tenantID start.db :=
    ⟨fun tenant mem same ended => ended_of_valid (checked tenant mem same) ended, purged⟩
  refine ⟨(reaches.inv verified enforces sealed).purged, ?_, ?_⟩
  · intro later further ended
    induction further with
    | refl => rfl
    | @step middle after action further _ acted same =>
        have still : offboarded tenantID middle.shared.db = true := by
          rw [offboarded, same]
          exact ended
        rw [final_of_act sealed (reaches.trans further) acted still, same]
  · intro index choice next acted changed
    obtain ⟨process, current, same | ⟨_, step⟩⟩ :=
      reaches.guarantees verified enforces sealed trivial acted
    · exact absurd (congrArg Server.db same) changed
    · exact ⟨process, current, step.wipes, step.cleared, step.spared⟩

/-- A paying tenant with one member. -/
def paying : Db :=
  { Db.empty with
    tenants := .singleton { trialRow with status := .active, subscriptionStartedAt := some 0 }
    memberships := .singleton ⟨10, 1, 201, .active, 1, 0, 0, none⟩ }

/-- The tenant is offboarded, and a later event leaves it as it is. -/
theorem terminal_of_offboarding :
    ∃ config later, server.Reaches (code 0 (fun _ => .ok 30) 1) (fun _ _ => True)
        (Config.initial ⟨paying, 10000⟩) config ∧
      server.Reaches (code 0 (fun _ => .ok 30) 1) (fun _ _ => True) config later ∧
      offboarded 1 config.shared.db = true ∧ purges 1 config.shared.db = 1 ∧
      later.processes.all Process.returned = true ∧
      later.shared.db.tenants.find? 1 = config.shared.db.tenants.find? 1 := by
  obtain ⟨config, reaches, tested⟩ := server.exists_reaches_of_run (code 0 (fun _ => .ok 30) 1)
    (fun _ _ => True)
    (.start (.handle ⟨7, 1, 5000, .tenantOffboarded⟩) ::
      .start (.handle ⟨8, 1, 9000, .tenantReactivated⟩) ::
      List.replicate 17 (.step 0 (.proceed 100)))
    (Config.initial ⟨paying, 10000⟩)
    (fun config => offboarded 1 config.shared.db &&
      (server.run (code 0 (fun _ => .ok 30) 1) (fun _ _ => True)
        (List.replicate 7 (.step 1 (.proceed 200))) config).any fun later =>
          later.processes.all Process.returned) (by decide +kernel)
  rw [Bool.and_eq_true] at tested
  obtain ⟨ended, goesOn⟩ := tested
  obtain ⟨later, ran, finished⟩ := (Option.any_eq_true _ _).mp goesOn
  have further : server.Reaches (code 0 (fun _ => .ok 30) 1) (fun _ _ => True) config later :=
    .of_run server _ .refl ran
  obtain ⟨purged, final, _⟩ := terminal_of_reaches (by decide) (by decide) reaches
  refine ⟨config, later, reaches, further, ended, ?_, finished, final later further ended⟩
  rw [purged, ended]
  rfl

end Offboarding

end OrgMembership
