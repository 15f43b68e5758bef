import OrgMembership.Inbox.Ledger
import OrgMembership.Service.Projecting

/-!
# Delivering, parking and replaying

The transactions of the consumer and of I-1 keep the ledger: a delivery claims
its event and then settles or parks it, a replay takes a parked event and settles
it, and I-1 leaves the ledger alone.
-/

namespace OrgMembership

open Concurrency Relational

namespace Inbox

variable {σ α : Type} {strict : Bool} {tenantID : Uuid}

theorem steady_of_projects {query : Query} (projects : Projects tenantID query) :
    Steady query := by
  cases query with
  | tenant query | event query =>
      cases query <;> first
        | exact absurd projects id
        | exact ⟨by simp [OffLedger], by simp, by simp⟩
  | membership query | role query | dept query | invitation query =>
      cases query <;> exact ⟨by simp [OffLedger], by simp, by simp⟩

/-- The session has written no tenant. -/
def Quiet (session : DbSession) : Prop :=
  session.changes Write.tenantChange = []

theorem Quiet.extended {session : DbSession} {query : Query} {context : Context} {db : Db}
    {result : query.Result} {locks : List (Lock LockKey)} {writes : List Write}
    (quiet : Quiet session) (off : .tenants ∉ query.writesTo)
    (yields : (query.effect context db).Yields result writes) :
    Quiet (session.extended query result locks writes) := by
  have none : writes.filterMap Write.tenantChange = [] := by
    refine Query.filterMap_eq_nil yields off fun write apart => ?_
    cases write <;> simp_all [Write.table, Write.tenantChange]
  rw [Quiet, Session.changes_extended, quiet, none]
  rfl

/-! ## Delivery -/

/-- The event is claimed, and nothing else has happened. -/
def Claimed (claim : ProcessedEvent) : Assertion DbServer DbSession :=
  fun server session => Delivering claim [] [] server session ∧ Quiet session

/-- What `ProcessOnce` is about to commit. -/
inductive Delivered (strict : Bool) (eventID : Uuid) (server : DbServer) (session : DbSession) :
    Prop
  | duplicate (bookless : Bookless server session) (processed : server.db.processed.Has eventID)
  | settled {claim : ProcessedEvent} {entry : JournalEntry} (claims : claim.eventID = eventID)
      (delivering : Delivering claim [] [entry] server session)
      (about : entry.eventID = claim.eventID) (just : strict = true → entry.justified = true)
  | parked {claim : ProcessedEvent} {row : ParkedTenantEvent} (claims : claim.eventID = eventID)
      (delivering : Delivering claim [.put row] [] server session)
      (about : row.eventID = claim.eventID) (named : row.envelope.id = row.eventID)
      (quiet : Quiet session)
      (absent : Provisions row.tenantID session ∧
        ¬LiveTenant row.tenantID server.db)

theorem stable_claimed (claim : ProcessedEvent) : (protocol strict).Stable (Claimed claim) :=
  (stable_delivering claim [] []).and (Protocol.stable_local _)

theorem stable_delivered (eventID : Uuid) :
    (protocol strict).Stable (Delivered strict eventID) := by
  intro before after session inv inv' rely delivered
  cases delivered with
  | duplicate bookless processed =>
      refine .duplicate (stable_bookless before after session inv inv' rely bookless) ?_
      rcases rely_cases rely with same | ⟨actor, _, step⟩
      · exact same ▸ processed
      · exact step.remembers eventID processed
  | settled claims delivering about just =>
      exact .settled claims (stable_delivering _ _ _ before after session inv inv' rely delivering)
        about just
  | parked claims delivering about named quiet absent =>
      exact .parked claims (stable_delivering _ _ _ before after session inv inv' rely delivering)
        about named quiet (stable_absent _ before after session inv inv' rely absent)

theorem commit_delivered {server : DbServer} {session : DbSession} {eventID : Uuid}
    (inv : (protocol strict).Inv server) (delivered : Delivered strict eventID server session)
    (disciplined : Disciplined server session) :
    (protocol strict).Inv (dialect.committed server session) ∧
      (protocol strict).Guar session server (dialect.committed server session) ∧
      (dialect.committed server session).db.processed.Has eventID := by
  cases delivered with
  | duplicate bookless processed =>
      obtain ⟨inv', guar⟩ := commit_bookless inv bookless disciplined
      refine ⟨inv', guar, ?_⟩
      rw [(ledger_committed server session).1, bookless.pending]
      exact processed
  | settled claims delivering about just =>
      exact claims ▸ commit_settled inv delivering about just disciplined
  | parked claims delivering about named quiet absent =>
      exact claims ▸ commit_parked inv delivering about named quiet absent.2 disciplined

/-- A steady statement off the tenants keeps the claim. -/
theorem within_claimed {claim : ProcessedEvent} {query : Query} (steady : Steady query)
    (off : .tenants ∉ query.writesTo) :
    Within (protocol strict) (Claimed claim) (send .pg query : DbM σ _) fun _ => Claimed claim := by
  refine within_send lenient (stable_claimed claim) ?_
  intro server session fresh result writes _ claimed _ yields
  exact ⟨claimed.1.steady steady yields, claimed.2.extended off yields⟩

/-- Settling a claimed event. -/
theorem within_settleEntry {claim : ProcessedEvent} {entry : JournalEntry} :
    Within (protocol strict) (Claimed claim) (eventQuery (.settle entry) : DbM σ _)
      fun _ => Delivering claim [] [entry] := by
  refine within_send lenient (stable_claimed claim) ?_
  rintro server session fresh result writes _ ⟨delivering, _⟩ _ yields
  obtain ⟨_, rfl⟩ := Prod.mk.inj (Except.ok.inj yields)
  refine ⟨?_, List.mem_append_left _ delivering.locked, delivering.unclaimed,
    delivering.founded.extended (by simp) (by simp)⟩
  rw [pending_extended, delivering.pending]
  rfl

theorem within_settle {claim : ProcessedEvent} {env : Envelope} {settlement : Settlement} :
    Within (protocol strict) (Claimed claim) (settle env settlement : DbM σ _)
      fun _ => Delivering claim [] [⟨env.id, .lifecycle env.event, settlement⟩] :=
  within_settleEntry

theorem within_projecting {claim : ProcessedEvent} {entry : JournalEntry} {query : Query}
    (projects : Projects tenantID query) :
    Within (protocol strict) (Delivering claim [] [entry]) (send .pg query : DbM σ _)
      fun _ => Delivering claim [] [entry] := by
  refine within_send lenient (stable_delivering _ _ _) ?_
  intro server session fresh result writes _ delivering _ yields
  exact delivering.steady (steady_of_projects projects) yields

/-- Projecting a claimed event settles it. -/
theorem within_projectLocked {claim : ProcessedEvent} {env : Envelope} {duration : Int}
    {locked : TenantProjectionLock} (about : claim.eventID = env.id) :
    Within (protocol strict) (Claimed claim)
      (projectLocked env.tenantID env locked duration : DbM σ _)
      fun _ => Delivered strict env.id := by
  refine Attempt.bind within_settle fun _ => ?_
  refine Attempt.relax (attempt_project fun query projects _ => within_projecting projects) ?_
  intro wiped server session _ delivering
  refine .settled about delivering about.symm fun _ => ?_
  cases locked.stale env.timestamp <;> rfl

/-- Reading keeps the claim. -/
theorem Claimed.read {claim : ProcessedEvent} {server : DbServer} {session : DbSession}
    (claimed : Claimed claim server session) {query : Query} {result : query.Result}
    {locks : List (Lock LockKey)} :
    Claimed claim server (session.extended query result locks []) := by
  obtain ⟨delivering, quiet⟩ := claimed
  refine ⟨⟨?_, List.mem_append_left _ delivering.locked, delivering.unclaimed,
    delivering.founded.extended (by simp) (by simp)⟩, ?_⟩
  · rw [pending_extended, delivering.pending]
    rfl
  · rw [Quiet, Session.changes_extended, quiet]
    rfl

/-- A session that has written no tenant sees the committed ones. -/
theorem Quiet.tenants {server : DbServer} {session : DbSession} (quiet : Quiet session) :
    (dialect.view server session).tenants = server.db.tenants := by
  refine (tenantLawful.table_view server session).trans ?_
  rw [quiet]
  rfl

/-- The look-up of a claimed event's tenant, after no live one could be locked. -/
theorem attempt_findClaimed {claim : ProcessedEvent} :
    Attempt server (protocol strict) (Claimed claim)
      (TenantRepository.findByIDIncludingDeleted tenantID : DbM σ _)
      (fun tenant server session => Claimed claim server session ∧
        (strict = true → tenant.live = false)) fun _ => Claimed claim := by
  have reads : Attempt server (protocol strict) (Claimed claim)
      (tenantQuery (.findByIDIncludingDeleted tenantID) : DbM σ _)
      (fun found server session => Claimed claim server session ∧
        ∀ tenant, found = some tenant → strict = true → tenant.live = false)
      fun _ => Claimed claim := by
    refine attempt_read lenient (stable_claimed claim) (fun _ _ => rfl) ?_
      fun _ _ _ _ claimed => claimed
    intro server session fresh _ claimed admits
    refine ⟨claimed.read, fun tenant found strictly => ?_⟩
    have sound := admits.2 strictly
    simp only [lookupSound] at sound
    simpa [show (dialect.view server session).tenants.find? tenantID = some tenant from found,
      claimed.1.written] using sound
  refine Attempt.bind reads fun found => ?_
  cases found with
  | none => exact Attempt.throw fun _ _ _ holds => holds.1
  | some tenant => exact Attempt.pure fun _ _ _ holds => ⟨holds.1, holds.2 tenant rfl⟩

/-- The provisioning lock is held as well. -/
def Parking (claim : ProcessedEvent) (tenantID : Uuid) : Assertion DbServer DbSession :=
  fun server session => Claimed claim server session ∧
    Provisions tenantID session

theorem stable_parking (claim : ProcessedEvent) :
    (protocol strict).Stable (Parking claim tenantID) :=
  (stable_claimed claim).and
    (Protocol.stable_local (Provisions tenantID))

theorem within_lockProvisioning {claim : ProcessedEvent} :
    Within (protocol strict) (Claimed claim)
      (ParkedTenantEventRepository.lockTenantProvisioning tenantID : DbM σ _)
      fun _ => Parking claim tenantID := by
  refine within_send lenient (stable_claimed claim) ?_
  intro server session fresh result writes _ claimed _ yields
  obtain rfl := Effect.yields_advisory.mp yields
  exact ⟨claimed.read, List.mem_append_right _ (List.mem_singleton.mpr rfl)⟩

/-- Under the provisioning lock, a tenant that is not there stays away. -/
theorem within_lockUnderProvisioning {claim : ProcessedEvent} :
    Within (protocol strict) (Parking claim tenantID)
      (TenantRepository.lockForProjection tenantID : DbM σ _)
      fun found server session => Claimed claim server session ∧
        (found = none → Provisions tenantID session ∧
          ¬LiveTenant tenantID server.db) := by
  refine Attempt.bind (within_lockLive (fun found server session =>
    Claimed claim server session ∧ (found = none →
      Provisions tenantID session ∧ ¬LiveTenant tenantID server.db))
    lenient (stable_parking claim) ?_ ?_) fun found => ?_
  · rintro server session locks _ ⟨claimed, locked⟩ unseen
    refine ⟨claimed.read, fun _ => ⟨locked.extended, ?_⟩⟩
    rintro ⟨tenant, mem, sameID, live⟩
    exact unseen tenant ⟨by rw [claimed.2.tenants]; exact mem, sameID, live⟩
  · rintro server session tenant _ ⟨claimed, _⟩ _
    exact ⟨claimed.read, fun none => absurd none (by simp)⟩
  · refine Attempt.pure fun server session _ holds => ⟨holds.1, fun none => holds.2 ?_⟩
    simpa using none

/-- Parking a claimed event. -/
theorem within_park {claim : ProcessedEvent} {env : Envelope} (about : claim.eventID = env.id) :
    Within (protocol strict)
      (fun server session => Claimed claim server session ∧
        (Provisions env.tenantID session ∧
          ¬LiveTenant env.tenantID server.db))
      (ParkedTenantEventRepository.park env.tenantID env : DbM σ _)
      fun _ => Delivered strict env.id := by
  refine within_send lenient ((stable_claimed claim).and (stable_absent env.tenantID)) ?_
  rintro server session fresh result writes ⟨accounted, _⟩ ⟨⟨delivering, quiet⟩, locked, dead⟩ _
    yields
  obtain ⟨created, inserts, _⟩ := Effect.yields_map.mp yields
  rcases Access.insertRow_cases inserts with
    ⟨_, _, other, mem, same⟩ | ⟨_, _, _, rfl, _⟩
  · -- an event that is not processed is not parked
    rw [show parkedAccess.table (dialect.view server session) = _ from
      parkedLawful.table_view server session,
      show session.changes Write.parkedChange = [] from
        congrArg Pending.parked delivering.pending] at mem
    refine absurd ?_ (accounted.absent delivering.unclaimed).1
    exact ⟨other, mem, (of_decide_eq_true same).trans about.symm⟩
  · have parks : ∀ locks, Delivering claim
        [.put (parkedEvent (Dialect.context server session fresh) env.tenantID env)] [] server
        (session.extended (.event (.park env.tenantID env)) result locks
          [.parked (.put (parkedEvent (Dialect.context server session fresh) env.tenantID env))]) :=
      fun locks => ⟨by rw [pending_extended, delivering.pending]; rfl,
        List.mem_append_left _ delivering.locked, delivering.unclaimed,
        delivering.founded.extended (by simp) (by simp)⟩
    have held : Provisions (parkedEvent (Dialect.context server session fresh) env.tenantID
        env).tenantID session := locked
    exact .parked about (parks _) about.symm rfl (quiet.extended (by simp) yields)
      ⟨held.extended, dead⟩

/-- With a lock on the tenant the event is still to be projected, without one it
has been dealt with. -/
def Referred (strict : Bool) (claim : ProcessedEvent) (eventID : Uuid) :
    Option TenantProjectionLock → Assertion DbServer DbSession
  | some _ => Claimed claim
  | none => Delivered strict eventID

/-- Under the provisioning lock the tenant exists by now, or the event is parked. -/
theorem within_parkUnlessProvisioned {claim : ProcessedEvent} {env : Envelope}
    (about : claim.eventID = env.id) :
    Within (protocol strict) (Claimed claim) (parkUnlessProvisioned env : DbM σ _)
      (Referred strict claim env.id) := by
  refine Attempt.bind within_lockProvisioning fun _ =>
    Attempt.bind within_lockUnderProvisioning fun found => ?_
  cases found with
  | some locked => exact Attempt.pure fun _ _ _ holds => holds.1
  | none =>
      refine Attempt.bind (Attempt.strengthen (within_park about)
        fun _ _ _ holds => ⟨holds.1, holds.2 rfl⟩) fun _ => ?_
      exact Attempt.pure fun _ _ _ delivered => delivered

/-- An event whose tenant has no live row. -/
theorem within_tenantAbsent {claim : ProcessedEvent} {env : Envelope}
    (about : claim.eventID = env.id) :
    Within (protocol strict) (Claimed claim) (tenantAbsent env : DbM σ _)
      (Referred strict claim env.id) := by
  rw [tenantAbsent]
  split
  case isTrue offboards =>
    refine Attempt.bind within_settle fun _ => Attempt.pure fun server session _ delivering => ?_
    exact .settled about delivering about.symm fun _ => by simp [JournalEntry.justified, offboards]
  case isFalse =>
    refine Attempt.bind (Attempt.observe attempt_findClaimed) fun answer => ?_
    rcases answer with failure | tenant
    · dsimp only
      split
      · exact within_parkUnlessProvisioned about
      · exact within_throw
    · -- the look-up tells whether the row that could not be locked was soft-deleted
      refine Attempt.strengthen (Attempt.of_fact fun (dead : strict = true → tenant.live = false) =>
        Attempt.bind within_settle fun _ => Attempt.pure fun server session _ delivering => ?_)
        fun _ _ _ holds => ⟨holds.2, holds.1⟩
      exact .settled about delivering about.symm fun strictly => by
        simp [JournalEntry.justified, dead strictly]

/-- The transaction of `Handle` settles or parks the event it has claimed. -/
theorem within_handleTx {claim : ProcessedEvent} {env : Envelope} {duration : Int}
    (about : claim.eventID = env.id) :
    Within (protocol strict) (Claimed claim) (handleTx env duration : DbM σ _)
      fun _ => Delivered strict env.id := by
  have steady : Steady (.tenant (.lockLive env.tenantID)) :=
    ⟨by simp [OffLedger], by simp, by simp⟩
  have locks : Within (protocol strict) (Claimed claim)
      (TenantRepository.lockForProjection env.tenantID : DbM σ _) fun _ => Claimed claim :=
    Attempt.bind (within_claimed steady (by simp)) fun _ => Attempt.pure fun _ _ _ holds => holds
  refine Attempt.bind locks fun found => ?_
  cases found with
  | some locked =>
      exact Attempt.bind (within_projectLocked about) fun _ =>
        Attempt.pure fun _ _ _ delivered => delivered
  | none =>
      refine Attempt.bind (within_tenantAbsent about) fun found => ?_
      cases found with
      | none => exact Attempt.pure fun _ _ _ delivered => delivered
      | some locked =>
          dsimp only
          split
          · exact within_throw
          · exact Attempt.bind (within_projectLocked about) fun _ =>
              Attempt.pure fun _ _ _ delivered => delivered

/-- The claim of an event: it is new, or a duplicate. -/
theorem within_claimProcessed {eventID : Uuid} :
    Within (protocol strict) (fun _ session => session.Blank)
      (eventQuery (.claimProcessed eventID) : DbM σ _)
      fun fresh server session =>
        (fresh = true → ∃ claim : ProcessedEvent, claim.eventID = eventID ∧
          Claimed claim server session) ∧
        (fresh = false → Delivered strict eventID server session) := by
  refine within_send lenient (Protocol.stable_local _) ?_
  intro server session fresh result writes _ blank _ yields
  obtain ⟨created, inserts, rfl⟩ := Effect.yields_map.mp yields
  have committed : dialect.view server session = server.db := view_of_unwritten blank.unwritten
  rcases Access.insertRow_cases inserts with
    ⟨rfl, rfl, other, mem, same⟩ | ⟨unused, _, rfl, rfl, kept⟩
  · refine ⟨fun fresh => absurd fresh (by simp), fun _ => .duplicate ?_ ?_⟩
    · exact bookless_of_unwritten (by simp [Session.extended, blank.unwritten])
    · rw [committed] at mem
      exact ⟨other, mem, of_decide_eq_true same⟩
  · refine ⟨fun _ => ⟨⟨eventID, txNow (Dialect.context server session fresh)⟩, rfl, ?_⟩,
      fun stale => absurd stale (by simp)⟩
    rw [committed] at unused
    refine ⟨⟨?_, List.mem_append_right _ ?_, ?_, ?_⟩, ?_⟩
    · simp [pending, Session.changes, Session.extended, blank.unwritten, processedAccess,
        Write.processedChange, Write.parkedChange, settledBy]
    · change _ ∈ (processedAccess.insertRow _ _ _ _ _).kept
      rw [kept]
      simp [Access.written, processedAccess]
    · rintro ⟨other, mem, same⟩
      exact absurd (unused other mem) (by simp [show other.eventID = eventID from same])
    · exact (founded_of_unwritten blank.unwritten).extended (by simp [processedAccess])
        (by simp [processedAccess])
    · simp [Quiet, Session.changes, Session.extended, blank.unwritten, processedAccess,
        Write.tenantChange]

/-- `ProcessOnce` around a body that settles or parks the event it has claimed: if it succeeds,
the event is processed. -/
theorem attempt_processOnce {eventID : Uuid} {body : DbM σ Unit}
    (delivers : ∀ {claim : ProcessedEvent}, claim.eventID = eventID →
      Within (protocol strict) (Claimed claim) body fun _ => Delivered strict eventID) :
    Attempt server (protocol strict) (fun _ session => session.Idle) (processOnce eventID body)
      (fun _ server session => session.Idle ∧ server.db.processed.Has eventID)
      fun _ _ session => session.Idle := by
  refine attempt_withPool
    (attempt_idle_transaction lenient (fun _ => stable_delivered eventID) ?_ ?_)
  · refine Attempt.bind within_claimProcessed fun fresh => ?_
    cases fresh with
    | false => exact Attempt.pure fun _ _ _ holds => holds.2 rfl
    | true =>
        exact Attempt.strengthen
          (Attempt.of_exists fun claim => Attempt.of_fact fun about => delivers about)
          fun _ _ _ holds => holds.1 rfl
  · intro _ server session inv delivered admits
    obtain ⟨inv', guar, processed⟩ := commit_delivered inv delivered admits.1
    exact ⟨inv', guar, session.idle_closed, processed⟩

/-- `Handle`: if it succeeds, the event is processed. -/
theorem attempt_handle {skew : Int} {catalog : PlanCatalog} {env : Envelope} :
    Attempt server (protocol strict) (fun _ session => session.Idle)
      (handle skew catalog env : DbM σ _)
      (fun _ server session => session.Idle ∧ server.db.processed.Has env.id)
      fun _ _ session => session.Idle := by
  refine Attempt.bind (idles_timeNow lenient) fun now => ?_
  split
  · exact Attempt.throw fun _ _ _ idle => idle
  · exact Attempt.bind (idles_trialDurationDays lenient) fun _ =>
      attempt_processOnce within_handleTx

end Inbox

end OrgMembership
