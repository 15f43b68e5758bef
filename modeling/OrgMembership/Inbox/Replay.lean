import OrgMembership.Inbox.Delivery

/-!
# Replays

A replay lists the parked events of a tenant and settles them one by one.  If the
tenant existed when the replay began and the replay ends without error, no event
of the tenant is parked any more while the tenant is live.
-/

namespace OrgMembership

open Concurrency Relational

namespace Inbox

variable {σ α : Type} {strict seen : Bool} {tenantID eventID : Uuid} {ids : List Uuid}
variable {env : Envelope} {duration : Int} {row : ParkedTenantEvent}

/-! ## What is left to replay -/

/-- The tenant exists, and as long as it is live only these events of it are
parked. -/
structure Left (tenantID : Uuid) (ids : List Uuid) (db : Db) : Prop where
  present : db.tenants.Has tenantID
  rest : LiveTenant tenantID db →
    ∀ row ∈ db.parked, row.tenantID = tenantID → row.eventID ∈ ids

/-- A replay knows what is left only if it saw the tenant when it began. -/
def Due (seen : Bool) (tenantID : Uuid) (ids : List Uuid) (db : Db) : Prop :=
  seen = true → Left tenantID ids db

theorem Left.step {actor : DbSession} {before after : Db} (step : Step actor before after)
    (left : Left tenantID ids before) : Left tenantID ids after := by
  refine ⟨step.keeps tenantID left.present, fun live row mem same => ?_⟩
  rcases step.parks row mem with old | dead
  · exact left.rest (step.ends tenantID left.present live) row old same
  · exact absurd (same ▸ live) dead

theorem settled_due :
    (protocol strict).Settled fun server _ => Due seen tenantID ids server.db := by
  intro before after _ _ _ moved due known
  rcases moved with ⟨actor, same | step⟩ | drift
  · exact same ▸ due known
  · exact (due known).step step
  · exact (show before.db = after.db from drift) ▸ due known

/-- One event less is left once it is not parked. -/
theorem Due.tail {db : Db} (due : Due seen tenantID (eventID :: ids) db)
    (gone : ¬db.parked.Has eventID) : Due seen tenantID ids db := by
  refine fun known => ⟨(due known).present, fun live row mem same => ?_⟩
  rcases List.mem_cons.mp ((due known).rest live row mem same) with rfl | later
  · exact absurd ⟨row, mem, rfl⟩ gone
  · exact later

/-! ## One event -/

/-- What the transaction of a replay is about to commit. -/
inductive Replayed (strict seen : Bool) (tenantID eventID : Uuid) (ids : List Uuid)
    (server : DbServer) (session : DbSession) : Prop
  | passed (bookless : Bookless server session) (due : Due seen tenantID ids server.db)
  | settled {row : ParkedTenantEvent} {entry : JournalEntry} (claims : row.eventID = eventID)
      (replaying : Replaying row [entry] server session)
      (about : entry.eventID = row.eventID) (just : strict = true → entry.justified = true)
      (due : Due seen tenantID (eventID :: ids) server.db)

/-- How the transaction of a replay may fail: a tenant that was seen exists. -/
def Undone (seen : Bool) (tenantID : Uuid) (ids : List Uuid) (failure : Failure) :
    Assertion DbServer DbSession :=
  fun server _ => Due seen tenantID ids server.db ∧
    (seen = true → failure ≠ .tenantNotYetProvisioned)

/-- The session has taken a parked event, and this is left. -/
def Taken (row : ParkedTenantEvent) (journal : List JournalEntry) (seen : Bool) (tenantID : Uuid)
    (ids : List Uuid) : Assertion DbServer DbSession :=
  fun server session => Replaying row journal server session ∧ Due seen tenantID ids server.db

theorem stable_taken (row : ParkedTenantEvent) (journal : List JournalEntry) :
    (protocol strict).Stable (Taken row journal seen tenantID ids) :=
  (stable_replaying row journal).and settled_due.stable

theorem stable_undone (failure : Failure) :
    (protocol strict).Stable (Undone seen tenantID ids failure) :=
  settled_due.stable.and fun _ _ _ _ _ _ holds => holds

theorem stable_replayed :
    (protocol strict).Stable (Replayed strict seen tenantID eventID ids) := by
  intro before after session inv inv' rely replayed
  cases replayed with
  | passed bookless due =>
      exact .passed (stable_bookless before after session inv inv' rely bookless)
        (settled_due.stable before after session inv inv' rely due)
  | settled claims replaying about just due =>
      exact .settled claims (stable_replaying _ _ before after session inv inv' rely replaying)
        about just (settled_due.stable before after session inv inv' rely due)

theorem commit_replay {server : DbServer} {session : DbSession}
    (inv : (protocol strict).Inv server)
    (replayed : Replayed strict seen tenantID eventID ids server session)
    (disciplined : Disciplined server session) :
    (protocol strict).Inv (dialect.committed server session) ∧
      (protocol strict).Guar session server (dialect.committed server session) ∧
      Due seen tenantID ids (dialect.committed server session).db := by
  cases replayed with
  | passed bookless due =>
      obtain ⟨inv', guar⟩ := commit_bookless inv bookless disciplined
      exact ⟨inv', guar, settled_due _ _ session inv inv' (.inl ⟨session, guar⟩) due⟩
  | settled claims replaying about just due =>
      obtain ⟨inv', guar, gone⟩ := commit_replayed inv replaying about just disciplined
      have later := settled_due _ _ session inv inv' (.inl ⟨session, guar⟩) due
      exact ⟨inv', guar, later.tail (claims ▸ gone)⟩

theorem undone_pg {server : DbServer} {session : DbSession} {fault : PgError}
    (due : Due seen tenantID ids server.db) :
    Undone seen tenantID ids (.pg fault) server session :=
  ⟨due, fun _ => by simp⟩

/-- A steady statement keeps the event taken. -/
theorem attempt_taken {journal : List JournalEntry} {query : Query} (steady : Steady query) :
    Attempt server (protocol strict) (Taken row journal seen tenantID ids)
      (send .pg query : DbM σ _) (fun _ => Taken row journal seen tenantID ids)
      (Undone seen tenantID ids) := by
  refine attempt_send lenient (stable_taken row journal) ?_
    fun _ _ _ _ taken => undone_pg taken.2
  intro server session fresh result writes _ taken _ yields
  exact ⟨taken.1.steady steady yields, taken.2⟩

theorem attempt_settleTaken {settlement : Settlement} :
    Attempt server (protocol strict) (Taken row [] seen tenantID ids)
      (settle env settlement : DbM σ _)
      (fun _ => Taken row [⟨env.id, .lifecycle env.event, settlement⟩] seen tenantID ids)
      (Undone seen tenantID ids) := by
  refine attempt_send lenient (stable_taken row []) ?_ fun _ _ _ _ taken => undone_pg taken.2
  rintro server session fresh result writes _ ⟨replaying, due⟩ _ yields
  obtain ⟨_, rfl⟩ := Prod.mk.inj (Except.ok.inj yields)
  refine ⟨⟨?_, replaying.locked.mono (List.subset_append_left _ _), replaying.parked,
    replaying.founded.extended (by simp) (by simp)⟩, due⟩
  rw [pending_extended, replaying.pending]
  rfl

/-- The claim of a parked event: it is taken, or it is gone. -/
theorem attempt_claimParked :
    Attempt server (protocol strict)
      (fun server session => session.Blank ∧ Due seen tenantID (eventID :: ids) server.db)
      (ParkedTenantEventRepository.claim eventID : DbM σ _)
      (fun claimed server session =>
        (claimed = true → ∃ row : ParkedTenantEvent, row.eventID = eventID ∧
          Taken row [] seen tenantID (eventID :: ids) server session) ∧
        (claimed = false → Replayed strict seen tenantID eventID ids server session))
      (Undone seen tenantID (eventID :: ids)) := by
  refine attempt_send lenient ((Protocol.stable_local _).and settled_due.stable) ?_
    fun _ _ _ _ holds => undone_pg holds.2
  rintro server session fresh result writes _ ⟨blank, due⟩ _ yields
  obtain ⟨found, deletes, rfl⟩ := Effect.yields_map.mp yields
  have committed : dialect.view server session = server.db := view_of_unwritten blank.unwritten
  rcases Access.deleteRow_cases deletes with
    ⟨rfl, rfl, absent⟩ | ⟨row, mem, rfl, _, _, rfl, rfl, kept⟩
  · refine ⟨fun claimed => absurd claimed (by simp), fun _ => .passed ?_ (due.tail ?_)⟩
    · exact bookless_of_unwritten (by simp [Session.extended, blank.unwritten])
    · rintro ⟨row, mem, same⟩
      rw [committed] at absent
      exact absurd (absent row mem same) (by simp)
  · rw [committed] at mem
    refine ⟨fun _ => ⟨row, rfl, ⟨?_, ?_, mem, ?_⟩, due⟩, fun missed => absurd missed (by simp)⟩
    · simp [pending, Session.changes, Session.extended, blank.unwritten, parkedAccess,
        Write.processedChange, Write.parkedChange, settledBy]
    · refine Exclusive.mono ?_ (List.subset_append_right _ _)
      change Exclusive (parkedAccess.deleteRow _ _ _ _).kept _
      rw [kept]
      exact .inr (by simp [Access.written, parkedAccess])
    · exact (founded_of_unwritten blank.unwritten).extended (by simp [parkedAccess])
        (by simp [parkedAccess])

/-- The look-up of a taken event's tenant; a tenant that was seen is found. -/
theorem attempt_findTaken :
    Attempt server (protocol strict) (Taken row [] seen tenantID ids)
      (TenantRepository.findByIDIncludingDeleted tenantID : DbM σ _)
      (fun tenant server session => Taken row [] seen tenantID ids server session ∧
        (strict = true → tenant.live = false))
      (fun failure server session => Undone seen tenantID ids failure server session ∧
        (seen = true → failure.is .tenantNotFound = false)) := by
  have reads : Attempt server (protocol strict) (Taken row [] seen tenantID ids)
      (tenantQuery (.findByIDIncludingDeleted tenantID) : DbM σ _)
      (fun found server session => Taken row [] seen tenantID ids server session ∧
        (∀ tenant, found = some tenant → strict = true → tenant.live = false) ∧
        (found = none → seen = false))
      (fun failure server session => Undone seen tenantID ids failure server session ∧
        (seen = true → failure.is .tenantNotFound = false)) := by
    refine attempt_read lenient (stable_taken row []) (fun _ _ => rfl) ?_
      fun _ _ _ _ taken => ⟨undone_pg taken.2, fun _ => rfl⟩
    rintro server session fresh _ ⟨replaying, due⟩ admits
    refine ⟨⟨⟨?_, ?_, replaying.parked, replaying.founded.extended (by simp) (by simp)⟩, due⟩,
      fun tenant found strictly => ?_, fun missing => ?_⟩
    · rw [pending_extended, replaying.pending]
      rfl
    · exact replaying.locked.mono (List.subset_append_left _ _)
    · have sound := admits.2 strictly
      simp only [lookupSound] at sound
      simpa [show (dialect.view server session).tenants.find? tenantID = some tenant from found,
        replaying.written] using sound
    · cases known : seen with
      | false => rfl
      | true =>
          obtain ⟨tenant, mem, same⟩ := (due known).present
          obtain ⟨version, memVersion, sameID, _⟩ := replaying.founded.keeps admits.1 mem
          exact absurd (sameID.trans same) (Table.find?_eq_none.mp missing version memVersion)
  refine Attempt.bind reads fun found => ?_
  cases found with
  | none =>
      refine Attempt.throw fun server session _ holds => ⟨⟨holds.1.2, fun _ => by simp [newError]⟩,
        fun known => ?_⟩
      exact absurd (holds.2.2 rfl) (by simp [known])
  | some tenant => exact Attempt.pure fun _ _ _ holds => ⟨holds.1, holds.2.1 tenant rfl⟩

/-- A taken event whose tenant has no live row. -/
theorem attempt_replayAbsent (claims : row.eventID = eventID) (about : env.id = eventID) :
    Attempt server (protocol strict) (Taken row [] seen tenantID (eventID :: ids))
      (replayAbsent tenantID env : DbM σ _)
      (fun _ => Replayed strict seen tenantID eventID ids)
      (Undone seen tenantID (eventID :: ids)) := by
  refine Attempt.bind (Attempt.observe attempt_findTaken) fun answer => ?_
  rcases answer with failure | tenant
  · dsimp only
    split
    case isTrue missing =>
      refine Attempt.throw fun server session _ holds => ⟨holds.1.1, fun known => ?_⟩
      exact absurd missing (by simp [holds.2 known])
    case isFalse => exact Attempt.throw fun _ _ _ holds => holds.1
  · refine Attempt.strengthen (Attempt.of_fact fun (dead : strict = true → tenant.live = false) =>
      Attempt.relax attempt_settleTaken ?_) fun _ _ _ holds => ⟨holds.2, holds.1⟩
    intro _ server session _ taken
    exact .settled claims taken.1 (about.trans claims.symm)
      (fun strictly => by simp [JournalEntry.justified, dead strictly]) taken.2

/-- Projecting a taken event settles it. -/
theorem attempt_projectTaken {locked : TenantProjectionLock} (claims : row.eventID = eventID)
    (about : env.id = eventID) :
    Attempt server (protocol strict) (Taken row [] seen tenantID (eventID :: ids))
      (projectLocked tenantID env locked duration : DbM σ _)
      (fun _ => Replayed strict seen tenantID eventID ids)
      (Undone seen tenantID (eventID :: ids)) := by
  refine Attempt.bind attempt_settleTaken fun _ => ?_
  refine Attempt.relax
    (attempt_project fun query projects _ => attempt_taken (steady_of_projects projects)) ?_
  intro _ server session _ taken
  refine .settled claims taken.1 (about.trans claims.symm) (fun _ => ?_) taken.2
  cases locked.stale env.timestamp <;> rfl

/-- The transaction that replays one event. -/
theorem attempt_replayTx {parked : ParkedTenantEvent}
    (named : parked.envelope.id = parked.eventID) :
    Attempt server (protocol strict)
      (fun server session => session.Blank ∧ Due seen tenantID (parked.eventID :: ids) server.db)
      (replayTx tenantID parked duration)
      (fun _ => Replayed strict seen tenantID parked.eventID ids)
      (Undone seen tenantID (parked.eventID :: ids)) := by
  have steady : Steady (.tenant (.lockLive tenantID)) := ⟨by simp [OffLedger], by simp, by simp⟩
  refine Attempt.bind attempt_claimParked fun claimed => ?_
  cases claimed with
  | false => exact Attempt.pure fun _ _ _ holds => holds.2 rfl
  | true =>
      refine Attempt.strengthen (Attempt.of_exists fun row => Attempt.of_fact fun claims => ?_)
        fun _ _ _ holds => holds.1 rfl
      have locks : Attempt server (protocol strict)
          (Taken row [] seen tenantID (parked.eventID :: ids))
          (TenantRepository.lockForProjection tenantID : DbM Bool _)
          (fun _ => Taken row [] seen tenantID (parked.eventID :: ids))
          (Undone seen tenantID (parked.eventID :: ids)) :=
        Attempt.bind (attempt_taken steady) fun _ => Attempt.pure fun _ _ _ taken => taken
      refine Attempt.bind locks fun found => ?_
      cases found with
      | none => exact attempt_replayAbsent claims named
      | some locked =>
          exact Attempt.bind Attempt.assign fun _ =>
            Attempt.bind (attempt_projectTaken claims named) fun _ =>
              Attempt.pure fun _ _ _ replayed => replayed

theorem wrapConnErr_ne_notYetProvisioned {failure : Failure}
    (other : failure ≠ .tenantNotYetProvisioned) :
    wrapConnErr failure ≠ .tenantNotYetProvisioned := by
  unfold wrapConnErr
  split <;> first | exact other | simp

/-- The retried transaction: it does its event, or fails with all left to do. -/
theorem attempt_replayOne {parked : ParkedTenantEvent}
    (named : parked.envelope.id = parked.eventID) :
    Attempt server (protocol strict)
      (fun server session => session.Idle ∧ Due seen tenantID (parked.eventID :: ids) server.db)
      (runInTx (replayTx tenantID parked duration))
      (fun _ server session => session.Idle ∧ Due seen tenantID ids server.db)
      fun failure server session => session.Idle ∧
        Undone seen tenantID (parked.eventID :: ids) failure server session := by
  have wrapped : ∀ (failure : Failure) (server : DbServer) (session : DbSession),
      Undone seen tenantID (parked.eventID :: ids) failure server session →
      Undone seen tenantID (parked.eventID :: ids) (wrapConnErr failure) server session.closed :=
    fun _ _ _ undone => ⟨undone.1, fun known => wrapConnErr_ne_notYetProvisioned (undone.2 known)⟩
  have more : ∀ {db : Db}, Due seen tenantID ids db →
      Due seen tenantID (parked.eventID :: ids) db :=
    fun due known => ⟨(due known).present, fun live row mem same =>
      List.mem_cons_of_mem _ ((due known).rest live row mem same)⟩
  refine attempt_runInTx (attempt_transaction lenient
    ((Protocol.stable_local _).and settled_due.stable) (fun _ => stable_replayed) stable_undone
    (fun server session _ holds => ⟨session.blank_opened server.now, holds.2⟩)
    (attempt_replayTx named) ?_ ?_ ?_ ?_ ?_) fun _ _ _ _ _ holds => ⟨holds.1, holds.2.1⟩
  · intro _ server session inv replayed admits
    obtain ⟨inv', guar, due⟩ := commit_replay inv replayed admits.1
    exact ⟨inv', guar, session.idle_closed, due⟩
  · intro fault _ server session _ replayed
    have due : Due seen tenantID (parked.eventID :: ids) server.db := by
      cases replayed with
      | passed bookless due => exact more due
      | settled claims replaying about just due => exact due
    exact ⟨session.idle_closed, wrapped _ server session (undone_pg due)⟩
  · exact fun _ server session _ _ after =>
      ⟨session.idle_closed, wrapped _ _ session (undone_pg (more after.2))⟩
  · exact fun failure server session _ undone =>
      ⟨session.idle_closed, wrapped failure server session undone⟩
  · intro fault server session _ holds
    exact ⟨holds.1, holds.2, fun known => wrapConnErr_ne_notYetProvisioned (by simp)⟩

/-! ## A whole replay -/

/-- The listing of a tenant's parked events. -/
theorem attempt_listForTenant :
    Attempt server (protocol strict)
      (fun server session => session.Idle ∧ (seen = true → server.db.tenants.Has tenantID))
      (withPool (ParkedTenantEventRepository.listForTenant tenantID) : DbM σ _)
      (fun pending server session => (∀ row ∈ pending, row.envelope.id = row.eventID) ∧
        session.Idle ∧ Due seen tenantID (pending.map ParkedTenantEvent.eventID) server.db)
      fun _ _ session => session.Idle := by
  have present : (protocol strict).Settled fun server _ =>
      seen = true → server.db.tenants.Has tenantID := by
    intro before after _ _ _ moved has known
    rcases moved with ⟨actor, same | step⟩ | drift
    · exact same ▸ has known
    · exact step.keeps tenantID (has known)
    · exact (show before.db = after.db from drift) ▸ has known
  have ready : ∀ pending : List ParkedTenantEvent, (protocol strict).Stable
      fun server session => (∀ row ∈ pending, row.envelope.id = row.eventID) ∧
        session.writes = [] ∧ Due seen tenantID (pending.map ParkedTenantEvent.eventID) server.db :=
    fun pending => (Protocol.stable_local fun _ => _).and
      ((Protocol.stable_local fun session => session.writes = []).and settled_due.stable)
  refine attempt_withPool (attempt_transaction lenient
    ((Protocol.stable_local _).and present.stable) ready
    (fun _ => Protocol.stable_local fun _ => True)
    (fun server session _ holds => ⟨session.blank_opened server.now, holds.2⟩)
    (attempt_read lenient ((Protocol.stable_local _).and present.stable) (fun _ _ => rfl) ?_
      fun _ _ _ _ _ => trivial) ?_ (fun _ _ _ session _ _ => session.idle_closed)
    (fun _ _ session _ _ _ => session.idle_closed) (fun _ _ session _ _ => session.idle_closed)
    fun _ _ _ _ holds => holds.1)
  · rintro server session fresh ⟨accounted, _⟩ ⟨blank, has⟩ _
    rw [view_of_unwritten blank.unwritten]
    refine ⟨fun row mem => ?_, by simp [Session.extended, blank.unwritten],
      fun known => ⟨has known, fun _ row mem same => ?_⟩⟩
    · simp only [List.mem_insertionSort, Table.mem_select] at mem
      exact accounted.named row mem.1
    · refine List.mem_map_of_mem ?_
      simpa [Table.mem_select] using ⟨mem, same⟩
  · rintro pending server session inv ⟨named, unwritten, due⟩ _
    rw [committed_of_unwritten unwritten]
    exact ⟨inv, lenient session server, named, session.idle_closed, due⟩

/-- Replaying the listed events one by one. -/
theorem attempt_replayEach {catalog : PlanCatalog} {pending : List ParkedTenantEvent}
    (named : ∀ row ∈ pending, row.envelope.id = row.eventID) (replayed : Nat) :
    Attempt server (protocol strict)
      (fun server session => session.Idle ∧
        Due seen tenantID (pending.map ParkedTenantEvent.eventID) server.db)
      (replayEach catalog tenantID pending replayed : DbM σ _)
      (fun _ server session => session.Idle ∧ Due seen tenantID [] server.db)
      fun _ _ session => session.Idle := by
  induction pending generalizing replayed with
  | nil => exact Attempt.pure fun _ _ _ holds => holds
  | cons parked rest ih =>
      have duration : Attempt server (protocol strict)
          (fun server session => session.Idle ∧ Due seen tenantID
            ((parked :: rest).map ParkedTenantEvent.eventID) server.db)
          (trialDurationDays catalog tenantID parked.envelope : DbM σ _)
          (fun _ server session => session.Idle ∧ Due seen tenantID
            ((parked :: rest).map ParkedTenantEvent.eventID) server.db)
          fun _ _ session => session.Idle :=
        Attempt.weaken (Attempt.settled settled_due (idles_trialDurationDays lenient))
          (fun _ _ _ holds => holds) (fun _ _ _ _ holds => holds) fun _ _ _ _ holds => holds.1
      refine Attempt.bind duration fun days => ?_
      have replay : Attempt server (protocol strict)
          (fun server session => session.Idle ∧ Due seen tenantID
            ((parked :: rest).map ParkedTenantEvent.eventID) server.db)
          (Fallible.capturing false (runInTx (replayTx tenantID parked days)) :
            DbM σ (Unit × Bool))
          (fun _ server session => session.Idle ∧ Due seen tenantID
            (rest.map ParkedTenantEvent.eventID) server.db)
          fun failure server session => session.Idle ∧ Undone seen tenantID
            ((parked :: rest).map ParkedTenantEvent.eventID) failure server session :=
        Attempt.capturing (attempt_replayOne (named parked List.mem_cons_self))
      refine Attempt.bind (Attempt.observe replay) fun answer => ?_
      rcases answer with failure | ⟨_, applied⟩
      · dsimp only
        split
        case isTrue stopped =>
          -- a replay that saw the tenant does not stop here
          refine Attempt.pure fun server session _ holds => ⟨holds.1, fun known => ?_⟩
          exact absurd stopped (holds.2.2 known)
        case isFalse => exact Attempt.throw fun _ _ _ holds => holds.1
      · exact ih (fun row mem => named row (List.mem_cons_of_mem _ mem)) _

/-- `ReplayParked`: a tenant that was there when it began has nothing left. -/
theorem attempt_replayParked {catalog : PlanCatalog} :
    Attempt server (protocol strict)
      (fun server session => session.Idle ∧ (seen = true → server.db.tenants.Has tenantID))
      (replayParked catalog tenantID : DbM σ _)
      (fun _ server session => session.Idle ∧ Due seen tenantID [] server.db)
      fun _ _ session => session.Idle :=
  Attempt.bind attempt_listForTenant fun _ =>
    Attempt.of_fact fun named => attempt_replayEach named 0

end Inbox

end OrgMembership
