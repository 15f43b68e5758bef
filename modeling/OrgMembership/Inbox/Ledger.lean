import OrgMembership.Service.Calls

/-!
# The ledger of events

Every processed event is parked or has one line in the journal, never both and
never two.  This module states that ledger, what a transaction adds to it before
it commits, and the protocol that the consumer, I-1 and the replays follow.
-/

namespace OrgMembership

open Concurrency Relational

variable {entry : JournalEntry} {journal : List JournalEntry} {row : ParkedTenantEvent}
  {claim : ProcessedEvent} {eventID : Uuid}

/-- Where a processed event is. -/
inductive Situation
  | parked
  | settled (entry : JournalEntry)
  deriving DecidableEq

/-- Every place an event is at. -/
def situations (db : Db) (eventID : Uuid) : List Situation :=
  (if db.parked.Has eventID then [.parked] else []) ++
    (db.journal.filter fun entry => entry.eventID = eventID).map .settled

/-- An event is applied, skipped as stale, dropped for a soft-deleted tenant, or
an offboarding of a tenant that does not exist; besides lifecycle events, an event
of an unknown type is acknowledged, and one about a tenant's identity is recorded
when the tenant exists. -/
def JournalEntry.justified (entry : JournalEntry) : Bool :=
  match entry.settlement with
  | .applied | .skipped => true
  | .droppedFound softDeleted => softDeleted
  | .droppedAbsent => entry.kind = .lifecycle .tenantOffboarded
  | .acknowledged =>
      match entry.kind with
      | .unknown _ => true
      | _ => false
  | .provisioned => entry.kind = .tenantIdentityProvisioned

/-- A parked event waits; a settled one must have been settled for a reason. -/
def Situation.justified : Situation → Bool
  | parked => true
  | settled entry => entry.justified

/-- A line that `project` wrote. -/
def JournalEntry.projected (entry : JournalEntry) : Bool :=
  entry.settlement = .applied || entry.settlement = .skipped

/-- Every processed event is in exactly one place, every other event in none. -/
structure Accounted (db : Db) : Prop where
  once : ∀ eventID,
    (situations db eventID).length = if db.processed.Has eventID then 1 else 0
  named : ∀ row ∈ db.parked, row.envelope.id = row.eventID

theorem length_situations (db : Db) (eventID : Uuid) :
    (situations db eventID).length = (if db.parked.Has eventID then 1 else 0) +
      db.journal.countP fun entry => entry.eventID = eventID := by
  rw [situations, List.length_append, List.length_map, ← List.countP_eq_length_filter]
  split <;> rfl

namespace Accounted

variable {before after : Db}

/-- An event that is not processed is nowhere. -/
theorem absent (accounted : Accounted before) (unprocessed : ¬before.processed.Has eventID) :
    ¬before.parked.Has eventID ∧
      (before.journal.countP fun entry => entry.eventID = eventID) = 0 := by
  have once := accounted.once eventID
  rw [length_situations, if_neg unprocessed] at once
  split at once <;> simp_all

/-- A parked event has no line in the journal. -/
theorem unsettled (accounted : Accounted before) (parked : before.parked.Has eventID) :
    before.processed.Has eventID ∧
      (before.journal.countP fun entry => entry.eventID = eventID) = 0 := by
  have once := accounted.once eventID
  rw [length_situations, if_pos parked] at once
  split at once
  · exact ⟨by assumption, by omega⟩
  · omega

/-- Nothing happens to the ledger. -/
theorem same (accounted : Accounted before) (processed : after.processed = before.processed)
    (parked : after.parked = before.parked) (journal : after.journal = before.journal) :
    Accounted after := by
  refine ⟨fun eventID => ?_, by rw [parked]; exact accounted.named⟩
  have once := accounted.once eventID
  rw [length_situations] at once ⊢
  rw [processed, parked, journal]
  exact once

/-- A new event is processed and settled at once. -/
theorem settle (accounted : Accounted before) (unclaimed : ¬before.processed.Has claim.eventID)
    (about : entry.eventID = claim.eventID)
    (processed : after.processed = before.processed.put claim)
    (parked : after.parked = before.parked) (journal : after.journal = before.journal ++ [entry]) :
    Accounted after := by
  refine ⟨fun eventID => ?_, by rw [parked]; exact accounted.named⟩
  have once := accounted.once eventID
  rw [length_situations] at once ⊢
  rw [processed, parked, journal, List.countP_append, List.countP_singleton]
  simp only [Table.has_put, about, decide_eq_true_eq]
  by_cases same : claim.eventID = eventID
  · cases same
    simp_all
  · simp_all

/-- A new event is processed and parked. -/
theorem park (accounted : Accounted before) (unclaimed : ¬before.processed.Has claim.eventID)
    (about : row.eventID = claim.eventID) (named : row.envelope.id = row.eventID)
    (processed : after.processed = before.processed.put claim)
    (parked : after.parked = before.parked.put row) (journal : after.journal = before.journal) :
    Accounted after := by
  refine ⟨fun eventID => ?_, fun other mem => ?_⟩
  · have once := accounted.once eventID
    rw [length_situations] at once ⊢
    rw [processed, parked, journal]
    simp only [Table.has_put, about]
    by_cases same : claim.eventID = eventID
    · cases same
      have absent := (accounted.absent unclaimed).2
      simp_all
    · simp_all
  · rw [parked] at mem
    rcases Table.mem_put.mp mem with rfl | ⟨old, _⟩
    · exact named
    · exact accounted.named other old

/-- A parked event is settled. -/
theorem replay (accounted : Accounted before) (held : before.parked.Has eventID)
    (about : entry.eventID = eventID) (processed : after.processed = before.processed)
    (parked : after.parked = before.parked.erase eventID)
    (journal : after.journal = before.journal ++ [entry]) : Accounted after := by
  refine ⟨fun other => ?_, fun row mem => ?_⟩
  · have once := accounted.once other
    rw [length_situations] at once ⊢
    rw [processed, parked, journal, List.countP_append, List.countP_singleton]
    simp only [Table.has_erase, about, decide_eq_true_eq]
    by_cases same : eventID = other
    · cases same
      obtain ⟨_, unsettled⟩ := accounted.unsettled held
      simp_all
    · simp_all [Ne.symm same]
  · rw [parked] at mem
    exact accounted.named row (Table.mem_erase.mp mem).1

end Accounted

/-- The tenant has a row that is not soft-deleted. -/
def LiveTenant (tenantID : Uuid) (db : Db) : Prop :=
  ∃ row ∈ db.tenants, row.id = tenantID ∧ row.live = true

namespace Inbox

/-! ## The pending part of the ledger -/

/-- The line a write adds to the journal. -/
def settledBy : Write → Option JournalEntry
  | .settle entry => some entry
  | _ => none

/-- A session's pending changes of the inbox, the parked events and the
journal. -/
structure Pending where
  processed : List (Change ProcessedEvent Uuid)
  parked : List (Change ParkedTenantEvent Uuid)
  journal : List JournalEntry

/-- What an open transaction has written to the inbox. -/
def pending (session : DbSession) : Pending :=
  ⟨session.changes Write.processedChange, session.changes Write.parkedChange,
    session.writes.filterMap settledBy⟩

/-- The query leaves the ledger alone. -/
def OffLedger (query : Query) : Prop :=
  .processed ∉ query.writesTo ∧ .parked ∉ query.writesTo ∧ .journal ∉ query.writesTo

theorem journal_applyAll (writes : List Write) (db : Db) :
    (dialect.applyAll writes db).journal = db.journal ++ writes.filterMap settledBy := by
  induction writes generalizing db with
  | nil => simp
  | cons write writes ih =>
      rw [Dialect.applyAll_cons, ih, List.filterMap_cons]
      cases write <;> simp [dialect, Dialect.ofEffects, Write.apply, settledBy]

section Extended

variable {session : DbSession} {query : Query} {context : Context} {db : Db}
  {result : query.Result} {locks : List (Lock LockKey)} {writes : List Write}

theorem pending_extended :
    pending (session.extended query result locks writes) =
      ⟨(pending session).processed ++ writes.filterMap Write.processedChange,
        (pending session).parked ++ writes.filterMap Write.parkedChange,
        (pending session).journal ++ writes.filterMap settledBy⟩ := by
  simp [pending, Session.changes, Session.extended]

/-- What a query off the ledger leaves pending. -/
theorem pending_offLedger (off : OffLedger query)
    (yields : (query.effect context db).Yields result writes) :
    pending (session.extended query result locks writes) = pending session := by
  have processed : writes.filterMap Write.processedChange = [] := by
    refine Query.filterMap_eq_nil yields off.1 fun write apart => ?_
    cases write <;> simp_all [Write.table, Write.processedChange]
  have parked : writes.filterMap Write.parkedChange = [] := by
    refine Query.filterMap_eq_nil yields off.2.1 fun write apart => ?_
    cases write <;> simp_all [Write.table, Write.parkedChange]
  have journal : writes.filterMap settledBy = [] := by
    refine Query.filterMap_eq_nil yields off.2.2 fun write apart => ?_
    cases write <;> simp_all [Write.table, settledBy]
  rw [pending_extended, processed, parked, journal]
  simp [pending]

end Extended

/-- The ledger after a commit. -/
theorem ledger_committed (server : DbServer) (session : DbSession) :
    (dialect.committed server session).db.processed =
        server.db.processed.applyAll (pending session).processed ∧
      (dialect.committed server session).db.parked =
        server.db.parked.applyAll (pending session).parked ∧
      (dialect.committed server session).db.journal =
        server.db.journal ++ (pending session).journal :=
  ⟨processedLawful.table_view server session, parkedLawful.table_view server session,
    journal_applyAll session.writes server.db⟩

/-! ## The protocol -/

/-- The session holds the lock under which a tenant is provisioned. -/
def Provisions (tenantID : Uuid) (session : DbSession) : Prop :=
  ⟨.tenantProvisioning tenantID, .update⟩ ∈ session.locks

theorem Provisions.extended {tenantID : Uuid} {session : DbSession} {query : Query}
    {result : query.Result} {locks : List (Lock LockKey)} {writes : List Write}
    (provisions : Provisions tenantID session) :
    Provisions tenantID (session.extended query result locks writes) :=
  List.mem_append_left _ provisions

/-- What a transaction of a session does to the committed state: an event is
processed under its index entry, a parked row goes under its lock, an event is
parked only while its tenant is not live, and a tenant is created under the
provisioning lock, never removed and never revived. -/
structure Step (actor : DbSession) (before after : Db) : Prop where
  claims : ∀ eventID, after.processed.Has eventID → before.processed.Has eventID ∨
    ⟨.processedEventsPkey eventID, .update⟩ ∈ actor.locks
  remembers : ∀ eventID, before.processed.Has eventID → after.processed.Has eventID
  unparks : ∀ row ∈ before.parked, row ∈ after.parked ∨
    Exclusive actor.locks (.parked row.eventID)
  parks : ∀ row ∈ after.parked, row ∈ before.parked ∨ ¬LiveTenant row.tenantID after
  keeps : ∀ tenantID, before.tenants.Has tenantID → after.tenants.Has tenantID
  ends : ∀ tenantID, before.tenants.Has tenantID → LiveTenant tenantID after →
    LiveTenant tenantID before
  creates : ∀ tenantID, after.tenants.Has tenantID → before.tenants.Has tenantID ∨
    Provisions tenantID actor

/-- The look-up after a lock found no live tenant must not find a live one.  A
transaction that has not claimed an event has written nothing, and looks up freely. -/
def lookupSound (server : DbServer) (session : DbSession) : Statement Query → Bool
  | .query (.tenant (.findByIDIncludingDeleted tenantID)) => session.writes.isEmpty ||
      ((dialect.view server session).tenants.find? tenantID).all fun tenant => !tenant.live
  | _ => true

/-- The ledger is accounted for; if the look-ups are sound, every line of the
journal is justified as well. -/
def protocol (strict : Bool) : DbProtocol where
  Inv server := Accounted server.db ∧
    (strict = true → ∀ entry ∈ server.db.journal, entry.justified = true)
  Admits statement server session := Disciplined server session ∧
    (strict = true → lookupSound server session statement = true)
  Coexist _ actor other := Compatible actor.locks other.locks
  Guar actor before after := before = after ∨ Step actor before.db after.db
  Drift before after := before.db = after.db

/-- The session deletes no tenant, and creates one under the provisioning lock
only. -/
structure Founded (server : DbServer) (session : DbSession) : Prop where
  undeleted : ∀ tenantID, .tenant (.delete tenantID) ∉ session.writes
  placed : ∀ row, .tenant (.put row) ∈ session.writes → server.db.tenants.Has row.id ∨
    Provisions row.id session

/-- The session has claimed an event nobody has processed, and this is pending
besides. -/
structure Delivering (claim : ProcessedEvent) (parked : List (Change ParkedTenantEvent Uuid))
    (journal : List JournalEntry) (server : DbServer) (session : DbSession) : Prop where
  pending : pending session = ⟨[.put claim], parked, journal⟩
  locked : ⟨.processedEventsPkey claim.eventID, .update⟩ ∈ session.locks
  unclaimed : ¬server.db.processed.Has claim.eventID
  founded : Founded server session

/-- The session has taken a parked event, and this is pending besides. -/
structure Replaying (row : ParkedTenantEvent) (journal : List JournalEntry) (server : DbServer)
    (session : DbSession) : Prop where
  pending : pending session = ⟨[], [.delete row.eventID], journal⟩
  locked : Exclusive session.locks (.parked row.eventID)
  parked : row ∈ server.db.parked
  founded : Founded server session

/-- The session has nothing pending in the ledger. -/
structure Bookless (server : DbServer) (session : DbSession) : Prop where
  pending : pending session = ⟨[], [], []⟩
  founded : Founded server session

/-- Who has claimed an event has written something. -/
theorem Delivering.written {parked : List (Change ParkedTenantEvent Uuid)} {server : DbServer}
    {session : DbSession} (delivering : Delivering claim parked journal server session) :
    session.writes ≠ [] := by
  intro unwritten
  have claimed := congrArg Pending.processed delivering.pending
  simp [Inbox.pending, Session.changes, unwritten] at claimed

theorem Replaying.written {server : DbServer} {session : DbSession}
    (replaying : Replaying row journal server session) : session.writes ≠ [] := by
  intro unwritten
  have taken := congrArg Pending.parked replaying.pending
  simp [Inbox.pending, Session.changes, unwritten] at taken

section Stable

variable {strict : Bool}

theorem lenient : Lenient (protocol strict) :=
  fun _ _ => .inl rfl

/-- What a session that holds some locks can rely on. -/
theorem rely_cases {before after : DbServer} {session : DbSession}
    (rely : (protocol strict).Rely session before after) :
    before.db = after.db ∨
      ∃ actor, Compatible actor.locks session.locks ∧ Step actor before.db after.db := by
  rcases rely with ⟨actor, compatible, rfl | step⟩ | drift
  · exact .inl rfl
  · exact .inr ⟨actor, compatible, step⟩
  · exact .inl drift

theorem Founded.rely {before after : DbServer} {session : DbSession}
    (rely : (protocol strict).Rely session before after) (founded : Founded before session) :
    Founded after session := by
  refine ⟨founded.undeleted, fun row put => ?_⟩
  rcases rely_cases rely with same | ⟨actor, _, step⟩
  · exact same ▸ founded.placed row put
  · exact (founded.placed row put).imp_left (step.keeps row.id)

theorem stable_bookless : (protocol strict).Stable Bookless :=
  fun _ _ _ _ _ rely bookless => ⟨bookless.pending, bookless.founded.rely rely⟩

/-- Nobody else processes the event while its index entry is locked. -/
theorem stable_delivering (claim : ProcessedEvent) (parked : List (Change ParkedTenantEvent Uuid))
    (journal : List JournalEntry) :
    (protocol strict).Stable (Delivering claim parked journal) := by
  intro before after session _ _ rely delivering
  refine ⟨delivering.pending, delivering.locked, ?_, delivering.founded.rely rely⟩
  rcases rely_cases rely with same | ⟨actor, compatible, step⟩
  · exact same ▸ delivering.unclaimed
  · intro claimed
    rcases step.claims _ claimed with old | held
    · exact delivering.unclaimed old
    · exact absurd rfl (compatible.key_ne held delivering.locked)

/-- Nobody else takes the parked row while it is locked. -/
theorem stable_replaying (row : ParkedTenantEvent) (journal : List JournalEntry) :
    (protocol strict).Stable (Replaying row journal) := by
  intro before after session _ _ rely replaying
  refine ⟨replaying.pending, replaying.locked, ?_, replaying.founded.rely rely⟩
  rcases rely_cases rely with same | ⟨actor, compatible, step⟩
  · exact same ▸ replaying.parked
  · exact (step.unparks row replaying.parked).resolve_right
      fun held => compatible.not_exclusive held replaying.locked

/-- No tenant comes alive while the provisioning lock is held. -/
theorem stable_absent (tenantID : Uuid) :
    (protocol strict).Stable fun server session =>
      Provisions tenantID session ∧
        ¬LiveTenant tenantID server.db := by
  rintro before after session _ _ rely ⟨locked, dead⟩
  refine ⟨locked, ?_⟩
  rcases rely_cases rely with same | ⟨actor, compatible, step⟩
  · exact same ▸ dead
  · intro live
    obtain ⟨row, mem, sameID, _⟩ := id live
    rcases step.creates tenantID ⟨row, mem, sameID⟩ with old | held
    · exact dead (step.ends tenantID old live)
    · exact absurd rfl (compatible.key_ne held locked)

end Stable

/-! ## Statements off the ledger -/

/-- The query leaves the ledger alone, and creates and deletes no tenant. -/
structure Steady (query : Query) : Prop where
  off : OffLedger query
  undeleting : ∀ tenantID, query ≠ .tenant (.hardDeleteTenant tenantID)
  unfounding : ∀ values, query ≠ .tenant (.insert values)

section Steady

variable {server : DbServer} {session : DbSession} {query : Query} {context : Context}
  {result : query.Result} {locks : List (Lock LockKey)} {writes : List Write}

theorem founded_of_unwritten (unwritten : session.writes = []) : Founded server session :=
  ⟨by simp [unwritten], by simp [unwritten]⟩

theorem bookless_of_unwritten (unwritten : session.writes = []) : Bookless server session :=
  ⟨by simp [pending, Session.changes, unwritten], founded_of_unwritten unwritten⟩

/-- What a query adds to a founded session. -/
theorem Founded.extended (founded : Founded server session)
    (undeleted : ∀ tenantID, .tenant (.delete tenantID) ∉ writes)
    (placed : ∀ row, .tenant (.put row) ∈ writes →
      (dialect.view server session).tenants.Has row.id ∨
        Provisions row.id session) :
    Founded server (session.extended query result locks writes) := by
  refine ⟨fun tenantID mem => ?_, fun row mem => ?_⟩
  · exact (List.mem_append.mp mem).elim (founded.undeleted tenantID) (undeleted tenantID)
  · have grown : ∀ lock ∈ session.locks, lock ∈ session.locks ++ locks :=
      fun lock held => List.mem_append_left _ held
    rcases List.mem_append.mp mem with old | new
    · exact (founded.placed row old).imp_right (grown _)
    · rcases placed row new with ⟨seen, memSeen, sameID⟩ | held
      · rw [show (dialect.view server session).tenants = _ from
          tenantLawful.table_view server session] at memSeen
        rcases Table.mem_applyAll memSeen with put | ⟨old, _⟩
        · rw [← sameID]
          exact (founded.placed seen (tenantLawful.mem_changes.mp put)).imp_right (grown _)
        · exact .inl ⟨seen, old, sameID⟩
      · exact .inr (grown _ held)

theorem Founded.steady (founded : Founded server session) (steady : Steady query)
    (yields : (query.effect context (dialect.view server session)).Yields result writes) :
    Founded server (session.extended query result locks writes) := by
  refine founded.extended (fun tenantID mem => ?_) fun row mem => .inl ?_
  · generalize deleted : Change.delete tenantID = change at mem
    cases tenant_write yields mem with
    | delete id => exact steady.undeleting id rfl
    | insert | patch | setLastEventAt | markOwnerless | update => cases deleted
  · generalize put : Change.put row = change at mem
    cases tenant_write yields mem with
    | insert => exact absurd rfl (steady.unfounding _)
    | delete => cases put
    | patch old patch =>
        cases put
        exact ⟨_, old, by rw [Tenant.touch_proj Tenant.id fun _ _ _ => rfl, LifecyclePatch.set_id]⟩
    | setLastEventAt old =>
        cases put
        exact ⟨_, old, by rw [Tenant.touch_proj Tenant.id fun _ _ _ => rfl]⟩
    | markOwnerless old =>
        cases put
        exact ⟨_, old, by rw [Tenant.touch_proj Tenant.id fun _ _ _ => rfl]⟩
    | update old update =>
        cases put
        exact ⟨_, old, by rw [Tenant.touch_proj Tenant.id fun _ _ _ => rfl, TenantUpdate.set_id]⟩

theorem Bookless.steady (bookless : Bookless server session) (steady : Steady query)
    (yields : (query.effect context (dialect.view server session)).Yields result writes) :
    Bookless server (session.extended query result locks writes) :=
  ⟨(pending_offLedger steady.off yields).trans bookless.pending,
    bookless.founded.steady steady yields⟩

theorem Delivering.steady {parked : List (Change ParkedTenantEvent Uuid)}
    (delivering : Delivering claim parked journal server session) (steady : Steady query)
    (yields : (query.effect context (dialect.view server session)).Yields result writes) :
    Delivering claim parked journal server (session.extended query result locks writes) :=
  ⟨(pending_offLedger steady.off yields).trans delivering.pending,
    List.mem_append_left _ delivering.locked, delivering.unclaimed,
    delivering.founded.steady steady yields⟩

theorem Replaying.steady (replaying : Replaying row journal server session) (steady : Steady query)
    (yields : (query.effect context (dialect.view server session)).Yields result writes) :
    Replaying row journal server (session.extended query result locks writes) :=
  ⟨(pending_offLedger steady.off yields).trans replaying.pending,
    replaying.locked.mono (List.subset_append_left _ _), replaying.parked,
    replaying.founded.steady steady yields⟩

end Steady

/-! ## Commits -/

section Commit

variable {server : DbServer} {session : DbSession}

/-- A tenant of a founded session's view is there after its commit. -/
theorem Founded.keeps (founded : Founded server session) (disciplined : Disciplined server session)
    {row : Tenant} (mem : row ∈ server.db.tenants) :
    ∃ version ∈ (dialect.committed server session).db.tenants, version.id = row.id ∧
      (version.live = true → row.live = true) := by
  obtain ⟨version, memVersion, sameID, rfl | ⟨_, evolves⟩⟩ :=
    tenantLawful.version_committed disciplined.tenants mem
      fun deleted => founded.undeleted row.id (tenantLawful.mem_changes.mp deleted)
  · exact ⟨version, memVersion, sameID, id⟩
  · exact ⟨version, memVersion, sameID, evolves.live⟩

/-- The commit of a founded session, as the other sessions see it. -/
theorem Founded.step (founded : Founded server session) (disciplined : Disciplined server session)
    (claims : ∀ eventID, (dialect.committed server session).db.processed.Has eventID →
      server.db.processed.Has eventID ∨ ⟨.processedEventsPkey eventID, .update⟩ ∈ session.locks)
    (remembers : ∀ eventID, server.db.processed.Has eventID →
      (dialect.committed server session).db.processed.Has eventID)
    (unparks : ∀ row ∈ server.db.parked, row ∈ (dialect.committed server session).db.parked ∨
      Exclusive session.locks (.parked row.eventID))
    (parks : ∀ row ∈ (dialect.committed server session).db.parked, row ∈ server.db.parked ∨
      ¬LiveTenant row.tenantID (dialect.committed server session).db) :
    Step session server.db (dialect.committed server session).db where
  claims := claims
  remembers := remembers
  unparks := unparks
  parks := parks
  keeps := by
    rintro tenantID ⟨row, mem, rfl⟩
    obtain ⟨version, memVersion, sameID, _⟩ := founded.keeps disciplined mem
    exact ⟨version, memVersion, sameID⟩
  ends := by
    rintro tenantID ⟨row, mem, rfl⟩ ⟨current, memCurrent, sameCurrent, live⟩
    obtain ⟨version, memVersion, sameID, alive⟩ := founded.keeps disciplined mem
    have same : version = current :=
      Table.eq_of_key_eq memVersion memCurrent (sameID.trans sameCurrent.symm)
    exact ⟨row, mem, rfl, alive (same ▸ live)⟩
  creates := by
    rintro tenantID ⟨row, mem, rfl⟩
    rw [show (dialect.committed server session).db.tenants = _ from
      tenantLawful.table_view server session] at mem
    rcases Table.mem_applyAll mem with put | ⟨old, _⟩
    · exact founded.placed row (tenantLawful.mem_changes.mp put)
    · exact .inl ⟨row, old, rfl⟩

variable {strict : Bool}

/-- Committing nothing in the ledger. -/
theorem commit_bookless (inv : (protocol strict).Inv server) (bookless : Bookless server session)
    (disciplined : Disciplined server session) :
    (protocol strict).Inv (dialect.committed server session) ∧
      (protocol strict).Guar session server (dialect.committed server session) := by
  obtain ⟨accounted, justified⟩ := inv
  obtain ⟨processed, parked, journal⟩ := ledger_committed server session
  simp only [bookless.pending, Table.applyAll_nil, List.append_nil] at processed parked journal
  refine ⟨⟨accounted.same processed parked journal, by rw [journal]; exact justified⟩,
    .inr (bookless.founded.step disciplined ?_ ?_ ?_ ?_)⟩
  · rw [processed]
    exact fun _ => .inl
  · rw [processed]
    exact fun _ => id
  · rw [parked]
    exact fun _ => .inl
  · rw [parked]
    exact fun _ => .inl

/-- Committing a new event that is settled at once. -/
theorem commit_settled (inv : (protocol strict).Inv server)
    (delivering : Delivering claim [] [entry] server session)
    (about : entry.eventID = claim.eventID) (just : strict = true → entry.justified = true)
    (disciplined : Disciplined server session) :
    (protocol strict).Inv (dialect.committed server session) ∧
      (protocol strict).Guar session server (dialect.committed server session) ∧
      (dialect.committed server session).db.processed.Has claim.eventID := by
  obtain ⟨accounted, justified⟩ := inv
  obtain ⟨processed, parked, journal⟩ := ledger_committed server session
  simp only [delivering.pending, Table.applyAll_nil, Table.applyAll_cons, Table.apply]
    at processed parked journal
  refine ⟨⟨accounted.settle delivering.unclaimed about processed parked journal, ?_⟩,
    .inr (delivering.founded.step disciplined ?_ ?_ ?_ ?_), ?_⟩
  · intro strictly other mem
    rw [journal] at mem
    rcases List.mem_append.mp mem with old | new
    · exact justified strictly other old
    · rw [List.mem_singleton.mp new]
      exact just strictly
  · rw [processed]
    intro eventID has
    rcases Table.has_put.mp has with same | old
    · exact .inr (same ▸ delivering.locked)
    · exact .inl old
  · rw [processed]
    exact fun eventID has => Table.has_put.mpr (.inr has)
  · rw [parked]
    exact fun _ => .inl
  · rw [parked]
    exact fun _ => .inl
  · rw [processed]
    exact Table.has_put.mpr (.inl rfl)

/-- Committing a new event that is parked while its tenant does not exist. -/
theorem commit_parked (inv : (protocol strict).Inv server)
    (delivering : Delivering claim [.put row] [] server session)
    (about : row.eventID = claim.eventID) (named : row.envelope.id = row.eventID)
    (quiet : session.changes Write.tenantChange = []) (absent : ¬LiveTenant row.tenantID server.db)
    (disciplined : Disciplined server session) :
    (protocol strict).Inv (dialect.committed server session) ∧
      (protocol strict).Guar session server (dialect.committed server session) ∧
      (dialect.committed server session).db.processed.Has claim.eventID := by
  obtain ⟨accounted, justified⟩ := inv
  obtain ⟨processed, parked, journal⟩ := ledger_committed server session
  simp only [delivering.pending, Table.applyAll_nil, Table.applyAll_cons, Table.apply,
    List.append_nil] at processed parked journal
  have tenants : (dialect.committed server session).db.tenants = server.db.tenants := by
    refine (tenantLawful.table_view server session).trans ?_
    rw [quiet]
    rfl
  have dead : ¬LiveTenant row.tenantID (dialect.committed server session).db := by
    rw [LiveTenant, tenants]
    exact absent
  refine ⟨⟨accounted.park delivering.unclaimed about named processed parked journal, ?_⟩,
    .inr (delivering.founded.step disciplined ?_ ?_ ?_ ?_), ?_⟩
  · rw [journal]
    exact justified
  · rw [processed]
    intro eventID has
    rcases Table.has_put.mp has with same | old
    · exact .inr (same ▸ delivering.locked)
    · exact .inl old
  · rw [processed]
    exact fun eventID has => Table.has_put.mpr (.inr has)
  · -- the event was not parked before, so the new row replaces none
    rw [parked]
    intro other mem
    refine .inl (Table.mem_put.mpr (.inr ⟨mem, fun same => ?_⟩))
    exact (accounted.absent delivering.unclaimed).1 ⟨other, mem, same.trans about⟩
  · rw [parked]
    intro other mem
    rcases Table.mem_put.mp mem with rfl | ⟨old, _⟩
    · exact .inr dead
    · exact .inl old
  · rw [processed]
    exact Table.has_put.mpr (.inl rfl)

/-- Committing a parked event that is settled. -/
theorem commit_replayed (inv : (protocol strict).Inv server)
    (replaying : Replaying row [entry] server session) (about : entry.eventID = row.eventID)
    (just : strict = true → entry.justified = true) (disciplined : Disciplined server session) :
    (protocol strict).Inv (dialect.committed server session) ∧
      (protocol strict).Guar session server (dialect.committed server session) ∧
      ¬(dialect.committed server session).db.parked.Has row.eventID := by
  obtain ⟨accounted, justified⟩ := inv
  obtain ⟨processed, parked, journal⟩ := ledger_committed server session
  simp only [replaying.pending, Table.applyAll_nil, Table.applyAll_cons, Table.apply]
    at processed parked journal
  have held : server.db.parked.Has row.eventID := ⟨row, replaying.parked, rfl⟩
  refine ⟨⟨accounted.replay held about processed parked journal, ?_⟩,
    .inr (replaying.founded.step disciplined ?_ ?_ ?_ ?_), ?_⟩
  · intro strictly other mem
    rw [journal] at mem
    rcases List.mem_append.mp mem with old | new
    · exact justified strictly other old
    · rw [List.mem_singleton.mp new]
      exact just strictly
  · rw [processed]
    exact fun _ => .inl
  · rw [processed]
    exact fun _ => id
  · rw [parked]
    intro other mem
    by_cases same : other.eventID = row.eventID
    · exact .inr (same ▸ replaying.locked)
    · exact .inl (Table.mem_erase.mpr ⟨mem, same⟩)
  · rw [parked]
    exact fun other mem => .inl (Table.mem_erase.mp mem).1
  · rw [parked, Table.has_erase]
    exact fun has => has.2 rfl

end Commit

end Inbox

end OrgMembership
