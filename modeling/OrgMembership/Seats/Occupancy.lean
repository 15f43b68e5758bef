import OrgMembership.Service.Calls

/-!
# Seats

Active members and unexpired pending invitations occupy the seats a tenant has
licensed.  Whoever takes a seat does so under the tenants row lock, on what it
sees of both tables; everyone else only gives seats back, and so does the clock.
-/

namespace OrgMembership

open Concurrency Relational

/-- The seats of a tenant in use. -/
def occupancy (tenantID : Uuid) (now : Int) (db : Db) : Nat :=
  db.memberships.count (·.activeIn tenantID) + db.invitations.count (·.holdsSeat tenantID now)

/-- The tenant has licensed so many seats. -/
def Licensed (tenantID : Uuid) (seats : Int) (db : Db) : Prop :=
  ∀ tenant ∈ db.tenants, tenant.id = tenantID → tenant.licensedSeats = seats

namespace Seats

/-- A pending invitation of the tenant, expired or not. -/
def PendingIn (tenantID : Uuid) (row : PendingInvitation) : Prop :=
  row.tenantID = tenantID ∧ row.status = .pending

theorem holdsSeat_iff {tenantID : Uuid} {now : Int} {row : PendingInvitation} :
    row.holdsSeat tenantID now = true ↔ PendingIn tenantID row ∧ now < row.expiresAt := by
  simp [PendingInvitation.holdsSeat, PendingIn]

/-- From one state to the other nobody has taken a seat. -/
structure Shrinks (tenantID : Uuid) (before after : Db) : Prop where
  tenants : after.tenants.Inherits before.tenants (fun tenant => tenant.id = tenantID)
    fun old new => new.licensedSeats = old.licensedSeats
  memberships : after.memberships.Inherits before.memberships
    (fun row => row.activeIn tenantID = true) fun _ _ => True
  invitations : after.invitations.Inherits before.invitations (PendingIn tenantID)
    fun old new => new.expiresAt = old.expiresAt

/-- The seats in use besides an invitation's. -/
def besides (tenantID : Uuid) (now : Int) (taken : Option Uuid) (db : Db) : Nat :=
  db.memberships.count (·.activeIn tenantID) +
    db.invitations.count fun row => row.holdsSeat tenantID now && some row.id ≠ taken

section Counting

variable {tenantID : Uuid} {seats now now' : Int} {taken : Option Uuid} {before after third : Db}

theorem Shrinks.refl (db : Db) : Shrinks tenantID db db where
  tenants := .refl (by simp) _
  memberships := .refl (by simp) _
  invitations := .refl (by simp) _

theorem Shrinks.trans (early : Shrinks tenantID before after)
    (late : Shrinks tenantID after third) : Shrinks tenantID before third where
  tenants := late.tenants.trans (fun _ _ _ old new => new.trans old) early.tenants
  memberships := late.memberships.trans (fun _ _ _ _ _ => trivial) early.memberships
  invitations := late.invitations.trans (fun _ _ _ old new => new.trans old) early.invitations

theorem Shrinks.licensed (shrinks : Shrinks tenantID before after)
    (licensed : Licensed tenantID seats before) : Licensed tenantID seats after := by
  intro tenant mem same
  obtain ⟨old, memOld, _, sameOld, seatsEq⟩ := shrinks.tenants tenant mem same
  exact seatsEq.trans (licensed old memOld sameOld)

theorem members_le (inherits : after.memberships.Inherits before.memberships
    (fun row => row.activeIn tenantID = true) fun _ _ => True) :
    after.memberships.count (·.activeIn tenantID) ≤
      before.memberships.count (·.activeIn tenantID) := by
  apply Table.count_le_count
  intro row mem active
  obtain ⟨old, memOld, same, activeOld, _⟩ := inherits row mem active
  exact ⟨old, memOld, same, activeOld⟩

theorem invitations_le (inherits : after.invitations.Inherits before.invitations
    (PendingIn tenantID) fun old new => new.expiresAt = old.expiresAt) (later : now ≤ now') :
    (after.invitations.count fun row => row.holdsSeat tenantID now' && some row.id ≠ taken) ≤
      before.invitations.count fun row => row.holdsSeat tenantID now && some row.id ≠ taken := by
  apply Table.count_le_count
  intro row mem counts
  simp only [Bool.and_eq_true, decide_eq_true_eq, holdsSeat_iff] at counts ⊢
  obtain ⟨⟨pending, unexpired⟩, apart⟩ := counts
  obtain ⟨old, memOld, same, pendingOld, expires⟩ := inherits row mem pending
  rw [expires] at unexpired
  refine ⟨old, memOld, same, ⟨pendingOld, lt_of_le_of_lt later unexpired⟩, ?_⟩
  rw [show old.id = row.id from same]
  exact apart

theorem Shrinks.besides_le (shrinks : Shrinks tenantID before after) (later : now ≤ now') :
    besides tenantID now' taken after ≤ besides tenantID now taken before :=
  Nat.add_le_add (members_le shrinks.memberships) (invitations_le shrinks.invitations later)

@[simp]
theorem besides_none (db : Db) : besides tenantID now none db = occupancy tenantID now db := by
  simp [besides, occupancy]

theorem Shrinks.occupancy_le (shrinks : Shrinks tenantID before after) (later : now ≤ now') :
    occupancy tenantID now' after ≤ occupancy tenantID now before := by
  have fewer : besides tenantID now' none after ≤ besides tenantID now none before :=
    shrinks.besides_le later
  simpa using fewer

theorem besides_le_occupancy (db : Db) :
    besides tenantID now taken db ≤ occupancy tenantID now db := by
  refine Nat.add_le_add_left (List.countP_mono_left fun row _ counts => ?_) _
  simp only [Bool.and_eq_true] at counts
  exact counts.1

/-- An invitation that holds a seat is one of those in use. -/
theorem besides_lt_occupancy {db : Db} {row : PendingInvitation} (mem : row ∈ db.invitations)
    (holds : row.holdsSeat tenantID now = true) :
    besides tenantID now (some row.id) db < occupancy tenantID now db := by
  refine Nat.add_lt_add_left (Table.count_lt_count mem holds fun other memOther counts => ?_) _
  simp only [Bool.and_eq_true, decide_eq_true_eq] at counts
  exact ⟨fun same => counts.2 (by rw [same]), counts.1⟩

end Counting

/-! ## The protocol -/

/-- The session has an invitation of the tenant locked that is still pending. -/
def reserves (tenantID : Uuid) (db : Db) (session : DbSession) : Bool :=
  db.invitations.rows.any fun row => row.tenantID = tenantID && row.status = .pending &&
    session.locks.contains ⟨.invitation row.id, .update⟩

/-- A statement that makes an active member does so while a seat is free, unless
the transaction holds a pending invitation. -/
def covered (tenantID : Uuid) (seats : Int) (server : DbServer) (session : DbSession) :
    Statement Query → Bool
  | .query (.membership (.insert id _ status)) =>
      id ≠ tenantID || status ≠ .active ||
        reserves tenantID (dialect.view server session) session ||
        (occupancy tenantID server.now (dialect.view server session) : Int) < seats
  | .query (.membership (.setStatus id _ _ status _)) =>
      status ≠ .active ||
        ((dialect.view server session).memberships.rows.any fun row =>
          row.id = id && row.activeIn tenantID) ||
        (occupancy tenantID server.now (dialect.view server session) : Int) < seats
  | _ => true

section Protocol

variable (tenantID : Uuid) (seats : Int) (sequential : Bool)

/-- Only the holder of the tenants row takes seats.  In a sequential run there is
nobody to rely on that. -/
def protocol : DbProtocol where
  Inv server := Licensed tenantID seats server.db ∧
    (occupancy tenantID server.now server.db : Int) ≤ seats
  Admits statement server session :=
    Disciplined server session ∧ covered tenantID seats server session statement = true
  Coexist server actor other := sequential = false ∧ Compatible actor.locks other.locks ∧
    Disciplined server actor ∧ Disciplined server other
  Guar actor before after := before = after ∨ sequential = true ∨
    after = dialect.committed before actor ∧
      (TenantLocked tenantID actor ∨ Shrinks tenantID before.db after.db)
  Drift before after := before.db = after.db ∧ before.now ≤ after.now

/-- The transaction has taken no seat. -/
def Giving (server : DbServer) (session : DbSession) : Prop :=
  Shrinks tenantID server.db (dialect.view server session)

/-- The transaction holds the tenants row and leaves so many seats free in what it
sees, besides the one of an invitation it is about to accept. -/
structure Holding (free : Nat) (taken : Option Uuid) (server : DbServer) (session : DbSession) :
    Prop where
  locked : TenantLocked tenantID session
  began : session.startedAt ≤ server.now
  licensed : Licensed tenantID seats (dialect.view server session)
  room : ((besides tenantID server.now taken (dialect.view server session) + free : Nat) : Int) ≤
    seats

end Protocol

section Stability

variable {tenantID : Uuid} {seats : Int} {sequential : Bool}

theorem lenient : Lenient (protocol tenantID seats sequential) :=
  fun _ _ => .inl rfl

/-- What the holder of the tenants row has to reckon with. -/
theorem shrinks_of_rely {before after : DbServer} {session : DbSession}
    (rely : (protocol tenantID seats sequential).Rely session before after)
    (locked : TenantLocked tenantID session) :
    Shrinks tenantID before.db after.db ∧ before.now ≤ after.now := by
  rcases rely with ⟨actor, ⟨interleaved, compatible, _⟩, same | alone | ⟨committed, taking⟩⟩ | drift
  · rw [same]
    exact ⟨.refl _, le_rfl⟩
  · rw [interleaved] at alone
    exact absurd alone Bool.false_ne_true
  · refine ⟨?_, le_of_eq (by rw [committed]; rfl)⟩
    rcases taking with lockedActor | shrinks
    · exact absurd rfl (compatible.key_ne lockedActor locked)
    · exact shrinks
  · rw [drift.1]
    exact ⟨.refl _, drift.2⟩

theorem Shrinks.view {before after : DbServer} {session : DbSession}
    (shrinks : Shrinks tenantID before.db after.db) :
    Shrinks tenantID (dialect.view before session) (dialect.view after session) where
  tenants := tenantLawful.inherits_view (fun _ => rfl) shrinks.tenants
  memberships := membershipLawful.inherits_view (fun _ => trivial) shrinks.memberships
  invitations := invitationLawful.inherits_view (fun _ => rfl) shrinks.invitations

theorem stable_holding (free : Nat) (taken : Option Uuid) :
    (protocol tenantID seats sequential).Stable (Holding tenantID seats free taken) := by
  intro before after session _ _ rely holding
  obtain ⟨shrinks, later⟩ := shrinks_of_rely rely holding.locked
  have seen : Shrinks tenantID (dialect.view before session) (dialect.view after session) :=
    shrinks.view
  constructor
  · exact holding.locked
  · exact holding.began.trans later
  · exact seen.licensed holding.licensed
  · have fewer : besides tenantID after.now taken (dialect.view after session) ≤
        besides tenantID before.now taken (dialect.view before session) := seen.besides_le later
    have room := holding.room
    omega

theorem stable_giving :
    (protocol tenantID seats sequential).Stable (Giving tenantID) := by
  intro before after session _ _ rely giving
  rcases rely with
    ⟨actor, ⟨interleaved, compatible, acting, mine⟩, same | alone | committed⟩ | drift
  · exact same ▸ giving
  · rw [interleaved] at alone
    exact absurd alone Bool.false_ne_true
  · rw [committed.1]
    exact
      { tenants := tenantLawful.inherits_committed (fun _ => rfl) acting.tenantsGuarded compatible
          mine.tenantsGuarded giving.tenants
        memberships := membershipLawful.inherits_committed (fun _ => trivial)
          acting.membershipsGuarded compatible mine.membershipsGuarded giving.memberships
        invitations := invitationLawful.inherits_committed (fun _ => rfl)
          acting.invitationsGuarded compatible mine.invitationsGuarded giving.invitations }
  · have view : dialect.view after session = dialect.view before session := by
      rw [Dialect.view, Dialect.view, drift.1]
    rw [Giving, view, ← drift.1]
    exact giving

end Stability

/-! ## Commits -/

section Commit

variable {tenantID : Uuid} {seats : Int} {sequential : Bool} {server : DbServer}
  {session : DbSession}

theorem commits_giving (inv : (protocol tenantID seats sequential).Inv server)
    (giving : Giving tenantID server session) :
    (protocol tenantID seats sequential).Inv (dialect.committed server session) ∧
      (protocol tenantID seats sequential).Guar session server (dialect.committed server session) ∧
      session.closed.Idle := by
  refine ⟨⟨giving.licensed inv.1, ?_⟩, .inr (.inr ⟨rfl, .inr giving⟩), session.idle_closed⟩
  have fewer : occupancy tenantID server.now (dialect.committed server session).db ≤
      occupancy tenantID server.now server.db := giving.occupancy_le le_rfl
  have before := inv.2
  change (occupancy tenantID server.now (dialect.committed server session).db : Int) ≤ seats
  omega

/-- What is seen within the license may be committed, by the holder of the tenants
row or by whoever is alone. -/
theorem commits_seen (licensed : Licensed tenantID seats (dialect.view server session))
    (within : (occupancy tenantID server.now (dialect.view server session) : Int) ≤ seats)
    (may : TenantLocked tenantID session ∨ sequential = true) :
    (protocol tenantID seats sequential).Inv (dialect.committed server session) ∧
      (protocol tenantID seats sequential).Guar session server (dialect.committed server session) ∧
      session.closed.Idle := by
  refine ⟨⟨licensed, within⟩, ?_, session.idle_closed⟩
  rcases may with locked | alone
  · exact .inr (.inr ⟨rfl, .inl locked⟩)
  · exact .inr (.inl alone)

theorem commits_holding (holding : Holding tenantID seats 0 none server session) :
    (protocol tenantID seats sequential).Inv (dialect.committed server session) ∧
      (protocol tenantID seats sequential).Guar session server (dialect.committed server session) ∧
      session.closed.Idle := by
  have room := holding.room
  rw [besides_none, Nat.add_zero] at room
  exact commits_seen holding.licensed room (.inl holding.locked)

end Commit

/-! ## Statements -/

/-- The query takes no seat. -/
def Mild (tenantID : Uuid) (query : Query) : Prop :=
  ∀ context db result writes, (query.effect context db).Yields result writes →
    Shrinks tenantID db (dialect.applyAll writes db)

section Statements

variable {tenantID : Uuid} {seats : Int} {sequential : Bool} {query : Query}

/-- What a table inherits through the writes of a query. -/
theorem inherits_applyAll {Row Id : Type} [DecidableEq Id]
    {access : Access Db Write LockKey Row Id} {changeOf : Write → Option (Change Row Id)}
    (lawful : access.Lawful dialect changeOf) {matters : Row → Prop}
    {descends : Row → Row → Prop} (same : ∀ row, descends row row) {db : Db}
    {writes : List Write}
    (puts : ∀ row, access.change (.put row) ∈ writes → matters row →
      ∃ old ∈ access.table db, access.key old = access.key row ∧ matters old ∧ descends old row) :
    (access.table (dialect.applyAll writes db)).Inherits (access.table db) matters descends := by
  intro row mem holds
  rw [dialect.table_applyAll access.table changeOf lawful.table_write] at mem
  rcases Table.mem_applyAll mem with put | ⟨kept, _⟩
  · exact puts row (lawful.mem_filterMap.mp put) holds
  · exact ⟨row, kept, rfl, holds, same row⟩

/-- A query takes no seat if each of its writes to the three tables comes from a row
that had it. -/
theorem mild_of_writes
    (tenants : ∀ context db row, TenantWrite context db query (.put row) →
      ∃ old ∈ db.tenants, old.id = row.id ∧ row.licensedSeats = old.licensedSeats)
    (memberships : ∀ context db row, MembershipWrite context db query (.put row) →
      row.activeIn tenantID = true →
        ∃ old ∈ db.memberships, old.id = row.id ∧ old.activeIn tenantID = true)
    (invitations : ∀ context db row, InvitationWrite context db query (.put row) →
      PendingIn tenantID row →
        ∃ old ∈ db.invitations, old.id = row.id ∧ PendingIn tenantID old ∧
          row.expiresAt = old.expiresAt) : Mild tenantID query := by
  intro context db result writes yields
  constructor
  · refine inherits_applyAll tenantLawful (by simp) fun row put same => ?_
    obtain ⟨old, mem, sameID, seats⟩ := tenants context db row (tenant_write yields put)
    exact ⟨old, mem, sameID, sameID.trans same, seats⟩
  · refine inherits_applyAll membershipLawful (by simp) fun row put active => ?_
    obtain ⟨old, mem, same, activeOld⟩ :=
      memberships context db row (membership_write yields put) active
    exact ⟨old, mem, same, activeOld, trivial⟩
  · exact inherits_applyAll invitationLawful (by simp) fun row put pending =>
      invitations context db row (invitation_write yields put) pending

section Off

variable {context : Context} {db : Db} {result : query.Result} {writes : List Write}
  (yields : (query.effect context db).Yields result writes)

include yields

theorem tenants_of_off (off : .tenants ∉ query.writesTo) :
    (dialect.applyAll writes db).tenants.Inherits db.tenants (fun tenant => tenant.id = tenantID)
      fun old new => new.licensedSeats = old.licensedSeats :=
  inherits_applyAll tenantLawful (by simp) fun _ put _ =>
    absurd (Query.table_mem_writesTo yields put) off

theorem memberships_of_off (off : .memberships ∉ query.writesTo) :
    (dialect.applyAll writes db).memberships.Inherits db.memberships
      (fun row => row.activeIn tenantID = true) fun _ _ => True :=
  inherits_applyAll membershipLawful (by simp) fun _ put _ =>
    absurd (Query.table_mem_writesTo yields put) off

theorem invitations_of_off (off : .invitations ∉ query.writesTo) :
    (dialect.applyAll writes db).invitations.Inherits db.invitations (PendingIn tenantID)
      fun old new => new.expiresAt = old.expiresAt :=
  inherits_applyAll invitationLawful (by simp) fun _ put _ =>
    absurd (Query.table_mem_writesTo yields put) off

end Off

/-- A query that does not write to the three tables. -/
theorem mild_of_off (tenants : .tenants ∉ query.writesTo)
    (memberships : .memberships ∉ query.writesTo) (invitations : .invitations ∉ query.writesTo) :
    Mild tenantID query :=
  fun _ _ _ _ yields => ⟨tenants_of_off yields tenants, memberships_of_off yields memberships,
    invitations_of_off yields invitations⟩

end Statements

end Seats

end OrgMembership
