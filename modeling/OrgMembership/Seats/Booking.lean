import OrgMembership.Seats.Occupancy

/-!
# Taking and giving seats

The statements of the calls that move seats: those that take none, the two that
take one, and the acceptance that turns an invitation's seat into a member's.
From them, the transactions of P-6, I-3, P-31 and the expiry sweep.
-/

namespace OrgMembership

open Concurrency Relational

namespace Seats

variable {pre : Assertion DbServer DbSession} {body : DbM σ α} {version : Int}
  {status : MembershipStatus} {userID : Uuid}

/-! ## Mild statements -/

section Mild

variable {tenantID : Uuid} {query : Query}

theorem mild_read (reads : query.writesTo = []) : Mild tenantID query :=
  mild_of_off (reads ▸ List.not_mem_nil) (reads ▸ List.not_mem_nil) (reads ▸ List.not_mem_nil)

/-- Only a new pending row takes a seat. -/
theorem mild_invitation {query : InvitationQuery}
    (settled : ∀ values, query = .insert values → values.status ≠ .pending) :
    Mild tenantID (.invitation query) := by
  refine mild_of_writes (fun _ _ _ write => nomatch write) (fun _ _ _ write => nomatch write)
    fun context db row write pending => ?_
  rcases write.origin with ⟨values, same, rfl⟩ | ⟨old, mem, same, evolves⟩
  · exact absurd pending.2 (settled values (by simpa using same))
  · exact ⟨old, mem, same, ⟨evolves.tenantID.symm.trans pending.1, evolves.pending pending.2⟩,
      evolves.expiresAt⟩

theorem mild_setMembership {id id' : Uuid} (inactive : status ≠ .active) :
    Mild tenantID (.membership (.setStatus id id' userID status version)) := by
  refine mild_of_writes (fun _ _ _ write => nomatch write) (fun context db row write active => ?_)
    fun _ _ _ write => nomatch write
  cases write with
  | setStatus mem selected => simp [TenantMembership.activeIn, inactive] at active

theorem mild_endMembership {id id' : Uuid} :
    Mild tenantID (.membership (.softDelete id id' userID version)) := by
  refine mild_of_writes (fun _ _ _ write => nomatch write) (fun context db row write active => ?_)
    fun _ _ _ write => nomatch write
  cases write with
  | softDelete mem selected => simp [TenantMembership.activeIn] at active

theorem mild_markOwnerless {id : Uuid} : Mild tenantID (.tenant (.markOwnerlessIfUnset id)) := by
  refine mild_of_writes (fun context db row write => ?_) (fun _ _ _ write => nomatch write)
    fun _ _ _ write => nomatch write
  cases write with
  | markOwnerless mem =>
      refine ⟨_, mem, ?_, ?_⟩
      · rw [Tenant.touch_proj Tenant.id fun _ _ _ => rfl]
      · rw [Tenant.touch_proj Tenant.licensedSeats fun _ _ _ => rfl]

end Mild

/-! ## Giving seats back -/

section Giving

variable {σ α : Type} {tenantID : Uuid} {seats : Int} {sequential : Bool}

theorem giving_of_blank {server : DbServer} {session : DbSession} (blank : session.Blank) :
    Giving tenantID server session := by
  rw [Giving, view_of_unwritten blank.unwritten]
  exact .refl _

theorem within_giving (issues : Fallible.Issues (Only (Mild tenantID)) body) :
    Within (protocol tenantID seats sequential) (Giving tenantID) body
      fun _ => Giving tenantID := by
  apply within_only lenient stable_giving _ issues
  intro query mild server session fresh result writes _ giving _ yields
  rw [Giving, Dialect.view_extended]
  exact giving.trans (mild _ _ _ _ yields)

/-- A transaction of mild statements keeps the protocol. -/
theorem idles_giving (issues : Fallible.Issues (Only (Mild tenantID)) body) :
    Idles (protocol tenantID seats sequential) (transaction .pg body) := by
  apply attempt_idle_transaction lenient fun _ => stable_giving
  · exact Attempt.strengthen (within_giving issues) fun _ _ _ blank => giving_of_blank blank
  · exact fun _ server session inv giving _ => commits_giving inv giving

end Giving

/-! ## Taking seats -/

/-- From one state to the other one seat was taken at most. -/
structure TakesOne (tenantID : Uuid) (before after : Db) : Prop where
  tenants : after.tenants.Inherits before.tenants (fun tenant => tenant.id = tenantID)
    fun old new => new.licensedSeats = old.licensedSeats
  used : ∀ now taken,
    besides tenantID now taken after ≤ besides tenantID now taken before + 1

section Taking

variable {σ α : Type} {tenantID : Uuid} {seats : Int} {sequential : Bool} {free : Nat}
  {taken : Option Uuid} {context : Context} {db : Db} {writes : List Write} {target : Uuid}

/-- A row of the table after the writes that is not one of them. -/
theorem mem_of_mem_applyAll {Row Id : Type} [DecidableEq Id]
    {access : Access Db Write LockKey Row Id} {changeOf : Write → Option (Change Row Id)}
    (lawful : access.Lawful dialect changeOf) {row : Row}
    (mem : row ∈ access.table (dialect.applyAll writes db))
    (unwritten : access.change (.put row) ∉ writes) : row ∈ access.table db := by
  rw [dialect.table_applyAll access.table changeOf lawful.table_write] at mem
  rcases Table.mem_applyAll mem with put | ⟨kept, _⟩
  · exact absurd (lawful.mem_filterMap.mp put) unwritten
  · exact kept

/-- A statement on memberships that writes one row takes at most one seat. -/
theorem takesOne_membership {query : MembershipQuery} {result : query.Result}
    (yields : ((Query.membership query).effect context db).Yields result writes)
    (single : ∀ row, .membership (.put row) ∈ writes → row.id = target) :
    TakesOne tenantID db (dialect.applyAll writes db) where
  tenants := tenants_of_off yields (by cases query <;> simp)
  used now taken := by
    have members : (dialect.applyAll writes db).memberships.count (·.activeIn tenantID) ≤
        db.memberships.count (·.activeIn tenantID) + 1 := by
      refine Table.count_le_count_succ target fun row mem active apart => ?_
      exact ⟨row, mem_of_mem_applyAll membershipLawful mem fun put => apart (single row put), rfl,
        active⟩
    have pending : ((dialect.applyAll writes db).invitations.count fun row =>
          row.holdsSeat tenantID now && some row.id ≠ taken) ≤
        db.invitations.count fun row => row.holdsSeat tenantID now && some row.id ≠ taken :=
      invitations_le (invitations_of_off yields (by cases query <;> simp)) le_rfl
    rw [besides, besides]
    omega

/-- So does a statement on invitations. -/
theorem takesOne_invitation {query : InvitationQuery} {result : query.Result}
    (yields : ((Query.invitation query).effect context db).Yields result writes)
    (single : ∀ row, .invitation (.put row) ∈ writes → row.id = target) :
    TakesOne tenantID db (dialect.applyAll writes db) where
  tenants := tenants_of_off yields (by cases query <;> simp)
  used now taken := by
    have members : (dialect.applyAll writes db).memberships.count (·.activeIn tenantID) ≤
        db.memberships.count (·.activeIn tenantID) :=
      members_le (memberships_of_off yields (by cases query <;> simp))
    have pending : ((dialect.applyAll writes db).invitations.count fun row =>
          row.holdsSeat tenantID now && some row.id ≠ taken) ≤
        (db.invitations.count fun row =>
          row.holdsSeat tenantID now && some row.id ≠ taken) + 1 := by
      refine Table.count_le_count_succ target fun row mem counts apart => ?_
      exact ⟨row, mem_of_mem_applyAll invitationLawful mem fun put => apart (single row put), rfl,
        counts⟩
    rw [besides, besides]
    omega

/-- Rows that a query's writes are about, when it writes one. -/
theorem insert_single {values : InvitationInsert} {result : Option PendingInvitation}
    (yields : ((Query.invitation (.insert values)).effect context db).Yields result writes)
    {row : PendingInvitation} (put : .invitation (.put row) ∈ writes) :
    row.id = context.fresh := by
  cases invitation_write yields put with
  | insert => rfl

theorem member_single {result : Option TenantMembership}
    (yields : ((Query.membership (.insert tenantID userID status)).effect context db).Yields
      result writes) {row : TenantMembership} (put : .membership (.put row) ∈ writes) :
    row.id = context.fresh := by
  cases membership_write yields put with
  | insert => rfl

theorem status_single {id : Uuid} {result : Option TenantMembership}
    (yields : ((Query.membership (.setStatus id tenantID userID status version)).effect context
      db).Yields result writes) {row : TenantMembership} (put : .membership (.put row) ∈ writes) :
    row.id = id := by
  cases membership_write yields put with
  | setStatus mem => exact TenantMembership.withStatus_id _ _ _

theorem TakesOne.licensed {before after : Db} (takes : TakesOne tenantID before after)
    (licensed : Licensed tenantID seats before) : Licensed tenantID seats after := by
  intro tenant mem same
  obtain ⟨old, memOld, _, sameOld, seatsEq⟩ := takes.tenants tenant mem same
  exact seatsEq.trans (licensed old memOld sameOld)

end Taking

/-! ## Under the tenants row lock -/

section Holding

variable {σ α : Type} {tenantID : Uuid} {seats : Int} {sequential : Bool} {free : Nat}
  {taken : Option Uuid} {server : DbServer} {session : DbSession} {query : Query}
  {result : query.Result} {locks : List (Lock LockKey)} {writes : List Write}

theorem Holding.shrinks (holding : Holding tenantID seats free taken server session)
    (shrinks : Shrinks tenantID (dialect.view server session)
      (dialect.applyAll writes (dialect.view server session))) :
    Holding tenantID seats free taken server (session.extended query result locks writes) where
  locked := List.mem_append_left _ holding.locked
  began := holding.began
  licensed := by
    rw [Dialect.view_extended]
    exact shrinks.licensed holding.licensed
  room := by
    have fewer : besides tenantID server.now taken
          (dialect.applyAll writes (dialect.view server session)) ≤
        besides tenantID server.now taken (dialect.view server session) :=
      shrinks.besides_le le_rfl
    have room := holding.room
    rw [Dialect.view_extended]
    omega

theorem Holding.takes (holding : Holding tenantID seats (free + 1) taken server session)
    (takes : TakesOne tenantID (dialect.view server session)
      (dialect.applyAll writes (dialect.view server session))) :
    Holding tenantID seats free taken server (session.extended query result locks writes) where
  locked := List.mem_append_left _ holding.locked
  began := holding.began
  licensed := by
    rw [Dialect.view_extended]
    exact takes.licensed holding.licensed
  room := by
    have more := takes.used server.now taken
    have room := holding.room
    rw [Dialect.view_extended]
    omega

theorem within_holding (issues : Fallible.Issues (Only (Mild tenantID)) body) :
    Within (protocol tenantID seats sequential) (Holding tenantID seats free taken) body
      fun _ => Holding tenantID seats free taken := by
  apply within_only lenient (stable_holding free taken) _ issues
  intro query mild server session fresh result writes _ holding _ yields
  exact holding.shrinks (mild _ _ _ _ yields)

end Holding

/-! ## Counting -/

/-- A transaction that has just begun. -/
structure Entered (server : DbServer) (session : DbSession) : Prop extends session.Blank where
  began : session.startedAt ≤ server.now

/-- The transaction has counted the active members. -/
structure MembersCounted (tenantID : Uuid) (seats : Int) (active : Nat) (server : DbServer)
    (session : DbSession) : Prop extends Holding tenantID seats 0 none server session where
  members : (dialect.view server session).memberships.count (·.activeIn tenantID) ≤ active

/-- The transaction has counted the seats in use. -/
structure Counted (tenantID : Uuid) (seats : Int) (tally : Nat) (server : DbServer)
    (session : DbSession) : Prop extends Holding tenantID seats 0 none server session where
  used : occupancy tenantID server.now (dialect.view server session) ≤ tally

section Counting

variable {σ α : Type} {tenantID : Uuid} {seats : Int} {sequential : Bool}

theorem stable_entered : (protocol tenantID seats sequential).Stable Entered := by
  intro before after session _ _ rely entered
  refine ⟨entered.toBlank, entered.began.trans ?_⟩
  rcases rely with ⟨actor, ⟨interleaved, _⟩, same | alone | committed⟩ | drift
  · rw [same]
  · rw [interleaved] at alone
    exact absurd alone Bool.false_ne_true
  · rw [committed.1]
    exact le_rfl
  · exact drift.2

theorem stable_membersCounted (active : Nat) :
    (protocol tenantID seats sequential).Stable (MembersCounted tenantID seats active) := by
  intro before after session inv inv' rely counted
  obtain ⟨shrinks, _⟩ := shrinks_of_rely rely counted.locked
  have seen : Shrinks tenantID (dialect.view before session) (dialect.view after session) :=
    shrinks.view
  exact ⟨stable_holding 0 none before after session inv inv' rely counted.toHolding,
    (members_le seen.memberships).trans counted.members⟩

theorem stable_counted (tally : Nat) :
    (protocol tenantID seats sequential).Stable (Counted tenantID seats tally) := by
  intro before after session inv inv' rely counted
  obtain ⟨shrinks, later⟩ := shrinks_of_rely rely counted.locked
  have seen : Shrinks tenantID (dialect.view before session) (dialect.view after session) :=
    shrinks.view
  exact ⟨stable_holding 0 none before after session inv inv' rely counted.toHolding,
    (seen.occupancy_le later).trans counted.used⟩

/-- Locking the tenants row at the start. -/
theorem Entered.locks {server : DbServer} {session : DbSession} {tenant : Tenant}
    (inv : (protocol tenantID seats sequential).Inv server) (entered : Entered server session) :
    Holding tenantID seats 0 none server (session.extended (.tenant (.lockLive tenantID))
      (some tenant) [⟨.tenant tenantID, .update⟩] []) where
  locked := List.mem_append_right _ (List.mem_singleton_self _)
  began := entered.began
  licensed := by
    rw [Dialect.view_extended_nil, view_of_unwritten entered.unwritten]
    exact inv.1
  room := by
    rw [Dialect.view_extended_nil, view_of_unwritten entered.unwritten, besides_none]
    exact inv.2

theorem within_licensedSeats (stable : (protocol tenantID seats sequential).Stable pre)
    (locks : ∀ server session tenant, (protocol tenantID seats sequential).Inv server →
      pre server session → Holding tenantID seats 0 none server
        (session.extended (.tenant (.lockLive tenantID)) (some tenant)
          [⟨.tenant tenantID, .update⟩] [])) :
    Within (protocol tenantID seats sequential) pre
      (TenantRepository.licensedSeatsForUpdate tenantID : DbM σ _)
      fun licensed server session => licensed = seats ∧
        Holding tenantID seats 0 none server session := by
  apply within_licensedSeatsForUpdate lenient stable
  intro server session tenant inv holds sees
  have holding := locks server session tenant inv holds
  refine ⟨holding.licensed tenant ?_ sees.id, holding⟩
  rw [Dialect.view_extended_nil]
  exact sees.mem

theorem within_countActive :
    Within (protocol tenantID seats sequential) (Holding tenantID seats 0 none)
      (MembershipRepository.countActive tenantID : DbM σ _)
      (MembersCounted tenantID seats) := by
  apply within_read lenient (stable_holding 0 none) fun _ _ => rfl
  intro server session fresh _ holding _
  exact ⟨holding.shrinks (.refl _), by rw [Dialect.view_extended_nil]⟩

/-- Invitations are counted at the start of the transaction, when no fewer of them
held a seat than do now. -/
theorem within_countPending {active : Nat} :
    Within (protocol tenantID seats sequential) (MembersCounted tenantID seats active)
      (InvitationRepository.countPending tenantID : DbM σ _)
      fun pending => Counted tenantID seats (active + pending) := by
  apply within_read lenient (stable_membersCounted active) fun _ _ => rfl
  intro server session fresh _ counted _
  refine ⟨counted.toHolding.shrinks (.refl _), ?_⟩
  rw [Dialect.view_extended_nil]
  apply Nat.add_le_add counted.members
  apply Table.count_le_count
  intro row mem holds
  refine ⟨row, mem, rfl, ?_⟩
  rw [holdsSeat_iff] at holds ⊢
  exact ⟨holds.1, lt_of_le_of_lt ((pgTime_le _).trans counted.began) holds.2⟩

/-- A count that leaves a seat free. -/
theorem Counted.free {server : DbServer} {session : DbSession} {active pending : Nat}
    (counted : Counted tenantID seats (active + pending) server session)
    (left : ¬seats ≤ (active : Int) + pending) :
    Holding tenantID seats 1 none server session where
  locked := counted.locked
  began := counted.began
  licensed := counted.licensed
  room := by
    have used := counted.used
    rw [besides_none]
    omega

/-- A transaction that ends within the license keeps the protocol. -/
theorem idles_holding (runs : Within (protocol tenantID seats sequential) Entered body
      fun _ => Holding tenantID seats 0 none) :
    Idles (protocol tenantID seats sequential) (transaction .pg body) := by
  apply attempt_transaction lenient (Protocol.stable_local _) (fun _ => stable_holding 0 none)
    (fun _ => Protocol.stable_local fun _ => True) _ runs
  · exact fun _ _ _ _ holding _ => commits_holding holding
  · exact fun _ _ _ session _ _ => session.idle_closed
  · exact fun _ _ session _ _ _ => session.idle_closed
  · exact fun _ _ session _ _ => session.idle_closed
  · exact fun _ _ _ _ idle => idle
  · exact fun server session _ _ => ⟨session.blank_opened server.now, le_rfl⟩

end Counting

/-! ## P-6 -/

section Invite

variable {σ : Type} {tenantID : Uuid} {seats : Int} {sequential : Bool}

theorem within_timeNow (stable : (protocol tenantID seats sequential).Stable pre)
    (keeps : ∀ server session fresh now, pre server session →
      pre server (session.extended (.event .clock) now fresh [])) :
    Within (protocol tenantID seats sequential) pre (timeNow : DbM σ _) fun _ => pre :=
  within_read lenient stable (fun _ _ => rfl) fun server session _ _ holds _ =>
    keeps server session _ _ holds

theorem within_insertInvitation {values : InvitationInsert} :
    Within (protocol tenantID seats sequential) (Holding tenantID seats 1 none)
      (InvitationRepository.insert values : DbM σ _)
      fun _ => Holding tenantID seats 0 none := by
  have inserts : Within (protocol tenantID seats sequential) (Holding tenantID seats 1 none)
      (invitationQuery (.insert values) : DbM σ _) fun _ => Holding tenantID seats 0 none := by
    apply within_send lenient (stable_holding 1 none)
    intro server session fresh result writes _ holding _ yields
    exact holding.takes (takesOne_invitation yields fun row put => insert_single yields put)
  refine Attempt.bind (Attempt.mapError inserts) fun created => ?_
  cases created with
  | some row => exact Attempt.pure fun _ _ _ holding => holding
  | none => exact within_throw

theorem within_inviteTx {config : InvitationConfig} {input : InvitationInput}
    {actorID keycloakUserID : Uuid} :
    Within (protocol tenantID seats sequential) Entered
      (inviteTx config tenantID input actorID keycloakUserID : DbM σ _)
      fun _ => Holding tenantID seats 0 none := by
  refine Attempt.bind (within_licensedSeats stable_entered
    fun _ _ _ inv entered => entered.locks inv) fun licensed => Attempt.of_fact fun same => ?_
  subst same
  refine Attempt.bind within_countActive fun active => ?_
  refine Attempt.bind within_countPending fun pending => ?_
  refine Attempt.bind (within_timeNow (stable_counted _) fun server session locks now counted =>
    ⟨counted.toHolding.shrinks (.refl _), by
      rw [Dialect.view_extended_nil]; exact counted.used⟩) fun now => ?_
  split
  · have orphans : Fallible.Issues (Only (Mild tenantID)) (do
        let row ← InvitationRepository.insert
          (orphanInvitation tenantID input actorID keycloakUserID now)
        InvitationRepository.setKCCleanupPending tenantID row.id true row.recordVersion
        return .error (seatLimitError licensed active pending) :
          DbM σ (Except Failure PendingInvitation)) := by
      refine (InvitationRepository.issues_insert (mild_invitation ?_)).bind fun row => ?_
      · intro values same
        cases same
        simp [orphanInvitation]
      · exact (InvitationRepository.issues_setKCCleanupPending (mild_invitation nofun)
          (mild_read rfl)).bind fun _ => Fallible.issues_pure _
    exact Attempt.strengthen (within_holding orphans) fun _ _ _ counted => counted.toHolding
  case isFalse left =>
    refine Attempt.bind (Attempt.strengthen within_insertInvitation
      fun _ _ _ counted => counted.free left) fun row => ?_
    exact Attempt.pure fun _ _ _ holding => holding

end Invite

/-! ## I-3 -/

/-- The transaction holds the tenants row, and if the invitation is pending in what
it sees, so many seats are free besides the invitation's. -/
structure Promised (tenantID : Uuid) (seats : Int) (free : Nat) (id : Uuid) (server : DbServer)
    (session : DbSession) : Prop where
  locked : TenantLocked tenantID session
  began : session.startedAt ≤ server.now
  licensed : Licensed tenantID seats (dialect.view server session)
  room : (∃ row ∈ (dialect.view server session).invitations, row.id = id ∧ PendingIn tenantID row) →
    ((besides tenantID server.now (some id) (dialect.view server session) + free : Nat) : Int) ≤
      seats

/-- The transaction has no pending invitation locked. -/
structure Unreserved (tenantID : Uuid) (seats : Int) (server : DbServer) (session : DbSession) :
    Prop extends Holding tenantID seats 0 none server session where
  unreserved : ∀ row ∈ (dialect.view server session).invitations, PendingIn tenantID row →
    ⟨.invitation row.id, .update⟩ ∉ session.locks

/-- What I-3 knows after it has looked at its candidate again. -/
def Relocked (tenantID : Uuid) (seats : Int) :
    Option PendingInvitation → Assertion DbServer DbSession
  | none => Unreserved tenantID seats
  | some pending => Promised tenantID seats 1 pending.id

section Register

variable {σ : Type} {tenantID : Uuid} {seats : Int} {sequential : Bool} {free : Nat} {id : Uuid}

theorem Holding.promised {server : DbServer} {session : DbSession}
    (holding : Holding tenantID seats free none server session) :
    Promised tenantID seats free id server session where
  locked := holding.locked
  began := holding.began
  licensed := holding.licensed
  room _ := by
    have fewer : besides tenantID server.now (some id) (dialect.view server session) ≤
        occupancy tenantID server.now (dialect.view server session) := besides_le_occupancy _
    have room := holding.room
    rw [besides_none] at room
    omega

theorem stable_promised :
    (protocol tenantID seats sequential).Stable (Promised tenantID seats free id) := by
  intro before after session _ _ rely promised
  obtain ⟨shrinks, later⟩ := shrinks_of_rely rely promised.locked
  have seen : Shrinks tenantID (dialect.view before session) (dialect.view after session) :=
    shrinks.view
  refine ⟨promised.locked, promised.began.trans later, seen.licensed promised.licensed, ?_⟩
  rintro ⟨row, mem, same, pending⟩
  obtain ⟨old, memOld, sameOld, pendingOld, _⟩ := seen.invitations row mem pending
  have room := promised.room ⟨old, memOld, sameOld.trans same, pendingOld⟩
  have fewer : besides tenantID after.now (some id) (dialect.view after session) ≤
      besides tenantID before.now (some id) (dialect.view before session) := seen.besides_le later
  omega

theorem stable_unreserved :
    (protocol tenantID seats sequential).Stable (Unreserved tenantID seats) := by
  intro before after session inv inv' rely unreserved
  obtain ⟨shrinks, _⟩ := shrinks_of_rely rely unreserved.locked
  have seen : Shrinks tenantID (dialect.view before session) (dialect.view after session) :=
    shrinks.view
  refine ⟨stable_holding 0 none before after session inv inv' rely unreserved.toHolding, ?_⟩
  intro row mem pending
  obtain ⟨old, memOld, same, pendingOld, _⟩ := seen.invitations row mem pending
  rw [show row.id = old.id from same.symm]
  exact unreserved.unreserved old memOld pendingOld

/-- Without a pending invitation a member is added while a seat is free. -/
theorem within_addPlain :
    Within (protocol tenantID seats sequential) (Unreserved tenantID seats)
      (membershipQuery (.insert tenantID userID .active) : DbM σ _)
      fun _ => Holding tenantID seats 0 none := by
  apply within_send lenient stable_unreserved
  intro server session fresh result writes _ unreserved admits yields
  have free : reserves tenantID (dialect.view server session) session = false := by
    rw [reserves, List.any_eq_false]
    intro row mem reserved
    simp only [Bool.and_eq_true, decide_eq_true_eq, List.contains_iff_mem] at reserved
    exact unreserved.unreserved row mem reserved.1 reserved.2
  have room : (occupancy tenantID server.now (dialect.view server session) : Int) < seats := by
    simpa [covered, free] using admits.2
  have holding : Holding tenantID seats 1 none server session :=
    { unreserved.toHolding with
      room := by
        rw [besides_none]
        omega }
  exact holding.takes (takesOne_membership yields fun row put => member_single yields put)

theorem within_addPromised :
    Within (protocol tenantID seats sequential) (Promised tenantID seats 1 id)
      (membershipQuery (.insert tenantID userID .active) : DbM σ _)
      fun _ => Promised tenantID seats 0 id := by
  apply within_send lenient stable_promised
  intro server session fresh result writes _ promised _ yields
  have takes : TakesOne tenantID (dialect.view server session)
      (dialect.applyAll writes (dialect.view server session)) :=
    takesOne_membership yields fun row put => member_single yields put
  refine ⟨List.mem_append_left _ promised.locked, promised.began, ?_, ?_⟩
  · rw [Dialect.view_extended]
    exact takes.licensed promised.licensed
  · rw [Dialect.view_extended]
    rintro ⟨row, mem, same, pending⟩
    obtain ⟨old, memOld, sameOld, pendingOld, _⟩ :=
      invitations_of_off yields (by simp) row mem pending
    have room := promised.room ⟨old, memOld, sameOld.trans same, pendingOld⟩
    have more := takes.used server.now (some id)
    omega

/-- The rest of `MembershipRepository.insert` reads. -/
theorem within_insertMember {post : Assertion DbServer DbSession}
    (inserts : Within (protocol tenantID seats sequential) pre
      (membershipQuery (.insert tenantID userID .active) : DbM σ _) fun _ => post)
    (finds : Within (protocol tenantID seats sequential) post
      (membershipQuery (.findByUserID tenantID userID) : DbM σ _) fun _ => post) :
    Within (protocol tenantID seats sequential) pre
      (MembershipRepository.insert tenantID userID .active : DbM σ _) fun _ => post := by
  refine Attempt.bind inserts fun created => ?_
  cases created with
  | some row => exact Attempt.pure fun _ _ _ holds => holds
  | none =>
      refine Attempt.bind finds fun found => ?_
      cases found with
      | some row => exact Attempt.pure fun _ _ _ holds => holds
      | none => exact within_throw

theorem Promised.reads {server : DbServer} {session : DbSession} {query : Query}
    {result : query.Result} {locks : List (Lock LockKey)}
    (promised : Promised tenantID seats free id server session) :
    Promised tenantID seats free id server (session.extended query result locks []) where
  locked := List.mem_append_left _ promised.locked
  began := promised.began
  licensed := by
    rw [Dialect.view_extended_nil]
    exact promised.licensed
  room := by
    rw [Dialect.view_extended_nil]
    exact promised.room

end Register

end Seats

end OrgMembership
