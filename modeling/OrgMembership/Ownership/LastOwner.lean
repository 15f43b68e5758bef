import OrgMembership.Service.Calls

/-!
# The last owner

An owner is effective when their grant and their membership are live and the
membership is active.  Suspending, removing and demoting members keeps an
effective owner in every run in which the guards count effective owners only and
no suspension slips past them.
-/

namespace OrgMembership

open Concurrency Relational

/-- The user owns the tenant and is an active member. -/
def EffectiveOwner (tenantID : Uuid) (db : Db) (userID : Uuid) : Prop :=
  (∃ role ∈ db.roles, role.ownerOf tenantID = true ∧ role.userID = userID) ∧
    ∃ row ∈ db.memberships, row.activeIn tenantID = true ∧ row.userID = userID

/-- The tenant has an effective owner. -/
def Owned (tenantID : Uuid) (db : Db) : Prop :=
  ∃ userID, EffectiveOwner tenantID db userID

namespace LastOwner

/-- P-7, P-8 and P-28 on the users of one tenant. -/
inductive Call
  | setStatus (userID : Uuid) (status : MembershipStatus) (expectedVersion : Int)
      (workflow : WorkflowAnswer)
  | removeUser (userID actorID : Uuid) (workflow : WorkflowAnswer)
  | reconcileRoles (userID : Uuid) (desired : List TenantRoleCode) (actorID : Uuid)
      (isServiceAccount : Bool) (grantOrder revokeOrder : MapOrder)

/-- The program of a call for the tenant. -/
def code (tenantID : Uuid) : Call → DbProgram (Except Failure Unit)
  | .setStatus userID status expectedVersion workflow =>
      Fallible.run do
        let _ ← setStatus tenantID userID status expectedVersion workflow
        return ()
  | .removeUser userID actorID workflow => (removeUser tenantID userID actorID workflow).run
  | .reconcileRoles userID desired actorID isServiceAccount grantOrder revokeOrder =>
      Fallible.run do
        let _ ← reconcileRoles tenantID userID desired actorID isServiceAccount grantOrder
          revokeOrder
        return ()

/-- Every owner of the tenant is an active member. -/
def ownersActive (tenantID : Uuid) (db : Db) : Bool :=
  db.roles.rows.all fun role =>
    !role.ownerOf tenantID ||
      db.memberships.rows.any fun row => row.activeIn tenantID && row.userID = role.userID

/-- The user owns the tenant. -/
def isOwner (tenantID : Uuid) (db : Db) (userID : Uuid) : Bool :=
  db.roles.rows.any fun role => role.ownerOf tenantID && role.userID = userID

/-- The write suspends a member who owns the tenant. -/
def suspendsOwner (tenantID : Uuid) (db : Db) : Write → Bool
  | .membership (.put row) => row.status ≠ .active && isOwner tenantID db row.userID
  | _ => false

/-- The condition on a statement: owners are counted under the tenant lock only
while all of them are active, and no owner's suspension commits without that
lock. -/
def sound (tenantID : Uuid) (server : DbServer) (session : DbSession) : Statement Query → Bool
  | .query (.role (.countActiveOwners _)) =>
      !decide (TenantLocked tenantID session) || ownersActive tenantID server.db
  | .commit =>
      decide (TenantLocked tenantID session) ||
        !session.writes.any (suspendsOwner tenantID server.db)
  | _ => true

/-- The runs in which every executed statement meets the condition. -/
def runs (tenantID : Uuid) : DbConfig Call (Except Failure Unit) →
    Action Call (Chance PgError) Nat → Bool :=
  allows (fun _ => true) fun config _ _ statement session =>
    sound tenantID config.shared session statement

theorem exists_active_of_ownersActive {tenantID : Uuid} {db : Db}
    (active : ownersActive tenantID db = true) {role : TenantRole} (mem : role ∈ db.roles)
    (owner : role.ownerOf tenantID = true) : EffectiveOwner tenantID db role.userID := by
  have found := List.all_eq_true.mp active role mem
  rw [owner] at found
  rw [Bool.not_true, Bool.false_or] at found
  obtain ⟨row, memRow, holds⟩ := List.any_eq_true.mp found
  rw [Bool.and_eq_true, decide_eq_true_eq] at holds
  exact ⟨⟨role, mem, owner, rfl⟩, row, memRow, holds⟩

theorem isOwner_of_effective {tenantID userID : Uuid} {db : Db}
    (effective : EffectiveOwner tenantID db userID) : isOwner tenantID db userID = true := by
  obtain ⟨⟨role, mem, owner, rfl⟩, _⟩ := effective
  exact List.any_eq_true.mpr ⟨role, mem, by simp [owner]⟩

/-! ## The protocol -/

section Protocol

variable (tenantID : Uuid)

/-- There is always an effective owner.  Whoever commits without the tenant lock
leaves every effective owner effective. -/
def protocol : DbProtocol where
  Inv server := Owned tenantID server.db
  Admits statement server session :=
    Disciplined server session ∧ roleAccess.Distinct dialect Write.roleChange server session ∧
      sound tenantID server session statement = true
  Coexist _ actor other := Compatible actor.locks other.locks
  Guar actor before after := before = after ∨ TenantLocked tenantID actor ∨
    ∀ userID, EffectiveOwner tenantID before.db userID → EffectiveOwner tenantID after.db userID
  Drift before after := before.db = after.db

/-- The write is about rows of one user and deletes none. -/
def About (userID : Uuid) : Write → Prop
  | .role (.put row) => row.userID = userID
  | .role (.delete _) => False
  | .membership (.put row) => row.userID = userID
  | .membership (.delete _) => False
  | _ => True

/-- Under the tenant lock, someone else is an effective owner, and the session
has written about the user only. -/
structure Spare (userID : Uuid) (server : DbServer) (session : DbSession) : Prop where
  locked : TenantLocked tenantID session
  other : ∃ otherID, otherID ≠ userID ∧ EffectiveOwner tenantID server.db otherID
  about : ∀ write ∈ session.writes, About userID write

/-- The write takes no owner away, unless it suspends one. -/
def Mild : Write → Prop
  | .role (.put row) => row.roleCode = .tenantOwner → row.live = true
  | .role (.delete _) => False
  | .membership (.put row) => row.live = true
  | .membership (.delete _) => False
  | _ => True

/-- The session has neither the tenant lock nor a write that takes an owner
away. -/
structure Unlocked (session : DbSession) : Prop where
  free : ∀ lock ∈ session.locks, lock ≠ ⟨.tenant tenantID, .update⟩
  mild : ∀ write ∈ session.writes, Mild write

variable {tenantID}

theorem lenient : Lenient (protocol tenantID) :=
  fun _ _ => .inl rfl

/-- The tenant lock keeps the other owner effective. -/
theorem stable_spare (userID : Uuid) : (protocol tenantID).Stable (Spare tenantID userID) := by
  intro before after session _ _ rely spare
  obtain ⟨otherID, apart, effective⟩ := spare.other
  refine ⟨spare.locked, ⟨otherID, apart, ?_⟩, spare.about⟩
  rcases rely with ⟨actor, compatible, rfl | locked | keeps⟩ | drift
  · exact effective
  · exact absurd rfl (compatible.key_ne locked spare.locked)
  · exact keeps otherID effective
  · exact drift ▸ effective

theorem absorbs_spare (userID : Uuid) :
    Absorbs (Spare tenantID userID) (About userID) fun _ => True := by
  intro server session query result locks writes about _ spare
  refine ⟨List.mem_append_left _ spare.locked, spare.other, fun write mem => ?_⟩
  exact (List.mem_append.mp mem).elim (spare.about write) (about write)

theorem absorbs_unlocked :
    Absorbs (fun _ : DbServer => Unlocked tenantID) Mild
      fun lock => lock ≠ ⟨.tenant tenantID, .update⟩ := by
  intro server session query result locks writes mild quiet unlocked
  constructor
  · exact fun lock mem => (List.mem_append.mp mem).elim (unlocked.free lock) (quiet lock)
  · exact fun write mem => (List.mem_append.mp mem).elim (unlocked.mild write) (mild write)

end Protocol

/-! ## Commits -/

section Commit

variable {tenantID userID : Uuid} {server : DbServer} {session : DbSession}

/-- What a commit makes of an owner's grant that it does not delete. -/
theorem role_committed (disciplined : Disciplined server session) {role : TenantRole}
    (mem : role ∈ server.db.roles) (kept : .role (.delete role.id) ∉ session.writes) :
    ∃ version ∈ (dialect.committed server session).db.roles,
      version = role ∨ .role (.put version) ∈ session.writes ∧ role.Evolves version := by
  obtain ⟨version, memVersion, _, same | ⟨put, evolves⟩⟩ :=
    roleLawful.version_committed disciplined.roles mem (mt roleLawful.mem_changes.mp kept)
  · exact ⟨version, memVersion, .inl same⟩
  · exact ⟨version, memVersion, .inr ⟨roleLawful.mem_changes.mp put, evolves⟩⟩

theorem membership_committed (disciplined : Disciplined server session) {row : TenantMembership}
    (mem : row ∈ server.db.memberships) (kept : .membership (.delete row.id) ∉ session.writes) :
    ∃ version ∈ (dialect.committed server session).db.memberships,
      version = row ∨ .membership (.put version) ∈ session.writes ∧ row.Evolves version := by
  obtain ⟨version, memVersion, _, same | ⟨put, evolves⟩⟩ :=
    membershipLawful.version_committed disciplined.memberships mem
      (mt membershipLawful.mem_changes.mp kept)
  · exact ⟨version, memVersion, .inl same⟩
  · exact ⟨version, memVersion, .inr ⟨membershipLawful.mem_changes.mp put, evolves⟩⟩

/-- Writes about one user leave the other owners effective. -/
theorem effective_of_about (disciplined : Disciplined server session)
    (about : ∀ write ∈ session.writes, About userID write) {otherID : Uuid}
    (apart : otherID ≠ userID) (effective : EffectiveOwner tenantID server.db otherID) :
    EffectiveOwner tenantID (dialect.committed server session).db otherID := by
  obtain ⟨⟨role, memRole, owner, rfl⟩, row, memRow, active, ofUser⟩ := effective
  constructor
  · obtain ⟨version, mem, rfl | ⟨put, evolves⟩⟩ :=
      role_committed disciplined memRole fun deleted => about _ deleted
    · exact ⟨version, mem, owner, rfl⟩
    · exact absurd (evolves.userID.symm.trans (about _ put)) apart
  · obtain ⟨version, mem, rfl | ⟨put, evolves⟩⟩ :=
      membership_committed disciplined memRow fun deleted => about _ deleted
    · exact ⟨version, mem, active, ofUser⟩
    · exact absurd (ofUser.symm.trans (evolves.userID.symm.trans (about _ put))) apart

/-- Mild writes that suspend no owner leave every owner effective. -/
theorem effective_of_mild (disciplined : Disciplined server session)
    (mild : ∀ write ∈ session.writes, Mild write)
    (sparing : session.writes.any (suspendsOwner tenantID server.db) = false) {otherID : Uuid}
    (effective : EffectiveOwner tenantID server.db otherID) :
    EffectiveOwner tenantID (dialect.committed server session).db otherID := by
  have isOwner := isOwner_of_effective effective
  obtain ⟨⟨role, memRole, owner, ofRole⟩, row, memRow, active, ofUser⟩ := effective
  constructor
  · obtain ⟨version, mem, rfl | ⟨put, evolves⟩⟩ :=
      role_committed disciplined memRole fun deleted => mild _ deleted
    · exact ⟨version, mem, owner, ofRole⟩
    · refine ⟨version, mem, ?_, evolves.userID.trans ofRole⟩
      simp only [TenantRole.ownerOf, Bool.and_eq_true, decide_eq_true_eq] at owner ⊢
      have code := evolves.roleCode.trans owner.1.2
      exact ⟨⟨evolves.tenantID.trans owner.1.1, code⟩, mild _ put code⟩
  · obtain ⟨version, mem, rfl | ⟨put, evolves⟩⟩ :=
      membership_committed disciplined memRow fun deleted => mild _ deleted
    · exact ⟨version, mem, active, ofUser⟩
    · have same := evolves.userID.trans ofUser
      refine ⟨version, mem, ?_, same⟩
      simp only [TenantMembership.activeIn, Bool.and_eq_true, decide_eq_true_eq] at active ⊢
      have spares := List.any_eq_false.mp sparing _ put
      simp only [suspendsOwner, same, isOwner, Bool.and_true, decide_eq_true_eq,
        not_not] at spares
      exact ⟨⟨evolves.tenantID.trans active.1.1, mild _ put⟩, spares⟩

theorem commits_spare (spare : Spare tenantID userID server session)
    (admits : (protocol tenantID).Admits .commit server session) :
    (protocol tenantID).Inv (dialect.committed server session) ∧
      (protocol tenantID).Guar session server (dialect.committed server session) ∧
      session.closed.Idle := by
  obtain ⟨otherID, apart, effective⟩ := spare.other
  exact ⟨⟨otherID, effective_of_about admits.1 spare.about apart effective⟩,
    .inr (.inl spare.locked), session.idle_closed⟩

theorem commits_unlocked (inv : (protocol tenantID).Inv server)
    (unlocked : Unlocked tenantID session)
    (admits : (protocol tenantID).Admits .commit server session) :
    (protocol tenantID).Inv (dialect.committed server session) ∧
      (protocol tenantID).Guar session server (dialect.committed server session) ∧
      session.closed.Idle := by
  have sparing : session.writes.any (suspendsOwner tenantID server.db) = false := by
    have condition := admits.2.2
    have free : ¬TenantLocked tenantID session := fun locked => unlocked.free _ locked rfl
    simpa [sound, free] using condition
  have keeps : ∀ otherID, EffectiveOwner tenantID server.db otherID →
      EffectiveOwner tenantID (dialect.committed server session).db otherID :=
    fun _ effective => effective_of_mild admits.1 unlocked.mild sparing effective
  obtain ⟨otherID, effective⟩ := inv
  exact ⟨⟨otherID, keeps otherID effective⟩, .inr (.inr keeps), session.idle_closed⟩

end Commit

/-! ## The statements of the calls -/

section Confined

variable {tenantID userID : Uuid} {query : Query}

/-- A query that writes about one user. -/
theorem confined_about
    (memberships : ∀ {context db change}, MembershipWrite context db query change →
      About userID (.membership change))
    (roles : ∀ {context db change}, RoleWrite context db query change →
      About userID (.role change)) :
    dialect.Confined (About userID) (fun _ => True) query := by
  refine fun context db result writes evaluated => ⟨fun write mem => ?_, fun _ _ => trivial⟩
  cases write with
  | membership change => exact memberships (membership_write evaluated mem)
  | role change => exact roles (role_write evaluated mem)
  | _ => trivial

/-- A query that takes neither an owner away nor the tenant lock. -/
theorem confined_mild
    (memberships : ∀ {context db change}, MembershipWrite context db query change →
      Mild (.membership change))
    (roles : ∀ {context db change}, RoleWrite context db query change → Mild (.role change))
    (free : ∀ context db, ⟨.tenant tenantID, .update⟩ ∉ (query.effect context db).kept) :
    dialect.Confined Mild (fun lock => lock ≠ ⟨.tenant tenantID, .update⟩) query := by
  refine fun context db result writes evaluated => ⟨fun write mem => ?_, fun lock mem same => ?_⟩
  · cases write with
    | membership change => exact memberships (membership_write evaluated mem)
    | role change => exact roles (role_write evaluated mem)
    | _ => trivial
  · exact free context db (same ▸ mem)

theorem isVersionOf_iff {version : Int} {row : TenantMembership} :
    row.isVersionOf tenantID userID version = true ↔
      ((row.tenantID = tenantID ∧ row.userID = userID) ∧ row.live = true) ∧
        row.recordVersion = version := by
  simp [TenantMembership.isVersionOf, TenantMembership.isOf]

theorem about_setStatus {id : Uuid} {status : MembershipStatus} {version : Int} :
    dialect.Confined (About userID) (fun _ => True)
      (.membership (.setStatus id tenantID userID status version)) :=
  confined_about
    (fun write => by
      cases write with
      | setStatus _ selected =>
          rw [About, TenantMembership.withStatus_userID]
          exact (isVersionOf_iff.mp selected).1.1.2)
    nofun

theorem about_removal (version : Int) :
    RemovalAllowed (dialect.Confined (About userID) fun _ => True) tenantID userID version where
  scanRoles := confined_of_reads rfl
  revokeRole id := confined_about nofun fun write => by
    cases write with
    | softDelete _ selected =>
        simp only [RoleFilter.selects, Bool.and_eq_true, decide_eq_true_eq] at selected
        simpa [About] using selected.1.2
  scanDepts := confined_of_reads rfl
  revokeDept id := confined_about nofun nofun
  scanMemberships := confined_of_reads rfl
  endMembership id := confined_about (fun write => by
    cases write with
    | softDelete _ selected =>
        rw [About, TenantMembership.ended_userID]
        exact (isVersionOf_iff.mp selected).1.1.2) nofun
  probe := confined_of_reads rfl
  publish event _ := confined_about nofun nofun

theorem about_grant {membershipID grantedBy : Uuid} {code : TenantRoleCode} :
    dialect.Confined (About userID) (fun _ => True)
      (.role (.insert tenantID userID membershipID code grantedBy)) :=
  confined_about nofun fun write => by
    cases write with
    | insert => rfl

theorem about_revoke {code : TenantRoleCode} {id : Uuid} :
    dialect.Confined (About userID) (fun _ => True)
      (.role (.softDelete (.grant tenantID userID code) id)) :=
  confined_about nofun fun write => by
    cases write with
    | softDelete _ selected =>
        simp only [RoleFilter.selects, Bool.and_eq_true, decide_eq_true_eq] at selected
        simpa [About] using selected.1.1.2

theorem mild_setStatus {id : Uuid} {status : MembershipStatus} {version : Int} :
    dialect.Confined Mild (fun lock => lock ≠ ⟨.tenant tenantID, .update⟩)
      (.membership (.setStatus id tenantID userID status version)) :=
  confined_mild
    (fun write => by
      cases write with
      | setStatus _ selected =>
          rw [Mild, TenantMembership.withStatus_live]
          exact (isVersionOf_iff.mp selected).1.2)
    nofun (membershipQuery_free _)

theorem mild_grant {membershipID grantedBy : Uuid} {code : TenantRoleCode} :
    dialect.Confined Mild (fun lock => lock ≠ ⟨.tenant tenantID, .update⟩)
      (.role (.insert tenantID userID membershipID code grantedBy)) :=
  confined_mild nofun
    (fun write => by
      cases write with
      | insert => exact fun _ => rfl)
    (roleQuery_free _)

/-- Revoking any role but the owner's. -/
theorem mild_revoke {code : TenantRoleCode} {id : Uuid} (other : code ≠ .tenantOwner) :
    dialect.Confined Mild (fun lock => lock ≠ ⟨.tenant tenantID, .update⟩)
      (.role (.softDelete (.grant tenantID userID code) id)) :=
  confined_mild nofun
    (fun write => by
      cases write with
      | softDelete _ selected =>
          simp only [RoleFilter.selects, Bool.and_eq_true, decide_eq_true_eq] at selected
          intro owner
          rw [TenantRole.revoked_roleCode, selected.1.2] at owner
          exact absurd owner other)
    (roleQuery_free _)

theorem mild_read (reads : query.writesTo = [])
    (free : ∀ context db, ⟨.tenant tenantID, .update⟩ ∉ (query.effect context db).kept) :
    dialect.Confined Mild (fun lock => lock ≠ ⟨.tenant tenantID, .update⟩) query := by
  refine fun context db result writes evaluated => ⟨?_, fun lock mem same => ?_⟩
  · exact (confined_of_reads reads context db result writes evaluated).1
  · exact free context db (same ▸ mem)

theorem mild_enqueue (event : DomainEvent) :
    dialect.Confined Mild (fun lock => lock ≠ ⟨.tenant tenantID, .update⟩)
      (.event (.enqueue event)) :=
  confined_mild nofun nofun (enqueue_free event)

end Confined

/-! ## The calls -/

section Calls

variable {σ : Type} {tenantID : Uuid}

/-- The tenant is locked and nothing is written yet. -/
structure Held (tenantID : Uuid) (session : DbSession) : Prop where
  locked : TenantLocked tenantID session
  unwritten : session.writes = []

/-- Of several owners, one is another user. -/
theorem exists_owner_besides {server : DbServer} {session : DbSession}
    (unwritten : session.writes = [])
    (distinct : roleAccess.Distinct dialect Write.roleChange server session)
    (many : 1 < server.db.roles.count (·.ownerOf tenantID)) (userID : Uuid) :
    ∃ role ∈ server.db.roles, role.ownerOf tenantID = true ∧ role.userID ≠ userID := by
  have seen : server.db.roles.DistinctBy roleAccess.entries := by
    have seen := distinct.seen
    rwa [view_of_unwritten unwritten] at seen
  obtain ⟨first, memFirst, second, memSecond, apart, owner, owner'⟩ :=
    Table.exists_two_of_count many
  have users : first.userID ≠ second.userID := by
    intro same
    apply apart
    simp only [TenantRole.ownerOf, Bool.and_eq_true, decide_eq_true_eq] at owner owner'
    refine seen first memFirst second memSecond _ (mem_roleEntries.mpr ⟨owner.2, rfl⟩)
      (mem_roleEntries.mpr ⟨owner'.2, ?_⟩)
    rw [same, owner.1.1, owner'.1.1, owner.1.2, owner'.1.2]
  by_cases mine : first.userID = userID
  · exact ⟨second, memSecond, owner', fun same => users (mine.trans same.symm)⟩
  · exact ⟨first, memFirst, owner, mine⟩

/-- More than one owner, all of them active: someone else is an effective
owner. -/
theorem exists_other_owner {server : DbServer} {session : DbSession}
    (unwritten : session.writes = [])
    (distinct : roleAccess.Distinct dialect Write.roleChange server session)
    (active : ownersActive tenantID server.db = true)
    (many : 1 < server.db.roles.count (·.ownerOf tenantID)) (userID : Uuid) :
    ∃ otherID, otherID ≠ userID ∧ EffectiveOwner tenantID server.db otherID := by
  obtain ⟨role, mem, owner, apart⟩ := exists_owner_besides unwritten distinct many userID
  exact ⟨role.userID, apart, exists_active_of_ownersActive active mem owner⟩

theorem within_lock :
    Within (protocol tenantID) (fun _ session => session.Blank)
      (TenantRepository.lockByID tenantID : DbM σ _) (fun _ _ => Held tenantID) := by
  refine within_lockByID lenient (Protocol.stable_local _) ?_
  intro server session tenant _ blank _
  exact ⟨List.mem_append_right _ (List.mem_singleton_self _), by
    simp [Session.extended, blank.unwritten]⟩

/-- The count of owners under the tenant lock. -/
theorem within_count (userID : Uuid) :
    Within (protocol tenantID) (fun _ => Held tenantID)
      (TenantRoleRepository.countActiveOwners tenantID : DbM σ _)
      (fun owners server session => 1 < owners → Spare tenantID userID server session) := by
  refine within_read lenient (Protocol.stable_local _) (fun _ _ => rfl) ?_
  intro server session fresh _ held admits many
  rw [view_of_unwritten held.unwritten] at many
  have active : ownersActive tenantID server.db = true := by
    simpa [sound, held.locked] using admits.2.2
  refine ⟨List.mem_append_left _ held.locked,
    exists_other_owner held.unwritten admits.2.1 active many userID, ?_⟩
  simp [Session.extended, held.unwritten]

/-- The guard against removing the last owner. -/
theorem within_guard (userID : Uuid) {message : String} :
    Within (protocol tenantID) (fun _ session => session.Blank)
      (guardLastOwner tenantID message : DbM σ _) (fun _ => Spare tenantID userID) := by
  refine Attempt.bind within_lock fun _ => Attempt.bind (within_count userID) fun owners => ?_
  split
  · exact within_throw
  case isFalse many => exact Attempt.pure fun _ _ _ holds => holds (by omega)

/-- What a transaction is committed with. -/
def Ready (tenantID userID : Uuid) (server : DbServer) (session : DbSession) : Prop :=
  Spare tenantID userID server session ∨ Unlocked tenantID session

theorem stable_ready (userID : Uuid) :
    (protocol tenantID).Stable (Ready tenantID userID) := by
  intro before after session inv inv' rely ready
  exact ready.imp (stable_spare userID before after session inv inv' rely) id

theorem unlocked_of_blank {session : DbSession} (blank : session.Blank) :
    Unlocked tenantID session :=
  ⟨by simp [blank.unlocked], by simp [blank.unwritten]⟩

/-- A transaction whose body gets ready keeps the protocol. -/
theorem idles_ready {α : Type} {body : DbM σ α} (userID : Uuid)
    (runs : Within (protocol tenantID) (fun _ session => session.Blank) body
      (fun _ => Ready tenantID userID)) :
    Idles (protocol tenantID) (transaction .pg body) := by
  refine attempt_idle_transaction lenient (fun _ => stable_ready userID) runs ?_
  intro value server session inv ready admits
  rcases ready with spare | unlocked
  · exact commits_spare spare admits
  · exact commits_unlocked inv unlocked admits

/-- Statements about one user, when someone else is an effective owner. -/
theorem within_about {α : Type} {body : DbM σ α} {userID : Uuid}
    (issues : Fallible.Issues (Only (dialect.Confined (About userID) fun _ => True)) body) :
    Within (protocol tenantID) (Spare tenantID userID) body
      (fun _ => Spare tenantID userID) :=
  within_confined lenient (stable_spare userID) (absorbs_spare userID) issues

/-- Statements that take no owner away. -/
theorem within_mild {α : Type} {body : DbM σ α}
    (issues : Fallible.Issues
      (Only (dialect.Confined Mild fun lock => lock ≠ ⟨.tenant tenantID, .update⟩)) body) :
    Within (protocol tenantID) (fun _ => Unlocked tenantID) body
      (fun _ _ => Unlocked tenantID) :=
  within_confined lenient (Protocol.stable_local _) absorbs_unlocked issues

/-! ### P-7 -/

theorem within_suspendOwner {userID : Uuid} {status : MembershipStatus} {version : Int} :
    Within (protocol tenantID) (fun _ session => session.Blank)
      (suspendOwner tenantID userID status version : DbM σ _)
      (fun _ => Ready tenantID userID) := by
  refine Attempt.bind (within_guard userID) fun _ => ?_
  refine Attempt.relax (within_about (MembershipRepository.issues_setStatus
      (confined_of_reads rfl) (fun _ => about_setStatus) (confined_of_reads rfl)))
    fun _ _ _ _ spare => .inl spare

/-- The change without the guard. -/
theorem within_setStatus {userID : Uuid} {status : MembershipStatus} {version : Int} :
    Within (protocol tenantID) (fun _ session => session.Blank)
      (MembershipRepository.setStatus tenantID userID status version : DbM σ _)
      (fun _ => Ready tenantID userID) := by
  refine Within.weaken (within_mild (MembershipRepository.issues_setStatus
      (mild_read rfl (membershipQuery_free _)) (fun _ => mild_setStatus)
      (mild_read rfl (membershipQuery_free _))))
    (fun _ _ _ blank => unlocked_of_blank blank) fun _ _ _ _ unlocked => .inr unlocked

/-! ### P-28 -/

/-- Reconciling roles strips the owner role under the guard only. -/
theorem within_reconcileTx {userID membershipID actorID : Uuid} {strippingOwner : Bool}
    {grants revokes : List TenantRoleCode}
    (spared : strippingOwner = false → .tenantOwner ∉ revokes) :
    Within (protocol tenantID) (fun _ session => session.Blank)
      (reconcileTx tenantID userID membershipID actorID strippingOwner grants revokes)
      (fun _ => Ready tenantID userID) := by
  cases strippingOwner with
  | true =>
      refine Attempt.bind (within_guard userID) fun _ => ?_
      refine Attempt.relax (within_about (Fallible.Issues.bind
          (Fallible.Issues.forM fun code _ => issues_grantRole about_grant (confined_of_reads rfl)
            fun _ _ => confined_about nofun nofun) fun _ =>
          Fallible.Issues.forM fun code _ => issues_revokeRole (confined_of_reads rfl)
            (fun _ => about_revoke) fun _ _ => confined_about nofun nofun))
        fun _ _ _ _ spare => .inl spare
  | false =>
      have blankUnlocked : Within (protocol tenantID) (fun _ session => session.Blank)
          (guardStripping tenantID false : DbM ReconcileResult Unit)
          (fun _ _ => Unlocked tenantID) :=
        Attempt.pure fun _ _ _ blank => unlocked_of_blank blank
      refine Attempt.bind blankUnlocked fun _ => ?_
      refine Attempt.relax (within_mild (Fallible.Issues.bind
          (Fallible.Issues.forM fun code _ => issues_grantRole mild_grant
            (mild_read rfl (roleQuery_free _)) fun event _ => mild_enqueue event) fun _ =>
          Fallible.Issues.forM fun code mem => issues_revokeRole
            (mild_read rfl (roleQuery_free _))
            (fun _ => mild_revoke fun owner => spared rfl (owner ▸ mem)) fun event _ =>
              mild_enqueue event))
        fun _ _ _ _ unlocked => .inr unlocked

/-! ### P-8 -/

theorem within_findMember {userID : Uuid} :
    Within (protocol tenantID) (fun _ => Held tenantID)
      (MembershipRepository.findByUserID tenantID userID : DbM σ _)
      (fun _ _ => Held tenantID) := by
  have reads : dialect.Confined (fun _ => False) (fun _ => True)
      (.membership (.findByUserID tenantID userID)) := confined_of_reads rfl
  refine within_confined lenient (Protocol.stable_local _) ?_
    (MembershipRepository.issues_findByUserID reads)
  intro server session query result locks writes harmless _ held
  refine ⟨List.mem_append_left _ held.locked, ?_⟩
  simpa [Session.extended, held.unwritten, List.eq_nil_iff_forall_not_mem] using harmless

/-- A user without the owner role leaves an effective owner behind. -/
theorem within_listRoles (userID : Uuid) :
    Within (protocol tenantID) (fun _ => Held tenantID)
      (TenantRoleRepository.listByUser tenantID userID : DbM σ _)
      (fun roles server session => if holdsOwner roles = true then Held tenantID session
        else Spare tenantID userID server session) := by
  refine within_read lenient (Protocol.stable_local _) (fun _ _ => rfl) ?_
  intro server session fresh inv held _
  rw [view_of_unwritten held.unwritten]
  split
  · exact ⟨List.mem_append_left _ held.locked, by simp [Session.extended, held.unwritten]⟩
  case isFalse ownsNothing =>
    obtain ⟨otherID, effective⟩ := inv
    obtain ⟨⟨role, mem, owner, ofOther⟩, active⟩ := id effective
    refine ⟨List.mem_append_left _ held.locked, ⟨otherID, ?_, effective⟩, by
      simp [Session.extended, held.unwritten]⟩
    rintro rfl
    apply ownsNothing
    simp only [TenantRole.ownerOf, Bool.and_eq_true, decide_eq_true_eq] at owner
    refine List.any_eq_true.mpr ⟨role, Table.mem_select.mpr ⟨mem, ?_⟩, by simp [owner.1.2]⟩
    simp [RoleFilter.selects, owner.1.1, owner.2, ofOther]

theorem within_guardOwnerRemoval {userID : Uuid} {roles : List TenantRole} :
    Within (protocol tenantID)
      (fun server session => if holdsOwner roles = true then Held tenantID session
        else Spare tenantID userID server session)
      (guardOwnerRemoval tenantID roles : DbM σ _)
      (fun _ => Spare tenantID userID) := by
  rw [guardOwnerRemoval]
  split
  · refine Attempt.bind (within_count userID) fun owners => ?_
    split
    · exact within_throw
    case isFalse many => exact Attempt.pure fun _ _ _ holds => holds (by omega)
  · exact Attempt.pure fun _ _ _ spare => spare

theorem within_removeUserTx {userID actorID : Uuid} :
    Within (protocol tenantID) (fun _ session => session.Blank)
      (removeUserTx tenantID userID actorID : DbM σ _)
      (fun _ => Ready tenantID userID) := by
  refine Attempt.bind within_lock fun _ => ?_
  refine Attempt.bind within_findMember fun membership => ?_
  refine Attempt.bind (within_listRoles userID) fun roles => ?_
  refine Attempt.bind within_guardOwnerRemoval fun _ => ?_
  exact Attempt.relax (within_about (issues_cascadeRemoval (about_removal _)))
    fun _ _ _ _ spare => .inl spare

end Calls

/-! ## Every run -/

variable {tenantID : Uuid}

theorem verified : Verified server (protocol tenantID) (code tenantID) (fun _ => True)
    fun _ _ _ session => session.Idle where
  triple call _ := by
    cases call with
    | setStatus userID status expectedVersion workflow =>
        exact triple_of_idles (idles_setStatus (idles_changeStatus lenient
          (idles_ready userID within_suspendOwner) (idles_ready userID within_setStatus))).drop
    | removeUser userID actorID workflow =>
        exact triple_of_idles (idles_removeUser (idles_ready userID within_removeUserTx))
    | reconcileRoles userID desired actorID isServiceAccount grantOrder revokeOrder =>
        exact triple_of_idles (idles_reconcileRoles lenient fun _ _ _ _ spared =>
          idles_ready userID (within_reconcileTx spared)).drop
  settled _ _ := fun _ _ _ _ _ _ holds => holds
  drift _ _ inv := ⟨inv, rfl⟩

theorem enforces {start : DbServer} (unique : start.db.roles.DistinctBy roleAccess.entries) :
    Enforces server (protocol tenantID) (code tenantID) (fun _ => True)
      (fun config action => runs tenantID config action = true) (Config.initial start) where
  admits _ _ _ := trivial
  executes config index choice config' call session statement next reaches permitted executes := by
    obtain ⟨disciplined, others⟩ := facts_of_executes reaches executes
    refine ⟨⟨disciplined, ?_, executes_of_allows permitted executes.current⟩, ?_⟩
    · exact distinctRoles_of_reaches reaches unique _ (List.mem_of_getElem? executes.current)
    · exact fun position other apart found _ => (others position other apart found).1

/-- A tenant with an effective owner keeps one in every run of P-7, P-8 and P-28
in which the owners counted under the tenant lock are active and no owner is
suspended without that lock. -/
theorem owned_of_reaches {start : DbServer} {config : DbConfig Call (Except Failure Unit)}
    (unique : start.db.roles.DistinctBy roleAccess.entries) (owned : Owned tenantID start.db)
    (reaches : server.Reaches (code tenantID)
      (fun config action => runs tenantID config action = true) (Config.initial start) config) :
    Owned tenantID config.shared.db :=
  reaches.inv verified (enforces unique) owned

/-- A tenant with two owners, the users 101 and 102. -/
def twoOwners : Db :=
  { Db.empty with
    tenants := .singleton trialRow
    memberships := twoMembers
    roles :=
      ⟨[newRole ⟨0, 0, 21⟩ 1 101 11 .tenantOwner 101, newRole ⟨0, 0, 22⟩ 1 102 12 .tenantOwner 101],
        by decide⟩ }

theorem twoOwners_owned : Owned 1 twoOwners :=
  ⟨101, ⟨_, List.mem_cons_self, by decide, rfl⟩, _, List.mem_cons_self, by decide, rfl⟩

/-- One owner is removed by the other. -/
theorem owned_after_removal :
    ∃ config, server.Reaches (code 1) (fun config action => runs 1 config action = true)
        (Config.initial ⟨twoOwners, 0⟩) config ∧
      (config.shared.db.memberships.rows.all fun row => row.userID = 101 || !row.live) = true ∧
      Owned 1 config.shared.db := by
  obtain ⟨config, reaches, removed⟩ := server.exists_reaches_of_run (code 1)
    (fun config action => runs 1 config action = true)
    (.start (.removeUser 102 101 .unwired) :: List.replicate 13 (.step 0 (.proceed 100)))
    (Config.initial ⟨twoOwners, 0⟩)
    (fun config => config.shared.db.memberships.rows.all fun row => row.userID = 101 || !row.live)
    (by decide)
  exact ⟨config, reaches, removed, owned_of_reaches (by decide) twoOwners_owned reaches⟩

/-- Two owners are suspended one after the other: the second count still includes
the first, so nobody effective is left. -/
theorem exists_run_without_owner :
    twoOwners.roles.DistinctBy roleAccess.entries ∧ Owned 1 twoOwners ∧
      ∃ config, server.Reaches (code 1) (fun _ _ => True) (Config.initial ⟨twoOwners, 0⟩) config ∧
        ¬Owned 1 config.shared.db := by
  refine ⟨by decide, twoOwners_owned, ?_⟩
  obtain ⟨config, reaches, inactive⟩ := server.exists_reaches_of_run (code 1) (fun _ _ => True)
    ([.start (.setStatus 102 .suspended 1 .unwired),
        .start (.setStatus 101 .suspended 1 .unwired)] ++
      List.replicate 9 (.step 0 (.proceed 100)) ++ List.replicate 9 (.step 1 (.proceed 100)))
    (Config.initial ⟨twoOwners, 0⟩)
    (fun config => config.shared.db.memberships.rows.all fun row => !row.activeIn 1) (by decide)
  refine ⟨config, reaches, ?_⟩
  rintro ⟨userID, _, row, mem, active, _⟩
  have := List.all_eq_true.mp inactive row mem
  simp [active] at this

end LastOwner

end OrgMembership
