import OrgMembership.Ownership.LastOwner

/-!
# Ownerless tenants are marked

I-5 removes a member without the last-owner guard, counts the owners that are
left and marks the tenant if there is none.  A tenant without an owner is marked
in every run in which no two open transactions have counted its owners and
whoever revokes an owner has counted.
-/

namespace OrgMembership

open Concurrency Relational

/-- The tenant has an owner, or it is marked as ownerless. -/
def Tended (tenantID : Uuid) (db : Db) : Prop :=
  (∃ role ∈ db.roles, role.ownerOf tenantID = true) ∨
    ∃ tenant ∈ db.tenants, tenant.id = tenantID ∧ tenant.ownerlessSince.isSome = true

namespace Escalation

variable {body : DbM σ α} {writes : List Write} {query : Query} {actorID : Uuid}
  {result : query.Result}

/-- I-5, P-8 and P-28 on the members of one tenant. -/
inductive Call
  | deleteMember (userID : Uuid)
  | removeUser (userID actorID : Uuid) (workflow : WorkflowAnswer)
  | reconcileRoles (userID : Uuid) (desired : List TenantRoleCode) (actorID : Uuid)
      (isServiceAccount : Bool) (grantOrder revokeOrder : MapOrder)

/-- The program of a call for the tenant. -/
def code (tenantID : Uuid) : Call → DbProgram (Except Failure Unit)
  | .deleteMember userID =>
      Fallible.run do
        let _ ← deleteMember tenantID userID
        return ()
  | .removeUser userID actorID workflow => (removeUser tenantID userID actorID workflow).run
  | .reconcileRoles userID desired actorID isServiceAccount grantOrder revokeOrder =>
      Fallible.run do
        let _ ← reconcileRoles tenantID userID desired actorID isServiceAccount grantOrder
          revokeOrder
        return ()

/-- The write revokes an owner of the tenant. -/
def revokesOwner (tenantID : Uuid) : Write → Bool
  | .role (.put role) =>
      role.tenantID = tenantID && role.roleCode = .tenantOwner && !role.live
  | _ => false

/-- The query counts the owners of the tenant. -/
def countsOwners (tenantID : Uuid) : Query → Bool
  | .role (.countActiveOwners id) => id = tenantID
  | _ => false

/-- The open transaction has counted the owners of the tenant. -/
def counted (tenantID : Uuid) (session : DbSession) : Bool :=
  session.hasSent (countsOwners tenantID)

/-- A transaction that revokes an owner has counted when it commits. -/
def countsFirst (tenantID : Uuid) (session : DbSession) : Statement Query → Bool
  | .commit => !session.writes.any (revokesOwner tenantID) || counted tenantID session
  | _ => true

/-- The runs in which no two open transactions have counted the owners, and
whoever revokes one has counted. -/
def runs (tenantID : Uuid) : DbConfig Call (Except Failure Unit) →
    Action Call (Chance PgError) Nat → Bool :=
  allows (fun _ => true) fun config index _ statement session =>
    countsFirst tenantID session statement &&
      (!counted tenantID session ||
        (config.processes.eraseIdx index).all fun other => !counted tenantID other.loc)

/-! ## The protocol -/

/-- What a commit leaves of the owners and of the mark.  Only a transaction that
has counted takes an owner away. -/
structure Step (tenantID : Uuid) (actor : DbSession) (before after : Db) : Prop where
  owners : counted tenantID actor = false → ∀ role ∈ before.roles,
    role.ownerOf tenantID = true → ∃ version ∈ after.roles, version.id = role.id ∧
      version.ownerOf tenantID = true ∧ version.userID = role.userID
  marks : ∀ tenant ∈ before.tenants, tenant.ownerlessSince.isSome = true →
    ∃ version ∈ after.tenants, version.id = tenant.id ∧ version.ownerlessSince.isSome = true

section Protocol

variable (tenantID : Uuid)

/-- At most one transaction at a time has counted the owners, and each commit is one step. -/
def protocol : DbProtocol where
  Inv server := Tended tenantID server.db ∧ server.db.tenants.Has tenantID
  Admits statement server session :=
    Disciplined server session ∧ roleAccess.Distinct dialect Write.roleChange server session ∧
      countsFirst tenantID session statement = true
  Coexist _ actor other := counted tenantID actor = true → counted tenantID other = false
  Guar actor before after := before = after ∨ Step tenantID actor before.db after.db
  Drift before after := before.db = after.db

/-- The write is about one user, deletes nothing, and changes a tenant only to mark
it. -/
def Own (userID : Uuid) : Write → Prop
  | .tenant (.put row) => row.ownerlessSince.isSome = true
  | .tenant (.delete _) => False
  | write => LastOwner.About userID write

/-- The transaction has not counted yet. -/
structure Early (userID : Uuid) (session : DbSession) : Prop where
  inside : session.inTx = true
  own : ∀ write ∈ session.writes, Own userID write
  uncounted : counted tenantID session = false

/-- The transaction has not written either. -/
structure Scouting (userID : Uuid) (session : DbSession) : Prop
    extends Early tenantID userID session where
  unwritten : session.writes = []

/-- The transaction has counted. -/
structure Late (userID : Uuid) (session : DbSession) : Prop where
  own : ∀ write ∈ session.writes, Own userID write
  counted : counted tenantID session = true

/-- The transaction has counted, and its own view has an owner or the mark. -/
structure Tending (userID : Uuid) (server : DbServer) (session : DbSession) : Prop
    extends Late tenantID userID session where
  tended : Tended tenantID (dialect.view server session)

/-- The transaction has counted, and there is an owner besides the user. -/
structure Spare (userID : Uuid) (server : DbServer) (session : DbSession) : Prop
    extends Late tenantID userID session where
  other : ∃ role ∈ server.db.roles, role.ownerOf tenantID = true ∧ role.userID ≠ userID

variable {tenantID}

theorem lenient : Lenient (protocol tenantID) :=
  fun _ _ => .inl rfl

/-- Others take no owner away while this session has counted. -/
theorem rely_cases {before after : DbServer} {session : DbSession}
    (rely : (protocol tenantID).Rely session before after)
    (late : counted tenantID session = true) :
    before.db = after.db ∨ ∃ actor, counted tenantID actor = false ∧
      Step tenantID actor before.db after.db := by
  rcases rely with ⟨actor, apart, same | step⟩ | drift
  · exact .inl (congrArg Server.db same)
  · right
    refine ⟨actor, ?_, step⟩
    by_contra both
    rw [Bool.not_eq_false] at both
    rw [apart both] at late
    exact Bool.false_ne_true late
  · exact .inl drift

theorem stable_tending (userID : Uuid) :
    (protocol tenantID).Stable (Tending tenantID userID) := by
  intro before after session _ _ rely tending
  refine ⟨tending.toLate, ?_⟩
  rcases rely_cases rely tending.counted with same | ⟨actor, uncounted, step⟩
  · have view : dialect.view after session = dialect.view before session := by
      rw [Dialect.view, Dialect.view, same]
    rw [view]
    exact tending.tended
  · rcases tending.tended with ⟨role, mem, owner⟩ | ⟨tenant, mem, same, marked⟩
    · left
      have seen : ∃ version ∈ (dialect.view after session).roles, version.id = role.id ∧
          version.ownerOf tenantID = true := by
        apply roleLawful.exists_view mem owner
        intro old
        obtain ⟨version, memVersion, same, owns, _⟩ := step.owners uncounted role old owner
        exact ⟨version, memVersion, same, owns⟩
      obtain ⟨version, memVersion, _, owns⟩ := seen
      exact ⟨version, memVersion, owns⟩
    · right
      have seen : ∃ version ∈ (dialect.view after session).tenants, version.id = tenant.id ∧
          version.ownerlessSince.isSome = true :=
        tenantLawful.exists_view mem marked fun old => step.marks tenant old marked
      obtain ⟨version, memVersion, sameID, marks⟩ := seen
      exact ⟨version, memVersion, sameID.trans same, marks⟩

theorem stable_spare (userID : Uuid) :
    (protocol tenantID).Stable (Spare tenantID userID) := by
  intro before after session _ _ rely spare
  refine ⟨spare.toLate, ?_⟩
  obtain ⟨role, mem, owner, apart⟩ := spare.other
  rcases rely_cases rely spare.counted with same | ⟨actor, uncounted, step⟩
  · exact same ▸ spare.other
  · obtain ⟨version, memVersion, _, owns, ofUser⟩ := step.owners uncounted role mem owner
    exact ⟨version, memVersion, owns, ofUser ▸ apart⟩

end Protocol

/-! ## Commits -/

section Commit

variable {tenantID userID : Uuid} {server : DbServer} {session : DbSession}

theorem about_of_own {write : Write} (own : Own userID write) : LastOwner.About userID write := by
  cases write with
  | tenant => trivial
  | _ => exact own

/-- What a commit of own writes makes of a tenant. -/
theorem tenant_committed (disciplined : Disciplined server session)
    (own : ∀ write ∈ session.writes, Own userID write) {tenant : Tenant}
    (mem : tenant ∈ server.db.tenants) :
    ∃ version ∈ (dialect.committed server session).db.tenants, version.id = tenant.id ∧
      (tenant.ownerlessSince.isSome = true → version.ownerlessSince.isSome = true) := by
  obtain ⟨version, memVersion, same, rfl | ⟨put, _⟩⟩ :=
    tenantLawful.version_committed disciplined.tenants mem
      fun deleted => own _ (tenantLawful.mem_changes.mp deleted)
  · exact ⟨version, memVersion, same, id⟩
  · exact ⟨version, memVersion, same, fun _ => own _ (tenantLawful.mem_changes.mp put)⟩

/-- What a commit of own writes makes of an owner's grant: it stays, or the writes
revoke it. -/
theorem owner_committed (disciplined : Disciplined server session)
    (own : ∀ write ∈ session.writes, Own userID write) {role : TenantRole}
    (mem : role ∈ server.db.roles) (owner : role.ownerOf tenantID = true) :
    ∃ version ∈ (dialect.committed server session).db.roles, version.id = role.id ∧
      version.userID = role.userID ∧ (version.ownerOf tenantID = true ∨
        role.userID = userID ∧ session.writes.any (revokesOwner tenantID) = true) := by
  obtain ⟨version, memVersion, same, rfl | ⟨put, evolves⟩⟩ :=
    roleLawful.version_committed disciplined.roles mem
      fun deleted => about_of_own (own _ (roleLawful.mem_changes.mp deleted))
  · exact ⟨version, memVersion, same, rfl, .inl owner⟩
  · refine ⟨version, memVersion, same, evolves.userID, ?_⟩
    have written := roleLawful.mem_changes.mp put
    simp only [TenantRole.ownerOf, Bool.and_eq_true, decide_eq_true_eq] at owner ⊢
    have ofTenant := evolves.tenantID.trans owner.1.1
    have code := evolves.roleCode.trans owner.1.2
    cases live : version.live with
    | true => exact .inl ⟨⟨ofTenant, code⟩, rfl⟩
    | false =>
        right
        constructor
        · exact evolves.userID.symm.trans (about_of_own (own _ written))
        · refine List.any_eq_true.mpr ⟨_, written, ?_⟩
          simp [roleAccess, revokesOwner, ofTenant, code, live]

theorem step_committed (disciplined : Disciplined server session)
    (own : ∀ write ∈ session.writes, Own userID write)
    (spares : counted tenantID session = false →
      session.writes.any (revokesOwner tenantID) = false) :
    Step tenantID session server.db (dialect.committed server session).db where
  owners uncounted role mem owner := by
    obtain ⟨version, memVersion, same, ofUser, owns | ⟨_, revokes⟩⟩ :=
      owner_committed disciplined own mem owner
    · exact ⟨version, memVersion, same, owns, ofUser⟩
    · rw [spares uncounted] at revokes
      exact absurd revokes Bool.false_ne_true
  marks tenant mem marked := by
    obtain ⟨version, memVersion, same, marks⟩ := tenant_committed disciplined own mem
    exact ⟨version, memVersion, same, marks marked⟩

/-- A commit of own writes keeps the protocol if the tenant is still tended. -/
theorem commits_own (inv : (protocol tenantID).Inv server)
    (own : ∀ write ∈ session.writes, Own userID write)
    (admits : (protocol tenantID).Admits .commit server session)
    (tended : Tended tenantID (dialect.committed server session).db) :
    (protocol tenantID).Inv (dialect.committed server session) ∧
      (protocol tenantID).Guar session server (dialect.committed server session) ∧
      session.closed.Idle := by
  obtain ⟨disciplined, _, counts⟩ := admits
  refine ⟨⟨tended, ?_⟩, .inr (step_committed disciplined own fun uncounted => ?_),
    session.idle_closed⟩
  · obtain ⟨tenant, mem, same⟩ := inv.2
    obtain ⟨version, memVersion, sameID, _⟩ := tenant_committed disciplined own mem
    exact ⟨version, memVersion, sameID.trans same⟩
  · simpa [countsFirst, uncounted] using counts

theorem commits_early (inv : (protocol tenantID).Inv server)
    (early : Early tenantID userID session)
    (admits : (protocol tenantID).Admits .commit server session) :
    (protocol tenantID).Inv (dialect.committed server session) ∧
      (protocol tenantID).Guar session server (dialect.committed server session) ∧
      session.closed.Idle := by
  apply commits_own inv early.own admits
  have spares : session.writes.any (revokesOwner tenantID) = false := by
    simpa [countsFirst, early.uncounted] using admits.2.2
  have step : Step tenantID session server.db (dialect.committed server session).db :=
    step_committed admits.1 early.own fun _ => spares
  rcases inv.1 with ⟨role, mem, owner⟩ | ⟨tenant, mem, same, marked⟩
  · obtain ⟨version, memVersion, _, owns, _⟩ := step.owners early.uncounted role mem owner
    exact .inl ⟨version, memVersion, owns⟩
  · obtain ⟨version, memVersion, sameID, marks⟩ := step.marks tenant mem marked
    exact .inr ⟨version, memVersion, sameID.trans same, marks⟩

theorem commits_spare (inv : (protocol tenantID).Inv server)
    (spare : Spare tenantID userID server session)
    (admits : (protocol tenantID).Admits .commit server session) :
    (protocol tenantID).Inv (dialect.committed server session) ∧
      (protocol tenantID).Guar session server (dialect.committed server session) ∧
      session.closed.Idle := by
  apply commits_own inv spare.own admits
  obtain ⟨role, mem, owner, apart⟩ := spare.other
  obtain ⟨version, memVersion, _, _, owns | ⟨mine, _⟩⟩ :=
    owner_committed admits.1 spare.own mem owner
  · exact .inl ⟨version, memVersion, owns⟩
  · exact absurd mine apart

end Commit

/-! ## The statements of the calls -/

section Statements

variable {σ α : Type} {tenantID userID : Uuid}

/-- A query that writes about one user, at most marks a tenant and does not count. -/
structure Quiet (tenantID userID : Uuid) (query : Query) : Prop where
  about : dialect.Confined (LastOwner.About userID) (fun _ => True) query
  marking : .tenants ∈ query.writesTo → ∃ id, query = .tenant (.markOwnerlessIfUnset id)
  uncounting : countsOwners tenantID query = false

theorem own_of_about {context : Context} {db : Db}
    (about : dialect.Confined (LastOwner.About userID) (fun _ => True) query)
    (marking : .tenants ∈ query.writesTo → ∃ id, query = .tenant (.markOwnerlessIfUnset id))
    (yields : (query.effect context db).Yields result writes) :
    ∀ write ∈ writes, Own userID write := by
  intro write mem
  have ofUser := (about _ _ _ _ yields).1 write mem
  cases write with
  | tenant change =>
      obtain ⟨id, rfl⟩ := marking (Query.table_mem_writesTo yields mem)
      cases tenant_write yields mem with
      | @markOwnerless row =>
          have marked : (row.touch (txNow context)
              { row with ownerlessSince := some (txNow context) }).ownerlessSince =
                some (txNow context) :=
            Tenant.touch_proj Tenant.ownerlessSince (fun _ _ _ => rfl) _ _ _
          exact congrArg Option.isSome marked
  | _ => exact ofUser

theorem quiet_read (reads : query.writesTo = [])
    (uncounting : countsOwners tenantID query = false) : Quiet tenantID userID query where
  about := confined_of_reads reads
  marking mem := by
    rw [reads] at mem
    exact absurd mem List.not_mem_nil
  uncounting := uncounting

theorem quiet_removal (version : Int) :
    RemovalAllowed (Quiet tenantID userID) tenantID userID version where
  scanRoles := quiet_read rfl rfl
  revokeRole id := ⟨(LastOwner.about_removal version).revokeRole id, by simp, rfl⟩
  scanDepts := quiet_read rfl rfl
  revokeDept id := ⟨(LastOwner.about_removal version).revokeDept id, by simp, rfl⟩
  scanMemberships := quiet_read rfl rfl
  endMembership id := ⟨(LastOwner.about_removal version).endMembership id, by simp, rfl⟩
  probe := quiet_read rfl rfl
  publish _ _ := ⟨LastOwner.confined_about nofun nofun, by simp, rfl⟩

theorem Early.extended {session : DbSession} (early : Early tenantID userID session)
    {locks : List (Lock LockKey)} (own : ∀ write ∈ writes, Own userID write)
    (uncounting : countsOwners tenantID query = false) :
    Early tenantID userID (session.extended query result locks writes) where
  inside := early.inside
  own write mem := (List.mem_append.mp mem).elim (early.own write) (own write)
  uncounted := by
    have before := early.uncounted
    rw [counted] at before ⊢
    rw [Session.hasSent_extended, before, uncounting, Bool.and_false, Bool.or_false]

theorem Late.extended {session : DbSession} (late : Late tenantID userID session)
    {locks : List (Lock LockKey)} (own : ∀ write ∈ writes, Own userID write) :
    Late tenantID userID (session.extended query result locks writes) where
  own write mem := (List.mem_append.mp mem).elim (late.own write) (own write)
  counted := by
    have before := late.counted
    rw [Escalation.counted] at before ⊢
    rw [Session.hasSent_extended, before, Bool.or_true]

/-- Counting the owners. -/
theorem Early.late {session : DbSession} (early : Early tenantID userID session) {owners : Nat} :
    Late tenantID userID
      (session.extended (.role (.countActiveOwners tenantID)) owners [] []) where
  own write mem := early.own write (by simpa [Session.extended] using mem)
  counted := by
    rw [counted, Session.hasSent_extended, early.inside]
    simp [countsOwners]

theorem within_early (issues : Fallible.Issues (Only (Quiet tenantID userID)) body) :
    Within (protocol tenantID) (fun _ => Early tenantID userID) body
      fun _ _ => Early tenantID userID := by
  apply within_only lenient (Protocol.stable_local _) _ issues
  intro query quiet server session fresh result writes _ early _ yields
  exact early.extended (own_of_about quiet.about quiet.marking yields) quiet.uncounting

/-- Quiet statements leave the other owner alone. -/
theorem within_spare (issues : Fallible.Issues (Only (Quiet tenantID userID)) body) :
    Within (protocol tenantID) (Spare tenantID userID) body fun _ => Spare tenantID userID := by
  apply within_only lenient (stable_spare userID) _ issues
  intro query quiet server session fresh result writes _ spare _ yields
  exact ⟨spare.toLate.extended (own_of_about quiet.about quiet.marking yields), spare.other⟩

/-- Reading and locking at the start, whatever the outcome. -/
theorem attempt_scouting (issues : Fallible.Issues
      (Only fun query => query.writesTo = [] ∧ countsOwners tenantID query = false) body) :
    Attempt server (protocol tenantID) (fun _ => Scouting tenantID userID) body
      (fun _ _ => Scouting tenantID userID) fun _ _ => Scouting tenantID userID := by
  apply attempt_only lenient (Protocol.stable_local _) _ issues fun _ _ _ scouting => scouting
  rintro query ⟨reads, uncounting⟩ server session fresh result writes _ scouting _ yields
  obtain rfl := Query.writes_eq_nil yields reads
  constructor
  · exact scouting.toEarly.extended (by simp) uncounting
  · simpa [Session.extended] using scouting.unwritten

theorem within_scouting (issues : Fallible.Issues
      (Only fun query => query.writesTo = [] ∧ countsOwners tenantID query = false) body) :
    Within (protocol tenantID) (fun _ => Scouting tenantID userID) body
      fun _ _ => Scouting tenantID userID :=
  Attempt.weaken (attempt_scouting issues) (fun _ _ _ scouting => scouting)
    (fun _ _ _ _ scouting => scouting) fun _ _ _ _ _ => trivial

/-- The count of the guards: of several owners, one is someone else. -/
theorem within_guardCount :
    Within (protocol tenantID) (fun _ => Scouting tenantID userID)
      (TenantRoleRepository.countActiveOwners tenantID : DbM σ _)
      fun owners server session => 1 < owners → Spare tenantID userID server session := by
  apply within_read lenient (Protocol.stable_local _) fun _ _ => rfl
  intro server session fresh _ scouting admits many
  rw [view_of_unwritten scouting.unwritten] at many
  exact ⟨scouting.late,
    LastOwner.exists_owner_besides scouting.unwritten admits.2.1 many userID⟩

/-- The count of I-5, after its removals. -/
theorem within_recount :
    Within (protocol tenantID) (fun _ => Early tenantID userID)
      (TenantRoleRepository.countActiveOwners tenantID : DbM σ _)
      fun owners server session => if owners = 0 then Late tenantID userID session
        else Tending tenantID userID server session := by
  apply within_read lenient (Protocol.stable_local _) fun _ _ => rfl
  intro server session fresh _ early _
  split
  · exact early.late
  case isFalse left =>
    refine ⟨early.late, .inl ?_⟩
    rw [Dialect.view_extended_nil]
    obtain ⟨role, mem, owner⟩ := List.countP_pos_iff.mp (Nat.pos_of_ne_zero left)
    exact ⟨role, mem, owner⟩

/-- A removal that needs no guard. -/
theorem within_unguarded :
    Within (protocol tenantID) (fun _ => Scouting tenantID userID) (pure () : DbM σ Unit)
      fun _ _ => Early tenantID userID :=
  Attempt.pure fun _ _ _ scouting => scouting.toEarly

/-- Without owners, I-5 marks the tenant unless it is marked. -/
theorem within_mark :
    Within (protocol tenantID) (fun _ => Late tenantID userID)
      (TenantRepository.markOwnerlessIfUnset tenantID : DbM σ _)
      fun _ => Tending tenantID userID := by
  apply within_send lenient (Protocol.stable_local _)
  intro server session fresh result writes inv late _ evaluated
  have about : dialect.Confined (LastOwner.About userID) (fun _ => True)
      (.tenant (.markOwnerlessIfUnset tenantID)) := LastOwner.confined_about nofun nofun
  have own := own_of_about about (fun _ => ⟨tenantID, rfl⟩) evaluated
  refine ⟨late.extended own, .inr ?_⟩
  change ∃ tenant ∈ tenantAccess.table (dialect.view server (session.extended _ _ _ _)), _
  rw [tenantLawful.table_extended]
  obtain ⟨_, yields, _⟩ := Effect.yields_map.mp evaluated
  rcases Access.updateRow_cases yields with
    ⟨_, rfl, marked⟩ | ⟨row, _, updated, same, _, computed, _, rfl, _⟩
  · have present : (tenantAccess.table (dialect.view server session)).Has tenantID := by
      rw [tenantLawful.table_view]
      refine (Table.has_applyAll fun deleted => ?_).mpr (.inr inv.2)
      exact late.own _ (tenantLawful.mem_changes.mp deleted)
    obtain ⟨tenant, mem, same⟩ := present
    exact ⟨tenant, mem, same, by simpa using marked tenant mem same⟩
  · rw [List.filterMap_cons_some ((tenantLawful.inverse _ _).mpr rfl)]
    refine ⟨updated, Table.mem_apply.mpr (.inl rfl), ?_⟩
    rw [(Tenant.update_eq_ok.mp (updateTenant_eq_ok computed)).1,
      Tenant.touch_proj Tenant.id fun _ _ _ => rfl,
      Tenant.touch_proj Tenant.ownerlessSince fun _ _ _ => rfl]
    exact ⟨same, rfl⟩

end Statements

/-! ## The calls -/

section Calls

variable {σ α : Type} {tenantID userID : Uuid}

/-- What a transaction is committed with. -/
def Ready (tenantID userID : Uuid) (server : DbServer) (session : DbSession) : Prop :=
  Early tenantID userID session ∨ Tending tenantID userID server session ∨
    Spare tenantID userID server session

theorem stable_ready : (protocol tenantID).Stable (Ready tenantID userID) := by
  rintro before after session inv inv' rely (early | tending | spare)
  · exact .inl early
  · exact .inr (.inl (stable_tending userID before after session inv inv' rely tending))
  · exact .inr (.inr (stable_spare userID before after session inv inv' rely spare))

/-- A transaction whose body gets ready keeps the protocol. -/
theorem idles_ready (userID : Uuid)
    (runs : Within (protocol tenantID) (fun _ => Scouting tenantID userID) body
      fun _ => Ready tenantID userID) :
    Idles (protocol tenantID) (transaction .pg body) := by
  apply attempt_transaction lenient (Protocol.stable_local _) (fun _ => stable_ready)
    (fun _ => Protocol.stable_local fun _ => True) _ runs
  · rintro value server session inv (early | tending | spare) admits
    · exact commits_early inv early admits
    · exact commits_own inv tending.own admits tending.tended
    · exact commits_spare inv spare admits
  · exact fun _ _ _ session _ _ => session.idle_closed
  · exact fun _ _ session _ _ _ => session.idle_closed
  · exact fun _ _ session _ _ => session.idle_closed
  · exact fun _ _ _ _ idle => idle
  · exact fun _ _ _ _ => ⟨⟨rfl, by simp [Session.opened], rfl⟩, rfl⟩

/-! ### I-5 -/

theorem within_escalateOwnerless {wasOwner : Bool} :
    Within (protocol tenantID) (fun _ => Early tenantID userID)
      (escalateOwnerless tenantID wasOwner : DbM σ _) fun _ => Ready tenantID userID := by
  rw [escalateOwnerless]
  split
  · refine Attempt.bind within_recount fun owners => ?_
    split
    · exact Attempt.relax within_mark fun _ _ _ _ tending => .inr (.inl tending)
    · exact Attempt.pure fun _ _ _ tending => .inr (.inl tending)
  · exact Attempt.pure fun _ _ _ early => .inl early

theorem within_deleteMemberTx :
    Within (protocol tenantID) (fun _ => Scouting tenantID userID)
      (deleteMemberTx tenantID userID : DbM σ _) fun _ => Ready tenantID userID := by
  have finds : Attempt server (protocol tenantID) (fun _ => Scouting tenantID userID)
      (MembershipRepository.findByUserID tenantID userID : DbM σ _)
      (fun _ _ => Scouting tenantID userID) fun _ _ => Scouting tenantID userID :=
    attempt_scouting (MembershipRepository.issues_findByUserID ⟨rfl, rfl⟩)
  refine Attempt.bind (Attempt.observe finds) fun found => ?_
  cases found with
  | error failure =>
      dsimp only
      split
      · exact Attempt.pure fun _ _ _ scouting => .inl scouting.toEarly
      · exact within_throw
  | ok membership =>
      refine Attempt.bind (within_scouting (issues_send ⟨rfl, rfl⟩)) fun roles => ?_
      refine Attempt.bind (Attempt.strengthen
        (within_early (issues_cascadeRemoval (quiet_removal _)))
        fun _ _ _ scouting => scouting.toEarly) fun _ => ?_
      exact within_escalateOwnerless

/-! ### P-8 -/

theorem within_removeUserTx :
    Within (protocol tenantID) (fun _ => Scouting tenantID userID)
      (removeUserTx tenantID userID actorID : DbM σ _) fun _ => Ready tenantID userID := by
  refine Attempt.bind (within_scouting (TenantRepository.issues_lockByID ⟨rfl, rfl⟩)) fun _ => ?_
  refine Attempt.bind (within_scouting (MembershipRepository.issues_findByUserID ⟨rfl, rfl⟩))
    fun membership => ?_
  refine Attempt.bind (within_scouting (issues_send ⟨rfl, rfl⟩)) fun roles => ?_
  cases owner : holdsOwner roles with
  | true =>
      rw [guardOwnerRemoval, owner, if_pos rfl]
      refine Attempt.bind (Attempt.bind within_guardCount fun owners => ?_) fun _ =>
        Attempt.relax (within_spare (issues_cascadeRemoval (quiet_removal _)))
          fun _ _ _ _ spare => .inr (.inr spare)
      split
      · exact within_throw
      case isFalse many => exact Attempt.pure fun _ _ _ spare => spare (by omega)
  | false =>
      rw [guardOwnerRemoval, owner, if_neg Bool.false_ne_true]
      refine Attempt.bind within_unguarded fun _ => ?_
      exact Attempt.relax (within_early (issues_cascadeRemoval (quiet_removal _)))
        fun _ _ _ _ early => .inl early

/-! ### P-28 -/

theorem quiet_grantRole {membershipID : Uuid} {code : TenantRoleCode} :
    Fallible.Issues (Only (Quiet tenantID userID))
      (grantRole tenantID userID membershipID actorID code) :=
  issues_grantRole ⟨LastOwner.about_grant, nofun, rfl⟩ (quiet_read rfl rfl)
    fun _ _ => ⟨LastOwner.confined_about nofun nofun, by simp, rfl⟩

theorem quiet_revokeRole {code : TenantRoleCode} :
    Fallible.Issues (Only (Quiet tenantID userID)) (revokeRole tenantID userID actorID code) :=
  issues_revokeRole (quiet_read rfl rfl) (fun _ => ⟨LastOwner.about_revoke, nofun, rfl⟩)
    fun _ _ => ⟨LastOwner.confined_about nofun nofun, by simp, rfl⟩

theorem within_reconcileTx {membershipID : Uuid} {strippingOwner : Bool}
    {grants revokes : List TenantRoleCode} :
    Within (protocol tenantID) (fun _ => Scouting tenantID userID)
      (reconcileTx tenantID userID membershipID actorID strippingOwner grants revokes)
      fun _ => Ready tenantID userID := by
  have changes : Fallible.Issues (Only (Quiet tenantID userID)) (do
      grants.forM (grantRole tenantID userID membershipID actorID)
      revokes.forM (revokeRole tenantID userID actorID)) :=
    (Fallible.Issues.forM fun _ _ => quiet_grantRole).bind fun _ =>
      Fallible.Issues.forM fun _ _ => quiet_revokeRole
  cases strippingOwner with
  | true =>
      refine Attempt.bind (Attempt.bind
        (within_scouting (TenantRepository.issues_lockByID ⟨rfl, rfl⟩)) fun _ =>
          Attempt.bind within_guardCount fun owners => ?_) fun _ =>
        Attempt.relax (within_spare changes) fun _ _ _ _ spare => .inr (.inr spare)
      split
      · exact within_throw
      case isFalse many => exact Attempt.pure fun _ _ _ spare => spare (by omega)
  | false =>
      refine Attempt.bind within_unguarded fun _ => ?_
      exact Attempt.relax (within_early changes) fun _ _ _ _ early => .inl early

end Calls

/-! ## Every run -/

variable {tenantID : Uuid}

theorem verified : Verified server (protocol tenantID) (code tenantID) (fun _ => True)
    fun _ _ _ session => session.Idle where
  triple call _ := by
    cases call with
    | deleteMember userID =>
        exact triple_of_idles (idles_runInTx (idles_ready userID within_deleteMemberTx)).drop
    | removeUser userID actorID workflow =>
        exact triple_of_idles (idles_removeUser (idles_ready userID within_removeUserTx))
    | reconcileRoles userID desired actorID isServiceAccount grantOrder revokeOrder =>
        exact triple_of_idles (idles_reconcileRoles lenient fun _ _ _ _ _ =>
          idles_ready userID within_reconcileTx).drop
  settled _ _ := fun _ _ _ _ _ _ holds => holds
  drift _ _ inv := ⟨inv, rfl⟩

theorem enforces {start : DbServer} (unique : start.db.roles.DistinctBy roleAccess.entries) :
    Enforces server (protocol tenantID) (code tenantID) (fun _ => True)
      (fun config action => runs tenantID config action = true) (Config.initial start) where
  admits _ _ _ := trivial
  executes config index choice config' call session statement next reaches permitted executes := by
    obtain ⟨disciplined, _⟩ := facts_of_executes reaches executes
    have permits := executes_of_allows permitted executes.current
    rw [Bool.and_eq_true, Bool.or_eq_true, List.all_eq_true] at permits
    constructor
    · exact ⟨disciplined, distinctRoles_of_reaches reaches unique _
        (List.mem_of_getElem? executes.current), permits.1⟩
    · intro position other apart found _ late
      have remaining : other ∈ config.processes.eraseIdx index :=
        List.mem_eraseIdx_iff_getElem?.mpr ⟨position, apart, found⟩
      rcases permits.2 with uncounted | alone
      · simp [late] at uncounted
      · simpa using alone other remaining

/-- A tenant with an owner is never without both an owner and the mark, in every run
of I-5, P-8 and P-28 in which no two open transactions have counted its owners and
whoever revokes an owner has counted. -/
theorem tended_of_reaches {start : DbServer} {config : DbConfig Call (Except Failure Unit)}
    (unique : start.db.roles.DistinctBy roleAccess.entries)
    (present : start.db.tenants.Has tenantID)
    (owned : ∃ role ∈ start.db.roles, role.ownerOf tenantID = true)
    (reaches : server.Reaches (code tenantID)
      (fun config action => runs tenantID config action = true) (Config.initial start) config) :
    Tended tenantID config.shared.db :=
  (reaches.inv verified (enforces unique) ⟨.inl owned, present⟩).1

theorem twoOwners_owner :
    ∃ role ∈ LastOwner.twoOwners.roles, role.ownerOf 1 = true :=
  ⟨_, List.mem_cons_self, by decide⟩

/-- Both owners are removed, one after the other, and the tenant is marked. -/
theorem tended_after_removals :
    ∃ config, server.Reaches (code 1) (fun config action => runs 1 config action = true)
        (Config.initial ⟨LastOwner.twoOwners, 0⟩) config ∧
      (config.shared.db.roles.rows.all fun role => !role.live) = true ∧
      Tended 1 config.shared.db := by
  obtain ⟨config, reaches, removed⟩ := server.exists_reaches_of_run (code 1)
    (fun config action => runs 1 config action = true)
    ([.start (.deleteMember 101), .start (.deleteMember 102)] ++
      List.replicate 12 (.step 0 (.proceed 100)) ++ List.replicate 13 (.step 1 (.proceed 200)))
    (Config.initial ⟨LastOwner.twoOwners, 0⟩)
    (fun config => config.shared.db.roles.rows.all fun role => !role.live)
    (by decide +kernel)
  exact ⟨config, reaches, removed,
    tended_of_reaches (by decide) (by decide) twoOwners_owner reaches⟩

/-- Two owners are removed at the same time.  Each removal counts the other owner,
whose revocation is not committed yet, so nobody marks the tenant. -/
theorem exists_unmarked_run :
    LastOwner.twoOwners.roles.DistinctBy roleAccess.entries ∧
      LastOwner.twoOwners.tenants.Has 1 ∧
      (∃ role ∈ LastOwner.twoOwners.roles, role.ownerOf 1 = true) ∧
      ∃ config, server.Reaches (code 1) (fun _ _ => True)
          (Config.initial ⟨LastOwner.twoOwners, 0⟩) config ∧
        (∀ process ∈ config.processes, process.loc.inTx = false) ∧
        ¬Tended 1 config.shared.db := by
  refine ⟨by decide, by decide, twoOwners_owner, ?_⟩
  obtain ⟨config, reaches, lost⟩ := server.exists_reaches_of_run (code 1) (fun _ _ => True)
    ([.start (.deleteMember 101), .start (.deleteMember 102)] ++
      List.replicate 11 (.step 0 (.proceed 100)) ++ List.replicate 11 (.step 1 (.proceed 200)) ++
      [.step 0 (.proceed 100), .step 1 (.proceed 200)])
    (Config.initial ⟨LastOwner.twoOwners, 0⟩)
    (fun config => config.processes.all (fun process => !process.loc.inTx) &&
      config.shared.db.roles.rows.all (fun role => !role.ownerOf 1) &&
      config.shared.db.tenants.rows.all fun tenant => tenant.ownerlessSince.isNone)
    (by decide +kernel)
  simp only [Bool.and_eq_true, List.all_eq_true, Bool.not_eq_true', Option.isNone_iff_eq_none]
    at lost
  refine ⟨config, reaches, lost.1.1, ?_⟩
  rintro (⟨role, mem, owner⟩ | ⟨tenant, mem, _, marked⟩)
  · simp [lost.1.2 role mem] at owner
  · simp [lost.2 tenant mem] at marked

end Escalation

end OrgMembership
