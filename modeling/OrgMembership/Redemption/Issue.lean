import OrgMembership.Service.Calls

/-!
# Invitations as they are issued

What `Invite` leaves in the database with the invitation it returns: the pending row,
with everything as the input has it, in a tenant that is live.  Other calls of
`Invite` add rows of their own only, so it stays there.
-/

namespace OrgMembership

open Concurrency Relational

namespace Redemption

/-- The tenant is there and not deleted. -/
def Live (tenantID : Uuid) (db : Db) : Prop :=
  ∃ tenant ∈ db.tenants, tenant.id = tenantID ∧ tenant.live = true

/-- Invitations stay as they are, and tenants too. -/
structure Spared (before after : Db) : Prop where
  invitations : ∀ row ∈ before.invitations, row ∈ after.invitations
  tenants : after.tenants = before.tenants

theorem Live.spared {tenantID : Uuid} {before after : Db} (live : Live tenantID before)
    (spared : Spared before after) : Live tenantID after := by
  rw [Live, spared.tenants]
  exact live

/-- Sessions keep to their row locks, and what they commit spares the invitations. -/
def protocol : DbProtocol where
  Inv _ := True
  Admits _ _ _ := True
  Coexist server actor other := Disciplined server actor ∧
    Compatible actor.locks other.locks ∧ Disciplined server other
  Guar actor before after := before = after ∨
    after = dialect.committed before actor ∧ Spared before.db after.db
  Drift before after := before.db = after.db

theorem lenient : Lenient protocol :=
  fun _ _ => .inl rfl

/-- What every step keeps of the committed state. -/
theorem settled_of_spared {fact : Db → Prop}
    (keeps : ∀ before after, Spared before after → fact before → fact after) :
    protocol.Settled fun server _ => fact server.db := by
  rintro before after _ _ _ (⟨_, rfl | ⟨_, spared⟩⟩ | same) holds
  · exact holds
  · exact keeps _ _ spared holds
  · change before.db = after.db at same
    exact same ▸ holds

/-- The transaction writes new invitations only. -/
structure Novel (server : DbServer) (session : DbSession) : Prop where
  fresh : ∀ row, .invitation (.put row) ∈ session.writes →
    ∀ old ∈ server.db.invitations, old.id ≠ row.id
  keeps : ∀ id, .invitation (.delete id) ∉ session.writes
  tenants : ∀ change, .tenant change ∉ session.writes

/-- Nobody else commits a row that the session has locked. -/
theorem stable_novel : protocol.Stable Novel := by
  rintro before after session _ _ rely novel
  refine ⟨fun row put old mem => ?_, novel.keeps, novel.tenants⟩
  rcases rely with ⟨actor, ⟨acting, compatible, disciplined⟩, rfl | ⟨rfl, _⟩⟩ | same
  · exact novel.fresh row put old mem
  · intro taken
    have locked : Exclusive session.locks (.invitation row.id) :=
      disciplined.invitationsGuarded _ (invitationLawful.mem_changes.mpr put)
    rw [← taken] at locked
    have kept : old ∈ before.db.invitations :=
      (invitationLawful.mem_committed_iff acting.invitationsGuarded compatible locked).mp mem
    exact novel.fresh row put old kept taken
  · change before.db = after.db at same
    exact novel.fresh row put old (same ▸ mem)

theorem spared_of_novel {server : DbServer} {session : DbSession} (novel : Novel server session) :
    Spared server.db (dialect.committed server session).db where
  invitations row mem := by
    change row ∈ invitationAccess.table (dialect.view server session)
    rw [invitationLawful.table_view]
    apply Table.mem_applyAll_of_untouched mem
    intro change made
    have written := invitationLawful.mem_changes.mp made
    cases change with
    | put other => exact (novel.fresh other written row mem).symm
    | delete id => exact absurd written (novel.keeps id)
  tenants := tenantLawful.table_view_of_untouched novel.tenants

section Invite

variable {σ α : Type} {tenantID actorID keycloakUserID : Uuid} {config : InvitationConfig}
  {peers : InvitationPeers} {input : InvitationInput}

/-- A transaction of `Invite` before it writes. -/
def Preparing (tenantID : Uuid) (server : DbServer) (session : DbSession) : Prop :=
  session.writes = [] ∧ Live tenantID server.db

theorem stable_preparing : protocol.Stable (Preparing tenantID) :=
  (Protocol.stable_local _).and
    (settled_of_spared fun _ _ spared live => Live.spared live spared).stable

theorem within_lockSeats :
    Within protocol (fun _ session => session.Blank)
      (TenantRepository.licensedSeatsForUpdate tenantID : DbM σ _)
      fun _ => Preparing tenantID := by
  apply within_licensedSeatsForUpdate lenient (Protocol.stable_local _)
  rintro server session tenant _ blank ⟨mem, same, live⟩
  rw [view_of_unwritten blank.unwritten] at mem
  exact ⟨by simp [Session.extended, blank.unwritten], tenant, mem, same, live⟩

theorem within_prepared {program : DbM σ α}
    (issues : Fallible.Issues (Only (dialect.Confined (fun _ => False) fun _ => True)) program) :
    Within protocol (Preparing tenantID) program fun _ => Preparing tenantID := by
  apply within_confined lenient stable_preparing _ issues
  rintro server session query result locks writes harmless _ ⟨unwritten, live⟩
  refine ⟨?_, live⟩
  simpa [Session.extended, unwritten, List.eq_nil_iff_forall_not_mem] using harmless

/-- The transaction has added the row. -/
structure Added (tenantID : Uuid) (row : PendingInvitation) (server : DbServer)
    (session : DbSession) : Prop extends Novel server session where
  written : session.writes = [.invitation (.put row)]
  tenant : Live tenantID server.db

theorem stable_added {row : PendingInvitation} : protocol.Stable (Added tenantID row) := by
  intro before after session inv inv' rely added
  have live : protocol.Stable fun server _ => Live tenantID server.db :=
    (settled_of_spared fun _ _ spared live => Live.spared live spared).stable
  exact ⟨stable_novel before after session inv inv' rely added.toNovel, added.written,
    live before after session inv inv' rely added.tenant⟩

/-- The new row has an id of its own. -/
theorem within_insert {values : InvitationInsert} :
    Within protocol (Preparing tenantID) (InvitationRepository.insert values : DbM σ _)
      fun row server session => (∃ id now, row = values.row id now) ∧
        Added tenantID row server session := by
  have inserts : Within protocol (Preparing tenantID)
      (invitationQuery (.insert values) : DbM σ _)
      fun created server session => ∀ row, created = some row →
        (∃ id now, row = values.row id now) ∧ Added tenantID row server session := by
    apply within_send lenient stable_preparing
    rintro server session fresh result writes _ ⟨unwritten, live⟩ _ yields row rfl
    rcases Access.insertRow_cases yields with ⟨absorbed, _, _⟩ | ⟨_, _, inserted, rfl, _⟩
    · cases absorbed
    · cases inserted
      cases invitation_write yields (List.mem_singleton_self _) with
      | insert unused =>
          rw [view_of_unwritten unwritten] at unused
          refine ⟨⟨fresh, _, rfl⟩, ⟨?_, ?_, ?_⟩, ?_, live⟩
          · intro row put old mem
            simp only [Session.extended, unwritten, List.nil_append, List.mem_singleton] at put
            cases put
            exact unused old mem
          · simp [Session.extended, unwritten, invitationAccess]
          · simp [Session.extended, unwritten, invitationAccess]
          · simp [Session.extended, unwritten, invitationAccess]
  refine Attempt.bind (Attempt.mapError inserts) fun created => ?_
  cases created with
  | none => exact within_throw
  | some row => exact Attempt.pure fun _ _ _ holds => holds row rfl

/-- The transaction has added the row and marked it for the clean-up. -/
def Flagged (row : PendingInvitation) (server : DbServer) (session : DbSession) : Prop :=
  Novel server session ∧ ∃ marked : PendingInvitation, marked.id = row.id ∧
    marked.keycloakUserID = row.keycloakUserID ∧ marked.tenantID = row.tenantID ∧
    marked.kcCleanupPending = true ∧
    session.writes = [.invitation (.put row), .invitation (.put marked)]

theorem stable_flagged {row : PendingInvitation} : protocol.Stable (Flagged row) :=
  stable_novel.and (Protocol.stable_local _)

theorem mem_view_of_added {row other : PendingInvitation} {server : DbServer}
    {session : DbSession} (added : Added tenantID row server session)
    (mem : other ∈ (dialect.view server session).invitations) (same : other.id = row.id) :
    other = row := by
  have stored : row ∈ (dialect.view server session).invitations := by
    change row ∈ invitationAccess.table (dialect.view server session)
    rw [Dialect.view, added.written]
    exact Table.mem_put.mpr (.inl rfl)
  exact Table.eq_of_key_eq mem stored same

/-- Writing the new row again is still about the new row only. -/
theorem Added.novel_again {row marked : PendingInvitation} {server : DbServer}
    {session later : DbSession} (added : Added tenantID row server session)
    (same : marked.id = row.id)
    (written : later.writes = [.invitation (.put row), .invitation (.put marked)]) :
    Novel server later := by
  have fresh : ∀ old ∈ server.db.invitations, old.id ≠ row.id :=
    added.fresh row (by simp [added.written])
  refine ⟨fun other put old mem => ?_, by simp [written], by simp [written]⟩
  simp only [written, List.mem_cons, List.not_mem_nil, or_false, Write.invitation.injEq,
    Change.put.injEq] at put
  rcases put with rfl | rfl
  · exact fresh old mem
  · rw [same]
    exact fresh old mem

theorem within_flag {row : PendingInvitation} :
    Within protocol (Added tenantID row)
      (InvitationRepository.setKCCleanupPending tenantID row.id true row.recordVersion : DbM σ _)
      fun _ => Flagged row := by
  have flags : Within protocol (Added tenantID row)
      (invitationQuery (.setKCCleanupPending tenantID row.id true row.recordVersion) : DbM σ _)
      fun updated server session => updated.isSome = true → Flagged row server session := by
    apply within_send lenient stable_added
    intro server session fresh result writes _ added _ yields updated
    rcases setKCCleanupPending_cases yields with
      ⟨rfl, _⟩ | ⟨old, mem, marked, same, touched, _, rfl⟩
    · cases updated
    · cases mem_view_of_added added mem same
      have written : session.writes ++ [Write.invitation (.put marked)] =
          [.invitation (.put row), .invitation (.put marked)] := by
        rw [added.written]
        rfl
      have sameID : marked.id = row.id := by
        rw [touched, PendingInvitation.touch_proj PendingInvitation.id fun _ _ _ => rfl]
      refine ⟨added.novel_again sameID written, marked, sameID, ?_, ?_, ?_, written⟩
      · rw [touched, PendingInvitation.touch_proj PendingInvitation.keycloakUserID fun _ _ _ => rfl]
      · rw [touched, PendingInvitation.touch_proj PendingInvitation.tenantID fun _ _ _ => rfl]
      · rw [touched,
          PendingInvitation.touch_proj PendingInvitation.kcCleanupPending fun _ _ _ => rfl]
  have finds : Within protocol (fun _ _ => True)
      (invitationQuery (.findByID tenantID row.id) : DbM σ _) fun _ _ _ => True :=
    within_read lenient (Protocol.stable_local _) (fun _ _ => rfl) fun _ _ _ _ _ _ => trivial
  refine Attempt.bind flags fun updated => ?_
  cases updated with
  | some _ => exact Attempt.pure fun _ _ _ flagged => flagged rfl
  | none =>
      refine Attempt.bind (Attempt.strengthen finds fun _ _ _ _ => trivial) fun found => ?_
      cases found <;> exact within_throw

/-- What the transaction has written: the invitation, or the row for the clean-up. -/
def Recorded (config : InvitationConfig) (tenantID : Uuid) (input : InvitationInput)
    (actorID keycloakUserID : Uuid) :
    Except Failure PendingInvitation → Assertion DbServer DbSession
  | .ok row => fun server session =>
      (∃ id now time, row =
        (newInvitation config tenantID input actorID keycloakUserID now).row id time) ∧
        Added tenantID row server session
  | .error _ => fun server session => ∃ id now time,
      Flagged ((orphanInvitation tenantID input actorID keycloakUserID now).row id time) server
        session

theorem within_recorded :
    Within protocol (fun _ session => session.Blank)
      (inviteTx config tenantID input actorID keycloakUserID : DbM σ _)
      (Recorded config tenantID input actorID keycloakUserID) := by
  refine Attempt.bind within_lockSeats fun licensedSeats => ?_
  refine Attempt.bind (within_prepared (issues_send (confined_of_reads rfl))) fun active => ?_
  refine Attempt.bind (within_prepared (issues_send (confined_of_reads rfl))) fun pending => ?_
  refine Attempt.bind (within_prepared (issues_send (confined_of_reads rfl))) fun now => ?_
  split
  · refine Attempt.bind within_insert fun row => ?_
    refine Attempt.of_fact fun ⟨id, time, inserted⟩ => ?_
    subst inserted
    refine Attempt.bind within_flag fun _ => ?_
    exact Attempt.pure fun _ _ _ flagged => ⟨id, now, time, flagged⟩
  · refine Attempt.bind within_insert fun row => ?_
    apply Attempt.pure
    rintro server session _ ⟨⟨id, time, inserted⟩, added⟩
    exact ⟨⟨id, now, time, inserted⟩, added⟩

/-- A request to the Realm Provisioner spares the invitations. -/
theorem attempt_deletes :
    Attempt server protocol (fun _ session => session.Idle)
      (transaction .pg (eventQuery (.realm (.deleteUser tenantID keycloakUserID))) : DbM σ _)
      (fun _ server session => session.Idle ∧ .deleteUser tenantID keycloakUserID ∈ server.db.realm)
      fun _ _ session => session.Idle := by
  have asks : Within protocol (fun _ session => session.Blank)
      (eventQuery (.realm (.deleteUser tenantID keycloakUserID)) : DbM σ _)
      fun _ server session => Novel server session ∧
        .realm (.deleteUser tenantID keycloakUserID) ∈ session.writes := by
    apply within_send lenient (Protocol.stable_local _)
    intro server session fresh result writes _ blank _ yields
    obtain ⟨_, rfl⟩ := Prod.mk.inj (Except.ok.inj yields)
    refine ⟨?_, List.mem_append_right _ (List.mem_singleton_self _)⟩
    constructor <;> simp [Session.extended, blank.unwritten]
  apply attempt_idle_transaction lenient (fun _ => stable_novel.and (Protocol.stable_local _)) asks
  rintro _ server session _ ⟨novel, asked⟩ _
  refine ⟨trivial, .inr ⟨rfl, spared_of_novel novel⟩, session.idle_closed, ?_⟩
  change _ ∈ (dialect.applyAll session.writes server.db).realm
  rw [realm_applyAll]
  exact List.mem_append_right _ (List.mem_filterMap.mpr ⟨_, asked, rfl⟩)

end Invite

end Redemption

end OrgMembership
