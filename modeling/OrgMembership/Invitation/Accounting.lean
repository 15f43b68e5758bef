import OrgMembership.Redemption.Issue

/-!
# The Keycloak users of P-6

`Invite` creates a Keycloak user before its transaction.  When the call returns, the
user is carried by a pending invitation, or marked for the clean-up, or deleted, unless
the user is a service account or the deletion after a failed transaction fails, too.
-/

namespace OrgMembership

open Concurrency Relational

namespace Accounting

variable {σ : Type}

/-- How a call of `Invite` ends for the Keycloak user it created, with the answer to the
request that deletes the user. -/
inductive Ending
  | rejected
  | recorded (row : PendingInvitation)
  | seatLimited (failure : Failure) (deletion : Except Failure Unit)
  | failed (failure : Failure) (deletion : Except Failure Unit)

/-- What `Invite` returns. -/
def Ending.give : Ending → DbM σ PendingInvitation
  | rejected => throw (newError .serviceAccountNotGrantable
      "service accounts cannot be invited as tenant members")
  | recorded row => return row
  | seatLimited failure _ => throw failure
  | failed failure _ => throw failure

/-- `Invite` from the created user on, which says how it ends. -/
def endInvitation (config : InvitationConfig) (isServiceAccount : Bool) (tenantID : Uuid)
    (input : InvitationInput) (actorID keycloakUserID : Uuid) : DbM σ Ending :=
  if isServiceAccount then
    return .rejected
  else do
    match ← (runInTx (inviteTx config tenantID input actorID keycloakUserID)).observe with
    | .ok (.ok row) => return .recorded row
    | .ok (.error seatLimit) => do
        let deletion ← (callRealm (.deleteUser tenantID keycloakUserID)).observe
        return .seatLimited seatLimit deletion
    | .error failure => do
        let deletion ← (callRealm (.deleteUser tenantID keycloakUserID)).observe
        return .failed failure deletion

/-- `Invite`, which says which user it created and how it ends. -/
def inviteEnding (config : InvitationConfig) (peers : InvitationPeers) (tenantID : Uuid)
    (input : InvitationInput) (actorID : Uuid) : DbM σ (Uuid × Ending) := do
  let input := { input with email := normalizeEmail input.email }
  let keycloakUserID ← createInvited config peers tenantID input actorID
  let ending ← endInvitation config (peers.isServiceAccount keycloakUserID) tenantID input actorID
    keycloakUserID
  return (keycloakUserID, ending)

section Code

variable {config : InvitationConfig} {peers : InvitationPeers} {tenantID : Uuid}
  {input : InvitationInput} {actorID keycloakUserID : Uuid}

theorem recordInvitation_eq :
    (recordInvitation config tenantID input actorID keycloakUserID : DbM σ _) =
      endInvitation config false tenantID input actorID keycloakUserID >>= Ending.give := by
  rw [recordInvitation, endInvitation, if_neg Bool.false_ne_true, bind_assoc]
  refine congrArg _ (funext fun result => ?_)
  rcases result with failure | failure | row
  · simp [compensate, Ending.give]
  · simp [compensate, Ending.give]
  · simp [Ending.give]

/-- `Invite` returns what its ending says. -/
theorem invite_eq_ending :
    (invite config peers tenantID input actorID : DbM σ _) =
      inviteEnding config peers tenantID input actorID >>= fun ended => ended.2.give := by
  rw [invite_eq, inviteEnding]
  simp only [bind_assoc, pure_bind]
  refine congrArg _ (funext fun keycloakUserID => ?_)
  cases peers.isServiceAccount keycloakUserID with
  | false => exact recordInvitation_eq
  | true => rfl

end Code

/-! ## The users a call leaves -/

/-- The Keycloak user is carried by a pending invitation, or marked for the clean-up, or
deleted. -/
def Accounted (tenantID user : Uuid) (db : Db) : Prop :=
  (∃ row ∈ db.invitations, row.tenantID = tenantID ∧ row.keycloakUserID = some user ∧
    (row.status = .pending ∨ row.kcCleanupPending = true)) ∨
  .deleteUser tenantID user ∈ db.realm

section Calls

open Redemption (protocol lenient Spared spared_of_novel)

variable {config : InvitationConfig} {peers : InvitationPeers} {tenantID user : Uuid}
  {input : InvitationInput} {actorID keycloakUserID : Uuid}

theorem Accounted.committed {server : DbServer} {session : DbSession}
    (accounted : Accounted tenantID user server.db)
    (spared : Spared server.db (dialect.committed server session).db) :
    Accounted tenantID user (dialect.committed server session).db := by
  rcases accounted with ⟨row, mem, carries⟩ | deleted
  · exact .inl ⟨row, spared.invitations row mem, carries⟩
  · right
    change _ ∈ (dialect.applyAll session.writes server.db).realm
    rw [realm_applyAll]
    exact List.mem_append_left _ deleted

theorem settled_accounted : protocol.Settled fun server _ => Accounted tenantID user server.db := by
  rintro before after _ _ _ (⟨actor, rfl | ⟨rfl, spared⟩⟩ | same) accounted
  · exact accounted
  · exact accounted.committed spared
  · change before.db = after.db at same
    exact same ▸ accounted

theorem stable_recorded (recorded : Except Failure PendingInvitation) :
    protocol.Stable
      (Redemption.Recorded config tenantID input actorID keycloakUserID recorded) := by
  cases recorded with
  | ok row => exact (Protocol.stable_local _).and Redemption.stable_added
  | error failure =>
      rintro before after session inv inv' rely ⟨id, now, time, flagged⟩
      exact ⟨id, now, time,
        Redemption.stable_flagged before after session inv inv' rely flagged⟩

/-- A transaction that commits leaves the user to an invitation, with a seat or without. -/
theorem attempt_recording :
    Attempt server protocol (fun _ session => session.Idle)
      (transaction .pg (inviteTx config tenantID input actorID keycloakUserID) : DbM σ _)
      (fun _ server session => session.Idle ∧ Accounted tenantID keycloakUserID server.db)
      fun _ _ session => session.Idle := by
  apply attempt_idle_transaction lenient stable_recorded Redemption.within_recorded
  intro recorded server session _ holds _
  cases recorded with
  | ok row =>
      obtain ⟨⟨id, now, time, inserted⟩, added⟩ := holds
      refine ⟨trivial, .inr ⟨rfl, spared_of_novel added.toNovel⟩, session.idle_closed, .inl ?_⟩
      refine ⟨row, ?_, by rw [inserted]; rfl, by rw [inserted]; rfl, .inl (by rw [inserted]; rfl)⟩
      change row ∈ invitationAccess.table (dialect.view server session)
      rw [Dialect.view, added.written]
      exact Table.mem_put.mpr (.inl rfl)
  | error failure =>
      obtain ⟨id, now, time, novel, marked, _, sameUser, sameTenant, flagged, written⟩ := holds
      refine ⟨trivial, .inr ⟨rfl, spared_of_novel novel⟩, session.idle_closed, .inl ?_⟩
      refine ⟨marked, ?_, sameTenant, sameUser, .inr flagged⟩
      change marked ∈ invitationAccess.table (dialect.view server session)
      rw [Dialect.view, written]
      exact Table.mem_put.mpr (.inl rfl)

/-- A deletion that succeeds is in the log of the Realm Provisioner. -/
theorem attempt_deletes :
    Attempt server protocol (fun _ session => session.Idle)
      (callRealm (.deleteUser tenantID keycloakUserID) : DbM σ _)
      (fun _ server session => session.Idle ∧ Accounted tenantID keycloakUserID server.db)
      fun _ _ session => session.Idle := by
  have answers : Idles protocol (eventQuery .answer : DbM σ _) :=
    idles_read lenient fun _ _ => rfl
  refine Attempt.bind Redemption.attempt_deletes fun _ => ?_
  exact Attempt.weaken (answers.settled settled_accounted)
    (fun _ _ _ ⟨idle, deleted⟩ => ⟨idle, .inr deleted⟩) (fun _ _ _ _ holds => holds)
    fun _ _ _ _ holds => holds.1

/-- The deletion after a failed transaction has succeeded. -/
def Ending.deletes : Ending → Bool
  | failed _ (.error _) => false
  | _ => true

/-- What a call leaves, by how it ends. -/
def Left (tenantID : Uuid) (peers : InvitationPeers) (user : Uuid) (ending : Ending) :
    Assertion DbServer DbSession :=
  fun server session => session.Idle ∧ (peers.isServiceAccount user = false →
    ending.deletes = true → Accounted tenantID user server.db)

theorem attempt_endInvitation :
    Attempt server protocol (fun _ session => session.Idle)
      (endInvitation config (peers.isServiceAccount user) tenantID input actorID user : DbM σ _)
      (Left tenantID peers user) fun _ _ session => session.Idle := by
  have records : Attempt server protocol (fun _ session => session.Idle)
      (runInTx (inviteTx config tenantID input actorID user) : DbM σ _)
      (fun _ server session => session.Idle ∧ Accounted tenantID user server.db)
      fun _ _ session => session.Idle :=
    attempt_runInTx attempt_recording fun _ _ _ _ _ idle => idle
  rw [endInvitation]
  split
  case isTrue robot =>
    apply Attempt.pure
    intro _ _ _ idle
    exact ⟨idle, fun human => absurd robot (by simp [human])⟩
  case isFalse =>
    refine Attempt.bind (Attempt.observe records) fun result => ?_
    rcases result with failure | seatLimit | row
    · refine Attempt.bind (Attempt.observe attempt_deletes) fun deletion => ?_
      cases deletion with
      | error lost => exact Attempt.pure fun _ _ _ idle => ⟨idle, fun _ deletes => nomatch deletes⟩
      | ok _ => exact Attempt.pure fun _ _ _ holds => ⟨holds.1, fun _ _ => holds.2⟩
    · -- the row for the clean-up stays, whatever becomes of the deletion
      refine Attempt.bind (Attempt.observe (attempt_deletes.settled settled_accounted))
        fun deletion => ?_
      cases deletion with
      | error lost => exact Attempt.pure fun _ _ _ holds => ⟨holds.1, fun _ _ => holds.2⟩
      | ok _ => exact Attempt.pure fun _ _ _ holds => ⟨holds.1.1, fun _ _ => holds.2⟩
    · exact Attempt.pure fun _ _ _ holds => ⟨holds.1, fun _ _ => holds.2⟩

theorem attempt_inviteEnding :
    Attempt server protocol (fun _ session => session.Idle)
      (inviteEnding config peers tenantID input actorID : DbM σ _)
      (fun ended => Left tenantID peers ended.1 ended.2) fun _ _ session => session.Idle := by
  refine Attempt.bind (attempt_createInvited (reader_idle lenient) (fun _ _ _ idle => idle)
    (fun _ _ _ idle => idle) (keeps_checkNotInvited (reader_idle lenient))) fun user => ?_
  refine Attempt.of_fact fun _ => ?_
  exact Attempt.bind attempt_endInvitation fun _ => Attempt.pure fun _ _ _ left => left

end Calls

/-- P-6, for any tenant. -/
structure Call where
  config : InvitationConfig
  peers : InvitationPeers
  tenantID : Uuid
  input : InvitationInput
  actorID : Uuid

/-- The program of a call, with how it ended. -/
def code (call : Call) : DbProgram (Except Failure (Uuid × Ending)) :=
  Fallible.run (inviteEnding call.config call.peers call.tenantID call.input call.actorID)

section Run

open Redemption (protocol lenient)

variable {start : DbServer}

/-- What a call has done when it returns. -/
def Finished (call : Call) : Except Failure (Uuid × Ending) → Assertion DbServer DbSession
  | .ok (user, ending) => Left call.tenantID call.peers user ending
  | .error _ => fun _ session => session.Idle

theorem verified : Verified server protocol code (fun _ => True) Finished where
  triple call _ := by
    refine Triple.weaken (Attempt.run attempt_inviteEnding)
      (fun _ _ _ fresh => fresh ▸ Session.idle_fresh) fun result _ _ _ holds => ?_
    cases result <;> exact holds
  settled call outcome := by
    rcases outcome with failure | ⟨user, ending⟩
    · exact fun _ _ _ _ _ _ idle => idle
    · intro before after session inv inv' moves left
      refine ⟨left.1, fun human deletes => ?_⟩
      exact settled_accounted before after session inv inv' moves (left.2 human deletes)
  drift _ _ _ := ⟨trivial, rfl⟩

theorem enforces : Enforces server protocol code (fun _ => True) (fun _ _ => True)
    (Config.initial start) where
  admits _ _ _ := trivial
  executes config index choice config' call session statement next reaches _ executes := by
    obtain ⟨disciplined, others⟩ := facts_of_executes reaches executes
    refine ⟨trivial, fun position other away found _ => ?_⟩
    obtain ⟨compatible, beside⟩ := others position other away found
    exact ⟨disciplined, compatible, beside⟩

/-- The program says how `Invite` ends and with what user.  Whatever runs beside a call
and whatever fails, when it returns its user is accounted for, unless the user is a
service account or the deletion after a failed transaction fails. -/
theorem accounted_of_returned {config : DbConfig Call (Except Failure (Uuid × Ending))}
    {call : Call} {session : DbSession} {user : Uuid} {ending : Ending}
    (reaches : server.Reaches code (fun _ _ => True) (Config.initial start) config)
    (returned : ⟨call, session, .ret (.ok (user, ending))⟩ ∈ config.processes)
    (human : call.peers.isServiceAccount user = false) (deletes : ending.deletes = true) :
    (invite call.config call.peers call.tenantID call.input call.actorID :
        DbM Unit PendingInvitation) =
      (do
        let (_, ending) ← inviteEnding call.config call.peers call.tenantID call.input call.actorID
        ending.give) ∧
    Accounted call.tenantID user config.shared.db := by
  have left := (reaches.sound verified enforces ⟨trivial, by simp [Config.initial]⟩).2 _ returned
  exact ⟨invite_eq_ending, left.2 human deletes⟩

end Run

/-- An invitation to that tenant, for which the Realm Provisioner creates user 102. -/
def inviteB (isServiceAccount : Bool) : Call :=
  ⟨⟨7, 0, 0, 0⟩, ⟨fun _ => some 102, fun _ => isServiceAccount⟩, 1, ⟨"b@acme", "B", [], []⟩, 9⟩

/-- A call for tenant 1 has returned with user 102 and meets the test. -/
def ends (test : Call → Ending → Db → Bool)
    (config : DbConfig Call (Except Failure (Uuid × Ending))) : Bool :=
  match config.processes with
  | [⟨call, _, .ret (.ok (102, ending))⟩] =>
      call.tenantID = 1 && test call ending config.shared.db
  | _ => false

theorem returned_of_ends {test : Call → Ending → Db → Bool}
    {config : DbConfig Call (Except Failure (Uuid × Ending))} (ended : ends test config = true) :
    ∃ call session ending, ⟨call, session, .ret (.ok (102, ending))⟩ ∈ config.processes ∧
      call.tenantID = 1 ∧ test call ending config.shared.db = true := by
  unfold ends at ended
  split at ended
  case h_1 call session ending only =>
    rw [Bool.and_eq_true, decide_eq_true_eq] at ended
    exact ⟨call, session, ending, by simp [only], ended⟩
  case h_2 => cases ended

/-- The transaction fails, and the user is deleted. -/
theorem accounted_of_failed :
    ∃ config, server.Reaches code (fun _ _ => True) (Config.initial ⟨loneTenant, 0⟩) config ∧
      Accounted 1 102 config.shared.db := by
  obtain ⟨config, reaches, ended⟩ := server.exists_reaches_of_run code (fun _ _ => True)
    (.start (inviteB false) :: List.replicate 13 (.step 0 (.proceed 100)) ++
      .step 0 (.fail .connectionException) :: List.replicate 5 (.step 0 (.proceed 100)))
    (Config.initial ⟨loneTenant, 0⟩)
    (ends fun call ending _ => !call.peers.isServiceAccount 102 && (ending matches .failed ..) &&
      ending.deletes)
    (by decide +kernel)
  obtain ⟨call, session, ending, returned, own, tested⟩ := returned_of_ends ended
  simp only [Bool.and_eq_true, Bool.not_eq_true_eq_eq_false] at tested
  have accounted := (accounted_of_returned reaches returned tested.1.1 tested.2).2
  rw [own] at accounted
  exact ⟨config, reaches, accounted⟩

/-- A call has returned and its user is not accounted for. -/
def Loses (start : DbServer) (call : Call) : Prop :=
  ∃ config session user ending,
    server.Reaches code (fun _ _ => True) (Config.initial start) config ∧
    ⟨call, session, .ret (.ok (user, ending))⟩ ∈ config.processes ∧
    ¬ Accounted call.tenantID user config.shared.db

theorem not_accounted_of_empty {tenantID user : Uuid} {db : Db}
    (empty : (db.invitations.rows.isEmpty && db.realm.isEmpty) = true) :
    ¬ Accounted tenantID user db := by
  rw [Bool.and_eq_true, List.isEmpty_iff, List.isEmpty_iff] at empty
  rintro (⟨row, mem, _⟩ | deleted)
  · exact absurd (empty.1 ▸ mem : row ∈ ([] : List PendingInvitation)) List.not_mem_nil
  · exact absurd (empty.2 ▸ deleted) List.not_mem_nil

/-- A run that ends without an invitation and without a deletion loses the user. -/
theorem loses_of_run {test : Call → Bool} (actions : List (Action Call (Chance PgError) Nat))
    (runs : (server.run code (fun _ _ => True) actions (Config.initial ⟨loneTenant, 0⟩)).any
      (ends fun call _ db => test call && (db.invitations.rows.isEmpty && db.realm.isEmpty)) =
        true) :
    ∃ call, test call = true ∧ Loses ⟨loneTenant, 0⟩ call := by
  obtain ⟨config, reaches, ended⟩ := server.exists_reaches_of_run code _ actions _ _ runs
  obtain ⟨call, session, ending, returned, _, tested⟩ := returned_of_ends ended
  rw [Bool.and_eq_true] at tested
  exact ⟨call, tested.1, config, session, 102, ending, reaches, returned,
    not_accounted_of_empty tested.2⟩

/-- `Invite` loses the user it created when it finds that the user is a service account,
and when both the transaction and the deletion fail. -/
theorem exists_lost_user :
    (∃ call, call.peers.isServiceAccount 102 = true ∧ Loses ⟨loneTenant, 0⟩ call) ∧
      ∃ call, (!call.peers.isServiceAccount 102) = true ∧ Loses ⟨loneTenant, 0⟩ call := by
  constructor
  · exact loses_of_run (.start (inviteB true) :: List.replicate 12 (.step 0 (.proceed 100)))
      (by decide +kernel)
  · exact loses_of_run (.start (inviteB false) :: List.replicate 13 (.step 0 (.proceed 100)) ++
        [.step 0 (.fail .connectionException), .step 0 (.proceed 100),
          .step 0 (.fail .connectionException)])
      (by decide +kernel)

end Accounting

end OrgMembership
