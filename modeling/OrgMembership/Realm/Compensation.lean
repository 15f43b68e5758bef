import OrgMembership.Service.Calls
import OrgMembership.Service.Footprint

/-!
# The compensation of P-6

`Invite` creates a Keycloak user before its transaction, and deletes the user when
the transaction fails or finds no seat.  The Realm Provisioner gives the same user
to every request for one tenant and email.  So the deletion spares the users of
pending invitations, if no invitation of a user is committed while another call for
that user is under way.
-/

namespace OrgMembership

open Concurrency Relational

namespace Compensation

/-- A Realm Provisioner that answers by tenant and email, when it answers. -/
def provisioner (assigns : Uuid → String → Uuid) (answers : CreateInvitedUserRequest → Bool)
    (isServiceAccount : Uuid → Bool) : InvitationPeers where
  createInvitedUser request :=
    if answers request then some (assigns request.tenantID request.email) else none
  isServiceAccount

/-- P-6 of one tenant. -/
inductive Call
  | invite (config : InvitationConfig) (answers : CreateInvitedUserRequest → Bool)
      (isServiceAccount : Uuid → Bool) (input : InvitationInput) (actorID : Uuid)

section Model

variable (assigns : Uuid → String → Uuid)

/-- The program of a call for the tenant. -/
def code (tenantID : Uuid) : Call → DbProgram (Except Failure Unit)
  | .invite config answers isServiceAccount input actorID =>
      Fallible.run do
        let _ ← invite config (provisioner assigns answers isServiceAccount) tenantID input actorID
        return ()

/-- A pending invitation of the Keycloak user. -/
def carries (user : Uuid) (row : PendingInvitation) : Bool :=
  row.status = .pending && row.keycloakUserID = some user

/-- The session has asked for a pending invitation of the user's email. -/
def looked (session : DbSession) (user : Uuid) : Bool :=
  session.history.any fun
    | .issued (.invitation (.findPendingByEmail tenantID email)) _ => assigns tenantID email = user
    | _ => false

/-- The writes add no pending invitation of a user the session has asked for. -/
def apart (session : DbSession) (writes : List Write) : Bool :=
  writes.all fun
    | .invitation (.put row) =>
        row.status ≠ .pending || row.keycloakUserID.all fun user => !looked assigns session user
    | _ => true

/-- The pending invitations of an email's user are those of the email. -/
def known (db : Db) : Statement Query → Bool
  | .query (.invitation (.findPendingByEmail tenantID email)) =>
      db.invitations.rows.all fun row =>
        !carries (assigns tenantID email) row || (row.tenantID = tenantID && row.email = email)
  | _ => true

/-- A commit that adds a pending invitation is answered. -/
def answered (chance : Chance PgError) (session : DbSession) : Statement Query → Bool
  | .commit => chance.isAnswered || session.writes.all fun
      | .invitation (.put row) => row.status ≠ .pending
      | _ => true
  | _ => true

/-- The runs in which no transaction goes on with a new invitation of a user for
whose email another running call has looked, no email shares its user, and no answer
to the commit of an invitation gets lost. -/
def runs : DbConfig Call (Except Failure Unit) → Action Call (Chance PgError) Nat → Bool :=
  allows (fun _ => true) fun config index chance statement session =>
    known assigns config.shared.db statement && answered chance session statement &&
      (config.processes.eraseIdx index).all fun other =>
        other.returned || apart assigns other.loc session.writes

/-! ## The protocol -/

/-- No pending invitation has the user. -/
def Vacant (user : Uuid) (db : Db) : Prop :=
  ∀ row ∈ db.invitations, carries user row = false

/-- The Realm Provisioner was told to delete users without a pending invitation
only. -/
def Spares (before after : Db) : Prop :=
  ∃ calls, after.realm = before.realm ++ calls ∧
    ∀ tenantID user, .deleteUser tenantID user ∈ calls → Vacant user before

/-- Users with a pending invitation are spared by every step. -/
def protocol : DbProtocol where
  Inv _ := True
  Admits statement server _ := known assigns server.db statement = true
  Coexist _ actor other := apart assigns other actor.writes = true
  Guar actor before after := before = after ∨
    after = dialect.committed before actor ∧ Spares before.db after.db
  Drift before after := before.db = after.db
  Grants statement chance session := answered chance session statement = true

/-- The session has looked for the user's email, and no pending invitation has the
user. -/
def Cleared (user : Uuid) (server : DbServer) (session : DbSession) : Prop :=
  looked assigns session user = true ∧ Vacant user server.db

/-- A transaction that has told the Realm Provisioner nothing. -/
structure Open (user : Uuid) (server : DbServer) (session : DbSession) : Prop where
  cleared : Cleared assigns user server session
  silent : ∀ call, .realm call ∉ session.writes

/-- A transaction that has not invited the user. -/
structure Held (user : Uuid) (server : DbServer) (session : DbSession) : Prop
    extends Open assigns user server session where
  vacant : Vacant user (dialect.view server session)

end Model

variable {assigns : Uuid → String → Uuid} {user : Uuid}

theorem lenient : Lenient (protocol assigns) :=
  fun _ _ => .inl rfl

/-- What a session has looked for stays looked for. -/
theorem looked_extended {session : DbSession} {query : Query} {result : query.Result}
    {locks : List (Lock LockKey)} {writes : List Write}
    (before : looked assigns session user = true) :
    looked assigns (session.extended query result locks writes) user = true := by
  rw [looked, Session.extended, List.any_cons, Bool.or_eq_true]
  exact .inr before

theorem vacant_committed {server : DbServer} {actor session : DbSession}
    (coexist : apart assigns session actor.writes = true)
    (cleared : Cleared assigns user server session) :
    Vacant user (dialect.committed server actor).db := by
  intro row mem
  rcases invitationLawful.mem_view mem with put | ⟨old, _⟩
  · rw [apart, List.all_eq_true] at coexist
    have away := coexist _ put
    by_contra taken
    rw [Bool.not_eq_false, carries, Bool.and_eq_true, decide_eq_true_eq, decide_eq_true_eq] at taken
    simp [invitationAccess, taken, cleared.1] at away
  · exact cleared.2 row old

theorem lasting_cleared (user : Uuid) : Lasting (protocol assigns) (Cleared assigns user) where
  stable before after session _ _ rely cleared := by
    rcases rely with ⟨actor, coexist, rfl | ⟨rfl, _⟩⟩ | same
    · exact cleared
    · exact ⟨cleared.1, vacant_committed coexist cleared⟩
    · change before.db = after.db at same
      rw [Cleared, ← same]
      exact cleared
  opened _ _ _ cleared := cleared
  closed _ _ cleared := cleared
  extended _ _ _ _ _ _ cleared := ⟨looked_extended cleared.1, cleared.2⟩

theorem stable_open : (protocol assigns).Stable (Open assigns user) :=
  fun before after session inv inv' rely opened =>
    ⟨(lasting_cleared user).stable before after session inv inv' rely opened.cleared,
      opened.silent⟩

/-- What the session sees stays vacant, as the committed state does. -/
theorem stable_held : (protocol assigns).Stable (Held assigns user) := by
  intro before after session inv inv' rely held
  have opened := stable_open before after session inv inv' rely held.toOpen
  refine ⟨opened, fun row mem => ?_⟩
  by_contra taken
  refine taken (held.vacant row (invitationLawful.mem_view_of_mem (fun old => ?_) mem))
  exact absurd (opened.cleared.2 row old) taken

/-! ## The transaction of P-6 -/

/-- A statement that adds no pending invitation of the user and does not call the
Realm Provisioner. -/
structure Tranquil (user : Uuid) (query : Query) : Prop where
  silent : .realm ∉ query.writesTo
  vacant : ∀ context db row, InvitationWrite context db query (.put row) →
    carries user row = true → ∃ old ∈ db.invitations, carries user old = true

theorem tranquil_read {query : Query} (reads : query.writesTo = []) : Tranquil user query where
  silent := reads ▸ List.not_mem_nil
  vacant _ _ _ write := by cases write <;> simp at reads

/-- The row for the clean-up is not pending. -/
theorem tranquil_insert {values : InvitationInsert} (settled : values.status ≠ .pending) :
    Tranquil user (.invitation (.insert values)) where
  silent := by simp
  vacant _ _ _ write carried := by
    cases write with
    | insert => simp [carries, InvitationInsert.row, settled] at carried

/-- The mark for the clean-up leaves the status. -/
theorem tranquil_flag {tenantID id : Uuid} {flag : Bool} {version : Int} :
    Tranquil user (.invitation (.setKCCleanupPending tenantID id flag version)) where
  silent := by simp
  vacant _ _ _ write carried := by
    rcases write.origin with ⟨_, other, _⟩ | ⟨old, mem, _, evolves⟩
    · cases other
    · refine ⟨old, mem, ?_⟩
      rw [carries, Bool.and_eq_true, decide_eq_true_eq, decide_eq_true_eq] at carried ⊢
      exact ⟨evolves.pending carried.1, evolves.keycloakUserID ▸ carried.2⟩

section Transaction

variable {server : DbServer} {session : DbSession} {query : Query} {context : Context}
  {result : query.Result} {locks : List (Lock LockKey)} {writes : List Write}

theorem Open.extended (opened : Open assigns user server session)
    (silent : .realm ∉ query.writesTo)
    (yields : (query.effect context (dialect.view server session)).Yields result writes) :
    Open assigns user server (session.extended query result locks writes) where
  cleared := (lasting_cleared user).extended _ _ _ _ _ _ opened.cleared
  silent call mem := by
    rcases List.mem_append.mp mem with old | new
    · exact opened.silent call old
    · exact silent (Query.table_mem_writesTo yields new)

theorem Held.extended (held : Held assigns user server session) (tranquil : Tranquil user query)
    (yields : (query.effect context (dialect.view server session)).Yields result writes) :
    Held assigns user server (session.extended query result locks writes) where
  toOpen := held.toOpen.extended tranquil.silent yields
  vacant row mem := by
    change row ∈ invitationAccess.table _ at mem
    rw [invitationLawful.table_extended] at mem
    rcases Table.mem_applyAll mem with put | ⟨old, _⟩
    · have write := invitation_write yields (invitationLawful.mem_filterMap.mp put)
      by_contra taken
      obtain ⟨old, memOld, carried⟩ := tranquil.vacant _ _ _ write (by simpa using taken)
      rw [held.vacant old memOld] at carried
      exact absurd carried Bool.false_ne_true
    · exact held.vacant row old

end Transaction

section Invite

variable {σ α : Type} {tenantID : Uuid} {program : DbM σ α}

theorem attempt_held (issues : Fallible.Issues (Only (Tranquil user)) program) :
    Attempt server (protocol assigns) (Held assigns user) program (fun _ => Held assigns user)
      fun _ => Open assigns user :=
  attempt_only lenient stable_held
    (fun _ tranquil _ _ _ _ _ _ held _ yields => held.extended tranquil yields) issues
    fun _ _ _ held => held.toOpen

theorem attempt_open
    (issues : Fallible.Issues (Only fun query => .realm ∉ query.writesTo) program) :
    Attempt server (protocol assigns) (Open assigns user) program (fun _ => Open assigns user)
      fun _ => Open assigns user :=
  attempt_only lenient stable_open
    (fun _ silent _ _ _ _ _ _ opened _ yields => opened.extended silent yields) issues
    fun _ _ _ opened => opened

/-- What the transaction has made sure of: a call that found no seat invited
nobody. -/
def Recorded (assigns : Uuid → String → Uuid) (user : Uuid) :
    Except Failure PendingInvitation → Assertion DbServer DbSession
  | .ok _ => Open assigns user
  | .error _ => Held assigns user

theorem attempt_inviteTx {config : InvitationConfig} {input : InvitationInput}
    {actorID keycloakUserID : Uuid} :
    Attempt server (protocol assigns) (Held assigns user)
      (inviteTx config tenantID input actorID keycloakUserID : DbM σ _) (Recorded assigns user)
      fun _ => Open assigns user := by
  refine Attempt.bind (attempt_held
    (TenantRepository.issues_licensedSeatsForUpdate (tranquil_read rfl))) fun licensedSeats => ?_
  refine Attempt.bind (attempt_held (issues_send (tranquil_read rfl))) fun active => ?_
  refine Attempt.bind (attempt_held (issues_send (tranquil_read rfl))) fun pending => ?_
  refine Attempt.bind (attempt_held (issues_send (tranquil_read rfl))) fun now => ?_
  split
  · refine Attempt.bind (attempt_held (InvitationRepository.issues_insert
      (tranquil_insert (by simp [orphanInvitation])))) fun row => ?_
    refine Attempt.bind (attempt_held (InvitationRepository.issues_setKCCleanupPending
      tranquil_flag (tranquil_read rfl))) fun _ => ?_
    exact Attempt.pure fun _ _ _ held => held
  · refine Attempt.bind (Attempt.strengthen (attempt_open
      (InvitationRepository.issues_insert (by simp))) fun _ _ _ held => held.toOpen) fun row => ?_
    exact Attempt.pure fun _ _ _ opened => opened

/-- Between transactions, with the user free. -/
abbrev Waiting (assigns : Uuid → String → Uuid) (user : Uuid) : Assertion DbServer DbSession :=
  fun server session => session.Idle ∧ Cleared assigns user server session

theorem stable_waiting : (protocol assigns).Stable (Waiting assigns user) :=
  (Protocol.stable_local _).and (lasting_cleared user).stable

/-- A silent transaction tells the Realm Provisioner nothing. -/
theorem spares_of_silent {server : DbServer} {session : DbSession}
    (silent : ∀ call, .realm call ∉ session.writes) :
    Spares server.db (dialect.committed server session).db := by
  refine ⟨[], ?_, by simp⟩
  rw [List.append_nil]
  exact realm_committed_of_quiet silent

/-- A call that records no invitation, because it fails or finds no seat, leaves the
user free. -/
theorem attempt_recording {config : InvitationConfig} {input : InvitationInput}
    {actorID keycloakUserID : Uuid} :
    Attempt server (protocol assigns) (Waiting assigns user)
      (transaction .pg (inviteTx config tenantID input actorID keycloakUserID) : DbM σ _)
      (outcome (fun _ _ session => session.Idle) fun _ => Waiting assigns user)
      fun _ => Waiting assigns user := by
  have stable : ∀ recorded, (protocol assigns).Stable (Recorded assigns user recorded) := by
    intro recorded
    cases recorded with
    | ok row => exact stable_open
    | error failure => exact stable_held
  have free : ∀ {server session}, Open assigns user server session →
      Waiting assigns user server session.closed := fun opened =>
    ⟨Session.idle_closed _, (lasting_cleared user).closed _ _ opened.cleared⟩
  apply attempt_transaction lenient stable_waiting stable (fun _ => stable_open) _ attempt_inviteTx
  · intro recorded server session _ holds _
    cases recorded with
    | ok row =>
        exact ⟨trivial, .inr ⟨rfl, spares_of_silent (Open.silent holds)⟩, session.idle_closed⟩
    | error failure =>
        have held : Held assigns user server session := holds
        exact ⟨trivial, .inr ⟨rfl, spares_of_silent held.silent⟩, session.idle_closed,
          held.cleared.1, held.vacant⟩
  · intro _ recorded server session _ holds
    cases recorded with
    | ok row => exact free holds
    | error failure => exact free (Held.toOpen holds)
  · intro recorded server session granted holds after
    cases recorded with
    | error failure => exact after
    | ok row =>
        have opened : Open assigns user server session := holds
        refine ⟨session.idle_closed, opened.cleared.1, fun other mem => ?_⟩
        rcases invitationLawful.mem_view mem with put | ⟨old, _⟩
        · have settled := List.all_eq_true.mp granted _ put
          simp only [invitationAccess, ne_eq, decide_eq_true_eq] at settled
          simp [carries, settled]
        · exact opened.cleared.2 other old
  · exact fun _ _ _ _ opened => free opened
  · exact fun _ _ _ _ waiting => waiting
  · rintro server session _ ⟨_, cleared⟩
    exact ⟨⟨(lasting_cleared user).opened _ _ _ cleared, fun _ => List.not_mem_nil⟩, cleared.2⟩

/-- A free user may be deleted. -/
theorem attempt_compensate :
    Attempt server (protocol assigns) (Waiting assigns user) (compensate tenantID user : DbM σ _)
      (fun _ _ session => session.Idle) fun _ _ session => session.Idle := by
  have deletes : Attempt server (protocol assigns) (Waiting assigns user)
      (transaction .pg (eventQuery (.realm (.deleteUser tenantID user))) : DbM σ _)
      (fun _ _ session => session.Idle) fun _ _ session => session.Idle := by
    have stable : ∀ calls, (protocol assigns).Stable fun server session =>
        session.writes = calls ∧ Cleared assigns user server session := fun calls =>
      (Protocol.stable_local _).and (lasting_cleared user).stable
    have asks : Attempt server (protocol assigns)
        (fun server session => session.writes = [] ∧ Cleared assigns user server session)
        (eventQuery (.realm (.deleteUser tenantID user)) : DbM σ _)
        (fun _ server session => session.writes = [.realm (.deleteUser tenantID user)] ∧
          Cleared assigns user server session) fun _ _ _ => True := by
      apply within_send lenient (stable [])
      rintro server session fresh result writes _ ⟨unwritten, cleared⟩ _ yields
      obtain ⟨_, rfl⟩ := Prod.mk.inj (Except.ok.inj yields)
      refine ⟨?_, (lasting_cleared user).extended _ _ _ _ _ _ cleared⟩
      rw [Session.extended, unwritten]
      rfl
    apply attempt_transaction lenient stable_waiting (fun _ => stable _)
      (fun _ => Protocol.stable_local fun _ => True) _ asks
    · rintro _ server session _ ⟨written, _, vacant⟩ _
      refine ⟨trivial, .inr ⟨rfl, [.deleteUser tenantID user], ?_, ?_⟩, session.idle_closed⟩
      · change (dialect.applyAll session.writes server.db).realm = _
        rw [realm_applyAll, written]
        rfl
      · intro other deleted mem
        cases List.mem_singleton.mp mem
        exact vacant
    · exact fun _ _ _ session _ _ => session.idle_closed
    · exact fun _ _ session _ _ _ => session.idle_closed
    · exact fun _ _ session _ _ => session.idle_closed
    · exact fun _ _ _ _ waiting => waiting.1
    · exact fun _ session _ waiting => ⟨rfl, (lasting_cleared user).opened _ _ _ waiting.2⟩
  have calls : Attempt server (protocol assigns) (Waiting assigns user)
      (callRealm (.deleteUser tenantID user) : DbM σ _)
      (fun _ _ session => session.Idle) fun _ _ session => session.Idle :=
    Attempt.bind deletes fun _ => idles_read lenient fun _ _ => rfl
  refine Attempt.bind (Attempt.observe calls) fun result => ?_
  cases result <;> exact Attempt.pure fun _ _ _ idle => idle

theorem attempt_recordInvitation {config : InvitationConfig} {input : InvitationInput}
    {actorID : Uuid} :
    Attempt server (protocol assigns) (Waiting assigns user)
      (recordInvitation config tenantID input actorID user : DbM σ _)
      (fun _ _ session => session.Idle) fun _ _ session => session.Idle := by
  have records : Attempt server (protocol assigns) (Waiting assigns user)
      (runInTx (inviteTx config tenantID input actorID user) : DbM σ _)
      (outcome (fun _ _ session => session.Idle) fun _ => Waiting assigns user)
      fun _ => Waiting assigns user :=
    attempt_runInTx attempt_recording fun _ _ _ _ _ waiting => waiting
  exact OrgMembership.attempt_recordInvitation records (fun _ _ _ idle => idle)
    (fun _ _ _ waiting => waiting) attempt_compensate

/-- A call that finds no pending invitation of the email knows that none has the
email's user. -/
theorem attempt_checkNotInvited (email : String) :
    Attempt server (protocol assigns) (fun _ session => session.Idle)
      (checkNotInvited tenantID email : DbM σ _)
      (fun _ => Waiting assigns (assigns tenantID email)) fun _ _ session => session.Idle := by
  have reads : Within (protocol assigns) (fun _ session => session.Blank)
      (InvitationRepository.findPendingByEmail tenantID email : DbM σ _)
      fun found server session => session.writes = [] ∧
        (found = none → Cleared assigns (assigns tenantID email) server session) := by
    apply within_read lenient (Protocol.stable_local _) fun _ _ => rfl
    intro server session fresh _ blank admitted
    rw [view_of_unwritten blank.unwritten]
    refine ⟨by simp [Session.extended, blank.unwritten], fun missing => ⟨?_, fun row mem => ?_⟩⟩
    · simp [looked, Session.extended]
    · by_contra taken
      have others : known assigns server.db _ = true := admitted
      simp only [known, List.all_eq_true] at others
      have own := others row mem
      have unlike := Table.first?_eq_none.mp missing row mem
      rw [Bool.not_eq_false] at taken
      simp only [taken, Bool.not_true, Bool.false_or, Bool.and_eq_true, decide_eq_true_eq] at own
      simp only [carries, Bool.and_eq_true, decide_eq_true_eq] at taken
      simp [own, taken.1] at unlike
  have looks : Attempt server (protocol assigns) (fun _ session => session.Idle)
      (withPool (InvitationRepository.findPendingByEmail tenantID email) : DbM σ _)
      (fun found server session => session.Idle ∧
        (found = none → Cleared assigns (assigns tenantID email) server session))
      fun _ _ session => session.Idle := by
    apply attempt_withPool
    apply attempt_idle_transaction lenient _ reads
    · rintro found server session _ ⟨unwritten, cleared⟩ _
      rw [committed_of_unwritten unwritten]
      exact ⟨trivial, .inl rfl, session.idle_closed, cleared⟩
    · intro found
      apply (Protocol.stable_local _).and
      exact fun before after session inv inv' rely cleared missing =>
        (lasting_cleared _).stable before after session inv inv' rely (cleared missing)
  refine Attempt.bind looks fun found => ?_
  cases found with
  | none => exact Attempt.pure fun _ _ _ holds => ⟨holds.1, holds.2 rfl⟩
  | some row => exact Attempt.throw fun _ _ _ holds => holds.1

theorem idles_invited (config : InvitationConfig) (answers : CreateInvitedUserRequest → Bool)
    (isServiceAccount : Uuid → Bool) (input : InvitationInput) (actorID : Uuid) :
    Idles (protocol assigns)
      (invite config (provisioner assigns answers isServiceAccount) tenantID input actorID :
        DbM σ _) := by
  apply attempt_invite (fun email => reader_lasting lenient
    (lasting_cleared (assigns tenantID email))) (fun _ _ _ idle => idle)
    (fun _ _ _ _ holds => holds.1) attempt_checkNotInvited
  intro slug keycloakUserID input _ created _
  simp only [provisioner] at created
  split at created <;> cases created
  exact attempt_recordInvitation

end Invite

/-! ## Every run -/

variable {tenantID : Uuid}

theorem verified : Verified server (protocol assigns) (code assigns tenantID) (fun _ => True)
    fun _ _ _ session => session.Idle where
  triple call _ := by
    cases call with
    | invite config answers isServiceAccount input actorID =>
        exact triple_of_idles
          (idles_invited config answers isServiceAccount input actorID).drop
  settled _ _ := fun _ _ _ _ _ _ holds => holds
  drift _ _ _ := ⟨trivial, rfl⟩

theorem enforces {start : DbServer} :
    Enforces server (protocol assigns) (code assigns tenantID) (fun _ => True)
      (fun config action => runs assigns config action = true) (Config.initial start) where
  admits _ _ _ := trivial
  executes config index choice config' call session statement next _ permitted executes := by
    have allowed := executes_of_allows permitted executes.current
    rw [Bool.and_eq_true, Bool.and_eq_true, List.all_eq_true] at allowed
    refine ⟨allowed.1.1, fun position other away found running => ?_⟩
    have beside := allowed.2 other (List.mem_eraseIdx_iff_getElem?.mpr ⟨position, away, found⟩)
    rw [Bool.or_eq_true] at beside
    rcases beside with returned | coexist
    · exact absurd running (Process.not_running_of_returned returned)
    · exact coexist
  grants config index chance call session statement next permitted current := by
    have allowed := executes_of_allows permitted current
    rw [Bool.and_eq_true, Bool.and_eq_true] at allowed
    exact allowed.1.2

/-- In a run of any number of P-6 calls in which no transaction goes on with a new
invitation of a user for whose email another running call has looked, and the commits of
invitations are answered, every user that a call deletes is without a pending invitation
at that moment. -/
theorem spares_of_reaches {start : DbServer} {config config' : DbConfig Call (Except Failure Unit)}
    {action : Action Call (Chance PgError) Nat}
    (reaches : server.Reaches (code assigns tenantID)
      (fun config action => runs assigns config action = true) (Config.initial start) config)
    (permitted : runs assigns config action = true)
    (acted : server.act (code assigns tenantID) action config = some config') :
    Spares config.shared.db config'.shared.db := by
  have still : Spares config.shared.db config.shared.db := ⟨[], by simp, by simp⟩
  cases action with
  | step index choice =>
      obtain ⟨_, _, same | ⟨_, spares⟩⟩ :=
        reaches.guarantees verified enforces trivial permitted acted
      · rw [← same]
        exact still
      · exact spares
  | start | crash | signal =>
      cases acted
      exact still

/-- An invitation of the user 102. -/
def inviteB : Call :=
  .invite ⟨7, 0, 0, 0⟩ (fun _ => true) (fun _ => false) ⟨"b@acme", "B", [], []⟩ 9

/-- The step of the process tells the Realm Provisioner to delete user 102. -/
def deletes (index : Nat) (config : DbConfig Call (Except Failure Unit)) : Bool :=
  (server.act (code (fun _ _ => 102) 1) (.step index (.proceed 200)) config).any fun config' =>
    config'.shared.db.realm = config.shared.db.realm ++ [.deleteUser 1 102]

/-- The transaction of the only call fails, and its user is deleted. -/
theorem spares_after_fault :
    ∃ config config', server.Reaches (code (fun _ _ => 102) 1)
        (fun config action => runs (fun _ _ => 102) config action = true)
        (Config.initial ⟨loneTenant, 0⟩) config ∧
      server.act (code (fun _ _ => 102) 1) (.step 0 (.proceed 200)) config = some config' ∧
      config'.shared.db.realm = config.shared.db.realm ++ [.deleteUser 1 102] ∧
      Spares config.shared.db config'.shared.db := by
  obtain ⟨config, reaches, ready⟩ := server.exists_reaches_of_run (code (fun _ _ => 102) 1)
    (fun config action => runs (fun _ _ => 102) config action = true)
    (.start inviteB :: List.replicate 13 (.step 0 (.proceed 100)) ++
      [.step 0 (.fail .connectionException)] ++ List.replicate 3 (.step 0 (.proceed 100)))
    (Config.initial ⟨loneTenant, 0⟩)
    (fun config => deletes 0 config && runs (fun _ _ => 102) config (.step 0 (.proceed 200)))
    (by decide +kernel)
  rw [Bool.and_eq_true] at ready
  obtain ⟨config', acted, told⟩ := (Option.any_eq_true _ _).mp ready.1
  exact ⟨config, config', reaches, acted, of_decide_eq_true told,
    spares_of_reaches reaches ready.2 acted⟩

/-- In some run the process deletes user 102, whom a pending invitation carries. -/
def DeletesInvitee (index : Nat) : Prop :=
  ∃ config config', server.Reaches (code (fun _ _ => 102) 1) (fun _ _ => True)
      (Config.initial ⟨loneTenant, 0⟩) config ∧
    server.act (code (fun _ _ => 102) 1) (.step index (.proceed 200)) config = some config' ∧
    config'.shared.db.realm = config.shared.db.realm ++ [.deleteUser 1 102] ∧
    ∃ row ∈ config.shared.db.invitations, carries 102 row = true

theorem deletesInvitee_of_run {index : Nat} (actions : List (Action Call (Chance PgError) Nat))
    (passed : (server.run (code (fun _ _ => 102) 1) (fun _ _ => True) actions
      (Config.initial ⟨loneTenant, 0⟩)).any (fun config => deletes index config &&
        config.shared.db.invitations.rows.any (carries 102)) = true) : DeletesInvitee index := by
  obtain ⟨config, reaches, ready⟩ := server.exists_reaches_of_run _ _ actions _ _ passed
  rw [Bool.and_eq_true, List.any_eq_true] at ready
  obtain ⟨told, row, mem, carried⟩ := ready
  obtain ⟨config', acted, told⟩ := (Option.any_eq_true _ _).mp told
  exact ⟨config, config', reaches, acted, of_decide_eq_true told, row, mem, carried⟩

/-- Two calls look for an invitation of the email before one of them commits it, and the
other one runs into the unique index; or the only call is not told that its invitation is
committed.  Either deletes the user of the pending invitation. -/
theorem exists_deleted_invitee : DeletesInvitee 1 ∧ DeletesInvitee 0 :=
  ⟨deletesInvitee_of_run ([.start inviteB, .start inviteB] ++
      List.replicate 3 (.step 1 (.proceed 200)) ++ List.replicate 19 (.step 0 (.proceed 100)) ++
      List.replicate 18 (.step 1 (.proceed 200))) (by decide +kernel),
    deletesInvitee_of_run (.start inviteB :: List.replicate 18 (.step 0 (.proceed 100)) ++
      .step 0 .lose :: List.replicate 2 (.step 0 (.proceed 100))) (by decide +kernel)⟩

end Compensation

end OrgMembership
