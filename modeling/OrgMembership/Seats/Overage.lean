import OrgMembership.Seats.Cap

/-!
# Overage

Every call that touches memberships or invitations, one after the other.  The
seats in use never exceed the licensed ones in a run in which a member is made
active only while a seat is free or under the lock of a pending invitation.
-/

namespace OrgMembership

open Concurrency Relational

namespace Overage

/-- The calls that seat members, and P-7, I-4, P-8 and I-5. -/
inductive Call
  | seats (call : Seats.Call)
  | setStatus (userID : Uuid) (status : MembershipStatus) (expectedVersion : Int)
      (workflow : WorkflowAnswer)
  | setMembershipStatus (userID : Uuid) (status : MembershipStatus) (expectedVersion : Int)
  | removeUser (userID actorID : Uuid) (workflow : WorkflowAnswer)
  | deleteMember (userID : Uuid)

/-- The program of a call for the tenant. -/
def code (tenantID : Uuid) : Call → DbProgram (Except Failure Unit)
  | .seats call => Seats.code tenantID call
  | .setStatus userID status expectedVersion workflow =>
      Fallible.run do
        let _ ← setStatus tenantID userID status expectedVersion workflow
        return ()
  | .setMembershipStatus userID status expectedVersion =>
      Fallible.run do
        let _ ← setMembershipStatus tenantID userID status expectedVersion
        return ()
  | .removeUser userID actorID workflow => (removeUser tenantID userID actorID workflow).run
  | .deleteMember userID =>
      Fallible.run do
        let _ ← deleteMember tenantID userID
        return ()

/-- One call at a time. -/
def sequential
    (executes : DbConfig Call (Except Failure Unit) → Statement Query → DbSession → Bool) :
    DbConfig Call (Except Failure Unit) → Action Call (Chance PgError) Nat → Bool
  | config, .start _ => config.processes.all Process.returned
  | config, .step index choice =>
      allows (fun _ => true) (fun config _ _ statement session => executes config statement session)
        config (.step index choice : Action Call (Chance PgError) Nat)
  | _, _ => true

/-- The sequential runs in which a member is made active while a seat is free or
under the lock of a pending invitation. -/
def runs (tenantID : Uuid) (seats : Int) : DbConfig Call (Except Failure Unit) →
    Action Call (Chance PgError) Nat → Bool :=
  sequential fun config statement session =>
    Seats.covered tenantID seats config.shared session statement

/-! ## Changing a status -/

open Seats

/-- What the transaction sees is within the license. -/
structure Alone (tenantID : Uuid) (seats : Int) (server : DbServer) (session : DbSession) :
    Prop where
  licensed : Licensed tenantID seats (dialect.view server session)
  within : (occupancy tenantID server.now (dialect.view server session) : Int) ≤ seats

/-- Taking no seat, or making a member active. -/
def Settable (tenantID userID : Uuid) (query : Query) : Prop :=
  Mild tenantID query ∨
    ∃ id version, query = .membership (.setStatus id tenantID userID .active version)

section Status

variable {σ α : Type} {tenantID userID : Uuid} {seats : Int}

theorem stable_alone : (protocol tenantID seats true).Stable (Alone tenantID seats) := by
  intro before after session _ _ rely alone
  rcases rely with ⟨actor, ⟨interleaved, _⟩, _⟩ | ⟨same, later⟩
  · exact absurd interleaved (by simp)
  · have view : dialect.view after session = dialect.view before session := by
      rw [Dialect.view, Dialect.view, same]
    refine ⟨view ▸ alone.licensed, ?_⟩
    have fewer : occupancy tenantID after.now (dialect.view before session) ≤
        occupancy tenantID before.now (dialect.view before session) :=
      (Shrinks.refl _).occupancy_le later
    have within := alone.within
    rw [view]
    omega

theorem Alone.shrinks {server : DbServer} {session : DbSession} {query : Query}
    {result : query.Result} {locks : List (Lock LockKey)} {writes : List Write}
    (alone : Alone tenantID seats server session)
    (shrinks : Shrinks tenantID (dialect.view server session)
      (dialect.applyAll writes (dialect.view server session))) :
    Alone tenantID seats server (session.extended query result locks writes) := by
  have fewer : occupancy tenantID server.now
        (dialect.applyAll writes (dialect.view server session)) ≤
      occupancy tenantID server.now (dialect.view server session) := shrinks.occupancy_le le_rfl
  have within := alone.within
  constructor
  · rw [Dialect.view_extended]
    exact shrinks.licensed alone.licensed
  · rw [Dialect.view_extended]
    omega

/-- A member who is active already takes no other seat. -/
theorem shrinks_of_active {context : Context} {db : Db} {id : Uuid} {status : MembershipStatus}
    {version : Int} {result : Option TenantMembership} {writes : List Write}
    (yields : ((Query.membership (.setStatus id tenantID userID status version)).effect context
      db).Yields result writes)
    (active : ∃ row ∈ db.memberships, row.id = id ∧ row.activeIn tenantID = true) :
    Shrinks tenantID db (dialect.applyAll writes db) := by
  obtain ⟨row, mem, same, activeRow⟩ := active
  refine ⟨tenants_of_off yields (by simp), ?_, invitations_of_off yields (by simp)⟩
  refine inherits_applyAll membershipLawful (by simp) fun other put _ => ?_
  exact ⟨row, mem, same.trans (status_single yields put).symm, activeRow, trivial⟩

/-- Making a member active in a run in which nobody else acts. -/
theorem within_settable {body : DbM σ α}
    (issues : Fallible.Issues (Only (Settable tenantID userID)) body) :
    Within (protocol tenantID seats true) (Alone tenantID seats) body
      fun _ => Alone tenantID seats := by
  apply within_only lenient stable_alone _ issues
  rintro query (mild | ⟨id, version, rfl⟩) server session fresh result writes _ alone admits yields
  · exact alone.shrinks (mild _ _ _ _ yields)
  · have covers := admits.2
    simp only [covered, ne_eq, not_true_eq_false, decide_false, Bool.false_or, Bool.or_eq_true,
      decide_eq_true_eq] at covers
    rcases covers with already | room
    · obtain ⟨row, mem, found⟩ := List.any_eq_true.mp already
      rw [Bool.and_eq_true, decide_eq_true_eq] at found
      exact alone.shrinks (shrinks_of_active yields ⟨row, mem, found.1, found.2⟩)
    · have takes : TakesOne tenantID (dialect.view server session)
          (dialect.applyAll writes (dialect.view server session)) :=
        takesOne_membership yields fun row put => status_single yields put
      have more := takes.used server.now none
      rw [besides_none, besides_none] at more
      constructor
      · rw [Dialect.view_extended]
        exact takes.licensed alone.licensed
      · rw [Dialect.view_extended]
        omega

theorem idles_settable {body : DbM σ α}
    (issues : Fallible.Issues (Only (Settable tenantID userID)) body) :
    Idles (protocol tenantID seats true) (transaction .pg body) := by
  have runs : Within (protocol tenantID seats true) (fun _ session => session.Blank) body
      fun _ => Alone tenantID seats := by
    refine Attempt.strengthen (within_settable issues) fun server session inv blank => ?_
    have view : dialect.view server session = server.db := view_of_unwritten blank.unwritten
    exact ⟨view ▸ inv.1, view ▸ inv.2⟩
  apply attempt_idle_transaction lenient (fun _ => stable_alone) runs
  exact fun _ _ _ _ alone _ => commits_seen alone.licensed alone.within (.inr rfl)

theorem settable_setStatus {id : Uuid} {status : MembershipStatus} {version : Int} :
    Settable tenantID userID (.membership (.setStatus id tenantID userID status version)) := by
  by_cases active : status = .active
  · exact .inr ⟨id, version, by rw [active]⟩
  · exact .inl (mild_setMembership active)

theorem settable_read {query : Query} (reads : query.writesTo = []) :
    Settable tenantID userID query :=
  .inl (mild_read reads)

theorem issues_settable {status : MembershipStatus} {version : Int} :
    Fallible.Issues (Only (Settable tenantID userID))
      (MembershipRepository.setStatus tenantID userID status version : DbM σ _) :=
  MembershipRepository.issues_setStatus (settable_read rfl) (fun _ => settable_setStatus)
    (settable_read rfl)

theorem idles_statusChanged (status : MembershipStatus) (version : Int) :
    Idles (protocol tenantID seats true)
      (changeStatus tenantID userID status version : DbM σ _) := by
  apply idles_changeStatus lenient
  · exact idles_settable
      ((issues_guardLastOwner (settable_read rfl) (settable_read rfl)).bind fun _ =>
        issues_settable)
  · exact idles_settable issues_settable

theorem guards_mild : GuardAllowed (Mild tenantID) tenantID userID where
  lock := mild_read rfl
  find := mild_read rfl
  list := mild_read rfl
  count := mild_read rfl

theorem removes_mild (version : Int) :
    RemovalAllowed (Mild tenantID) tenantID userID version where
  scanRoles := mild_read rfl
  revokeRole _ := mild_of_off (by simp) (by simp) (by simp)
  scanDepts := mild_read rfl
  revokeDept _ := mild_of_off (by simp) (by simp) (by simp)
  scanMemberships := mild_read rfl
  endMembership _ := mild_endMembership
  probe := mild_read rfl
  publish _ _ := mild_of_off (by simp) (by simp) (by simp)

end Status

/-! ## Every run -/

variable {tenantID : Uuid} {seats : Int}

theorem verified : Verified server (protocol tenantID seats true) (code tenantID) (fun _ => True)
    fun _ _ _ session => session.Idle where
  triple call _ := by
    cases call with
    | seats call => exact Seats.triple_code call
    | setStatus userID status expectedVersion workflow =>
        exact triple_of_idles (idles_setStatus (idles_statusChanged status expectedVersion)).drop
    | setMembershipStatus userID status expectedVersion =>
        exact triple_of_idles (idles_withPool (idles_settable issues_settable)).drop
    | removeUser userID actorID workflow =>
        exact triple_of_idles (idles_removeUser
          (idles_giving (issues_removeUserTx guards_mild removes_mild)))
    | deleteMember userID =>
        exact triple_of_idles (idles_runInTx
          (idles_giving (issues_deleteMemberTx guards_mild removes_mild mild_markOwnerless))).drop
  settled _ _ := fun _ _ _ _ _ _ holds => holds
  drift elapsed server inv := inv_signal elapsed server inv

theorem enforces {start : DbServer} :
    Enforces server (protocol tenantID seats true) (code tenantID) (fun _ => True)
      (fun config action => runs tenantID seats config action = true) (Config.initial start) where
  admits _ _ _ := trivial
  executes config index choice config' call session statement next reaches permitted executes := by
    obtain ⟨disciplined, _⟩ := facts_of_executes reaches executes
    have covers : allows (fun _ => true)
        (fun config _ _ statement session => covered tenantID seats config.shared session statement)
        config (.step index choice : Action Call (Chance PgError) Nat) = true := permitted
    constructor
    · exact ⟨disciplined, executes_of_allows covers executes.current⟩
    · intro position other apart found running
      refine absurd running (reaches.alone ?_ (Ne.symm apart) executes.current found
        ⟨statement, next, rfl⟩)
      exact fun _ _ starting => starting

/-- One call after the other, the seats in use stay within the licensed ones in every
run in which a member is made active only while a seat is free or under the lock of
a pending invitation. -/
theorem within_license_of_sequence {start : DbServer}
    {config : DbConfig Call (Except Failure Unit)} (licensed : Licensed tenantID seats start.db)
    (within : (occupancy tenantID start.now start.db : Int) ≤ seats)
    (reaches : server.Reaches (code tenantID)
      (fun config action => runs tenantID seats config action = true) (Config.initial start)
      config) :
    (occupancy tenantID config.shared.now config.shared.db : Int) ≤ seats :=
  (reaches.inv verified enforces ⟨licensed, within⟩).2

/-- The invitation is accepted, and the member is suspended and reactivated. -/
theorem within_license_after_reactivation :
    ∃ config, server.Reaches (code 1) (fun config action => runs 1 1 config action = true)
        (Config.initial ⟨oneSeat, 0⟩) config ∧
      (config.shared.db.memberships.rows.any fun row => row.activeIn 1 && row.recordVersion = 3) =
        true ∧
      (occupancy 1 config.shared.now config.shared.db : Int) ≤ 1 := by
  obtain ⟨config, reaches, reactivated⟩ := server.exists_reaches_of_run (code 1)
    (fun config action => runs 1 1 config action = true)
    (.start (.seats (.addFromRegister 201 101 "" false)) ::
      List.replicate 13 (.step 0 (.proceed 100)) ++
      .start (.setMembershipStatus 201 .suspended 1) ::
      List.replicate 4 (.step 1 (.proceed 100)) ++
      .start (.setMembershipStatus 201 .active 2) :: List.replicate 4 (.step 2 (.proceed 100)))
    (Config.initial ⟨oneSeat, 0⟩)
    (fun config => config.shared.db.memberships.rows.any fun row =>
      row.activeIn 1 && row.recordVersion = 3) (by decide +kernel)
  exact ⟨config, reaches, reactivated,
    within_license_of_sequence oneSeat_licensed (by decide +kernel) reaches⟩

/-- A user without an invitation registers while the only seat is taken. -/
theorem exists_overage :
    Licensed 1 1 oneSeat ∧ (occupancy 1 0 oneSeat : Int) ≤ 1 ∧
      ∃ config, server.Reaches (code 1)
          (fun config action => sequential (fun _ _ _ => true) config action = true)
          (Config.initial ⟨oneSeat, 0⟩) config ∧
        config.processes.all Process.returned = true ∧
        1 < (occupancy 1 config.shared.now config.shared.db : Int) := by
  refine ⟨oneSeat_licensed, by decide +kernel, ?_⟩
  obtain ⟨config, reaches, above⟩ := server.exists_reaches_of_run (code 1)
    (fun config action => sequential (fun _ _ _ => true) config action = true)
    (.start (.seats (.addFromRegister 202 102 "" false)) ::
      List.replicate 7 (.step 0 (.proceed 100)))
    (Config.initial ⟨oneSeat, 0⟩)
    (fun config => config.processes.all Process.returned &&
      decide (1 < (occupancy 1 config.shared.now config.shared.db : Int))) (by decide +kernel)
  rw [Bool.and_eq_true, decide_eq_true_eq] at above
  exact ⟨config, reaches, above⟩

end Overage

end OrgMembership
