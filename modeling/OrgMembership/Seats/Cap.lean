import OrgMembership.Lifecycle.Patch
import OrgMembership.Seats.Acceptance

/-!
# The seat cap under concurrency

P-6, I-3, P-31 and the expiry sweep, interleaved.  The seats in use never exceed
the licensed ones in a run in which I-3 adds a member only while a seat is free
or under the lock of a pending invitation.
-/

namespace OrgMembership

open Concurrency Relational

namespace Seats

/-- The calls that move the seats of one tenant. -/
inductive Call
  | invite (config : InvitationConfig) (peers : InvitationPeers) (input : InvitationInput)
      (actorID : Uuid)
  | addFromRegister (userID keycloakUserID : Uuid) (email : String) (isServiceAccount : Bool)
  | revoke (id : Uuid) (expectedVersion : Int)
  | expireInvitations (limit : Nat)

/-- The program of a call for the tenant. -/
def code (tenantID : Uuid) : Call → DbProgram (Except Failure Unit)
  | .invite config peers input actorID =>
      Fallible.run do
        let _ ← invite config peers tenantID input actorID
        return ()
  | .addFromRegister userID keycloakUserID email isServiceAccount =>
      Fallible.run do
        let _ ← addFromRegister tenantID userID keycloakUserID email isServiceAccount
        return ()
  | .revoke id expectedVersion =>
      Fallible.run do
        let _ ← OrgMembership.revoke tenantID id expectedVersion
        return ()
  | .expireInvitations limit =>
      Fallible.run do
        let _ ← OrgMembership.expireInvitations limit
        return ()

/-- The runs in which members are added while a seat is free or under the lock of a
pending invitation. -/
def runs (tenantID : Uuid) (seats : Int) : DbConfig Call (Except Failure Unit) →
    Action Call (Chance PgError) Nat → Bool :=
  allows (fun _ => true) fun config _ _ statement session =>
    covered tenantID seats config.shared session statement

section Calls

variable {σ : Type} {tenantID : Uuid} {seats : Int} {sequential : Bool}

theorem idles_invited (config : InvitationConfig) (peers : InvitationPeers)
    (input : InvitationInput) (actorID : Uuid) :
    Idles (protocol tenantID seats sequential)
      (invite config peers tenantID input actorID : DbM σ _) := by
  apply idles_invite lenient
  · intro input keycloakUserID
    exact idles_holding within_inviteTx
  · intro keycloakUserID
    exact idles_giving (issues_send (mild_of_off (by simp) (by simp) (by simp)))

theorem idles_erased {id : Uuid} :
    Idles (protocol tenantID seats sequential)
      (transaction .pg (InvitationRepository.erasePII tenantID id) : DbM σ _) :=
  idles_giving (issues_send (mild_invitation nofun))

theorem idles_registered (userID keycloakUserID : Uuid) (email : String)
    (isServiceAccount : Bool) :
    Idles (protocol tenantID seats sequential)
      (addFromRegister tenantID userID keycloakUserID email isServiceAccount : DbM σ _) :=
  idles_addFromRegister lenient (idles_holding within_addFromRegisterTx) fun _ => idles_erased

theorem idles_revoked (id : Uuid) (version : Int) :
    Idles (protocol tenantID seats sequential)
      (OrgMembership.revoke tenantID id version : DbM σ _) := by
  apply idles_revoke
  · exact idles_giving
      (InvitationRepository.issues_setStatus (mild_invitation nofun) (mild_read rfl))
  · exact fun version => idles_giving
      (InvitationRepository.issues_setKCCleanupPending (mild_invitation nofun) (mild_read rfl))
  · exact idles_erased

theorem idles_expired (limit : Nat) :
    Idles (protocol tenantID seats sequential)
      (OrgMembership.expireInvitations limit : DbM σ _) :=
  idles_withPool (idles_giving (InvitationRepository.issues_expireOverdue (mild_read rfl)
    fun _ => mild_invitation nofun))

end Calls

/-! ## Every run -/

variable {tenantID : Uuid} {seats : Int}

theorem inv_signal {sequential : Bool} (elapsed : Nat) (server : DbServer)
    (inv : (protocol tenantID seats sequential).Inv server) :
    (protocol tenantID seats sequential).Inv (OrgMembership.server.signal elapsed server) ∧
      (protocol tenantID seats sequential).Drift server
        (OrgMembership.server.signal elapsed server) := by
  have later : server.now ≤ server.now + elapsed := by omega
  refine ⟨⟨inv.1, ?_⟩, rfl, later⟩
  have fewer : occupancy tenantID (server.now + elapsed) server.db ≤
      occupancy tenantID server.now server.db := (Shrinks.refl server.db).occupancy_le later
  have within := inv.2
  change (occupancy tenantID (server.now + elapsed) server.db : Int) ≤ seats
  omega

theorem triple_code {sequential : Bool} (call : Call) :
    Triple server (protocol tenantID seats sequential) (fun _ session => session = server.fresh)
      (code tenantID call) fun _ _ session => session.Idle := by
  cases call with
  | invite config peers input actorID =>
      exact triple_of_idles (idles_invited config peers input actorID).drop
  | addFromRegister userID keycloakUserID email isServiceAccount =>
      exact triple_of_idles (idles_registered userID keycloakUserID email isServiceAccount).drop
  | revoke id expectedVersion => exact triple_of_idles (idles_revoked id expectedVersion).drop
  | expireInvitations limit => exact triple_of_idles (idles_expired limit).drop

theorem verified : Verified server (protocol tenantID seats false) (code tenantID) (fun _ => True)
    fun _ _ _ session => session.Idle where
  triple call _ := triple_code call
  settled _ _ := fun _ _ _ _ _ _ holds => holds
  drift elapsed server inv := inv_signal elapsed server inv

theorem enforces {start : DbServer} :
    Enforces server (protocol tenantID seats false) (code tenantID) (fun _ => True)
      (fun config action => runs tenantID seats config action = true) (Config.initial start) where
  admits _ _ _ := trivial
  executes config index choice config' call session statement next reaches permitted executes := by
    obtain ⟨disciplined, others⟩ := facts_of_executes reaches executes
    refine ⟨⟨disciplined, executes_of_allows permitted executes.current⟩, ?_⟩
    intro position other apart found _
    obtain ⟨compatible, mine⟩ := others position other apart found
    exact ⟨rfl, compatible, disciplined, mine⟩

/-- The seats in use stay within the licensed ones in every run of P-6, I-3, P-31
and the expiry sweep in which I-3 adds a member only while a seat is free or under
the lock of a pending invitation. -/
theorem within_license_of_reaches {start : DbServer} {config : DbConfig Call (Except Failure Unit)}
    (licensed : Licensed tenantID seats start.db)
    (within : (occupancy tenantID start.now start.db : Int) ≤ seats)
    (reaches : server.Reaches (code tenantID)
      (fun config action => runs tenantID seats config action = true) (Config.initial start)
      config) :
    (occupancy tenantID config.shared.now config.shared.db : Int) ≤ seats :=
  (reaches.inv verified enforces ⟨licensed, within⟩).2

/-- A tenant with one seat, held by an invitation. -/
def oneSeat : Db :=
  { Db.empty with
    tenants := .singleton { trialRow with licensedSeats := 1 }
    invitations := .singleton
      { id := 31, tenantID := 1, email := "a@acme", fullName := "A", initialTenantRoles := [],
        initialDeptMappings := [], invitedBy := 9, keycloakUserID := some 101,
        status := .pending, expiresAt := days 7, acceptedAt := none, kcCleanupPending := false,
        recordVersion := 1, createdAt := 0, updatedAt := 0 } }

theorem oneSeat_licensed : Licensed 1 1 oneSeat := by
  intro tenant mem _
  rw [List.mem_singleton.mp mem]

/-- The invitation is accepted. -/
theorem within_license_after_acceptance :
    ∃ config, server.Reaches (code 1) (fun config action => runs 1 1 config action = true)
        (Config.initial ⟨oneSeat, 0⟩) config ∧
      (config.shared.db.memberships.rows.any (·.activeIn 1)) = true ∧
      (occupancy 1 config.shared.now config.shared.db : Int) ≤ 1 := by
  obtain ⟨config, reaches, added⟩ := server.exists_reaches_of_run (code 1)
    (fun config action => runs 1 1 config action = true)
    (.start (.addFromRegister 201 101 "" false) :: List.replicate 10 (.step 0 (.proceed 100)))
    (Config.initial ⟨oneSeat, 0⟩)
    (fun config => config.shared.db.memberships.rows.any (·.activeIn 1)) (by decide +kernel)
  exact ⟨config, reaches, added,
    within_license_of_reaches oneSeat_licensed (by decide +kernel) reaches⟩

/-- The call has found a pending invitation. -/
def lookedUp (session : DbSession) : Bool :=
  session.history.any fun
    | .issued (.invitation (.findPendingByKeycloakUser _ _)) found => found.isSome
    | .issued (.invitation (.findPendingByEmail _ _)) found => found.isSome
    | _ => false

/-- The runs in which I-3 serves users without a membership whose invitation its
first lookup has found. -/
def invitedOnly (tenantID : Uuid) : DbConfig Call (Except Failure Unit) →
    Action Call (Chance PgError) Nat → Bool :=
  allows (fun _ => true) fun config _ _ statement session =>
    match statement with
    | .query (.membership (.insert _ userID _)) =>
        lookedUp session && config.shared.db.memberships.rows.all fun row =>
          !row.isOf tenantID userID
    | _ => true

/-- A Realm Provisioner that gives the user 102 to every request. -/
def realm : InvitationPeers where
  createInvitedUser _ := some 102
  isServiceAccount _ := false

/-- I-3 finds the invitation; it is revoked, and another one takes its seat.  I-3 sees
that its candidate is no longer pending and adds the member without asking for a
seat. -/
theorem exists_overbooked_run :
    Licensed 1 1 oneSeat ∧ (occupancy 1 0 oneSeat : Int) ≤ 1 ∧
      ∃ config, server.Reaches (code 1) (fun config action => invitedOnly 1 config action = true)
          (Config.initial ⟨oneSeat, 0⟩) config ∧
        (∀ process ∈ config.processes, process.loc.inTx = false) ∧
        1 < (occupancy 1 config.shared.now config.shared.db : Int) := by
  refine ⟨oneSeat_licensed, by decide +kernel, ?_⟩
  obtain ⟨config, reaches, above⟩ := server.exists_reaches_of_run (code 1)
    (fun config action => invitedOnly 1 config action = true)
    ([.start (.addFromRegister 201 101 "" false), .start (.revoke 31 1),
        .start (.invite ⟨7, 0, 0, 0⟩ realm ⟨"b@acme", "B", [], []⟩ 9)] ++
      List.replicate 3 (.step 0 (.proceed 100)) ++ List.replicate 9 (.step 1 (.proceed 100)) ++
      List.replicate 19 (.step 2 (.proceed 200)) ++ List.replicate 5 (.step 0 (.proceed 300)))
    (Config.initial ⟨oneSeat, 0⟩)
    (fun config => config.processes.all (fun process => !process.loc.inTx) &&
      decide (1 < (occupancy 1 config.shared.now config.shared.db : Int))) (by decide +kernel)
  simp only [Bool.and_eq_true, List.all_eq_true, Bool.not_eq_true', decide_eq_true_eq] at above
  exact ⟨config, reaches, above⟩

end Seats

end OrgMembership
