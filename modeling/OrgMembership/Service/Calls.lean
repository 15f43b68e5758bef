import OrgMembership.Repository.Rules
import OrgMembership.Service.Footprint
import OrgMembership.Service.Operator

/-!
# The calls of the services

Outside their transactions the calls only read.  So a call keeps a protocol if
its transactions do, whatever the reads before them answer.
-/

namespace OrgMembership

open Concurrency Relational

/-- The calls about one user. -/
inductive UserCall
  | setStatus (status : MembershipStatus) (expectedVersion : Int) (workflow : WorkflowAnswer)
  | reconcileRoles (desired : List TenantRoleCode) (actorID : Uuid) (isServiceAccount : Bool)
      (grantOrder revokeOrder : MapOrder)
  | removeUser (actorID : Uuid) (workflow : WorkflowAnswer)
  | setMembershipStatus (status : MembershipStatus) (expectedVersion : Int)
  | deleteMember
  | assign (departmentID : Uuid) (level : DeptRole) (actorID : Uuid) (answers : AssignAnswers)
  | remove (departmentID actorID : Uuid) (impact : Option DelegateImpact)
  | assignFromGroups (groups : List String) (mappings : GroupMappings) (order : MapOrder)
  | addFromRegister (keycloakUserID : Uuid) (email : String) (isServiceAccount : Bool)
  | reassignOwner (actorID : Uuid)

/-- What the call does to the database; its answer is dropped. -/
def performCall (tenantID userID : Uuid) : UserCall → DbM Unit Unit
  | .setStatus status expectedVersion workflow => do
      let _ ← setStatus tenantID userID status expectedVersion workflow
      return ()
  | .reconcileRoles desired actorID isServiceAccount grantOrder revokeOrder => do
      let _ ← reconcileRoles tenantID userID desired actorID isServiceAccount grantOrder revokeOrder
      return ()
  | .removeUser actorID workflow => removeUser tenantID userID actorID workflow
  | .setMembershipStatus status expectedVersion => do
      let _ ← setMembershipStatus tenantID userID status expectedVersion
      return ()
  | .deleteMember => do
      let _ ← deleteMember tenantID userID
      return ()
  | .assign departmentID level actorID answers => do
      let _ ← assign tenantID userID departmentID level actorID answers
      return ()
  | .remove departmentID actorID impact => do
      let _ ← remove tenantID userID departmentID actorID impact
      return ()
  | .assignFromGroups groups mappings order => do
      let _ ← assignFromGroups tenantID userID groups mappings order
      return ()
  | .addFromRegister keycloakUserID email isServiceAccount => do
      let _ ← addFromRegister tenantID userID keycloakUserID email isServiceAccount
      return ()
  | .reassignOwner actorID => do
      let _ ← reassignOwner tenantID userID actorID
      return ()

variable {σ : Type} {protocol : DbProtocol} {tenantID userID : Uuid}
variable {free : Assertion DbServer DbSession} {answers : AssignAnswers} {isServiceAccount : Bool}
  {level : DeptRole} {email : String} {post : TenantMembership → Assertion DbServer DbSession}
  {id : Uuid} {workflow : WorkflowAnswer}

/-! ## Memberships -/

section Memberships

variable {pre : Assertion DbServer DbSession} {status : MembershipStatus} {version : Int}

theorem atomic_changeStatus (reader : Reader protocol pre) (guarded : Atomic protocol pre
      (runInTx (suspendOwner tenantID userID status version) : DbM σ _) post)
    (unguarded : Atomic protocol pre
      (withPool (MembershipRepository.setStatus tenantID userID status version) : DbM σ _) post) :
    Atomic protocol pre (changeStatus tenantID userID status version : DbM σ _) post := by
  rw [changeStatus]
  split
  · refine Attempt.bind (reader.withPool (issues_send (confined_of_reads rfl))) fun roles => ?_
    split
    · exact guarded
    · exact unguarded
  · exact unguarded

theorem idles_changeStatus (lenient : Lenient protocol)
    (guarded : Idles protocol
      (transaction .pg (suspendOwner tenantID userID status version) : DbM σ _))
    (unguarded : Idles protocol
      (transaction .pg (MembershipRepository.setStatus tenantID userID status version) : DbM σ _)) :
    Idles protocol (changeStatus tenantID userID status version : DbM σ _) :=
  atomic_changeStatus (reader_idle lenient) (idles_runInTx guarded) (idles_withPool unguarded)

theorem atomic_setStatus
    (changes : Atomic protocol pre (changeStatus tenantID userID status version : DbM σ _) post) :
    Atomic protocol pre (setStatus tenantID userID status version workflow : DbM σ _)
      fun result => post result.membership :=
  Attempt.bind changes fun _ => Attempt.pure fun _ _ _ holds => holds

theorem idles_setStatus
    (changes : Idles protocol (changeStatus tenantID userID status version : DbM σ _)) :
    Idles protocol (setStatus tenantID userID status version workflow : DbM σ _) :=
  atomic_setStatus changes

theorem attempt_removeUser {actorID : Uuid} {post : Unit → Assertion DbServer DbSession}
    {fails : Failure → Assertion DbServer DbSession}
    (refused : ∀ failure server session, pre server session → fails failure server session)
    (removes : Attempt server protocol pre
      (runInTx (removeUserTx tenantID userID actorID) : DbM σ _) post fails) :
    Attempt server protocol pre (removeUser tenantID userID actorID workflow : DbM σ _) post
      fails := by
  have throws : ∀ {failure : Failure}, Attempt server protocol pre (throw failure : DbM σ Unit)
      post fails := Attempt.throw fun server session _ => refused _ server session
  cases workflow with
  | unavailable => exact throws
  | unwired => exact removes
  | impact impact =>
      rw [removeUser]
      split
      · exact throws
      · exact removes

theorem idles_removeUser {actorID : Uuid}
    (removes : Idles protocol (transaction .pg (removeUserTx tenantID userID actorID) : DbM σ _)) :
    Idles protocol (removeUser tenantID userID actorID workflow : DbM σ _) :=
  attempt_removeUser (fun _ _ _ idle => idle) (idles_runInTx removes)

theorem keeps_precheckLastOwner {strippingOwner : Bool} (reader : Reader protocol pre) :
    Keeps protocol pre (precheckLastOwner tenantID strippingOwner : DbM σ _) := by
  rw [precheckLastOwner]
  split
  · refine Attempt.bind (reader.withPool (issues_send (confined_of_reads rfl))) fun owners => ?_
    split
    · exact atomic_throw
    · exact Attempt.pure fun _ _ _ holds => holds
  · exact Attempt.pure fun _ _ _ holds => holds

/-- Only roles that are asked for are granted, and the owner role is among the roles to revoke
only if the call strips the owner. -/
theorem atomic_reconcileRoles {desired : List TenantRoleCode} {actorID : Uuid}
    {grantOrder revokeOrder : MapOrder} {post : Assertion DbServer DbSession}
    (reader : Reader protocol pre)
    (reconciles : ∀ membershipID strippingOwner grants revokes, (∀ code ∈ grants, code ∈ desired) →
      (strippingOwner = false → .tenantOwner ∉ revokes) →
        Atomic protocol pre (runInTx (reconcileTx tenantID userID membershipID actorID
          strippingOwner grants revokes)) fun _ => post) :
    Atomic protocol pre (reconcileRoles tenantID userID desired actorID isServiceAccount grantOrder
      revokeOrder : DbM σ _) fun _ => post := by
  rw [reconcileRoles]
  split
  · exact atomic_throw
  · split
    · exact atomic_throw
    · refine Attempt.bind (reader.withPool
        (MembershipRepository.issues_findByUserID (confined_of_reads rfl))) fun membership => ?_
      refine Attempt.bind (reader.withPool (issues_send (confined_of_reads rfl)))
        fun current => ?_
      refine Attempt.bind (keeps_precheckLastOwner reader) fun _ => ?_
      refine Attempt.bind (Attempt.capturing (reconciles _ _ _ _ ?_ ?_)) fun _ =>
        Attempt.pure fun _ _ _ holds => holds
      · intro code granted
        simp only [MapOrder.visit, List.mem_filter, Bool.and_eq_true] at granted
        exact List.contains_iff_mem.mp granted.2.1
      · intro kept revoked
        simp only [MapOrder.visit, List.mem_filter] at revoked
        rw [kept] at revoked
        exact absurd revoked.2 (by simp)

theorem idles_reconcileRoles {desired : List TenantRoleCode} {actorID : Uuid}
    {grantOrder revokeOrder : MapOrder} (lenient : Lenient protocol)
    (reconciles : ∀ membershipID strippingOwner grants revokes,
      (strippingOwner = false → .tenantOwner ∉ revokes) →
        Idles protocol (transaction .pg (reconcileTx tenantID userID membershipID actorID
          strippingOwner grants revokes))) :
    Idles protocol (reconcileRoles tenantID userID desired actorID isServiceAccount grantOrder
      revokeOrder : DbM σ _) :=
  atomic_reconcileRoles (reader_idle lenient) fun _ _ _ _ _ strips =>
    idles_runInTx (reconciles _ _ _ _ strips)

end Memberships

/-! ## Departments -/

section Departments

variable {pre : Assertion DbServer DbSession} {departmentID : Uuid}

theorem keeps_checkTenantDept (reader : Reader protocol pre) :
    Keeps protocol pre (withPool (checkTenantDept tenantID departmentID) : DbM σ _) := by
  apply reader.withPool
  refine (issues_send (confined_of_reads rfl)).bind fun found => ?_
  cases found with
  | none => exact Fallible.issues_throw _
  | some row =>
      dsimp only
      split
      · exact Fallible.issues_pure _
      · exact Fallible.issues_throw _

theorem keeps_findActiveMember (reader : Reader protocol pre) :
    Keeps protocol pre (withPool (findActiveMember tenantID userID) : DbM σ _) := by
  apply reader.withPool
  refine (issues_send (confined_of_reads rfl)).bind fun found => ?_
  cases found with
  | none => exact Fallible.issues_throw _
  | some row =>
      dsimp only
      split
      · exact Fallible.issues_pure _
      · exact Fallible.issues_throw _

theorem keeps_demotionGate (reader : Reader protocol pre) :
    Keeps protocol pre (demotionGate tenantID userID departmentID level answers : DbM σ _) := by
  rw [demotionGate]
  split
  · exact Attempt.pure fun _ _ _ holds => holds
  · refine Attempt.bind (reader.withPool
      (issues_send (confined_of_reads rfl))).observe fun snapshot => ?_
    dsimp only
    split
    · split
      · exact atomic_throw
      · exact Attempt.pure fun _ _ _ holds => holds
    · exact Attempt.pure fun _ _ _ holds => holds

theorem atomic_assign {actorID : Uuid} {post : DeptMembership → Assertion DbServer DbSession}
    (reader : Reader protocol pre) (assigns : ∀ membershipID, Atomic protocol pre
      (runInTx (assignTx tenantID userID departmentID membershipID actorID level) : DbM σ _) post) :
    Atomic protocol pre (assign tenantID userID departmentID level actorID answers : DbM σ _)
      post := by
  rw [assign]
  split
  · exact atomic_throw
  split
  · exact atomic_throw
  split
  · exact atomic_throw
  · refine Attempt.bind (keeps_checkTenantDept reader) fun _ => ?_
    refine Attempt.bind (keeps_findActiveMember reader) fun membership => ?_
    refine Attempt.bind (keeps_demotionGate reader) fun _ => ?_
    exact assigns membership.id

theorem idles_assign {actorID : Uuid} (lenient : Lenient protocol)
    (assigns : ∀ membershipID, Idles protocol
      (transaction .pg (assignTx tenantID userID departmentID membershipID actorID level) :
        DbM σ _)) :
    Idles protocol (assign tenantID userID departmentID level actorID answers : DbM σ _) :=
  atomic_assign (reader_idle lenient) fun membershipID => idles_runInTx (assigns membershipID)

theorem attempt_remove {actorID : Uuid} {impact : Option DelegateImpact}
    {post : DeptMembership → Assertion DbServer DbSession}
    {fails : Failure → Assertion DbServer DbSession}
    (refused : ∀ failure server session, pre server session → fails failure server session)
    (removes : Attempt server protocol pre
      (runInTx (removeTx tenantID userID departmentID actorID) : DbM σ _) post fails) :
    Attempt server protocol pre (remove tenantID userID departmentID actorID impact : DbM σ _) post
      fails := by
  cases impact with
  | none => exact removes
  | some impact =>
      rw [remove]
      split
      · exact Attempt.throw fun server session _ => refused _ server session
      · exact removes

theorem atomic_assignFromGroups {groups : List String} {mappings : GroupMappings} {order : MapOrder}
    {post : Assertion DbServer DbSession} (reader : Reader protocol pre)
    (unmapped : ∀ server session, pre server session → post server session)
    (assigns : ∀ membershipID, Atomic protocol pre (runInTx (assignFromGroupsTx tenantID userID
      membershipID (resolveDeptRoles mappings groups) (resolvesRole mappings groups) order))
        fun _ => post) :
    Atomic protocol pre (assignFromGroups tenantID userID groups mappings order : DbM σ _)
      fun _ => post := by
  rw [assignFromGroups]
  split
  · exact Attempt.pure fun server session _ holds => unmapped server session holds
  · refine Attempt.bind (reader.withPool
      (MembershipRepository.issues_findByUserID (confined_of_reads rfl))) fun membership => ?_
    exact Attempt.bind (Attempt.capturing (assigns _)) fun _ =>
      Attempt.pure fun _ _ _ holds => holds

theorem idles_assignFromGroups {groups : List String} {mappings : GroupMappings} {order : MapOrder}
    (lenient : Lenient protocol)
    (assigns : ∀ membershipID targets roles, Idles protocol
      (transaction .pg (assignFromGroupsTx tenantID userID membershipID targets roles order))) :
    Idles protocol (assignFromGroups tenantID userID groups mappings order : DbM σ _) :=
  atomic_assignFromGroups (reader_idle lenient) (fun _ _ idle => idle) fun _ =>
    idles_runInTx (assigns _ _ _)

end Departments

/-! ## Owners -/

theorem keeps_findOwnerCandidate {pre : Assertion DbServer DbSession}
    (reader : Reader protocol pre) :
    Keeps protocol pre (findOwnerCandidate tenantID userID : DbM σ _) := by
  refine Attempt.bind (reader.withPool
    (MembershipRepository.issues_findByUserID (confined_of_reads rfl))).observe fun found => ?_
  cases found with
  | error failure => exact atomic_throw
  | ok membership =>
      dsimp only
      split
      · exact Attempt.pure fun _ _ _ holds => holds
      · exact atomic_throw

theorem atomic_reassignOwner {pre : Assertion DbServer DbSession} {actorID : Uuid}
    {post : TenantRole → Assertion DbServer DbSession} (reader : Reader protocol pre)
    (reassigns : ∀ membershipID, Atomic protocol pre
      (runInTx (reassignOwnerTx tenantID userID membershipID actorID) : DbM σ _) post) :
    Atomic protocol pre (reassignOwner tenantID userID actorID : DbM σ _) post := by
  have finds : Keeps protocol pre (withPool (TenantRepository.findByID tenantID) : DbM σ _) := by
    refine reader.withPool ((issues_send (confined_of_reads rfl)).bind fun found => ?_)
    cases found with
    | none => exact Fallible.issues_throw _
    | some tenant => exact Fallible.issues_pure _
  refine Attempt.bind finds fun tenant => ?_
  split
  · exact atomic_throw
  · exact Attempt.bind (keeps_findOwnerCandidate reader) fun membership =>
      reassigns membership.id

/-! ## Invitations -/

/-- A failure of the erasure is not one of the call. -/
theorem attempt_erasePIIBestEffort {pre : Assertion DbServer DbSession}
    {fails : Failure → Assertion DbServer DbSession}
    (erases : Keeps protocol pre (withPool (InvitationRepository.erasePII tenantID id) : DbM σ _)) :
    Attempt server protocol pre (erasePIIBestEffort tenantID id : DbM σ _) (fun _ => pre)
      fails := by
  refine Attempt.bind (Attempt.observe erases) fun result => ?_
  cases result <;> exact Attempt.pure fun _ _ _ holds => holds

theorem idles_erasePIIBestEffort (erases : Idles protocol
      (transaction .pg (InvitationRepository.erasePII tenantID id) : DbM σ _)) :
    Idles protocol (erasePIIBestEffort tenantID id : DbM σ _) :=
  attempt_erasePIIBestEffort (idles_withPool erases)

theorem keeps_findPendingFor {pre : Assertion DbServer DbSession} {keycloakUserID : Uuid}
    (reader : Reader protocol pre) :
    Keeps protocol pre (findPendingFor tenantID keycloakUserID email : DbM σ _) := by
  refine Attempt.bind (reader.withPool (issues_send (confined_of_reads rfl))) fun found => ?_
  cases found with
  | some pending => exact Attempt.pure fun _ _ _ holds => holds
  | none =>
      dsimp only
      split
      · exact Attempt.pure fun _ _ _ holds => holds
      · exact reader.withPool (issues_send (confined_of_reads rfl))

/-- I-3: the transaction starts from what the lookup of the invitation leaves, and the
invitation that it leaves is erased. -/
theorem attempt_addFromRegister {pre : Assertion DbServer DbSession} {keycloakUserID : Uuid}
    {candidate : Option PendingInvitation → Assertion DbServer DbSession}
    {fails : Failure → Assertion DbServer DbSession} (good : Option PendingInvitation → Prop)
    (refused : ∀ failure server session, pre server session → fails failure server session)
    (finds : Attempt server protocol pre
      (findPendingFor tenantID keycloakUserID (normalizeEmail email) : DbM σ _) candidate fails)
    (adds : ∀ pending, Attempt server protocol (candidate pending)
      (Fallible.capturing pending (runInTx (addFromRegisterTx tenantID userID)) : DbM σ _)
      (fun result server session => good result.2 ∧ post result.1 server session) fails)
    (erases : ∀ membership pending, good (some pending) → Attempt server protocol (post membership)
      (erasePIIBestEffort tenantID pending.id : DbM σ _) (fun _ => post membership) fails) :
    Attempt server protocol pre
      (addFromRegister tenantID userID keycloakUserID email isServiceAccount : DbM σ _) post
      fails := by
  rw [addFromRegister]
  split
  · exact Attempt.throw fun server session _ => refused _ server session
  · dsimp only
    split
    · exact Attempt.throw fun server session _ => refused _ server session
    · refine Attempt.bind finds fun pending => ?_
      refine Attempt.bind (adds pending) fun result => Attempt.of_fact fun holds => ?_
      refine Attempt.bind (Attempt.forM fun accepted mem => erases result.1 accepted ?_) fun _ =>
        Attempt.pure fun _ _ _ after => after
      rwa [← Option.mem_toList.mp mem]

theorem idles_addFromRegister {keycloakUserID : Uuid} (lenient : Lenient protocol)
    (adds : Idles protocol (transaction .pg (addFromRegisterTx tenantID userID)))
    (erases : ∀ id, Idles protocol
      (transaction .pg (InvitationRepository.erasePII tenantID id) : DbM σ _)) :
    Idles protocol
      (addFromRegister tenantID userID keycloakUserID email isServiceAccount : DbM σ _) :=
  attempt_addFromRegister (fun _ => True) (fun _ _ _ idle => idle)
    (keeps_findPendingFor (reader_idle lenient))
    (fun _ => Attempt.relax (Attempt.capturing (idles_runInTx adds)) fun _ _ _ _ idle =>
      ⟨trivial, idle⟩) fun _ pending _ => idles_erasePIIBestEffort (erases pending.id)

theorem keeps_compensate {pre : Assertion DbServer DbSession} {keycloakUserID : Uuid}
    (reader : Reader protocol pre)
    (deletes : Keeps protocol pre
      (transaction .pg (eventQuery (.realm (.deleteUser tenantID keycloakUserID))) : DbM σ _)) :
    Keeps protocol pre (compensate tenantID keycloakUserID : DbM σ _) := by
  have calls : Keeps protocol pre
      (callRealm (.deleteUser tenantID keycloakUserID) : DbM σ _) :=
    Attempt.bind deletes fun _ => reader.read fun _ _ => rfl
  exact Attempt.bind calls.observe fun _ => Attempt.pure fun _ _ _ after => after

section Record

variable {config : InvitationConfig} {input : InvitationInput} {actorID keycloakUserID : Uuid}

/-- The local part of P-6: without a row to return it deletes the Keycloak user. -/
theorem attempt_recordInvitation {pre gone left : Assertion DbServer DbSession}
    {after : Except Failure PendingInvitation → Assertion DbServer DbSession}
    {post : PendingInvitation → Assertion DbServer DbSession}
    (invites : Attempt server protocol pre
      (runInTx (inviteTx config tenantID input actorID keycloakUserID) : DbM σ _) after
      fun _ => gone)
    (accepted : ∀ row server session, after (.ok row) server session → post row server session)
    (refused : ∀ failure server session, after (.error failure) server session →
      gone server session)
    (compensates : Attempt server protocol gone (compensate tenantID keycloakUserID : DbM σ _)
      (fun _ => left) fun _ => left) :
    Attempt server protocol pre
      (recordInvitation config tenantID input actorID keycloakUserID : DbM σ _) post
      fun _ => left := by
  have gives : ∀ failure, Attempt server protocol gone
      (do compensate tenantID keycloakUserID; throw failure : DbM σ PendingInvitation) post
      fun _ => left :=
    fun failure => Attempt.bind compensates fun _ => Attempt.throw fun _ _ _ after => after
  refine Attempt.bind (Attempt.observe invites) fun result => ?_
  rcases result with failure | seatLimit | row
  · exact gives failure
  · exact Attempt.strengthen (gives seatLimit) fun server session _ holds =>
      refused seatLimit server session holds
  · exact Attempt.pure fun server session _ holds => accepted row server session holds

theorem idles_recordInvitation (lenient : Lenient protocol)
    (invites : Idles protocol
      (transaction .pg (inviteTx config tenantID input actorID keycloakUserID) : DbM σ _))
    (deletes : Idles protocol
      (transaction .pg (eventQuery (.realm (.deleteUser tenantID keycloakUserID))) : DbM σ _)) :
    Idles protocol (recordInvitation config tenantID input actorID keycloakUserID : DbM σ _) :=
  attempt_recordInvitation (idles_runInTx invites) (fun _ _ _ idle => idle)
    (fun _ _ _ idle => idle) (keeps_compensate (reader_idle lenient) deletes)

end Record

section Checks

variable {pre : Assertion DbServer DbSession}

theorem keeps_checkNotInvited (reader : Reader protocol pre) :
    Keeps protocol pre (checkNotInvited tenantID email : DbM σ _) := by
  refine Attempt.bind (reader.withPool (issues_send (confined_of_reads rfl))) fun found => ?_
  cases found with
  | none => exact Attempt.pure fun _ _ _ holds => holds
  | some row => exact atomic_throw

theorem keeps_checkCooldown {config : InvitationConfig} (reader : Reader protocol pre) :
    Keeps protocol pre (checkCooldown config tenantID email : DbM σ _) := by
  rw [checkCooldown]
  split
  · refine Attempt.bind (reader.withPool (issues_send (confined_of_reads rfl)))
      fun mostRecent => ?_
    cases mostRecent with
    | none => exact Attempt.pure fun _ _ _ holds => holds
    | some created =>
        refine Attempt.bind reader.timeNow fun now => ?_
        split
        · exact Attempt.throw fun _ _ _ holds => holds
        · exact Attempt.pure fun _ _ _ holds => holds
  · exact Attempt.pure fun _ _ _ holds => holds

theorem keeps_checkHourlyRate {limit : Nat} {message : String} {count : Int → DbM σ Nat}
    (reader : Reader protocol pre) (counts : ∀ since, Keeps protocol pre (withPool (count since))) :
    Keeps protocol pre (checkHourlyRate limit message count) := by
  rw [checkHourlyRate]
  split
  · refine Attempt.bind reader.timeNow fun now => ?_
    refine Attempt.bind (counts _) fun created => ?_
    split
    · exact Attempt.throw fun _ _ _ holds => holds
    · exact Attempt.pure fun _ _ _ holds => holds
  · exact Attempt.pure fun _ _ _ holds => holds

theorem keeps_preflightSeatCheck (reader : Reader protocol pre) :
    Keeps protocol pre (preflightSeatCheck tenantID : DbM σ _) := by
  have finds : Keeps protocol pre (withPool (TenantRepository.findByID tenantID) : DbM σ _) := by
    refine reader.withPool ((issues_send (confined_of_reads rfl)).bind fun found => ?_)
    cases found with
    | none => exact Fallible.issues_throw _
    | some tenant => exact Fallible.issues_pure _
  refine Attempt.bind finds fun tenant => ?_
  refine Attempt.bind (reader.withPool (issues_send (confined_of_reads rfl))) fun active => ?_
  refine Attempt.bind (reader.withPool (issues_send (confined_of_reads rfl))) fun pending => ?_
  split
  · exact Attempt.throw fun _ _ _ holds => holds
  · exact Attempt.pure fun _ _ _ holds => holds

end Checks

section Invite

variable {config : InvitationConfig} {peers : InvitationPeers} {input : InvitationInput}
  {actorID : Uuid} {pre : Assertion DbServer DbSession}
  {fails : Failure → Assertion DbServer DbSession}

/-- P-6: what holds once no invitation is pending for the email is kept by the other checks. -/
theorem attempt_createInvited (reader : Reader protocol free)
    (refused : ∀ failure server session, pre server session → fails failure server session)
    (leaves : ∀ failure server session, free server session → fails failure server session)
    (looks : Attempt server protocol pre
      (checkNotInvited tenantID input.email : DbM σ _) (fun _ => free) fails) :
    Attempt server protocol pre (createInvited config peers tenantID input actorID : DbM σ _)
      (fun keycloakUserID server session => (checkInvitation input = .ok () ∧
        ∃ slug, peers.createInvitedUser
          ⟨tenantID, input.email, input.fullName, requiredActions input, slug⟩ =
            some keycloakUserID) ∧ free server session)
      fails := by
  have checks : ∀ {α : Type} {program : DbM σ α}, Keeps protocol free program →
      Attempt server protocol free program (fun _ => free) fails :=
    fun keeps => Attempt.weaken keeps (fun _ _ _ holds => holds) (fun _ _ _ _ holds => holds)
      fun failure server session _ holds => leaves failure server session holds
  rw [createInvited]
  split
  case h_1 => exact Attempt.throw fun server session _ holds => refused _ server session holds
  case h_2 checked =>
    refine Attempt.bind looks fun _ => ?_
    refine Attempt.bind (checks (keeps_checkCooldown reader)) fun _ => ?_
    refine Attempt.bind (checks (keeps_checkHourlyRate reader fun since =>
      reader.withPool (issues_send (confined_of_reads rfl)))) fun _ => ?_
    refine Attempt.bind (checks (keeps_checkHourlyRate reader fun since =>
      reader.withPool (issues_send (confined_of_reads rfl)))) fun _ => ?_
    refine Attempt.bind (checks (keeps_preflightSeatCheck reader)) fun tenant => ?_
    split
    · exact Attempt.throw fun server session _ holds => leaves _ server session holds
    case h_2 keycloakUserID created =>
      exact Attempt.pure fun _ _ _ holds => ⟨⟨checked, tenant.slug, created⟩, holds⟩

/-- P-6: the local part starts with what the checks leave. -/
theorem attempt_invite {free : String → Assertion DbServer DbSession}
    {post : PendingInvitation → Assertion DbServer DbSession}
    (reader : ∀ email, Reader protocol (free email))
    (refused : ∀ failure server session, pre server session → fails failure server session)
    (leaves : ∀ email failure server session, free email server session →
      fails failure server session)
    (looks : ∀ email, Attempt server protocol pre
      (checkNotInvited tenantID email : DbM σ _) (fun _ => free email) fails)
    (records : ∀ slug keycloakUserID,
      let input := { input with email := normalizeEmail input.email }
      checkInvitation input = .ok () →
      peers.createInvitedUser
        ⟨tenantID, input.email, input.fullName, requiredActions input, slug⟩ =
          some keycloakUserID →
      peers.isServiceAccount keycloakUserID = false →
      Attempt server protocol (free input.email)
        (recordInvitation config tenantID input actorID keycloakUserID : DbM σ _) post fails) :
    Attempt server protocol pre (invite config peers tenantID input actorID : DbM σ _) post
      fails := by
  rw [invite_eq]
  dsimp only
  refine Attempt.bind (attempt_createInvited (reader _) refused (leaves _) (looks _))
    fun keycloakUserID => ?_
  refine Attempt.of_fact fun ⟨checked, slug, created⟩ => ?_
  split
  case isTrue => exact Attempt.throw fun server session _ holds => leaves _ _ server session holds
  case isFalse human => exact records slug keycloakUserID checked created (by simpa using human)

end Invite

/-- Before the transaction of P-6 nothing is written. -/
theorem idles_invite {config : InvitationConfig} {peers : InvitationPeers}
    {input : InvitationInput} {actorID : Uuid} (lenient : Lenient protocol)
    (invites : ∀ input keycloakUserID, Idles protocol
      (transaction .pg (inviteTx config tenantID input actorID keycloakUserID) : DbM σ _))
    (deletes : ∀ keycloakUserID, Idles protocol
      (transaction .pg (eventQuery (.realm (.deleteUser tenantID keycloakUserID))) : DbM σ _)) :
    Idles protocol (invite config peers tenantID input actorID : DbM σ _) :=
  attempt_invite (fun _ => reader_idle lenient) (fun _ _ _ idle => idle)
    (fun _ _ _ _ idle => idle) (fun _ => keeps_checkNotInvited (reader_idle lenient))
    fun _ keycloakUserID _ _ _ => idles_recordInvitation lenient (invites _ keycloakUserID)
      (deletes keycloakUserID)

/-- P-31 is three transactions. -/
theorem idles_revoke {version : Int} (revokes : Idles protocol
      (transaction .pg (InvitationRepository.setStatus tenantID id .revoked version) : DbM σ _))
    (flags : ∀ version, Idles protocol
      (transaction .pg (InvitationRepository.setKCCleanupPending tenantID id true version) :
        DbM σ _))
    (erases : Idles protocol
      (transaction .pg (InvitationRepository.erasePII tenantID id) : DbM σ _)) :
    Idles protocol (revoke tenantID id version : DbM σ _) := by
  refine Attempt.bind (idles_withPool revokes) fun row => ?_
  refine Attempt.bind (idles_withPool (flags row.recordVersion)) fun _ => ?_
  exact Attempt.bind (idles_erasePIIBestEffort erases) fun _ => idles_pure

end OrgMembership
