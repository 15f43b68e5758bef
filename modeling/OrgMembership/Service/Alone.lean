import OrgMembership.Repository.Alone
import OrgMembership.Service.Calls

/-!
# Calls that run alone

A call whose statements keep a fact of the rows leaves rows with the fact when it goes through,
and all rows as they were when it fails.
-/

namespace OrgMembership

open Concurrency Relational

variable {σ : Type} {given : Chance PgError → Bool} {tenantID userID : Uuid} {base : Db}
  {allowed : Query → Prop} {pre fact : Db → Prop}

/-- The statements keep the fact. -/
def Confines (allowed : Query → Prop) (fact : Db → Prop) : Prop :=
  ∀ query, allowed query → ∀ context db result writes, fact db →
    (query.effect context db).Yields result writes → fact (dialect.applyAll writes db)

theorem guardAllowed_of_reads (reads : ∀ query : Query, query.writesTo = [] → allowed query) :
    GuardAllowed allowed tenantID userID :=
  ⟨reads _ rfl, reads _ rfl, reads _ rfl, reads _ rfl⟩

theorem alone_findByUserID :
    Alone (· = base) (withPool (MembershipRepository.findByUserID tenantID userID) : DbM σ _)
      (fun row db => base.memberships.first? (·.isOf tenantID userID) = some row ∧ db = base)
      fun _ db => db = base := by
  apply alone_lookup
  have reads : Inside base (· = base) (membershipQuery (.findByUserID tenantID userID) : DbM σ _)
      fun found db => found = base.memberships.first? (·.isOf tenantID userID) ∧ db = base :=
    inside_read (fun _ _ => rfl) fun _ _ same => same ▸ ⟨rfl, rfl⟩
  refine Inside.bind reads fun found => inside_of_fact fun first => ?_
  cases found with
  | none => exact inside_throw
  | some row => exact inside_pure fun _ same => ⟨first.symm, same⟩

section Calls

variable (confines : Confines allowed fact) (restores : Restores given pre fact)
  (reads : ∀ query : Query, query.writesTo = [] → allowed query)

include confines restores reads

theorem alone_setMembershipStatus {status : MembershipStatus} {version : Int}
    (set : ∀ id, allowed (.membership (.setStatus id tenantID userID status version))) :
    AloneBy given pre (setMembershipStatus tenantID userID status version : DbM σ _)
      (fun _ => fact) fun _ => pre :=
  alone_withPool_keeping restores fun _ => inside_only confines
    (MembershipRepository.issues_setStatus (reads _ rfl) set (reads _ rfl))

theorem alone_setStatus {status : MembershipStatus} {version : Int} {workflow : WorkflowAnswer}
    (set : ∀ id, allowed (.membership (.setStatus id tenantID userID status version))) :
    AloneBy given pre (setStatus tenantID userID status version workflow : DbM σ _)
      (fun _ => fact) fun _ => pre := by
  have guarded : AloneBy given pre
      (runInTx (suspendOwner tenantID userID status version) : DbM σ _)
      (fun _ => fact) fun _ => pre :=
    alone_runInTx_keeping restores fun _ => inside_only confines
      ((issues_guardLastOwner (reads _ rfl) (reads _ rfl)).bind fun _ =>
        MembershipRepository.issues_setStatus (reads _ rfl) set (reads _ rfl))
  have unguarded : AloneBy given pre
      (withPool (MembershipRepository.setStatus tenantID userID status version) : DbM σ _)
      (fun _ => fact) fun _ => pre :=
    alone_setMembershipStatus confines restores reads set
  have changes : AloneBy given pre (changeStatus tenantID userID status version : DbM σ _)
      (fun _ => fact) fun _ => pre :=
    atomic_changeStatus (reader_solo pre) guarded unguarded
  exact AloneBy.bind changes fun _ => alone_pure fun _ after => after

theorem alone_removeUser {actorID : Uuid} {workflow : WorkflowAnswer}
    (removes : ∀ version, RemovalAllowed allowed tenantID userID version) :
    AloneBy given pre (removeUser tenantID userID actorID workflow : DbM σ _)
      (fun _ => fact) fun _ => pre := by
  have removing : AloneBy given pre (runInTx (removeUserTx tenantID userID actorID) : DbM σ _)
      (fun _ => fact) fun _ => pre :=
    alone_runInTx_keeping restores fun _ => inside_only confines
      (issues_removeUserTx (guardAllowed_of_reads reads) removes)
  exact attempt_removeUser (fun _ _ _ here => here) removing

theorem alone_deleteMember
    (removes : ∀ version, RemovalAllowed allowed tenantID userID version)
    (mark : allowed (.tenant (.markOwnerlessIfUnset tenantID))) :
    AloneBy given pre (deleteMember tenantID userID : DbM σ _) (fun _ => fact) fun _ => pre :=
  alone_runInTx_keeping restores fun _ => inside_only confines
    (issues_deleteMemberTx (guardAllowed_of_reads reads) removes mark)

omit reads in
theorem alone_addFromRegister {keycloakUserID : Uuid} {email : String} {isServiceAccount : Bool}
    (adds : ∀ start, Inside start fact (addFromRegisterTx tenantID userID) fun _ => fact)
    (erase : ∀ id, allowed (.invitation (.erasePII tenantID id))) :
    AloneBy given pre
      (addFromRegister tenantID userID keycloakUserID email isServiceAccount : DbM σ _)
      (fun _ => fact) fun _ => pre := by
  have adding : ∀ pending, AloneBy given pre (Fallible.capturing pending
      (runInTx (addFromRegisterTx tenantID userID)) : DbM σ _) (fun _ => fact) fun _ => pre :=
    fun _ => Attempt.capturing (alone_runInTx_keeping restores adds)
  have erases : ∀ id, Keeps (soloBy given) (fun server session => session.Idle ∧ fact server.db)
      (withPool (InvitationRepository.erasePII tenantID id) : DbM σ _) :=
    fun id => keeps_withPool fun _ => inside_only confines (issues_send (erase id))
  exact attempt_addFromRegister (fun _ => True) (fun _ _ _ here => here)
    (keeps_findPendingFor (reader_solo pre))
    (fun pending => Attempt.relax (adding pending) fun _ _ _ _ after => ⟨trivial, after⟩)
    fun _ pending _ => attempt_erasePIIBestEffort (erases pending.id)

end Calls

/-! ## I-3

What I-3 applies is the invitation that it finds before its transaction: nobody else settles it
before the transaction locks it. -/

section Register

variable {keycloakUserID : Uuid} {email : String}

theorem alone_findPendingFor :
    Alone (· = base) (findPendingFor tenantID keycloakUserID email : DbM σ _)
      (fun pending db => pending = candidateOf tenantID keycloakUserID email base ∧ db = base)
      fun _ db => db = base := by
  refine AloneBy.bind (alone_read (.invitation (.findPendingByKeycloakUser tenantID keycloakUserID))
    (pendingOf tenantID keycloakUserID) fun _ _ => rfl) fun found => ?_
  refine alone_of_fact fun same => ?_
  rw [candidateOf, ← same]
  cases found with
  | some pending => exact alone_pure fun _ here => ⟨rfl, here⟩
  | none =>
      dsimp only
      split
      · exact alone_pure fun _ here => ⟨rfl, here⟩
      · exact alone_read (.invitation (.findPendingByEmail tenantID email))
          (pendingTo tenantID email) fun _ _ => rfl

theorem pending_of_candidateOf {pending : PendingInvitation}
    (found : candidateOf tenantID keycloakUserID email base = some pending) :
    pending ∈ base.invitations ∧ pending.status = .pending := by
  have listed : ∀ {test : PendingInvitation → Bool}, base.invitations.first? test = some pending →
      (test pending = true → pending.status = .pending) →
      pending ∈ base.invitations ∧ pending.status = .pending :=
    fun first tells => ⟨(Table.first?_some first).1, tells (Table.first?_some first).2⟩
  rw [candidateOf] at found
  split at found
  case h_1 first =>
    cases found
    exact listed first fun passed => of_decide_eq_true (Bool.and_eq_true_iff.mp passed).2
  case h_2 =>
    split at found
    · cases found
    · exact listed found fun passed => of_decide_eq_true (Bool.and_eq_true_iff.mp passed).2

theorem insideOn_relock {candidate : Option PendingInvitation}
    (listed : ∀ pending, candidate = some pending →
      pending ∈ base.invitations ∧ pending.status = .pending) :
    InsideOn (· = candidate) base (· = base) (relockPending tenantID)
      fun pending db => pending = candidate ∧ db = base := by
  have fixed : ∀ {α β : Type} {claim : α → Prop} {first : DbM (Option PendingInvitation) α}
      {rest : α → DbM (Option PendingInvitation) β} {post : β → Db → Prop}, first.Preserves →
      Inside base (· = base) first (fun value db => claim value ∧ db = base) →
      (∀ value, claim value → InsideOn (· = candidate) base (· = base) (rest value) post) →
      InsideOn (· = candidate) base (· = base) (first >>= rest) post := by
    intro α β claim first rest post preserves inside continues
    exact AttemptOn.bind (AttemptOn.of_preserves preserves inside) fun value =>
      insideOn_of_fact (continues value)
  have reads : ∀ {α : Type} {program : DbM (Option PendingInvitation) α},
      Fallible.Issues (Only fun query => query.writesTo = []) program →
      Inside base (· = base) program fun _ db => True ∧ db = base :=
    fun issues => (inside_reads issues).weaken (fun _ same => same) fun _ _ same => ⟨trivial, same⟩
  refine AttemptOn.bind AttemptOn.get fun captured => AttemptOn.of_fact fun same => ?_
  subst same
  cases captured with
  | none => exact AttemptOn.pure fun _ _ _ seen => ⟨seen.1, rfl, seen.2⟩
  | some pending =>
      obtain ⟨here, status⟩ := listed pending rfl
      have locks : Inside base (· = base)
          (InvitationRepository.lockByID pending.id : DbM (Option PendingInvitation) _)
          fun found db => found = some pending ∧ db = base := by
        refine inside_send fun context db result writes same yields => ?_
        subst same
        have locked : ((InvitationQuery.lockByID pending.id).effect context db).Yields
            (some pending) [] :=
          Access.lockRow_found here rfl
        obtain ⟨rfl, rfl⟩ := Prod.mk.inj (Except.ok.inj (yields.symm.trans locked))
        exact ⟨rfl, rfl⟩
      refine fixed preserves_send locks fun found same => ?_
      subst same
      dsimp only
      rw [if_neg (not_not.mpr status)]
      refine fixed preserves_send (reads (issues_send rfl)) fun now _ => ?_
      refine fixed preserves_recheckExpired
        (reads (issues_recheckExpired ⟨fun _ => rfl, rfl, rfl, rfl, rfl⟩)) fun _ _ => ?_
      exact AttemptOn.bind (AttemptOn.assign fun _ _ => rfl) fun _ =>
        AttemptOn.pure fun _ _ _ seen => ⟨seen.1, rfl, seen.2⟩

/-- The transaction inserts the membership and then accepts the invitation, if there is one. -/
theorem insideOn_addFromRegisterTx {candidate : Option PendingInvitation} {middle : Db → Prop}
    (listed : ∀ pending, candidate = some pending →
      pending ∈ base.invitations ∧ pending.status = .pending)
    (inserts : Inside base (· = base) (MembershipRepository.insert tenantID userID .active :
      DbM (Option PendingInvitation) _) fun _ => middle)
    (uninvited : candidate = none → ∀ db, middle db → fact db)
    (accepts : ∀ membershipID pending, candidate = some pending →
      Inside base middle (acceptInvitation tenantID userID membershipID pending :
        DbM (Option PendingInvitation) _) fun _ => fact) :
    InsideOn (· = candidate) base (· = base) (addFromRegisterTx tenantID userID)
      fun _ => fact := by
  have locks : Inside base (· = base)
      (TenantRepository.lockByID tenantID : DbM (Option PendingInvitation) _)
      fun _ db => db = base :=
    inside_reads (TenantRepository.issues_lockByID rfl)
  refine AttemptOn.bind (AttemptOn.of_preserves TenantRepository.preserves_lockByID locks)
    fun _ => AttemptOn.bind (insideOn_relock listed) fun pending => insideOn_of_fact fun same => ?_
  refine AttemptOn.bind (AttemptOn.of_preserves MembershipRepository.preserves_insert inserts)
    fun membership => ?_
  cases pending with
  | none => exact AttemptOn.pure fun _ _ _ seen => seen.mono (uninvited same.symm)
  | some pending =>
      exact AttemptOn.bind (AttemptOn.of_preserves preserves_acceptInvitation
        (accepts membership.id pending same.symm)) fun _ => AttemptOn.pure fun _ _ _ seen => seen

/-- I-3 applies the invitation that it has found, if any. -/
theorem alone_register {isServiceAccount : Bool} {middle : Db → Prop}
    (inserts : Inside base (· = base) (MembershipRepository.insert tenantID userID .active :
      DbM (Option PendingInvitation) _) fun _ => middle)
    (uninvited : candidateOf tenantID keycloakUserID (normalizeEmail email) base = none →
      ∀ db, middle db → fact db)
    (accepts : ∀ membershipID pending,
      candidateOf tenantID keycloakUserID (normalizeEmail email) base = some pending →
      Inside base middle (acceptInvitation tenantID userID membershipID pending :
        DbM (Option PendingInvitation) _) fun _ => fact)
    (erases : ∀ pending start,
      candidateOf tenantID keycloakUserID (normalizeEmail email) base = some pending →
      Inside start fact (InvitationRepository.erasePII tenantID pending.id : DbM σ _)
        fun _ => fact) :
    Alone (· = base)
      (addFromRegister tenantID userID keycloakUserID email isServiceAccount : DbM σ _)
      (fun _ => fact) (Aborted (fun _ => true) (· = base) fact) := by
  generalize shape : candidateOf tenantID keycloakUserID (normalizeEmail email) base = candidate
    at uninvited accepts erases
  have commits : AloneOn (fun _ => true) (· = candidate) (· = base)
      (runInTx (addFromRegisterTx tenantID userID)) (fun _ => fact)
      (Aborted (fun _ => true) (· = base) fact) :=
    aloneOn_runInTx_from (insideOn_addFromRegisterTx
      (fun pending same => pending_of_candidateOf (shape.trans same)) inserts uninvited accepts)
  have adding : ∀ pending, Alone (fun db => pending = candidate ∧ db = base)
      (Fallible.capturing pending (runInTx (addFromRegisterTx tenantID userID)) : DbM σ _)
      (fun result db => result.2 = candidate ∧ fact db)
      (Aborted (fun _ => true) (· = base) fact) := by
    intro pending
    refine alone_of_fact fun same => AloneOn.capturing ?_ commits
    exact same
  have finds : Alone (· = base)
      (findPendingFor tenantID keycloakUserID (normalizeEmail email) : DbM σ _)
      (fun pending db => pending = candidate ∧ db = base)
      (Aborted (fun _ => true) (· = base) fact) := by
    rw [← shape]
    exact AloneBy.before alone_findPendingFor
  exact attempt_addFromRegister (· = candidate) (fun _ _ _ here => ⟨here.1, .inl here.2⟩) finds
    (fun pending => Attempt.relax (adding pending) fun _ _ _ _ after =>
      ⟨after.2.1, after.1, after.2.2⟩)
    fun _ pending accepted => attempt_erasePIIBestEffort
      (keeps_withPool fun start => erases pending start accepted.symm)

end Register

end OrgMembership
