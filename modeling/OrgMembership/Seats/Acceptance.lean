import OrgMembership.Seats.Booking

/-!
# Accepting an invitation

I-3 locks the tenants row, looks at its candidate again under the row lock, adds
the member and settles the invitation.  A pending invitation lends the member its
seat; one that has lapsed needs a free seat, counted under the lock.
-/

namespace OrgMembership

open Concurrency Relational

namespace Seats

variable {σ : Type} {tenantID : Uuid} {seats : Int} {sequential : Bool}
variable {row : PendingInvitation} {id userID : Uuid}

/-! ## The acceptance -/

/-- An accepted invitation no longer counts. -/
theorem occupancy_le_of_accepted {now : Int} {db : Db} {writes : List Write}
    {updated : PendingInvitation}
    (memberships : (dialect.applyAll writes db).memberships.Inherits db.memberships
      (fun row => row.activeIn tenantID = true) fun _ _ => True)
    (written : writes = [.invitation (.put updated)]) (settled : updated.status ≠ .pending) :
    occupancy tenantID now (dialect.applyAll writes db) ≤
      besides tenantID now (some updated.id) db := by
  refine Nat.add_le_add (members_le memberships) (Table.count_le_count fun row mem holds => ?_)
  have changes : writes.filterMap Write.invitationChange = [.put updated] := by
    rw [written]
    rfl
  change row ∈ invitationAccess.table _ at mem
  rw [dialect.table_applyAll invitationAccess.table Write.invitationChange
    invitationLawful.table_write, changes, Table.applyAll_cons, Table.applyAll_nil] at mem
  rcases Table.mem_apply.mp mem with same | ⟨kept, apart⟩
  · cases same
    exact absurd (holdsSeat_iff.mp holds).1.2 settled
  · refine ⟨row, kept, rfl, ?_⟩
    rw [holds]
    simpa [Change.target, invitationAccess] using apart

theorem within_setAccepted {version : Int} :
    Within (protocol tenantID seats sequential) (Promised tenantID seats 0 id)
      (invitationQuery (.setStatus tenantID id .accepted version) : DbM σ _)
      fun found server session => found.isSome = true →
        Holding tenantID seats 0 none server session := by
  apply within_send lenient stable_promised
  intro server session fresh result writes _ promised _ yields found
  rcases Access.updateRow_cases yields with
    ⟨rfl, _⟩ | ⟨row, mem, updated, same, selected, computed, _, written, _⟩
  · simp at found
  · simp only [Bool.and_eq_true, decide_eq_true_eq] at selected
    have evolved := updateInvitation_eq_ok computed
    have settled : updated.status = .accepted := by
      rw [evolved, PendingInvitation.touch_proj PendingInvitation.status fun _ _ _ => rfl]
    have sameID : updated.id = id := by
      rw [evolved, PendingInvitation.touch_proj PendingInvitation.id fun _ _ _ => rfl]
      exact same
    have room := promised.room ⟨row, mem, same, selected.1.1, selected.2⟩
    have fewer : occupancy tenantID server.now
          (dialect.applyAll writes (dialect.view server session)) ≤
        besides tenantID server.now (some updated.id) (dialect.view server session) :=
      occupancy_le_of_accepted (memberships_of_off yields (by simp)) written (by simp [settled])
    rw [sameID] at fewer
    have mild : Mild tenantID (.invitation (.setStatus tenantID id .accepted version)) :=
      mild_invitation nofun
    refine ⟨List.mem_append_left _ promised.locked, promised.began, ?_, ?_⟩
    · rw [Dialect.view_extended]
      exact (mild _ _ _ _ yields).licensed promised.licensed
    · rw [Dialect.view_extended, besides_none]
      omega

/-- Whoever changes the status has found the invitation pending. -/
theorem within_accept {version : Int} :
    Within (protocol tenantID seats sequential) (Promised tenantID seats 0 id)
      (InvitationRepository.setStatus tenantID id .accepted version : DbM σ _)
      fun _ => Holding tenantID seats 0 none := by
  refine Attempt.bind within_setAccepted fun updated => ?_
  cases updated with
  | some row => exact Attempt.pure fun _ _ _ holding => holding rfl
  | none =>
      have finds : Within (protocol tenantID seats sequential) (fun _ _ => True)
          (invitationQuery (.findByID tenantID id) : DbM σ _) fun _ _ _ => True :=
        within_read lenient (Protocol.stable_local _) (fun _ _ => rfl) fun _ _ _ _ _ _ => trivial
      refine Attempt.bind (Attempt.strengthen finds fun _ _ _ _ => trivial) fun found => ?_
      cases found with
      | none => exact within_throw
      | some row =>
          dsimp only
          split <;> exact within_throw

theorem grants_mild : GrantAllowed (Mild tenantID) tenantID userID where
  insert _ _ _ := mild_of_off (by simp) (by simp) (by simp)
  find _ := mild_read rfl
  publish _ _ := mild_of_off (by simp) (by simp) (by simp)

theorem assigns_mild : AssignAllowed (Mild tenantID) tenantID userID where
  lockAssign _ := mild_read rfl
  scan _ := mild_read rfl
  lock _ _ := mild_read rfl
  revoke _ := mild_of_off (by simp) (by simp) (by simp)
  insert _ _ _ _ := mild_of_off (by simp) (by simp) (by simp)
  find _ := mild_read rfl
  publish _ _ := mild_of_off (by simp) (by simp) (by simp)

theorem within_acceptInvitation {membershipID : Uuid} {pending : PendingInvitation} :
    Within (protocol tenantID seats sequential) (Promised tenantID seats 0 pending.id)
      (acceptInvitation tenantID userID membershipID pending : DbM σ _)
      fun _ => Holding tenantID seats 0 none := by
  refine Attempt.bind within_accept fun _ => ?_
  apply within_holding
  exact (Fallible.Issues.forM fun _ _ => issues_grantInitial grants_mild).bind fun _ =>
    Fallible.Issues.forM fun _ _ => issues_assignInitial assigns_mild

/-! ## The candidate -/

/-- The transaction has nothing but the tenants row. -/
structure Opening (tenantID : Uuid) (seats : Int) (server : DbServer) (session : DbSession) :
    Prop extends Holding tenantID seats 0 none server session where
  unlocked : ∀ id, ⟨.invitation id, .update⟩ ∉ session.locks

/-- The transaction has a pending row locked, which holds a seat until it lapses. -/
structure Lent (tenantID : Uuid) (seats : Int) (row : PendingInvitation) (server : DbServer)
    (session : DbSession) : Prop extends Holding tenantID seats 0 none server session where
  lent : server.now < row.expiresAt → Promised tenantID seats 1 row.id server session

theorem stable_opening : (protocol tenantID seats sequential).Stable (Opening tenantID seats) :=
  fun before after session inv inv' rely opening =>
    ⟨stable_holding 0 none before after session inv inv' rely opening.toHolding, opening.unlocked⟩

theorem stable_lent :
    (protocol tenantID seats sequential).Stable (Lent tenantID seats row) := by
  intro before after session inv inv' rely lent
  obtain ⟨_, later⟩ := shrinks_of_rely rely lent.locked
  refine ⟨stable_holding 0 none before after session inv inv' rely lent.toHolding, ?_⟩
  intro unexpired
  exact stable_promised before after session inv inv' rely
    (lent.lent (lt_of_le_of_lt later unexpired))

/-- An invitation that holds a seat can lend it. -/
theorem Holding.lends {server : DbServer} {session : DbSession}
    (holding : Holding tenantID seats 0 none server session)
    (mem : row ∈ (dialect.view server session).invitations)
    (unexpired : server.now < row.expiresAt) :
    Promised tenantID seats 1 row.id server session where
  locked := holding.locked
  began := holding.began
  licensed := holding.licensed
  room := by
    rintro ⟨other, memOther, same, pending⟩
    have sameRow : other = row := Table.eq_of_key_eq memOther mem same
    have fewer := besides_lt_occupancy mem (holdsSeat_iff.mpr ⟨sameRow ▸ pending, unexpired⟩)
    have room := holding.room
    rw [besides_none] at room
    omega

/-- What the row lock on the candidate tells. -/
def Looked (tenantID : Uuid) (seats : Int) (id : Uuid) :
    Option PendingInvitation → Assertion DbServer DbSession
  | none => Unreserved tenantID seats
  | some row => fun server session => row.id = id ∧
      if row.status = .pending then Lent tenantID seats row server session
      else Unreserved tenantID seats server session

theorem within_lockInvitation :
    Within (protocol tenantID seats sequential) (Opening tenantID seats)
      (InvitationRepository.lockByID id : DbM σ _) (Looked tenantID seats id) := by
  apply within_send lenient stable_opening
  intro server session fresh result writes _ opening _ yields
  have holding : ∀ locks, Holding tenantID seats 0 none server
      (session.extended (.invitation (.lockByID id)) result locks []) := fun locks =>
    opening.toHolding.shrinks (.refl _)
  obtain ⟨rfl, found⟩ := Access.lockRow_cases yields
  have only : ∀ other, ⟨.invitation other, .update⟩ ∈
      session.locks ++ dialect.kept (.invitation (.lockByID id))
        (Dialect.context server session fresh) (dialect.view server session) → other = id := by
    intro other mem
    rcases List.mem_append.mp mem with old | new
    · exact absurd old (opening.unlocked other)
    · simpa [invitationAccess] using Access.eq_of_lockRow new
  rcases found with ⟨rfl, absent⟩ | ⟨row, mem, same, _, rfl, _⟩
  · refine ⟨holding _, fun row mem _ lock => ?_⟩
    rw [Dialect.view_extended_nil] at mem
    exact absurd (absent row mem (only row.id lock)) (by simp)
  · refine ⟨same, ?_⟩
    split
    case isTrue pending =>
      refine ⟨holding _, fun unexpired => ?_⟩
      exact (opening.toHolding.lends mem unexpired).reads
    case isFalse settled =>
      refine ⟨holding _, fun other memOther pending lock => settled ?_⟩
      rw [Dialect.view_extended_nil] at memOther
      have sameRow : other = row :=
        Table.eq_of_key_eq memOther mem ((only other.id lock).trans same.symm)
      exact sameRow ▸ pending.2

theorem within_readClock :
    Within (protocol tenantID seats sequential) (Lent tenantID seats row) (timeNow : DbM σ _)
      fun now server session => Holding tenantID seats 0 none server session ∧
        (now < row.expiresAt → Promised tenantID seats 1 row.id server session) := by
  apply within_read lenient stable_lent fun _ _ => rfl
  intro server session fresh _ lent _
  exact ⟨lent.toHolding.shrinks (.refl _), fun unexpired => (lent.lent unexpired).reads⟩

/-- A lapsed invitation needs a free seat. -/
theorem within_recheckExpired {now : Int} :
    Within (protocol tenantID seats sequential)
      (fun server session => Holding tenantID seats 0 none server session ∧
        (now < row.expiresAt → Promised tenantID seats 1 row.id server session))
      (recheckExpired tenantID row now : DbM σ _)
      fun _ => Promised tenantID seats 1 row.id := by
  rw [recheckExpired]
  split
  case isTrue lapsed =>
    have locks : Within (protocol tenantID seats sequential) (Holding tenantID seats 0 none)
        (TenantRepository.licensedSeatsForUpdate tenantID : DbM σ _)
        fun licensed server session => licensed = seats ∧
          Holding tenantID seats 0 none server session :=
      within_licensedSeats (stable_holding 0 none) fun server session tenant _ holding =>
        holding.shrinks (.refl _)
    refine Attempt.bind (Attempt.strengthen locks fun _ _ _ holds => holds.1) fun licensed =>
      Attempt.of_fact fun same => ?_
    subst same
    refine Attempt.bind within_countActive fun active => ?_
    refine Attempt.bind within_countPending fun pending => ?_
    split
    · exact within_throw
    case isFalse left =>
      exact Attempt.pure fun _ _ _ counted => (counted.free left).promised
  case isFalse unexpired =>
    exact Attempt.pure fun _ _ _ holds => holds.2 (by omega)

theorem within_relockPending :
    Within (protocol tenantID seats sequential) (Opening tenantID seats)
      (relockPending tenantID) (Relocked tenantID seats) := by
  refine Attempt.bind Attempt.get fun candidate => ?_
  cases candidate with
  | none =>
      exact Attempt.pure fun _ _ _ opening =>
        ⟨opening.toHolding, fun row _ _ => opening.unlocked row.id⟩
  | some pending =>
      refine Attempt.bind within_lockInvitation fun found => ?_
      cases found with
      | none => exact Attempt.bind Attempt.assign fun _ => Attempt.pure fun _ _ _ holds => holds
      | some locked =>
          refine Attempt.of_fact fun same => ?_
          by_cases waiting : locked.status = .pending
          · simp only [waiting, ne_eq, not_true_eq_false, if_false, if_true]
            refine Attempt.bind within_readClock fun now => ?_
            refine Attempt.bind within_recheckExpired fun _ => ?_
            refine Attempt.bind Attempt.assign fun _ => Attempt.pure fun _ _ _ promised => ?_
            exact same ▸ promised
          · simp only [waiting, ne_eq, not_false_eq_true, if_false, if_true]
            exact Attempt.bind Attempt.assign fun _ => Attempt.pure fun _ _ _ holds => holds

/-! ## The transaction -/

theorem within_addMember {found : Option PendingInvitation} :
    Within (protocol tenantID seats sequential) (Relocked tenantID seats found)
      (MembershipRepository.insert tenantID userID .active : DbM σ _)
      fun _ => match found with
        | none => Holding tenantID seats 0 none
        | some pending => Promised tenantID seats 0 pending.id := by
  cases found with
  | none =>
      exact within_insertMember within_addPlain (within_holding (issues_send (mild_read rfl)))
  | some pending =>
      exact within_insertMember within_addPromised
        (within_read lenient stable_promised (fun _ _ => rfl) fun _ _ _ _ promised _ =>
          promised.reads)

theorem within_addFromRegisterTx :
    Within (protocol tenantID seats sequential) Entered (addFromRegisterTx tenantID userID)
      fun _ => Holding tenantID seats 0 none := by
  have locks : Within (protocol tenantID seats sequential) Entered
      (TenantRepository.lockByID tenantID : DbM (Option PendingInvitation) _)
      fun _ => Opening tenantID seats := by
    apply within_lockByID lenient stable_entered
    intro server session tenant inv entered _
    refine ⟨entered.locks inv, fun id mem => ?_⟩
    simp [Session.extended, entered.unlocked] at mem
  refine Attempt.bind locks fun _ => ?_
  refine Attempt.bind within_relockPending fun found => ?_
  refine Attempt.bind within_addMember fun membership => ?_
  cases found with
  | none => exact Attempt.pure fun _ _ _ holding => holding
  | some pending =>
      exact Attempt.bind within_acceptInvitation fun _ => Attempt.pure fun _ _ _ holding => holding

end Seats

end OrgMembership
