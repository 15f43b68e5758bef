import Mathlib.Logic.Relation
import OrgMembership.Repository.Alone
import OrgMembership.Service.Alone
import OrgMembership.Service.Projecting

/-!
# The mark of an ownerless tenant is sound

`ownerless_since` is set by I-5 when the last owner goes and cleared by O-7.  The other calls
that can make an owner leave the mark alone, so a marked tenant has no owner as long as none
of them gives a marked tenant one.
-/

namespace OrgMembership

open Concurrency Relational

/-- A tenant that is marked as ownerless has no live owner. -/
def MarkSound (tenantID : Uuid) (db : Db) : Prop :=
  ∀ tenant ∈ db.tenants, tenant.id = tenantID → tenant.ownerlessSince.isSome = true →
    ∀ role ∈ db.roles, role.ownerOf tenantID = false

namespace Marker

/-- The tenant is not marked. -/
def Unmarked (tenantID : Uuid) (db : Db) : Prop :=
  ∀ tenant ∈ db.tenants, tenant.id = tenantID → tenant.ownerlessSince = none

/-- The tenant has no live owner. -/
def Vacant (tenantID : Uuid) (db : Db) : Prop :=
  ∀ role ∈ db.roles, role.ownerOf tenantID = false

variable {tenantID : Uuid} {db : Db}

theorem markSound_of_unmarked (unmarked : Unmarked tenantID db) : MarkSound tenantID db := by
  intro tenant mem about marked
  rw [unmarked tenant mem about] at marked
  cases marked

theorem markSound_of_vacant (vacant : Vacant tenantID db) : MarkSound tenantID db :=
  fun _ _ _ _ => vacant

/-! ## Statements -/

/-- The statement marks the tenant. -/
def Marks (tenantID : Uuid) (query : Query) : Prop :=
  query = .tenant (.markOwnerlessIfUnset tenantID)

/-- The statement may give the tenant an owner. -/
def Crowns (tenantID : Uuid) : Query → Prop
  | .role (.insert id _ _ code _) => id = tenantID ∧ code = .tenantOwner
  | _ => False

section Statements

variable {context : Context} {query : Query} {result : query.Result} {writes : List Write}

theorem Unmarked.kept (unmarked : Unmarked tenantID db) (other : ¬Marks tenantID query)
    (yields : (query.effect context db).Yields result writes) :
    Unmarked tenantID (dialect.applyAll writes db) := by
  intro tenant mem about
  rcases tenantLawful.mem_applyAll mem with put | ⟨old, _⟩
  · cases tenant_write yields put with
    | insert => rfl
    | patch memRow patch =>
        rw [Tenant.touch_proj Tenant.ownerlessSince fun _ _ _ => rfl]
        rw [Tenant.touch_proj Tenant.id fun _ _ _ => rfl, LifecyclePatch.set_id] at about
        have before := unmarked _ memRow about
        cases patch <;> exact before
    | setLastEventAt memRow timestamp =>
        rw [Tenant.touch_proj Tenant.ownerlessSince fun _ _ _ => rfl]
        rw [Tenant.touch_proj Tenant.id fun _ _ _ => rfl] at about
        have before := unmarked _ memRow about
        exact before
    | markOwnerless memRow =>
        rw [Tenant.touch_proj Tenant.id fun _ _ _ => rfl] at about
        exact absurd (congrArg (fun id => Query.tenant (.markOwnerlessIfUnset id)) about) other
    | update memRow update selected =>
        rw [Tenant.touch_proj Tenant.ownerlessSince fun _ _ _ => rfl]
        rw [Tenant.touch_proj Tenant.id fun _ _ _ => rfl, TenantUpdate.set_id] at about
        have before := unmarked _ memRow about
        cases update <;> first | rfl | exact before
  · exact unmarked tenant old about

theorem Vacant.kept (vacant : Vacant tenantID db) (other : ¬Crowns tenantID query)
    (yields : (query.effect context db).Yields result writes) :
    Vacant tenantID (dialect.applyAll writes db) := by
  intro role mem
  rcases roleLawful.mem_applyAll mem with put | ⟨old, _⟩
  · cases role_write yields put with
    | insert =>
        by_contra crowned
        simp only [TenantRole.ownerOf, newRole, Bool.and_eq_true, Bool.not_eq_false] at crowned
        exact other ⟨of_decide_eq_true crowned.1.1, of_decide_eq_true crowned.1.2⟩
    | softDelete => simp [TenantRole.ownerOf]
  · exact vacant role old

end Statements

/-! ## Transactions

A call meets a tenant that is not marked, and does not mark it, or one without an owner, and
gives it none. -/

/-- What a call relies on, by whether it must take the tenant for marked. -/
def Holds (tenantID : Uuid) : Bool → Db → Prop
  | true => Vacant tenantID
  | false => Unmarked tenantID

/-- The statements that keep it. -/
def Permits (tenantID : Uuid) : Bool → Query → Prop
  | true => fun query => ¬Crowns tenantID query
  | false => fun query => ¬Marks tenantID query

/-- The statements that neither mark a tenant nor grant a role. -/
def plain : Query → Bool
  | .role (.insert _ _ _ _ _) | .tenant (.markOwnerlessIfUnset _) => false
  | _ => true

variable {σ α : Type} {marked : Bool} {base : Db} {userID : Uuid}

theorem permits_of_plain {query : Query} (isPlain : plain query = true) :
    Permits tenantID marked query := by
  cases marked with
  | false =>
      rintro rfl
      cases isPlain
  | true =>
      intro crowns
      unfold Crowns at crowns
      split at crowns
      · cases isPlain
      · exact crowns

theorem permits_insert {membershipID grantedBy : Uuid} {code : TenantRoleCode}
    (harmless : marked = true → code ≠ .tenantOwner) :
    Permits tenantID marked (.role (.insert tenantID userID membershipID code grantedBy)) := by
  cases marked with
  | false => exact nofun
  | true => exact fun crowns => harmless rfl crowns.2

theorem keeps_holds {program : DbM σ α}
    (issues : Fallible.Issues (Only (Permits tenantID marked)) program) :
    Keeps solo (Seen base (Holds tenantID marked)) program := by
  refine keeps_seen (fun query permitted context db result writes holds yields => ?_) issues
  cases marked with
  | false => exact Unmarked.kept holds permitted yields
  | true => exact Vacant.kept holds permitted yields

theorem inside_holds {program : DbM σ α}
    (issues : Fallible.Issues (Only (Permits tenantID marked)) program) :
    Inside base (Holds tenantID marked) program fun _ => Holds tenantID marked :=
  inside_of_keeps (keeps_holds issues)

theorem removal_permitted (version : Int) :
    RemovalAllowed (Permits tenantID marked) tenantID userID version :=
  ⟨permits_of_plain rfl, fun _ => permits_of_plain rfl, permits_of_plain rfl,
    fun _ => permits_of_plain rfl, permits_of_plain rfl, fun _ => permits_of_plain rfl,
    permits_of_plain rfl, fun _ _ => permits_of_plain rfl⟩

theorem guards_permitted : GuardAllowed (Permits tenantID marked) tenantID userID :=
  ⟨permits_of_plain rfl, permits_of_plain rfl, permits_of_plain rfl, permits_of_plain rfl⟩

theorem assign_permitted : AssignAllowed (Permits tenantID marked) tenantID userID :=
  ⟨fun _ => permits_of_plain rfl, fun _ => permits_of_plain rfl, fun _ _ => permits_of_plain rfl,
    fun _ => permits_of_plain rfl, fun _ _ _ _ => permits_of_plain rfl,
    fun _ => permits_of_plain rfl, fun _ _ => permits_of_plain rfl⟩

theorem issues_granted {membershipID grantedBy : Uuid} {code : TenantRoleCode}
    (harmless : marked = true → code ≠ .tenantOwner) :
    Fallible.Issues (Only (Permits tenantID marked))
      (TenantRoleRepository.grant tenantID userID membershipID code grantedBy : DbM σ _) :=
  TenantRoleRepository.issues_grant (permits_insert harmless) (permits_of_plain rfl)

theorem issues_enqueued (event : DomainEvent) :
    Fallible.Issues (Only (Permits tenantID marked)) (enqueue event : DbM σ _) :=
  issues_send (permits_of_plain rfl)

theorem inside_removeUserTx {actorID : Uuid} :
    Inside base (Holds tenantID marked) (removeUserTx tenantID userID actorID : DbM σ _)
      fun _ => Holds tenantID marked :=
  inside_holds (issues_removeUserTx guards_permitted removal_permitted)

theorem inside_reconcileTx {membershipID actorID : Uuid} {strippingOwner : Bool}
    {grants revokes : List TenantRoleCode}
    (harmless : marked = true → .tenantOwner ∉ grants) :
    Inside base (Holds tenantID marked)
      (reconcileTx tenantID userID membershipID actorID strippingOwner grants revokes)
      fun _ => Holds tenantID marked := by
  apply inside_holds
  refine (issues_guardStripping (permits_of_plain rfl) (permits_of_plain rfl)).bind fun _ => ?_
  refine Fallible.Issues.bind (Fallible.Issues.forM fun code granted => ?_) fun _ => ?_
  · exact issues_grantRole (permits_insert fun isMarked same => harmless isMarked (same ▸ granted))
      (permits_of_plain rfl) fun _ _ => permits_of_plain rfl
  · exact Fallible.Issues.forM fun _ _ => issues_revokeRole (permits_of_plain rfl)
      (fun _ => permits_of_plain rfl) fun _ _ => permits_of_plain rfl

theorem inside_assignFromGroupsTx {membershipID : Uuid} {targets : List (Uuid × DeptRole)}
    {roles : TenantRoleCode → Bool} {order : MapOrder}
    (harmless : marked = true → roles .tenantOwner = false) :
    Inside base (Holds tenantID marked)
      (assignFromGroupsTx tenantID userID membershipID targets roles order)
      fun _ => Holds tenantID marked := by
  apply inside_holds
  refine Fallible.Issues.bind
    (Fallible.Issues.forM fun _ _ => issues_assignResolved assign_permitted) fun _ => ?_
  refine (issues_send (permits_of_plain rfl)).bind fun existing => ?_
  refine Fallible.Issues.forM fun code granted => ?_
  refine (issues_granted fun isMarked same => ?_).bind fun _ =>
    (Fallible.issues_modify _).bind fun _ => issues_enqueued _
  subst same
  simp only [MapOrder.visit, List.mem_filter, harmless isMarked] at granted
  exact absurd granted.2 (by simp)

/-! I-3 applies what the invitation queued that it found before its transaction. -/

/-- A candidate that makes no owner of a marked tenant. -/
def Harmless (marked : Bool) (candidate : Option PendingInvitation) : Prop :=
  marked = true → ∀ pending, candidate = some pending →
    .tenantOwner ∉ pending.initialTenantRoles

theorem issues_permitted_acceptInvitation {membershipID : Uuid} {pending : PendingInvitation}
    (harmless : Harmless marked (some pending)) : Fallible.Issues (Only (Permits tenantID marked))
      (acceptInvitation tenantID userID membershipID pending : DbM σ _) := by
  refine (InvitationRepository.issues_setStatus (permits_of_plain rfl)
    (permits_of_plain rfl)).bind fun _ => ?_
  refine Fallible.Issues.bind (Fallible.Issues.forM fun code queued => ?_) fun _ =>
    Fallible.Issues.forM fun _ _ => issues_assignInitial assign_permitted
  refine (issues_granted fun isMarked same => ?_).bind fun _ => issues_enqueued _
  exact harmless isMarked pending rfl (same ▸ (List.mem_filter.mp queued).1)

theorem alone_addFromRegister {keycloakUserID : Uuid} {email : String} {isServiceAccount : Bool}
    (holds : Holds tenantID marked base)
    (harmless : Harmless marked
      (candidateOf tenantID keycloakUserID (normalizeEmail email) base)) :
    Alone (· = base)
      (addFromRegister tenantID userID keycloakUserID email isServiceAccount : DbM σ _)
      (fun _ => Holds tenantID marked) fun _ => Holds tenantID marked := by
  have inserts : Inside base (· = base) (MembershipRepository.insert tenantID userID .active :
      DbM (Option PendingInvitation) _) fun _ => Holds tenantID marked :=
    (inside_holds (MembershipRepository.issues_insert (permits_of_plain rfl)
      (permits_of_plain rfl))).weaken (fun _ same => same ▸ holds) fun _ _ after => after
  refine (alone_register inserts (fun _ _ after => after) (fun _ pending found => ?_)
    fun _ _ _ => inside_holds (issues_send (permits_of_plain rfl))).weaken (fun _ same => same)
    (fun _ _ after => after) fun _ _ aborted => aborted.elim (fun same => same ▸ holds) id
  exact inside_holds (issues_permitted_acceptInvitation (found ▸ harmless))

/-! I-5 marks the tenant after it has counted no owner. -/

theorem vacant_of_count (none : db.roles.count (·.ownerOf tenantID) = 0) : Vacant tenantID db := by
  intro role mem
  rw [Table.count, List.countP_eq_zero] at none
  exact Bool.eq_false_iff.mpr (none role mem)

theorem markSound_of_holds (holds : Holds tenantID marked db) : MarkSound tenantID db := by
  cases marked with
  | false => exact markSound_of_unmarked holds
  | true => exact markSound_of_vacant holds

theorem inside_escalateOwnerless {wasOwner : Bool} :
    Inside base (Holds tenantID marked) (escalateOwnerless tenantID wasOwner : DbM σ _)
      fun _ => MarkSound tenantID := by
  rw [escalateOwnerless]
  split
  · have counts : Inside base (Holds tenantID marked)
        (TenantRoleRepository.countActiveOwners tenantID : DbM σ _)
        fun owners db => (owners = 0 → Vacant tenantID db) ∧ Holds tenantID marked db :=
      inside_read (fun _ _ => rfl) fun _ _ holds => ⟨vacant_of_count, holds⟩
    refine Inside.bind counts fun owners => ?_
    split
    case isTrue none =>
      have marks : Inside base (Vacant tenantID)
          (TenantRepository.markOwnerlessIfUnset tenantID : DbM σ _) fun _ => Vacant tenantID :=
        inside_only (fun _ other _ _ _ _ vacant yields => vacant.kept other yields)
          (issues_send (show ¬Crowns tenantID (.tenant (.markOwnerlessIfUnset tenantID)) from id))
      exact marks.weaken (fun _ holds => holds.1 none) fun _ _ => markSound_of_vacant
    case isFalse => exact inside_pure fun _ holds => markSound_of_holds holds.2
  · exact inside_pure fun _ holds => markSound_of_holds holds

theorem inside_deleteMemberTx :
    Inside base (Holds tenantID marked) (deleteMemberTx tenantID userID : DbM σ _)
      fun _ => MarkSound tenantID := by
  refine Inside.bind (inside_holds
    (MembershipRepository.issues_findByUserID (permits_of_plain rfl)).observe) fun found => ?_
  cases found with
  | error failure =>
      dsimp only
      split
      · exact inside_pure fun _ => markSound_of_holds
      · exact inside_throw
  | ok membership =>
      refine Inside.bind (inside_holds (issues_send (permits_of_plain rfl))) fun roles => ?_
      exact Inside.bind (inside_holds (issues_cascadeRemoval (removal_permitted _))) fun _ =>
        inside_escalateOwnerless

/-! O-7 clears the mark in the transaction of its grant. -/

theorem inside_clearOwnerlessSince :
    Inside base (fun _ => True) (TenantRepository.clearOwnerlessSince tenantID : DbM σ _)
      fun _ => Unmarked tenantID := by
  have clears : Inside base (fun _ => True)
      (tenantQuery (.update tenantID .clearOwnerlessSince) : DbM σ _)
      fun _ => Unmarked tenantID := by
    refine inside_send fun context db result writes _ yields tenant mem about => ?_
    rcases Access.updateRow_cases yields with
      ⟨_, rfl, absent⟩ | ⟨row, _, updated, about', _, computed, _, rfl, _⟩
    · exact absurd (absent tenant mem about) (by simp [TenantUpdate.selects])
    · have same : updated.id = row.id := by
        rw [(Tenant.update_eq_ok.mp (updateTenant_eq_ok computed)).1]
        exact Tenant.touch_proj Tenant.id (fun _ _ _ => rfl) _ _ _
      have written : tenant ∈ tenantAccess.table
        (dialect.applyAll [tenantAccess.change (.put updated)] db) := mem
      rcases tenantLawful.mem_applyAll written with put | ⟨_, untouched⟩
      · cases List.mem_singleton.mp put
        rw [(Tenant.update_eq_ok.mp (updateTenant_eq_ok computed)).1]
        exact Tenant.touch_proj Tenant.ownerlessSince (fun _ _ _ => rfl) _ _ _
      · exact absurd (same.trans (about'.trans about.symm))
          (untouched _ (List.mem_singleton.mpr rfl))
  exact Inside.bind clears fun _ => inside_pure fun _ unmarked => unmarked

theorem inside_reassignOwnerTx {membershipID actorID : Uuid} :
    Inside base (fun _ => True)
      (reassignOwnerTx tenantID userID membershipID actorID : DbM σ _)
      fun _ => Unmarked tenantID := by
  have grants : Inside base (fun _ => True)
      (TenantRoleRepository.grant tenantID userID membershipID .tenantOwner actorID : DbM σ _)
      fun _ _ => True :=
    inside_any (TenantRoleRepository.issues_grant trivial trivial)
  have publishes : ∀ event, Inside base (Holds tenantID false) (enqueue event : DbM σ _)
      fun _ => Holds tenantID false :=
    fun event => inside_holds (issues_enqueued event)
  refine Inside.bind grants fun granted => Inside.bind inside_clearOwnerlessSince fun _ => ?_
  exact Inside.bind (publishes _) fun _ => inside_pure fun _ unmarked => unmarked

/-! I-1 seeds the owner of a tenant that it has inserted, so not of a marked one. -/

theorem delivers_permitted {query : Query} (delivers : Delivers tenantID query) :
    Permits tenantID marked query := by
  refine permits_of_plain ?_
  unfold plain
  split
  · exact absurd delivers id
  · exact absurd delivers id
  · rfl

theorem alone_replayParked {catalog : PlanCatalog} :
    Alone (Holds tenantID marked) (replayParked catalog tenantID : DbM σ _)
      (fun _ => Holds tenantID marked) fun _ => Holds tenantID marked := by
  refine keeps_replayParked (reader_solo _) fun parked duration => ?_
  refine keeps_runInTx fun base => inside_of_keeps ?_
  exact keeps_replayTx fun query settles _ =>
    keeps_holds (issues_send (delivers_permitted (delivers_of_settles settles)))

theorem inside_insertTenant {values : TenantInsert} (about : values.id = tenantID) :
    Inside base (fun db => Vacant tenantID db ∧ db.tenants.Has tenantID)
      (TenantRepository.insert values : DbM σ _)
      fun created db => created.2 = false ∧ Vacant tenantID db := by
  subst about
  have inserts : Inside base (fun db => Vacant values.id db ∧ db.tenants.Has values.id)
      (tenantQuery (.insert values) : DbM σ _)
      fun created db => created = none ∧ Vacant values.id db := by
    refine inside_send fun context db result writes holds yields => ?_
    rcases tenantInsert_cases yields with ⟨rfl, rfl, _⟩ | ⟨_, _, absent⟩
    · exact ⟨rfl, holds.1⟩
    · exact absurd holds.2 absent
  refine Inside.bind (Attempt.mapError inserts) fun created => inside_of_fact fun absorbed => ?_
  subst absorbed
  have finds : Inside base (Vacant values.id) (tenantQuery (.findByID values.id) : DbM σ _)
      fun _ => Vacant values.id := inside_read (fun _ _ => rfl) fun _ _ vacant => vacant
  refine Inside.bind finds fun found => ?_
  cases found with
  | none => exact inside_throw
  | some existing => exact inside_pure fun _ vacant => ⟨rfl, vacant⟩

theorem seed_permitted {ownerUserID : Uuid} :
    SeedAllowed (Permits tenantID false) tenantID ownerUserID :=
  ⟨fun _ => permits_of_plain rfl, permits_of_plain rfl, permits_of_plain rfl, permits_of_plain rfl,
    fun _ => permits_insert nofun, permits_of_plain rfl, fun _ => permits_of_plain rfl⟩

/-- What I-1 relies on: a marked tenant is there already. -/
def Meets (tenantID : Uuid) (marked : Bool) (db : Db) : Prop :=
  Holds tenantID marked db ∧ (marked = true → db.tenants.Has tenantID)

theorem inside_trialSignupTx {input : TrialSignupInput} {hash : String} {seats trialEnds : Int}
    {trialDeptIDs : List Uuid} :
    Inside base (Meets input.tenantID marked)
      (trialSignupTx input hash seats trialEnds trialDeptIDs : DbM σ _)
      fun _ => Holds input.tenantID marked := by
  have claims : Inside base (Holds input.tenantID marked) (claimHash hash input.tenantID : DbM σ _)
      fun _ => Holds input.tenantID marked :=
    inside_holds (issues_claimHash (permits_of_plain rfl))
  have locks : ∀ {fact : Db → Prop}, Inside base fact
      (ParkedTenantEventRepository.lockTenantProvisioning input.tenantID : DbM σ _)
      fun _ => fact := by
    intro fact
    refine inside_send fun context db result writes holds yields => ?_
    rwa [Effect.yields_advisory.mp yields]
  cases marked with
  | false =>
      have inserts : Inside base (Holds input.tenantID false)
          (TenantRepository.insert (trialTenant input trialEnds seats) : DbM σ _)
          fun _ => Holds input.tenantID false := by
        refine inside_holds ?_
        refine (issues_send (permits_of_plain rfl)).mapError.bind fun created => ?_
        cases created with
        | some tenant => exact Fallible.issues_pure _
        | none =>
            refine (issues_send (permits_of_plain rfl)).bind fun found => ?_
            cases found with
            | none => exact Fallible.issues_throw _
            | some existing => exact Fallible.issues_pure _
      refine Inside.bind locks fun _ => Inside.bind
        (inserts.weaken (fun _ holds => holds.1) fun _ _ holds => holds) fun created => ?_
      refine Inside.bind claims fun _ => ?_
      split
      · exact Inside.bind (inside_holds (issues_seedTenant seed_permitted)) fun _ =>
          inside_pure fun _ holds => holds
      · exact inside_pure fun _ holds => holds
  | true =>
      refine Inside.bind locks fun _ => Inside.bind
        ((inside_insertTenant rfl).weaken (fun _ holds => ⟨holds.1, holds.2 rfl⟩)
          fun _ _ holds => holds) fun created => inside_of_fact fun absorbed => ?_
      refine Inside.bind claims fun _ => ?_
      rw [absorbed]
      exact inside_pure fun _ holds => holds

theorem alone_trialSignup {catalog : PlanCatalog}
    {departments : Except Failure (List CatalogDepartment)} {input : TrialSignupInput} :
    Alone (Meets input.tenantID marked) (trialSignup catalog departments input : DbM σ _)
      (fun _ => Holds input.tenantID marked) fun _ => Holds input.tenantID marked := by
  have reads : Alone (Meets input.tenantID marked) (timeNow : DbM σ Int)
      (fun _ => Meets input.tenantID marked) fun _ => Holds input.tenantID marked :=
    AloneBy.weaken (Reader.timeNow (reader_solo (Meets input.tenantID marked)))
      (fun _ meets => meets) (fun _ _ meets => meets) fun _ _ meets => meets.1
  have signs : ∀ hash seats trialEnds trialDeptIDs, Alone (Meets input.tenantID marked)
      (runInTx (trialSignupTx input hash seats trialEnds trialDeptIDs) : DbM σ _)
      (fun _ => Holds input.tenantID marked) fun _ => Holds input.tenantID marked := by
    intro hash seats trialEnds trialDeptIDs
    refine alone_runInTx_into (fun base meets => ?_) (fun _ meets => meets.1)
      fun _ _ holds => holds
    exact inside_trialSignupTx.weaken (fun _ same => same ▸ meets) fun _ _ holds => holds
  rw [trialSignup]
  split
  · exact alone_throw fun _ meets => meets.1
  · exact alone_throw fun _ meets => meets.1
  · refine AloneBy.bind reads fun now => ?_
    cases departments with
    | error failure => exact alone_throw fun _ meets => meets.1
    | ok departments =>
        refine AloneBy.bind (signs _ _ _ _) fun created => ?_
        exact AloneBy.bind (Keeps.observe alone_replayParked) fun replay =>
          alone_pure fun _ holds => holds

/-! ## Every sequence of calls -/

/-- The calls on one tenant. -/
inductive Call
  | trialSignup (catalog : PlanCatalog) (departments : Except Failure (List CatalogDepartment))
      (input : TrialSignupInput)
  | deleteMember (userID : Uuid)
  | removeUser (userID actorID : Uuid) (workflow : WorkflowAnswer)
  | reconcileRoles (userID : Uuid) (desired : List TenantRoleCode) (actorID : Uuid)
      (isServiceAccount : Bool) (grantOrder revokeOrder : MapOrder)
  | assignFromGroups (userID : Uuid) (groups : List String) (mappings : GroupMappings)
      (order : MapOrder)
  | addFromRegister (userID keycloakUserID : Uuid) (email : String) (isServiceAccount : Bool)
  | reassignOwner (newOwnerUserID actorID : Uuid)

/-- The code of a call for the tenant. -/
def code (tenantID : Uuid) : Call → DbM Unit Unit
  | .trialSignup catalog departments input => do
      let _ ← trialSignup catalog departments { input with tenantID }
      return ()
  | .deleteMember userID => do
      let _ ← deleteMember tenantID userID
      return ()
  | .removeUser userID actorID workflow => removeUser tenantID userID actorID workflow
  | .reconcileRoles userID desired actorID isServiceAccount grantOrder revokeOrder => do
      let _ ← reconcileRoles tenantID userID desired actorID isServiceAccount grantOrder revokeOrder
      return ()
  | .assignFromGroups userID groups mappings order => do
      let _ ← assignFromGroups tenantID userID groups mappings order
      return ()
  | .addFromRegister userID keycloakUserID email isServiceAccount => do
      let _ ← addFromRegister tenantID userID keycloakUserID email isServiceAccount
      return ()
  | .reassignOwner newOwnerUserID actorID => do
      let _ ← reassignOwner tenantID newOwnerUserID actorID
      return ()

/-- `ownerless_since` of the tenant is set. -/
def isMarked (tenantID : Uuid) (db : Db) : Bool :=
  db.tenants.rows.any fun tenant => tenant.id = tenantID && tenant.ownerlessSince.isSome

/-- The call asks for an owner and leaves the mark alone: the roles it is to set, the groups
of the user, or the invitation it finds contain the owner role. -/
def grantsOwner (tenantID : Uuid) (db : Db) : Call → Bool
  | .reconcileRoles _ desired _ _ _ _ => desired.contains .tenantOwner
  | .assignFromGroups _ groups mappings _ => resolvesRole mappings groups .tenantOwner
  | .addFromRegister _ keycloakUserID email _ =>
      (candidateOf tenantID keycloakUserID (normalizeEmail email) db).any
        fun pending => pending.initialTenantRoles.contains .tenantOwner
  | _ => false

/-- Only O-7 is asked to give a marked tenant an owner. -/
def Spares (tenantID : Uuid) (db : Db) (call : Call) : Prop :=
  isMarked tenantID db = true → grantsOwner tenantID db call = false

instance (call : Call) : Decidable (Spares tenantID db call) :=
  inferInstanceAs (Decidable (_ → _))

/-- One call completes before the next starts, or time passes. -/
inductive Step (tenantID : Uuid) (permits : Db → Call → Prop) : DbServer → DbServer → Prop
  | call {before after : DbServer} (call : Call) (outcome : Except Failure Unit)
      (permitted : permits before.db call)
      (completes : server.Completes (code tenantID call).run before outcome after) :
      Step tenantID permits before after
  | wait (before : DbServer) (elapsed : Nat) :
      Step tenantID permits before (server.signal elapsed before)

theorem exists_holds (sound : MarkSound tenantID db) :
    ∃ marked, Holds tenantID marked db ∧ (marked = true → isMarked tenantID db = true) := by
  by_cases unmarked : Unmarked tenantID db
  · exact ⟨false, unmarked, nofun⟩
  · simp only [Unmarked, not_forall] at unmarked
    obtain ⟨tenant, mem, about, marked⟩ := unmarked
    have isSome : tenant.ownerlessSince.isSome = true := Option.isSome_iff_ne_none.mpr marked
    refine ⟨true, sound tenant mem about isSome, fun _ => ?_⟩
    rw [isMarked, List.any_eq_true]
    exact ⟨tenant, mem, by simp [about, isSome]⟩

theorem has_of_isMarked (marked : isMarked tenantID db = true) : db.tenants.Has tenantID := by
  rw [isMarked, List.any_eq_true] at marked
  obtain ⟨tenant, mem, shown⟩ := marked
  rw [Bool.and_eq_true] at shown
  exact ⟨tenant, mem, of_decide_eq_true shown.1⟩

/-- A call whose result is dropped. -/
theorem sound_of_alone {program : DbM Unit α} (holds : Holds tenantID marked base)
    (alone : Alone (Holds tenantID marked) program (fun _ => Holds tenantID marked)
      fun _ => Holds tenantID marked) :
    Alone (· = base) program (fun _ => MarkSound tenantID) fun _ => MarkSound tenantID :=
  alone.weaken (fun _ same => same ▸ holds) (fun _ _ => markSound_of_holds)
    fun _ _ => markSound_of_holds

theorem alone_code {call : Call} (sound : MarkSound tenantID base)
    (spares : Spares tenantID base call) :
    Alone (· = base) (code tenantID call) (fun _ => MarkSound tenantID)
      fun _ => MarkSound tenantID := by
  obtain ⟨marked, holds, isMarked⟩ := exists_holds sound
  have drop : ∀ {β : Type} {program : DbM Unit β},
      Alone (· = base) program (fun _ => MarkSound tenantID) (fun _ => MarkSound tenantID) →
      Alone (· = base) (program >>= fun _ => pure ()) (fun _ => MarkSound tenantID)
        fun _ => MarkSound tenantID :=
    fun alone => AloneBy.bind alone fun _ => alone_pure fun _ holds => holds
  cases call with
  | trialSignup catalog departments input =>
      have signs : ∀ input : TrialSignupInput, input.tenantID = tenantID →
          Alone (Meets tenantID marked) (trialSignup catalog departments input : DbM Unit _)
            (fun _ => Holds tenantID marked) fun _ => Holds tenantID marked := by
        rintro input rfl
        exact alone_trialSignup
      exact drop ((signs _ rfl).weaken
        (fun _ same => same ▸ ⟨holds, fun marked => has_of_isMarked (isMarked marked)⟩)
        (fun _ _ => markSound_of_holds) fun _ _ => markSound_of_holds)
  | deleteMember userID =>
      refine drop (alone_runInTx_into (fun start here => ?_) (fun _ same => same ▸ sound)
        fun _ _ sound => sound)
      rw [show start = base from here]
      exact inside_deleteMemberTx.weaken (fun _ same => same ▸ holds) fun _ _ sound => sound
  | removeUser userID actorID workflow =>
      exact sound_of_alone holds (attempt_removeUser (fun _ _ _ here => here)
        (keeps_runInTx fun _ => inside_removeUserTx))
  | reconcileRoles userID desired actorID isServiceAccount grantOrder revokeOrder =>
      refine drop (sound_of_alone holds (atomic_reconcileRoles (reader_solo _)
        fun _ _ grants _ asked _ => keeps_runInTx fun _ =>
          inside_reconcileTx fun marked granted => ?_))
      have none := spares (isMarked marked)
      rw [grantsOwner, List.contains_iff_mem.mpr (asked _ granted)] at none
      cases none
  | assignFromGroups userID groups mappings order =>
      exact drop (sound_of_alone holds (atomic_assignFromGroups (reader_solo _)
        (fun _ _ holds => holds) fun _ => keeps_runInTx fun _ =>
          inside_assignFromGroupsTx fun marked => spares (isMarked marked)))
  | addFromRegister userID keycloakUserID email isServiceAccount =>
      have harmless : Harmless marked
          (candidateOf tenantID keycloakUserID (normalizeEmail email) base) := by
        intro marked pending found queued
        have none := spares (isMarked marked)
        rw [grantsOwner, found, Option.any_some, List.contains_iff_mem.mpr queued] at none
        cases none
      exact drop ((alone_addFromRegister holds harmless).weaken (fun _ same => same)
        (fun _ _ => markSound_of_holds) fun _ _ => markSound_of_holds)
  | reassignOwner newOwnerUserID actorID =>
      have commits : ∀ membershipID, Alone (MarkSound tenantID)
          (runInTx (reassignOwnerTx tenantID newOwnerUserID membershipID actorID) : DbM Unit _)
          (fun _ => Unmarked tenantID) fun _ => MarkSound tenantID :=
        fun _ => alone_runInTx_into (fun _ _ => inside_reassignOwnerTx.weaken
          (fun _ _ => trivial) fun _ _ unmarked => unmarked) (fun _ sound => sound)
          fun _ _ => markSound_of_unmarked
      have reassigns : Alone (MarkSound tenantID)
          (reassignOwner tenantID newOwnerUserID actorID : DbM Unit _)
          (fun _ => Unmarked tenantID) fun _ => MarkSound tenantID :=
        atomic_reassignOwner (reader_solo (MarkSound tenantID)) commits
      exact drop (reassigns.weaken (fun _ same => same ▸ sound)
        (fun _ _ => markSound_of_unmarked) fun _ _ sound => sound)

theorem Step.sound {before after : DbServer} (step : Step tenantID (Spares tenantID) before after)
    (sound : MarkSound tenantID before.db) : MarkSound tenantID after.db := by
  cases step with
  | call call outcome permitted completes =>
      have ended := (alone_code sound permitted).ended completes rfl
      cases outcome with
      | ok _ => exact ended
      | error failure => exact ended
  | wait => exact sound

end Marker

open Marker in
/-- T-13: as long as only O-7 gives a marked tenant an owner, a marked tenant has none. -/
theorem markSound_of_calls {tenantID : Uuid} {start final : DbServer}
    (sound : MarkSound tenantID start.db)
    (runs : Relation.ReflTransGen (Step tenantID (Spares tenantID)) start final) :
    MarkSound tenantID final.db := by
  induction runs with
  | refl => exact sound
  | tail _ step ih => exact step.sound ih

namespace Marker

instance : Decidable (MarkSound tenantID db) :=
  inferInstanceAs (Decidable (∀ tenant ∈ db.tenants.rows, tenant.id = tenantID →
    tenant.ownerlessSince.isSome = true → ∀ role ∈ db.roles.rows, role.ownerOf tenantID = false))

/-- The users 101, the owner, and 102 are members of the tenant. -/
def owned : Db :=
  { Db.empty with
    tenants := .singleton trialRow
    memberships := twoMembers
    roles := .singleton (newRole ⟨0, 0, 21⟩ 1 101 11 .tenantOwner 101) }

/-- The first owner is removed, which marks the tenant, and an operator names the next. -/
theorem markSound_after_reassignment :
    ∃ final, Relation.ReflTransGen (Step 1 (Spares 1)) ⟨owned, 0⟩ final ∧
      (final.db.roles.rows.any fun role => role.userID = 102 && role.ownerOf 1) = true ∧
      MarkSound 1 final.db := by
  obtain ⟨_, marked, deletes, passed⟩ := server.exists_completes_of_endsAs
    (code 1 (.deleteMember 101)).run ⟨owned, 0⟩ (List.replicate 13 (.step 0 (.proceed 100)))
    (fun _ after => decide (isMarked 1 after.db = true) && server.endsAs
      (code 1 (.reassignOwner 102 9)).run after (List.replicate 11 (.step 0 (.proceed 101)))
      fun _ final => final.db.roles.rows.any fun role => role.userID = 102 && role.ownerOf 1)
    (by decide +kernel)
  rw [Bool.and_eq_true] at passed
  obtain ⟨_, final, reassigns, owner⟩ := server.exists_completes_of_endsAs _ _ _ _ passed.2
  have runs : Relation.ReflTransGen (Step 1 (Spares 1)) ⟨owned, 0⟩ final :=
    .tail (.tail .refl (.call _ _ (by decide) deletes)) (.call _ _ (fun _ => rfl) reassigns)
  exact ⟨final, runs, owner, markSound_of_calls (by decide) runs⟩

/-- The owner is removed, which marks the tenant, and P-28 makes the other member the owner. -/
theorem exists_marked_with_owner :
    MarkSound 1 owned ∧ ∃ final,
      Relation.ReflTransGen (Step 1 fun _ _ => True) ⟨owned, 0⟩ final ∧ ¬MarkSound 1 final.db := by
  refine ⟨by decide, ?_⟩
  obtain ⟨_, marked, deletes, passed⟩ := server.exists_completes_of_endsAs
    (code 1 (.deleteMember 101)).run ⟨owned, 0⟩ (List.replicate 13 (.step 0 (.proceed 100)))
    (fun _ after => server.endsAs
      (code 1 (.reconcileRoles 102 [.tenantOwner] 9 false .declared .declared)).run after
      (List.replicate 10 (.step 0 (.proceed 101))) fun _ final => !decide (MarkSound 1 final.db))
    (by decide +kernel)
  obtain ⟨_, final, reconciles, unsound⟩ := server.exists_completes_of_endsAs _ _ _ _ passed
  exact ⟨final, .tail (.tail .refl (.call _ _ trivial deletes)) (.call _ _ trivial reconciles),
    by simpa using unsound⟩

end Marker

end OrgMembership
