import OrgMembership.Repository.Rules
import OrgMembership.Service.Footprint

/-!
# The calls of the consumer

What a projection keeps if each of its statements does, and what the consumer
does outside its transactions.
-/

namespace OrgMembership

open Concurrency Relational

variable {σ α : Type} {protocol : DbProtocol}
  {tenantID : Uuid}
variable {catalog : PlanCatalog} {query : Query}

/-- The statements of a projection onto a tenant. -/
def Projects (tenantID : Uuid) : Query → Prop
  | .tenant (.applyLifecyclePatch id _) | .tenant (.setLastEventAt id _) => id = tenantID
  | .tenant (.scanLabels _) | .tenant (.deleteLabel _) | .tenant (.scanDepts _)
  | .tenant (.deleteDept _) | .membership (.scanTenant _) | .membership (.delete _)
  | .role (.scan _) | .role (.delete _) | .dept (.scan _) | .dept (.delete _)
  | .invitation (.scanTenant _) | .invitation (.delete _) | .event (.enqueue _) => True
  | _ => False

/-- The event is about the state of a tenant. -/
def DomainEvent.relayed (event : DomainEvent) : Bool :=
  match event.data with
  | .tenantStateChanged .. | .tenantMembershipsPurged .. => true
  | _ => false

/-- What the statements take from the event: the kind of patch and the trial
length, the recency mark, the parked copy and the relays. -/
def Carries (env : Envelope) (duration : Int) : Query → Prop
  | .tenant (.applyLifecyclePatch _ (.trialReactivate days)) =>
      env.event = .trialReactivated ∧ days = duration
  | .tenant (.applyLifecyclePatch _ _) => env.event ≠ .trialReactivated
  | .tenant (.setLastEventAt _ timestamp) => timestamp = env.timestamp
  | .event (.park _ parked) => parked = env
  | .event (.enqueue event) => event.relayed = true
  | _ => True

/-- The statements of a wipe. -/
def Wipes : Query → Prop
  | .tenant (.scanLabels _) | .tenant (.deleteLabel _) | .tenant (.scanDepts _)
  | .tenant (.deleteDept _) | .membership (.scanTenant _) | .membership (.delete _)
  | .role (.scan _) | .role (.delete _) | .dept (.scan _) | .dept (.delete _)
  | .invitation (.scanTenant _) | .invitation (.delete _) => True
  | _ => False

theorem projects_of_wipes (wipes : Wipes query) : Projects tenantID query := by
  unfold Wipes at wipes
  split at wipes <;> trivial

theorem carries_of_wipes {env : Envelope} {duration : Int} (wipes : Wipes query) :
    Carries env duration query := by
  unfold Wipes at wipes
  split at wipes <;> trivial

/-- A wipe keeps what its first scan establishes and each of its statements keeps. -/
theorem attempt_wipe {pre wiping : Assertion DbServer DbSession}
    {fails : Failure → Assertion DbServer DbSession}
    (scans : Attempt server protocol pre (invitationQuery (.scanTenant tenantID) : DbM σ _)
      (fun _ => wiping) fails)
    (each : ∀ query, Wipes query →
      Attempt server protocol wiping (send .pg query : DbM σ _) (fun _ => wiping) fails) :
    Attempt server protocol pre (TenantRepository.wipeTenantChildren tenantID : DbM σ _)
      (fun _ => wiping) fails := by
  refine Attempt.bind scans fun _ => Attempt.bind (Attempt.forM fun _ _ =>
    each _ trivial) fun _ => ?_
  refine Attempt.bind (each _ trivial) fun _ => Attempt.bind (Attempt.forM fun _ _ =>
    each _ trivial) fun _ => ?_
  refine Attempt.bind (each _ trivial) fun _ => Attempt.bind (Attempt.forM fun _ _ =>
    each _ trivial) fun _ => ?_
  refine Attempt.bind (each _ trivial) fun _ => Attempt.bind (Attempt.forM fun _ _ =>
    each _ trivial) fun _ => ?_
  refine Attempt.bind (each _ trivial) fun _ => Attempt.bind (Attempt.forM fun _ _ =>
    each _ trivial) fun _ => ?_
  exact Attempt.bind (each _ trivial) fun _ => Attempt.forM fun _ _ => each _ trivial

section Projection

variable {pre : Assertion DbServer DbSession} {fails : Failure → Assertion DbServer DbSession}
  {env : Envelope} {duration : Int}
  (each : ∀ query, Projects tenantID query → Carries env duration query →
    Attempt server protocol pre (send .pg query : DbM σ _) (fun _ => pre) fails)

include each

theorem attempt_wipeTenantChildren :
    Attempt server protocol pre (TenantRepository.wipeTenantChildren tenantID : DbM σ _)
      (fun _ => pre) fails :=
  attempt_wipe (each _ trivial trivial) fun query wipes =>
    each query (projects_of_wipes wipes) (carries_of_wipes wipes)

theorem attempt_applyProjection {prevStatus : SubscriptionStatus} {prevPlan : TenantPlan} :
    Attempt server protocol pre
      (applyProjection (tenantOps tenantID : ProjectionOps (DbM σ)) env.event prevStatus prevPlan
        duration) (fun _ => pre) fails := by
  have patch : ∀ {β : Type} (patch : LifecyclePatch) (rest : Nat → DbM σ β),
      Carries env duration (.tenant (.applyLifecyclePatch tenantID patch)) →
      (∀ rows, Attempt server protocol pre (rest rows) (fun _ => pre) fails) →
      Attempt server protocol pre
        ((tenantOps tenantID : ProjectionOps (DbM σ)).applyLifecyclePatch patch >>= rest)
        (fun _ => pre) fails :=
    fun patch rest carries attempt => Attempt.bind (each _ rfl carries) attempt
  have done : ∀ {β : Type} (value : β),
      Attempt server protocol pre (pure value : DbM σ β) (fun _ => pre) fails :=
    fun value => Attempt.pure fun _ _ _ holds => holds
  cases named : env.event with
  | trialReactivated =>
      refine patch _ _ ⟨named, rfl⟩ fun rows => ?_
      split
      · exact done _
      · exact done _
  | tenantReactivated =>
      rw [applyProjection]
      split
      · exact done _
      · refine patch _ _ (by simp [Carries, named]) fun rows => ?_
        split
        · exact done _
        · exact patch _ _ (by simp [Carries, named]) fun _ => done _
  | tenantSuspended source =>
      refine patch _ _ ?_ fun _ => done _
      split <;> simp [Carries, named]
  | tenantRealmReady | tenantConverted | directPaidSignup | trialExpired | tenantOffboarded |
    tenantPlanChanged | tenantPaymentPastDue | tenantSubscriptionCancelled |
    tenantSeatsChanged => exact patch _ _ (by simp [Carries, named]) fun _ => done _

theorem attempt_relay {prevStatus newStatus : SubscriptionStatus}
    {prevPlan newPlan : TenantPlan} :
    Attempt server protocol pre
      (relay (tenantOps tenantID : ProjectionOps (DbM σ)) tenantID env prevStatus prevPlan
        newStatus newPlan) (fun _ => pre) fails := by
  have wipe : Attempt server protocol pre
      (if prevStatus ≠ .offboarded ∧ newStatus = .offboarded then do
        (tenantOps tenantID : ProjectionOps (DbM σ)).wipeTenantChildren
        (tenantOps tenantID : ProjectionOps (DbM σ)).enqueue
          ⟨tenantID, tenantID, .tenantMembershipsPurged tenantID systemActorID⟩
        return true
      else
        return false : DbM σ Bool) (fun _ => pre) fails := by
    split
    · exact Attempt.bind (attempt_wipeTenantChildren each) fun _ =>
        Attempt.bind (each _ trivial rfl) fun _ => Attempt.pure fun _ _ _ holds => holds
    · exact Attempt.pure fun _ _ _ holds => holds
  rw [relay]
  split
  · exact Attempt.bind (each _ trivial rfl) fun _ => wipe
  · exact wipe

theorem attempt_project {locked : TenantProjectionLock} :
    Attempt server protocol pre
      (project (tenantOps tenantID : ProjectionOps (DbM σ)) tenantID env locked duration)
      (fun _ => pre) fails := by
  rw [project]
  split
  · exact Attempt.pure fun _ _ _ holds => holds
  · exact Attempt.bind (attempt_applyProjection each) fun _ =>
      Attempt.bind (each _ rfl rfl) fun _ => attempt_relay each

end Projection

/-! ## Deliveries -/

/-- The statements by which the consumer settles or parks an event of a tenant. -/
def Settles (tenantID : Uuid) : Query → Prop
  | .event (.settle _) | .event (.lockTenantProvisioning _) | .event (.park _ _)
  | .event (.claim _) | .tenant (.lockLive _) | .tenant (.findByIDIncludingDeleted _) => True
  | query => Projects tenantID query

theorem settles_of_projects (projects : Projects tenantID query) :
    Settles tenantID query := by
  unfold Settles
  split <;> trivial

/-- The statements of the consumer's transactions for a tenant. -/
def Delivers (tenantID : Uuid) : Query → Prop
  | .event (.claimProcessed _) => True
  | query => Settles tenantID query

theorem delivers_of_settles (settles : Settles tenantID query) :
    Delivers tenantID query := by
  unfold Delivers
  split
  · trivial
  · exact settles

section Delivery

variable {pre : Assertion DbServer DbSession} {env : Envelope} {duration : Int}
  (each : ∀ query, Settles tenantID query → Carries env duration query →
    Keeps protocol pre (send .pg query : DbM σ _))

include each

theorem keeps_projectLocked {locked : TenantProjectionLock} :
    Keeps protocol pre (projectLocked tenantID env locked duration : DbM σ _) :=
  Attempt.bind (each _ trivial trivial) fun _ =>
    attempt_project fun query projects carries =>
      each query (settles_of_projects projects) carries

theorem keeps_lockForProjection (id : Uuid) :
    Keeps protocol pre (TenantRepository.lockForProjection id : DbM σ _) :=
  Attempt.bind (each _ trivial trivial) fun _ => Attempt.pure fun _ _ _ holds => holds

theorem keeps_findByIDIncludingDeleted (id : Uuid) :
    Keeps protocol pre (TenantRepository.findByIDIncludingDeleted id : DbM σ _) := by
  refine Attempt.bind (each _ trivial trivial) fun found => ?_
  cases found with
  | none => exact Attempt.throw fun _ _ _ holds => holds
  | some tenant => exact Attempt.pure fun _ _ _ holds => holds

theorem keeps_tenantAbsent :
    Keeps protocol pre (tenantAbsent env : DbM σ _) := by
  rw [tenantAbsent]
  split
  · exact Attempt.bind (each _ trivial trivial) fun _ => Attempt.pure fun _ _ _ holds => holds
  · refine Attempt.bind (Attempt.observe (keeps_findByIDIncludingDeleted each _)) fun found => ?_
    cases found with
    | ok tenant =>
        exact Attempt.bind (each _ trivial trivial) fun _ => Attempt.pure fun _ _ _ holds => holds
    | error failure =>
        dsimp only
        split
        · refine Attempt.bind (each _ trivial trivial) fun _ => ?_
          refine Attempt.bind (keeps_lockForProjection each _) fun locked => ?_
          cases locked with
          | some locked => exact Attempt.pure fun _ _ _ holds => holds
          | none =>
              exact Attempt.bind (each _ trivial rfl) fun _ => Attempt.pure fun _ _ _ holds => holds
        · exact Attempt.throw fun _ _ _ holds => holds

theorem keeps_handleTx (about : env.tenantID = tenantID) :
    Keeps protocol pre (handleTx env duration : DbM σ _) := by
  subst about
  refine Attempt.bind (keeps_lockForProjection each _) fun locked => ?_
  cases locked with
  | some locked =>
      exact Attempt.bind (keeps_projectLocked each) fun _ => Attempt.pure fun _ _ _ holds => holds
  | none =>
      refine Attempt.bind (keeps_tenantAbsent each) fun absent => ?_
      cases absent with
      | none => exact Attempt.pure fun _ _ _ holds => holds
      | some locked =>
          dsimp only
          split
          · exact Attempt.throw fun _ _ _ holds => holds
          · exact Attempt.bind (keeps_projectLocked each) fun _ =>
              Attempt.pure fun _ _ _ holds => holds

end Delivery

/-- The transaction of `Handle`. -/
theorem keeps_claimed {pre : Assertion DbServer DbSession} {env : Envelope} {duration : Int}
    (each : ∀ query, Delivers tenantID query → Carries env duration query →
      Keeps protocol pre (send .pg query : DbM σ _)) (about : env.tenantID = tenantID) :
    Keeps protocol pre (do
      if ← eventQuery (.claimProcessed env.id) then
        handleTx env duration : DbM σ Unit) := by
  refine Attempt.bind (each _ trivial trivial) fun claimed => ?_
  cases claimed with
  | true =>
      exact keeps_handleTx (fun query settles => each query (delivers_of_settles settles)) about
  | false => exact Attempt.pure fun _ _ _ holds => holds

theorem keeps_replayTx {pre : Assertion DbServer DbSession} {parked : ParkedTenantEvent}
    {duration : Int}
    (each : ∀ query, Settles tenantID query → Carries parked.envelope duration query →
      Keeps protocol pre (send .pg query : DbM Bool _)) :
    Keeps protocol pre (replayTx tenantID parked duration) := by
  refine Attempt.bind (each _ trivial trivial) fun claimed => ?_
  cases claimed with
  | false => exact Attempt.pure fun _ _ _ holds => holds
  | true =>
      refine Attempt.bind (keeps_lockForProjection each _) fun locked => ?_
      cases locked with
      | some locked =>
          refine Attempt.bind Attempt.assign fun _ => ?_
          exact Attempt.bind (keeps_projectLocked each) fun _ =>
            Attempt.pure fun _ _ _ holds => holds
      | none =>
          refine Attempt.bind (Attempt.observe (keeps_findByIDIncludingDeleted each _))
            fun found => ?_
          cases found with
          | ok tenant => exact each _ trivial trivial
          | error failure =>
              dsimp only
              split <;> exact Attempt.throw fun _ _ _ holds => holds

/-! ## Outside the transactions -/

section Outside

variable {pre : Assertion DbServer DbSession}

theorem keeps_trialDurationDays {env : Envelope} (reader : Reader protocol pre) :
    Keeps protocol pre (trialDurationDays catalog tenantID env : DbM σ Int) := by
  have reads : dialect.Confined (fun _ => False) (fun _ => True)
      (.tenant (.findByID tenantID)) := confined_of_reads rfl
  have finds : Keeps protocol pre (withPool (TenantRepository.findByID tenantID) : DbM σ _) := by
    refine reader.withPool ((issues_send reads).bind fun found => ?_)
    cases found with
    | none => exact Fallible.issues_throw _
    | some tenant => exact Fallible.issues_pure _
  rw [trialDurationDays]
  split
  · refine Attempt.bind finds.observe fun answer => ?_
    rcases answer with failure | tenant
    · dsimp only
      split
      · exact Attempt.pure fun _ _ _ holds => holds
      · exact atomic_throw
    · dsimp only
      cases catalog tenant.plan with
      | error failure => exact atomic_throw
      | ok duration => exact Attempt.pure fun _ _ _ holds => holds
  · exact Attempt.pure fun _ _ _ holds => holds

theorem idles_trialDurationDays {env : Envelope} (lenient : Lenient protocol) :
    Idles protocol (trialDurationDays catalog tenantID env : DbM σ Int) :=
  keeps_trialDurationDays (reader_idle lenient)

/-- `Handle` keeps a protocol if its transaction does. -/
theorem idles_handle {skew : Int} {env : Envelope} (lenient : Lenient protocol)
    (delivers : ∀ duration, Idles protocol (transaction .pg (do
      if ← eventQuery (.claimProcessed env.id) then
        handleTx env duration : DbM σ Unit))) :
    Idles protocol (handle skew catalog env : DbM σ _) := by
  refine Attempt.bind (idles_timeNow lenient) fun now => ?_
  split
  · exact idles_throw
  · exact Attempt.bind (idles_trialDurationDays lenient) fun duration =>
      idles_withPool (delivers duration)

/-- A replay keeps what each look-up of a trial length and the transaction after it
keep. -/
theorem keeps_replayEach_of {priced : ParkedTenantEvent → Int → Assertion DbServer DbSession}
    (pending : List ParkedTenantEvent) (replayed : Nat)
    (prices : ∀ parked ∈ pending, Attempt server protocol pre
      (trialDurationDays catalog tenantID parked.envelope : DbM σ Int) (priced parked) fun _ => pre)
    (replays : ∀ parked ∈ pending, ∀ duration, Attempt server protocol (priced parked duration)
      (runInTx (replayTx tenantID parked duration)) (fun _ => pre) fun _ => pre) :
    Keeps protocol pre (replayEach catalog tenantID pending replayed : DbM σ _) := by
  induction pending generalizing replayed with
  | nil => exact Attempt.pure fun _ _ _ holds => holds
  | cons parked rest ih =>
      refine Attempt.bind (prices parked List.mem_cons_self) fun duration => ?_
      have replay := replays parked List.mem_cons_self duration
      refine Attempt.bind (Attempt.observe (Attempt.capturing replay)) fun result => ?_
      rcases result with failure | ⟨_, applied⟩
      · dsimp only
        split
        · exact Attempt.pure fun _ _ _ holds => holds
        · exact atomic_throw
      · exact ih _ (fun other mem => prices other (List.mem_cons_of_mem _ mem))
          fun other mem => replays other (List.mem_cons_of_mem _ mem)

theorem keeps_replayEach (reader : Reader protocol pre) (pending : List ParkedTenantEvent)
    (replayed : Nat) (replays : ∀ parked ∈ pending, ∀ duration, Keeps protocol pre
      (runInTx (replayTx tenantID parked duration))) :
    Keeps protocol pre (replayEach catalog tenantID pending replayed : DbM σ _) :=
  keeps_replayEach_of pending replayed (fun _ _ => keeps_trialDurationDays reader) replays

theorem keeps_replayParked (reader : Reader protocol pre)
    (replays : ∀ parked duration, Keeps protocol pre
      (runInTx (replayTx tenantID parked duration))) :
    Keeps protocol pre (replayParked catalog tenantID : DbM σ _) := by
  refine Attempt.bind (reader.withPool (issues_send (confined_of_reads rfl))) fun pending => ?_
  exact keeps_replayEach reader pending 0 fun parked _ => replays parked

theorem idles_replayParked (lenient : Lenient protocol) (replays : ∀ parked duration, Idles protocol
      (transaction .pg (replayTx tenantID parked duration))) :
    Idles protocol (replayParked catalog tenantID : DbM σ _) :=
  keeps_replayParked (reader_idle lenient) fun parked duration =>
    idles_runInTx (replays parked duration)

end Outside

/-! ## Sign-up -/

section Signup

variable {pre : Assertion DbServer DbSession} {input : TrialSignupInput}

/-- The statements of the sign-up's transaction. -/
structure SignupAllowed (allowed : Query → Prop) (input : TrialSignupInput) : Prop
    extends SeedAllowed allowed input.tenantID input.ownerUserID where
  lock : allowed (.event (.lockTenantProvisioning input.tenantID))
  insert : ∀ trialEnds seats, allowed (.tenant (.insert (trialTenant input trialEnds seats)))
  findTenant : allowed (.tenant (.findByID input.tenantID))
  claim : ∀ hash, allowed (.tenant (.claimEmailHash hash input.tenantID))

theorem keeps_trialSignupTx {allowed : Query → Prop} {hash : String} {seats trialEnds : Int}
    {trialDeptIDs : List Uuid} (signs : SignupAllowed allowed input)
    (keeps : ∀ {β : Type} {body : DbM σ β}, Fallible.Issues (Only allowed) body →
      Keeps protocol pre body) :
    Keeps protocol pre (trialSignupTx input hash seats trialEnds trialDeptIDs : DbM σ _) := by
  have inserts : Keeps protocol pre
      (TenantRepository.insert (trialTenant input trialEnds seats) : DbM σ _) := by
    refine Attempt.bind (Attempt.mapError (keeps (issues_send (signs.insert _ _))))
      fun created => ?_
    cases created with
    | some tenant => exact Attempt.pure fun _ _ _ holds => holds
    | none =>
        refine Attempt.bind (keeps (issues_send signs.findTenant)) fun found => ?_
        cases found with
        | none => exact atomic_throw
        | some existing => exact Attempt.pure fun _ _ _ holds => holds
  refine Attempt.bind (keeps (issues_send signs.lock)) fun _ => Attempt.bind inserts
    fun created => Attempt.bind (keeps (issues_claimHash (signs.claim hash))) fun _ => ?_
  split
  · exact Attempt.bind (keeps (issues_seedTenant signs.toSeedAllowed)) fun _ =>
      Attempt.pure fun _ _ _ holds => holds
  · exact Attempt.pure fun _ _ _ holds => holds

/-- `TrialSignup` keeps what its transaction and its replay keep. -/
theorem keeps_trialSignup {departments : Except Failure (List CatalogDepartment)}
    (reader : Reader protocol pre) (signs : ∀ hash seats trialEnds trialDeptIDs, Keeps protocol pre
      (runInTx (trialSignupTx input hash seats trialEnds trialDeptIDs) : DbM σ _))
    (replays : Keeps protocol pre (replayParked catalog input.tenantID : DbM σ _)) :
    Keeps protocol pre (trialSignup catalog departments input : DbM σ _) := by
  rw [trialSignup]
  split
  · exact atomic_throw
  · exact atomic_throw
  · refine Attempt.bind reader.timeNow fun now => ?_
    cases departments with
    | error failure => exact atomic_throw
    | ok departments =>
        exact Attempt.bind (signs _ _ _ _) fun created =>
          Attempt.bind replays.observe fun replay => Attempt.pure fun _ _ _ holds => holds

end Signup

end OrgMembership
