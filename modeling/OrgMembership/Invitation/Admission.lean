import Mathlib.Data.Fintype.EquivFin
import OrgMembership.Relational.Solo
import OrgMembership.Service.Invitation

/-!
# What P-6 admits

A legal request for an invitation goes through all checks of `Invite` and ends with
a committed pending invitation, while nothing else happens.  Two of the checks ask
for more than the request has to be: the ceiling of an actor is counted with a
statement that the schema refuses, and the name is measured in bytes.
-/

namespace OrgMembership

open Concurrency Relational

namespace Admission

/-- The length of the window of the hourly ceilings. -/
def hour : Int :=
  3600000000000

/-- The invitations of a tenant in the hour before a moment. -/
def recent (tenantID : Uuid) (now : Int) (row : PendingInvitation) : Bool :=
  row.tenantID = tenantID && now - hour ≤ row.createdAt

/-- The seats in use, as the database's clock sees the invitations. -/
def seatsInUse (tenantID : Uuid) (now : Int) (db : Db) : Int :=
  db.memberships.count (·.activeIn tenantID) +
    db.invitations.count (·.holdsSeat tenantID (pgTime now))

/-- A call of P-6, with the limits and the other services it meets. -/
structure Request where
  limits : InvitationConfig
  peers : InvitationPeers
  tenantID : Uuid
  input : InvitationInput
  actorID : Uuid

/-- The email as it is stored. -/
def Request.email (request : Request) : String :=
  normalizeEmail request.input.email

/-- A request to which nothing is opposed: it is well formed, the email is neither
invited nor in its cooldown, the ceilings are not reached, the tenant is live and has a
free seat, and the Realm Provisioner creates a user who is no service account. -/
structure Admissible (request : Request) (now : Int) (db : Db) : Prop where
  valid : isValidEmail request.email = true
  named : request.input.fullName ≠ ""
  short : request.input.fullName.length ≤ 512
  elevated : ∀ code ∈ request.input.initialTenantRoles, code.isElevated = true
  expires : 0 < request.limits.expiryDays
  uninvited : ∀ row ∈ db.invitations, row.tenantID = request.tenantID →
    row.email = request.email → row.status ≠ .pending
  cooled : ∀ row ∈ db.invitations, row.tenantID = request.tenantID →
    row.email = request.email → row.createdAt + request.limits.reinviteCooldown ≤ now
  tenantRate : request.limits.maxPerHour = 0 ∨
    db.invitations.count (recent request.tenantID now) < request.limits.maxPerHour
  actorRate : request.limits.maxPerActorPerHour = 0 ∨
    db.invitations.count (fun row => recent request.tenantID now row &&
      row.invitedBy = request.actorID) < request.limits.maxPerActorPerHour
  seated : ∃ tenant ∈ db.tenants, tenant.id = request.tenantID ∧ tenant.live = true ∧
    seatsInUse request.tenantID now db < tenant.licensedSeats
  provisioned : ∀ slug, ∃ user, request.peers.createInvitedUser ⟨request.tenantID, request.email,
      request.input.fullName, requiredActions request.input, slug⟩ = some user ∧
    request.peers.isServiceAccount user = false

/-- No invitation has the identifier. -/
def unused (fresh : Nat) (db : Db) : Bool :=
  (db.invitations.find? fresh).isNone

/-- The committed state is the one at the start, at some later moment. -/
structure Standing (start : DbServer) (now : Int) (db : Db) : Prop where
  later : start.now ≤ now
  same : db = start.db

/-- Code that leaves the committed state alone. -/
abbrev Passes (start : DbServer) {σ α : Type} (program : DbM σ α) (post : α → Prop) : Prop :=
  CompletesAt dialect (unused · · = true) (Standing start) program fun value now db =>
    post value ∧ Standing start now db

section Checks

variable {σ α : Type} {start : DbServer} {tenantID : Uuid}

theorem passes_pure {value : α} {post : α → Prop} (holds : post value) :
    Passes start (pure value : DbM σ α) post :=
  Succeeds.pure fun _ _ _ standing => ⟨standing.1, holds, standing.2⟩

theorem Passes.bind {β : Type} {first : DbM σ α} {rest : α → DbM σ β} {middle : α → Prop}
    {post : β → Int → Db → Prop} (begins : Passes start first middle)
    (goesOn : ∀ value, middle value →
      CompletesAt dialect (unused · · = true) (Standing start) (rest value) post) :
    CompletesAt dialect (unused · · = true) (Standing start) (first >>= rest) post := by
  refine Succeeds.bind begins fun value => ?_
  rintro captured server session ⟨resting, holds, standing⟩
  exact goesOn value holds captured server session ⟨resting, standing⟩

/-- A transaction that has read, since some moment after the start. -/
structure Begun (start : DbServer) (started now : Int) (db : Db) : Prop where
  since : start.now ≤ started
  began : started ≤ now
  same : db = start.db

/-- Code of a transaction that leaves what it sees alone. -/
abbrev Looks (start : DbServer) (program : DbM σ α) (post : α → Prop) : Prop :=
  TurnsAt dialect (unused · · = true) (Begun start) program fun value started now db =>
    post value ∧ Begun start started now db

theorem passes_withPool {body : DbM σ α} {post : α → Prop} (looks : Looks start body post) :
    Passes start (withPool body) post := by
  have reading : Passes start (transaction .pg body) post := by
    apply completesAt_transaction _ looks
    · rintro value started now later db passed ⟨found, since, began, same⟩
      exact ⟨found, by omega, same⟩
    · rintro now later db passed ⟨since, same⟩
      exact ⟨by omega, by omega, same⟩
  exact Succeeds.mapError reading

theorem looks_read {query : Query} {value : Context → Db → query.Result}
    (reads : ∀ context db, query.effect context db = .read (value context db)) :
    Looks start (send .pg query : DbM σ _) fun result => ∃ context : Context,
      start.now ≤ context.startedAt ∧ context.startedAt ≤ context.now ∧
        result = value context start.db := by
  apply turnsAt_send
  rintro context now db later _ ⟨since, began, rfl⟩
  have started : context.startedAt ≤ context.now := by omega
  refine ⟨value context start.db, [], ?_, ⟨context, since, started, rfl⟩, since, started, rfl⟩
  change (query.effect context start.db).outcome = _
  rw [reads]
  rfl

/-- A read in a transaction of its own, which starts at some later moment. -/
theorem passes_read {query : Query} {value : Context → Db → query.Result}
    (reads : ∀ context db, query.effect context db = .read (value context db)) :
    Passes start (withPool (send .pg query) : DbM σ _) fun result => ∃ context : Context,
      start.now ≤ context.startedAt ∧ context.startedAt ≤ context.now ∧
        result = value context start.db :=
  passes_withPool (looks_read reads)

theorem looks_pure {value : α} {post : α → Prop} (holds : post value) :
    Looks start (pure value : DbM σ α) post :=
  Succeeds.pure fun _ _ _ begun => ⟨holds, begun⟩

theorem Looks.bind {β : Type} {first : DbM σ α} {rest : α → DbM σ β} {middle : α → Prop}
    {post : β → Int → Int → Db → Prop} (begins : Looks start first middle)
    (goesOn : ∀ value, middle value →
      TurnsAt dialect (unused · · = true) (Begun start) (rest value) post) :
    TurnsAt dialect (unused · · = true) (Begun start) (first >>= rest) post := by
  refine Succeeds.bind begins fun value => ?_
  rintro captured server session ⟨holds, begun⟩
  exact goesOn value holds captured server session begun

theorem passes_timeNow : Passes start (timeNow : DbM σ Int) fun now => start.now ≤ now := by
  refine completesAt_send fun context now db later standing => ⟨context.now, rfl, ?_⟩
  have since := Int.le_trans standing.later later
  exact ⟨since, since, standing.same⟩

theorem passes_checkNotInvited {email : String}
    (uninvited : ∀ row ∈ start.db.invitations, row.tenantID = tenantID → row.email = email →
      row.status ≠ .pending) :
    Passes start (checkNotInvited tenantID email : DbM σ _) fun _ => True := by
  refine Passes.bind (passes_read fun _ _ => rfl) fun found answered => ?_
  obtain ⟨_, _, _, rfl⟩ := answered
  cases found : start.db.invitations.first? fun row =>
      row.tenantID = tenantID && row.email = email && row.status = .pending with
  | none => exact passes_pure trivial
  | some row =>
      obtain ⟨mem, selected⟩ := Table.first?_some found
      simp only [Bool.and_eq_true, decide_eq_true_eq] at selected
      exact absurd selected.2 (uninvited row mem selected.1.1 selected.1.2)

theorem passes_checkCooldown {limits : InvitationConfig} {email : String}
    (cooled : ∀ row ∈ start.db.invitations, row.tenantID = tenantID → row.email = email →
      row.createdAt + limits.reinviteCooldown ≤ start.now) :
    Passes start (checkCooldown limits tenantID email : DbM σ _) fun _ => True := by
  rw [checkCooldown]
  split
  case isFalse => exact passes_pure trivial
  case isTrue =>
    refine Passes.bind (passes_read fun _ _ => rfl) fun found answered => ?_
    obtain ⟨_, _, _, rfl⟩ := answered
    cases found : ((start.db.invitations.select fun row =>
        row.tenantID = tenantID && row.email = email).map PendingInvitation.createdAt).max? with
    | none => exact passes_pure trivial
    | some mostRecent =>
        obtain ⟨row, mem, rfl⟩ := List.mem_map.mp (List.max?_mem found)
        obtain ⟨stored, selected⟩ := Table.mem_select.mp mem
        simp only [Bool.and_eq_true, decide_eq_true_eq] at selected
        have above := cooled row stored selected.1 selected.2
        refine Passes.bind passes_timeNow fun now later => ?_
        rw [if_neg (by omega)]
        exact passes_pure trivial

/-- A ceiling that is not reached at the start is not reached later. -/
theorem passes_checkHourlyRate {limit : Nat} {message : String} {count : Int → DbM σ Nat}
    (counts : 0 < limit → ∀ since, start.now - hour ≤ since →
      Passes start (withPool (count since)) (· < limit)) :
    Passes start (checkHourlyRate limit message count) fun _ => True := by
  rw [checkHourlyRate]
  split
  case isFalse => exact passes_pure trivial
  case isTrue limited =>
    refine Passes.bind passes_timeNow fun now later => ?_
    refine Passes.bind (counts limited _ (by rw [hour]; omega)) fun created below => ?_
    rw [if_neg (by omega)]
    exact passes_pure trivial

/-- The invitations of a later hour are among those of an earlier one and those after
it. -/
theorem count_recent_le {db : Db} {now since : Int} (later : now - hour ≤ since) :
    db.invitations.count (fun row => row.tenantID = tenantID && since ≤ row.createdAt) ≤
      db.invitations.count (recent tenantID now) := by
  refine Table.count_le_count fun row mem selected => ⟨row, mem, rfl, ?_⟩
  simp only [recent, Bool.and_eq_true, decide_eq_true_eq] at selected ⊢
  exact ⟨selected.1, by omega⟩

/-- Invitations expire and are not renewed. -/
theorem count_holdsSeat_le {db : Db} {now later : Int} (passed : now ≤ later) :
    db.invitations.count (·.holdsSeat tenantID later) ≤
      db.invitations.count (·.holdsSeat tenantID now) := by
  refine Table.count_le_count fun row mem selected => ⟨row, mem, rfl, ?_⟩
  simp only [PendingInvitation.holdsSeat, Bool.and_eq_true, decide_eq_true_eq] at selected ⊢
  exact ⟨selected.1, by omega⟩

variable {tenant : Tenant}

theorem passes_findByID (mem : tenant ∈ start.db.tenants) (same : tenant.id = tenantID)
    (live : tenant.live = true) :
    Passes start (withPool (TenantRepository.findByID tenantID) : DbM σ _) (· = tenant) := by
  apply passes_withPool
  refine Looks.bind (looks_read fun _ _ => rfl) fun found answered => ?_
  obtain ⟨_, _, _, rfl⟩ := answered
  rw [Table.find?_eq_some.mpr ⟨mem, same⟩, Option.filter_some, if_pos live]
  exact looks_pure rfl

theorem passes_preflightSeatCheck (mem : tenant ∈ start.db.tenants) (same : tenant.id = tenantID)
    (live : tenant.live = true)
    (free : seatsInUse tenantID start.now start.db < tenant.licensedSeats) :
    Passes start (preflightSeatCheck tenantID : DbM σ _) fun _ => True := by
  refine Passes.bind (passes_findByID mem same live) fun found isTenant => ?_
  refine Passes.bind (passes_read fun _ _ => rfl) fun active counted => ?_
  refine Passes.bind (passes_read fun _ _ => rfl) fun pending alsoCounted => ?_
  obtain ⟨_, _, _, rfl⟩ := counted
  obtain ⟨context, later, _, rfl⟩ := alsoCounted
  have fewer : start.db.invitations.count (·.holdsSeat tenantID (txNow context)) ≤
      start.db.invitations.count (·.holdsSeat tenantID (pgTime start.now)) :=
    count_holdsSeat_le (pgTime_mono later)
  rw [seatsInUse] at free
  rw [isTenant, if_neg (by omega)]
  exact passes_pure trivial

end Checks

/-! ## The transaction -/

/-- The invitation of the request. -/
structure Admitted (request : Request) (row : PendingInvitation) (db : Db) : Prop where
  stored : row ∈ db.invitations
  own : row.tenantID = request.tenantID
  pending : row.status = .pending
  email : row.email = request.email
  fullName : row.fullName = request.input.fullName
  roles : row.initialTenantRoles = request.input.initialTenantRoles
  depts : row.initialDeptMappings = request.input.initialDeptMappings
  inviter : row.invitedBy = request.actorID

section Transaction

variable {σ : Type} {start : DbServer} {tenantID actorID user : Uuid} {limits : InvitationConfig}
  {input : InvitationInput} {tenant : Tenant}

theorem looks_licensedSeatsForUpdate (mem : tenant ∈ start.db.tenants)
    (same : tenant.id = tenantID) (live : tenant.live = true) :
    Looks start (TenantRepository.licensedSeatsForUpdate tenantID : DbM σ _)
      (· = tenant.licensedSeats) := by
  have locks : Looks start (tenantQuery (.lockLive tenantID) : DbM σ _) (· = some tenant) := by
    apply turnsAt_send
    rintro context now db later _ ⟨since, began, rfl⟩
    subst same
    exact ⟨some tenant, [], Access.lockRow_found mem live, rfl, since, by omega, rfl⟩
  refine Looks.bind locks fun found isTenant => ?_
  rw [isTenant]
  exact looks_pure rfl

/-- Days are longer than the resolution of the database. -/
theorem pgTime_lt_expiry {started now count : Int} (began : started ≤ now) (positive : 0 < count) :
    pgTime started < pgTime (now + days count) := by
  rw [pgTime, pgTime, days]
  omega

/-- The insertion of the invitation goes through. -/
theorem turns_insert {now : Int} (named : input.fullName ≠ "") (expires : 0 < limits.expiryDays)
    (uninvited : ∀ row ∈ start.db.invitations, row.tenantID = tenantID →
      row.email = input.email → row.status ≠ .pending)
    (mem : tenant ∈ start.db.tenants) (same : tenant.id = tenantID) :
    TurnsAt dialect (unused · · = true)
      (fun started present db => started ≤ now ∧ Begun start started present db)
      (InvitationRepository.insert (newInvitation limits tenantID input actorID user now) :
        DbM σ _)
      fun row _ _ db => ∃ id time, row = (newInvitation limits tenantID input actorID user
        now).row id time ∧ row ∈ db.invitations := by
  have inserts : TurnsAt dialect (unused · · = true)
      (fun started present db => started ≤ now ∧ Begun start started present db)
      (invitationQuery (.insert (newInvitation limits tenantID input actorID user now)) :
        DbM σ _)
      fun created _ _ db => ∃ id time, created = some ((newInvitation limits tenantID input actorID
        user now).row id time) ∧
        (newInvitation limits tenantID input actorID user now).row id time ∈ db.invitations := by
    apply turnsAt_send
    rintro context present db _ notUsed ⟨began, _, _, rfl⟩
    refine ⟨_, _, Access.insertRow_unopposed (fun _ _ => rfl) ?_, context.fresh, txNow context,
      rfl, Table.mem_put.mpr (.inl rfl)⟩
    rw [firstViolated_eq_none]
    intro check listed
    simp only [invitationChecks, invitationUnique, List.mem_append, List.mem_cons,
      List.not_mem_nil, or_false] at listed
    rcases listed with (((rfl | rfl | rfl | rfl) | rfl) | rfl) | rfl
    · exact decide_eq_true (pgTime_lt_expiry began expires)
    · rfl
    · rfl
    · exact decide_eq_true named
    · exact notUsed
    · rw [Bool.or_eq_true, Option.isNone_iff_eq_none]
      right
      refine Table.first?_eq_none.mpr fun other memOther => ?_
      by_contra opposed
      simp only [Bool.not_eq_false, Bool.and_eq_true, decide_eq_true_eq] at opposed
      exact uninvited other memOther opposed.1.2 opposed.2 opposed.1.1.2
    · exact Option.isSome_iff_exists.mpr ⟨tenant, Table.find?_eq_some.mpr ⟨mem, same⟩⟩
  refine Succeeds.bind (Succeeds.mapError inserts) fun created => ?_
  rintro captured server session ⟨id, time, rfl, stored⟩
  exact ⟨_, rfl, id, time, rfl, stored⟩

/-- With a free seat, the transaction leaves the invitation. -/
theorem turns_inviteTx (named : input.fullName ≠ "") (expires : 0 < limits.expiryDays)
    (uninvited : ∀ row ∈ start.db.invitations, row.tenantID = tenantID →
      row.email = input.email → row.status ≠ .pending)
    (mem : tenant ∈ start.db.tenants) (same : tenant.id = tenantID) (live : tenant.live = true)
    (free : seatsInUse tenantID start.now start.db < tenant.licensedSeats) :
    TurnsAt dialect (unused · · = true) (Begun start)
      (inviteTx limits tenantID input actorID user : DbM σ _)
      fun recorded _ _ db => ∃ now id time, recorded = .ok ((newInvitation limits tenantID input
        actorID user now).row id time) ∧
        (newInvitation limits tenantID input actorID user now).row id time ∈ db.invitations := by
  refine Looks.bind (looks_licensedSeatsForUpdate mem same live) fun licensedSeats licensed => ?_
  refine Looks.bind (looks_read fun _ _ => rfl) fun active counted => ?_
  refine Looks.bind (looks_read fun _ _ => rfl) fun pending alsoCounted => ?_
  obtain ⟨_, _, _, rfl⟩ := counted
  obtain ⟨context, later, _, rfl⟩ := alsoCounted
  have fewer : start.db.invitations.count (·.holdsSeat tenantID (txNow context)) ≤
      start.db.invitations.count (·.holdsSeat tenantID (pgTime start.now)) :=
    count_holdsSeat_le (pgTime_mono later)
  have reads : TurnsAt dialect (unused · · = true) (Begun start) (timeNow : DbM σ Int)
      fun now started present db => started ≤ now ∧ Begun start started present db := by
    apply turnsAt_send
    rintro context now db later _ ⟨since, began, same⟩
    have started : context.startedAt ≤ context.now := by omega
    exact ⟨context.now, [], rfl, started, since, started, same⟩
  refine Succeeds.bind reads fun now => ?_
  rw [seatsInUse] at free
  rw [licensed, if_neg (by omega)]
  refine Succeeds.bind (turns_insert named expires uninvited mem same) fun row => ?_
  apply Succeeds.pure
  rintro captured server session ⟨id, time, rfl, stored⟩
  exact ⟨now, id, time, rfl, stored⟩

/-- The local part of `Invite`. -/
theorem completes_recordInvitation (named : input.fullName ≠ "") (expires : 0 < limits.expiryDays)
    (uninvited : ∀ row ∈ start.db.invitations, row.tenantID = tenantID →
      row.email = input.email → row.status ≠ .pending)
    (mem : tenant ∈ start.db.tenants) (same : tenant.id = tenantID) (live : tenant.live = true)
    (free : seatsInUse tenantID start.now start.db < tenant.licensedSeats) :
    CompletesAt dialect (unused · · = true) (Standing start)
      (recordInvitation limits tenantID input actorID user : DbM σ _)
      fun row _ db => ∃ now id time, row = (newInvitation limits tenantID input actorID user
        now).row id time ∧ row ∈ db.invitations := by
  have commits : CompletesAt dialect (unused · · = true) (Standing start)
      (transaction .pg (inviteTx limits tenantID input actorID user) : DbM σ _)
      fun recorded _ db => ∃ now id time, recorded = .ok ((newInvitation limits tenantID input
        actorID user now).row id time) ∧
        (newInvitation limits tenantID input actorID user now).row id time ∈ db.invitations := by
    apply completesAt_transaction _
      (turns_inviteTx named expires uninvited mem same live free)
    · exact fun _ _ _ _ _ _ recorded => recorded
    · rintro now later db passed ⟨since, unchanged⟩
      exact ⟨by omega, by omega, unchanged⟩
  refine Succeeds.bind (Succeeds.observe (Succeeds.mapError (succeeds_retrying commits)))
    fun result => ?_
  rintro captured server session ⟨_, rfl, resting, now, id, time, rfl, stored⟩
  exact ⟨_, rfl, resting, now, id, time, rfl, stored⟩

end Transaction

section Validation

variable {input : InvitationInput}

theorem email_ne_of_valid (valid : isValidEmail input.email = true) : input.email ≠ "" := by
  intro empty
  rw [empty] at valid
  cases valid

/-- The request passes the validation, if its name is short enough in bytes. -/
theorem checkInvitation_eq_ok (valid : isValidEmail input.email = true)
    (named : input.fullName ≠ "") (short : input.fullName.utf8ByteSize ≤ 512)
    (elevated : ∀ code ∈ input.initialTenantRoles, code.isElevated = true) :
    checkInvitation input = .ok () := by
  have allElevated : (input.initialTenantRoles.any fun code => !code.isElevated) = false := by
    simpa using elevated
  simp [checkInvitation, email_ne_of_valid valid, valid, named, Nat.not_lt.mpr short, allElevated]
  rfl

theorem checkInvitation_eq_error (valid : isValidEmail input.email = true)
    (named : input.fullName ≠ "") (long : 512 < input.fullName.utf8ByteSize) :
    checkInvitation input =
      .error (newError .validation "full_name must not exceed 512 characters") := by
  simp [checkInvitation, email_ne_of_valid valid, valid, named, long]
  rfl

end Validation

/-- Run alone, an admissible request of which the ceiling of the actor is off and the
name is short enough in bytes ends with its invitation. -/
theorem completes_invite {σ : Type} {start : DbServer} {request : Request}
    (admissible : Admissible request start.now start.db)
    (unlimited : request.limits.maxPerActorPerHour = 0)
    (short : request.input.fullName.utf8ByteSize ≤ 512) :
    CompletesAt dialect (unused · · = true) (Standing start)
      (invite request.limits request.peers request.tenantID request.input request.actorID : DbM σ _)
      fun row _ db => Admitted request row db := by
  obtain ⟨tenant, mem, same, live, free⟩ := admissible.seated
  have checked : checkInvitation { request.input with
      email := normalizeEmail request.input.email } = .ok () :=
    checkInvitation_eq_ok admissible.valid admissible.named short admissible.elevated
  have counts : 0 < request.limits.maxPerHour → ∀ since, start.now - hour ≤ since →
      Passes start (withPool (InvitationRepository.countCreatedInWindow request.tenantID since) :
        DbM σ _) (· < request.limits.maxPerHour) := by
    intro limited since later
    refine Succeeds.weaken (passes_read fun _ _ => rfl) (fun _ _ _ standing => standing) ?_
    rintro created captured server session ⟨resting, ⟨_, _, _, rfl⟩, standing⟩
    have fewer : start.db.invitations.count (fun row => row.tenantID = request.tenantID &&
        since ≤ row.createdAt) ≤
          start.db.invitations.count (recent request.tenantID start.now) :=
      count_recent_le later
    rcases admissible.tenantRate with off | below
    · omega
    · exact ⟨resting, by omega, standing⟩
  rw [invite]
  dsimp only
  rw [checked]
  refine Passes.bind (passes_checkNotInvited admissible.uninvited) fun _ _ => ?_
  refine Passes.bind (passes_checkCooldown admissible.cooled) fun _ _ => ?_
  refine Passes.bind (passes_checkHourlyRate counts) fun _ _ => ?_
  refine Passes.bind (passes_checkHourlyRate fun limited => ?_) fun _ _ => ?_
  · omega
  refine Passes.bind (passes_preflightSeatCheck mem same live free) fun found _ => ?_
  obtain ⟨user, created, human⟩ := admissible.provisioned found.slug
  rw [Request.email] at created
  dsimp only [requiredActions] at created ⊢
  rw [created]
  dsimp only
  rw [human]
  refine Succeeds.weaken (completes_recordInvitation admissible.named admissible.expires
    admissible.uninvited mem same live free) (fun _ _ _ standing => standing) ?_
  rintro row captured server session ⟨resting, now, id, time, rfl, stored⟩
  exact ⟨resting, stored, rfl, rfl, rfl, rfl, rfl, rfl, rfl⟩

/-- The check of the actor's ceiling fails where there is one. -/
theorem fails_checkActorRate {σ : Type} {request : Request}
    (limited : 0 < request.limits.maxPerActorPerHour) (message : String) :
    Fails server (aging dialect (unused · · = true))
      (checkHourlyRate request.limits.maxPerActorPerHour message
        (InvitationRepository.countCreatedInWindowByActor request.tenantID request.actorID) :
        DbM σ _) := by
  rw [checkHourlyRate, if_pos limited]
  refine Fails.after _ fun now => Fails.bind (Fails.mapError _ (fails_transaction ?_)) _
  exact fails_send fun _ _ => rfl

/-- Every other admissible request fails. -/
theorem fails_invite {σ : Type} {start : DbServer} {request : Request}
    (admissible : Admissible request start.now start.db)
    (excluded : ¬(request.limits.maxPerActorPerHour = 0 ∧
      request.input.fullName.utf8ByteSize ≤ 512)) :
    Fails server (aging dialect (unused · · = true))
      (invite request.limits request.peers request.tenantID request.input request.actorID :
        DbM σ _) := by
  rw [invite]
  dsimp only
  cases checked : checkInvitation { request.input with
      email := normalizeEmail request.input.email } with
  | error failure => exact Fails.throw failure
  | ok _ =>
      -- The name is short enough, so the ceiling is on.
      have short : request.input.fullName.utf8ByteSize ≤ 512 := by
        by_contra long
        have refused : checkInvitation { request.input with
            email := normalizeEmail request.input.email } = .error _ :=
          checkInvitation_eq_error admissible.valid admissible.named (Nat.not_le.mp long)
        cases checked.symm.trans refused
      have limited : 0 < request.limits.maxPerActorPerHour :=
        Nat.pos_of_ne_zero fun off => excluded ⟨off, short⟩
      exact Fails.after _ fun _ => Fails.after _ fun _ => Fails.after _ fun _ =>
        Fails.bind (fails_checkActorRate limited _) _

/-! ## Runs -/

/-- The program of a request. -/
def code (request : Request) : DbProgram (Except Failure PendingInvitation) :=
  Fallible.run
    (invite request.limits request.peers request.tenantID request.input request.actorID)

/-- The request as the only call. -/
def started (request : Request) (start : DbServer) :
    DbConfig Request (Except Failure PendingInvitation) :=
  ⟨start, [⟨request, server.fresh, code request⟩]⟩

/-- No faults, no other calls, and new invitations get identifiers of their own. -/
def undisturbed (config : DbConfig Request (Except Failure PendingInvitation)) :
    Action Request (Chance PgError) Nat → Bool
  | .step position (.proceed fresh) => position = 0 &&
      config.processes[0]?.all fun process => unused fresh (dialect.view config.shared process.loc)
  | .signal _ => true
  | _ => false

section Run

variable {request : Request} {start : DbServer}

theorem secludes : Secludes server (aging dialect (unused · · = true))
    (fun config action => undisturbed config action = true) 0 where
  alone _ _ := nofun
  stays _ _ := nofun
  only config position choice permitted := by
    cases choice with
    | fail | lose => cases permitted
    | proceed fresh =>
        simp only [undisturbed, Bool.and_eq_true, decide_eq_true_eq] at permitted
        exact permitted.1
  gives config choice call session statement next permitted current := by
    cases choice with
    | fail | lose => cases permitted
    | proceed fresh =>
        simp only [undisturbed, Bool.and_eq_true, decide_eq_true_eq, current, Option.all_some]
          at permitted
        exact ⟨trivial, fresh, rfl, permitted.2⟩
  drifts config elapsed _ := ⟨trivial, rfl, Int.le_add_of_nonneg_right (Int.natCast_nonneg elapsed)⟩

theorem exists_unused (db : Db) : ∃ fresh, unused fresh db = true := by
  obtain ⟨fresh, notMem⟩ := Infinite.exists_notMem_finset
    (db.invitations.rows.map PendingInvitation.id).toFinset
  refine ⟨fresh, Option.isNone_iff_eq_none.mpr (Table.find?_eq_none.mpr fun row mem same => ?_)⟩
  exact notMem (List.mem_toFinset.mpr (List.mem_map.mpr ⟨row, mem, same⟩))

/-- The only call is never kept waiting. -/
theorem goes_on {config : DbConfig Request (Except Failure PendingInvitation)}
    {session : DbSession} {statement : Statement Query}
    {next : Reply Query.Result PgError statement → DbProgram (Except Failure PendingInvitation)}
    (others : ∀ position, position ≠ 0 →
      config.processes[position]? = (started request start).processes[position]?)
    (current : config.processes[0]? = some ⟨request, session, .call statement next⟩) :
    ∃ choice config', undisturbed config (.step 0 choice) = true ∧
      server.act code (.step 0 choice) config = some config' := by
  obtain ⟨fresh, notUsed⟩ := exists_unused (dialect.view config.shared session)
  obtain ⟨config', acted⟩ : ∃ config',
      server.act code (.step 0 (.proceed fresh)) config = some config' := by
    apply System.exists_act_step server code current
    intro position other away found
    rw [others position away] at found
    cases position with
    | zero => exact absurd rfl away
    | succ position => cases found
  exact ⟨.proceed fresh, config', by simp [undisturbed, current, notUsed], acted⟩

/-- While nothing else happens, an admissible request always returns its committed pending
invitation exactly if the ceiling of the actor is off and the name has at most 512 bytes. -/
theorem admits_iff_of_admissible (admissible : Admissible request start.now start.db) :
    (∀ config, server.Reaches code (fun config action => undisturbed config action = true)
        (started request start) config →
      (∃ final outcome session, server.Reaches code
          (fun config action => undisturbed config action = true) config final ∧
        final.processes[0]? = some ⟨request, session, .ret outcome⟩) ∧
      ∀ outcome session, config.processes[0]? = some ⟨request, session, .ret outcome⟩ →
        ∃ row, outcome = .ok row ∧ Admitted request row config.shared.db) ↔
      request.limits.maxPerActorPerHour = 0 ∧ request.input.fullName.utf8ByteSize ≤ 512 := by
  constructor
  · intro admits
    by_contra excluded
    have onWay : OnWay server (aging dialect (unused · · = true))
        (fun outcome _ _ => ∃ failure, outcome = .error failure) 0 request
        (started request start) (started request start) :=
      ⟨fun _ _ => rfl, server.fresh, code request, rfl, (fails_invite admissible excluded).run⟩
    obtain ⟨⟨final, outcome, session, reaches, returned⟩, _⟩ := admits _ .refl
    obtain ⟨row, accepted, _⟩ := (admits final reaches).2 outcome session returned
    obtain ⟨failure, refused⟩ := (returns_alone secludes (fun _ _ _ _ _ refused => refused) onWay
      (fun _ _ _ _ _ others current => goes_on others current) reaches).2 outcome session returned
    cases accepted.symm.trans refused
  · rintro ⟨unlimited, short⟩ config reaches
    have onWay : OnWay server (aging dialect (unused · · = true))
        (fun outcome server _ => ∃ row, outcome = .ok row ∧ Admitted request row server.db) 0
        request (started request start) (started request start) := by
      refine ⟨fun _ _ => rfl, server.fresh, code request, rfl, ?_⟩
      have standing : Standing start start.now start.db := ⟨Int.le_refl _, rfl⟩
      refine ends_mono ?_
        (Succeeds.run (completes_invite admissible unlimited short) ⟨rfl, standing⟩)
      rintro outcome server session ⟨row, returned, _, admitted⟩
      exact ⟨row, returned, admitted⟩
    refine returns_alone secludes ?_ onWay
      (fun _ _ _ _ _ others current => goes_on others current) reaches
    rintro outcome before after _ ⟨same, _⟩ ⟨row, returned, admitted⟩
    exact ⟨row, returned, same ▸ admitted⟩

end Run

/-- An invitation to that tenant. -/
def inviteB (limits : InvitationConfig) (fullName : String) : Request :=
  ⟨limits, ⟨fun _ => some 102, fun _ => false⟩, 1, ⟨"B@acme", fullName, [.tenantAdmin], []⟩, 9⟩

theorem admissible_inviteB {limits : InvitationConfig} {fullName : String}
    (named : fullName ≠ "") (short : fullName.length ≤ 512) (expires : 0 < limits.expiryDays) :
    Admissible (inviteB limits fullName) 0 loneTenant where
  valid := (by decide +kernel : isValidEmail (normalizeEmail "B@acme") = true)
  named := named
  short := short
  elevated := by simp [inviteB, TenantRoleCode.isElevated]
  expires := expires
  uninvited _ mem := absurd mem List.not_mem_nil
  cooled _ mem := absurd mem List.not_mem_nil
  tenantRate := Nat.eq_zero_or_pos _
  actorRate := Nat.eq_zero_or_pos _
  seated := ⟨{ trialRow with licensedSeats := 5 }, List.mem_singleton_self _, rfl, rfl,
    (by decide : seatsInUse 1 0 loneTenant < 5)⟩
  provisioned _ := ⟨102, rfl, rfl⟩

/-- With the ceilings of the tenant on and the one of the actor off, the request ends
with its invitation. -/
theorem admits_inviteB :
    ∃ final row, server.Reaches code (fun config action => undisturbed config action = true)
        (started (inviteB ⟨7, 3600000000000, 200, 0⟩ "B") ⟨loneTenant, 0⟩) final ∧
      Admitted (inviteB ⟨7, 3600000000000, 200, 0⟩ "B") row final.shared.db := by
  let start : DbServer := ⟨loneTenant, 0⟩
  have admissible : Admissible (inviteB ⟨7, 3600000000000, 200, 0⟩ "B") start.now start.db :=
    admissible_inviteB (by decide) (by decide) (by decide)
  have admits := (admits_iff_of_admissible admissible).mpr ⟨rfl, by decide⟩
  obtain ⟨⟨final, outcome, session, reaches, returned⟩, _⟩ := admits _ .refl
  obtain ⟨row, _, admitted⟩ := (admits final reaches).2 outcome session returned
  exact ⟨final, row, reaches, admitted⟩

/-- The request is admissible, and `Invite` fails. -/
def Refuses (request : Request) (start : DbServer) : Prop :=
  Admissible request start.now start.db ∧
    ∃ final process failure, server.Reaches code
        (fun config action => undisturbed config action = true) (started request start) final ∧
      final.processes = [process] ∧ process.program = .ret (.error failure)

/-- The only call has failed. -/
def failed (config : DbConfig Request (Except Failure PendingInvitation)) : Bool :=
  match config.processes with
  | [process] => (process.program matches .ret (.error _))
  | _ => false

theorem refuses_of_run {request : Request} {start : DbServer} (steps : Nat)
    (admissible : Admissible request start.now start.db)
    (fails : (server.run code (fun config action => undisturbed config action = true)
      (List.replicate steps (.step 0 (.proceed 100))) (started request start)).any failed = true) :
    Refuses request start := by
  obtain ⟨final, reaches, ended⟩ := server.exists_reaches_of_run code _ _ _ failed fails
  unfold failed at ended
  split at ended
  case h_2 => cases ended
  case h_1 process only =>
    split at ended
    case h_2 => cases ended
    case h_1 failure returned =>
      exact ⟨admissible, final, process, failure, reaches, only, returned⟩

/-- In the default configuration, every limit of which is on, a request to a tenant
without members and invitations fails, and without the ceiling of the actor so does a
request with a name of 300 letters that takes 600 bytes. -/
theorem exists_refused_request :
    Refuses (inviteB ⟨7, 3600000000000, 200, 10⟩ "B") ⟨loneTenant, 0⟩ ∧
      Refuses (inviteB ⟨7, 3600000000000, 200, 0⟩ (String.ofList (List.replicate 300 'é')))
        ⟨loneTenant, 0⟩ := by
  constructor
  · exact refuses_of_run 14 (admissible_inviteB (by decide) (by decide) (by decide))
      (by decide +kernel)
  · have short : (String.ofList (List.replicate 300 'é')).length ≤ 512 := by
      rw [String.length_ofList, List.length_replicate]
      decide
    exact refuses_of_run 0 (admissible_inviteB (by decide +kernel) short (by decide))
      (by decide +kernel)

end Admission

end OrgMembership
