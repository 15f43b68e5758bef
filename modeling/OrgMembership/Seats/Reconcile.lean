import OrgMembership.Repository.Clocked
import OrgMembership.Seats.Occupancy
import OrgMembership.Seats.Cap
import OrgMembership.Service.Jobs

/-!
# The sweep for seat overages

`SeatOverageReconcile` takes a batch of the live tenants, in no order, and reconciles each one.
If every live tenant fits into a batch, one run without an error marks exactly those that use
more seats than they have licensed.  Otherwise the same tenants may be taken in every run.
-/

namespace OrgMembership

open Concurrency Relational

namespace SeatReconcile

/-- Exactly the live tenants that use more seats than licensed are marked. -/
def Reconciled (now : Int) (db : Db) : Prop :=
  ∀ tenant ∈ db.tenants, tenant.live = true →
    (tenant.overageSince.isSome = true ↔
      tenant.licensedSeats < occupancy tenant.id (pgTime now) db)

/-- So many runs without an error, one after the other, with whatever order of the rows. -/
inductive Runs (limit : Nat) : Nat → DbServer → DbServer → Prop
  | none (start : DbServer) : Runs limit 0 start start
  | run {count : Nat} {start before after : DbServer} {order : RowOrder} {result : JobResult}
      (earlier : Runs limit count start before)
      (completes : server.Completes (seatOverageReconcile order limit).run before (.ok result)
        after)
      (clean : result.failed = 0) : Runs limit (count + 1) start after

/-- No pending invitation expires between two moments. -/
def Unexpiring (since deadline : Int) (db : Db) : Prop :=
  ∀ row ∈ db.invitations, row.status = .pending → pgTime since < row.expiresAt →
    pgTime deadline < row.expiresAt

section Steady

variable {db : Db} {since moment deadline : Int}

/-- Meanwhile the seats in use stay the same. -/
theorem Unexpiring.occupancy_eq {tenantID : Uuid} (unexpiring : Unexpiring since deadline db)
    (began : since ≤ moment) (ended : moment ≤ deadline) :
    occupancy tenantID (pgTime moment) db = occupancy tenantID (pgTime deadline) db := by
  have early := pgTime_mono began
  have late := pgTime_mono ended
  rw [occupancy, occupancy]
  congr 1
  refine List.countP_congr fun row mem => ?_
  rw [Seats.holdsSeat_iff, Seats.holdsSeat_iff]
  constructor
  · rintro ⟨pending, holds⟩
    exact ⟨pending, unexpiring row mem pending.2 (by omega)⟩
  · rintro ⟨pending, holds⟩
    exact ⟨pending, by omega⟩

end Steady

/-! ## One tenant -/

/-- What the lock and the counts of one tenant give in a transaction. -/
def occupancyOf (tenant : Tenant) (started : Int) (db : Db) : SeatOccupancy where
  licensedSeats := tenant.licensedSeats
  overageSince := tenant.overageSince
  active := db.memberships.count (·.activeIn tenant.id)
  pending := db.invitations.count (·.holdsSeat tenant.id (pgTime started))

theorem overCap_occupancyOf {tenant : Tenant} {started : Int} {db : Db} :
    (occupancyOf tenant started db).overCap = true ↔
      tenant.licensedSeats < occupancy tenant.id (pgTime started) db := by
  rw [SeatOccupancy.overCap, decide_eq_true_iff, occupancy, occupancyOf]
  push_cast
  rfl

/-- The transaction has counted the seats of a live tenant and changed nothing. -/
structure Counting (base : Db) (id : Uuid) (occupancy : SeatOccupancy) (started : Int) (db : Db) :
    Prop where
  same : db = base
  tenant : ∃ tenant ∈ base.tenants, tenant.id = id ∧ occupancy = occupancyOf tenant started base

/-- How far a sweep has come: seats and invitations are as they were, no other tenant is live,
and each tenant done with is marked as its seats ask. -/
structure Swept (origin : DbServer) (done : List Uuid) (now : Int) (db : Db) : Prop where
  memberships : db.memberships = origin.db.memberships
  invitations : db.invitations = origin.db.invitations
  began : origin.now ≤ now
  known : ∀ tenant ∈ db.tenants, tenant.live = true →
    tenant.id ∈ (origin.db.tenants.select Tenant.live).map Tenant.id
  judged : ∀ tenant ∈ db.tenants, tenant.live = true → tenant.id ∈ done →
    ∃ moment, origin.now ≤ moment ∧ moment ≤ now ∧
      (tenant.overageSince.isSome = true ↔
        tenant.licensedSeats < occupancy tenant.id (pgTime moment) db)

section Sweep

variable {σ : Type} {origin : DbServer} {done : List Uuid} {moment started : Int} {base db : Db}
  {id : Uuid}

theorem ages_swept : Ages (Swept origin done) := by
  intro now later db passes swept
  refine ⟨swept.memberships, swept.invitations, swept.began.trans passes, swept.known, ?_⟩
  intro tenant mem live visited
  obtain ⟨moment, began, ended, marked⟩ := swept.judged tenant mem live visited
  exact ⟨moment, began, ended.trans passes, marked⟩

/-- One more tenant is done with when its row, and no other one, is as its seats ask. -/
theorem Swept.judge (swept : Swept origin done moment base) (later : moment ≤ started)
    (memberships : db.memberships = base.memberships)
    (invitations : db.invitations = base.invitations)
    (rows : ∀ row ∈ db.tenants, (row ∈ base.tenants ∧ row.id ≠ id) ∨
      ∃ tenant ∈ base.tenants, row.id = tenant.id ∧ row.live = tenant.live ∧
        (row.overageSince.isSome = true ↔
          row.licensedSeats < occupancy row.id (pgTime started) base)) :
    Swept origin (done ++ [id]) started db := by
  have seats : ∀ tenantID now, occupancy tenantID now db = occupancy tenantID now base := by
    intro tenantID now
    rw [occupancy, occupancy, memberships, invitations]
  constructor
  · rw [memberships, swept.memberships]
  · rw [invitations, swept.invitations]
  · exact swept.began.trans later
  · intro row mem live
    rcases rows row mem with ⟨old, _⟩ | ⟨tenant, old, key, same, _⟩
    · exact swept.known row old live
    · rw [key]
      exact swept.known tenant old (same ▸ live)
  · intro row mem live visited
    rcases rows row mem with ⟨old, other⟩ | ⟨_, _, _, _, marked⟩
    · have before : row.id ∈ done := by simpa [other] using visited
      obtain ⟨moment, began, ended, marked⟩ := swept.judged row old live before
      exact ⟨moment, began, ended.trans later, by rw [seats]; exact marked⟩
    · exact ⟨started, swept.began.trans later, le_rfl, by rw [seats]; exact marked⟩

theorem inner_lockSeatOccupancy :
    Inner moment base (fun _ db => db = base) (TenantRepository.lockSeatOccupancy id : DbM σ _)
      (Counting base id) := by
  have locks : Inner moment base (fun _ db => db = base) (tenantQuery (.lockLive id) : DbM σ _)
      fun found _ db => (∀ tenant, found = some tenant →
        tenant ∈ base.tenants ∧ tenant.id = id) ∧ db = base := by
    apply inner_send
    intro context db result writes _ _ same yields
    subst same
    obtain ⟨rfl, ⟨rfl, _⟩ | ⟨tenant, mem, key, _, rfl, _⟩⟩ := Access.lockRow_cases yields
    · exact ⟨fun _ found => absurd found (by simp), rfl⟩
    · refine ⟨fun other found => ?_, rfl⟩
      cases found
      exact ⟨mem, key⟩
  refine Inner.bind locks fun found => inner_of_fact fun locked => ?_
  cases found with
  | none => exact inner_throw
  | some tenant =>
      obtain ⟨mem, rfl⟩ := locked tenant rfl
      have members : Inner moment base (fun _ db => db = base)
          (membershipQuery (.countActive tenant.id) : DbM σ _)
          fun active _ db => active = base.memberships.count (·.activeIn tenant.id) ∧ db = base :=
        inner_read (fun _ _ => rfl) fun _ _ _ same => ⟨by rw [same], same⟩
      have invitations : Inner moment base (fun _ db => db = base)
          (invitationQuery (.countPending tenant.id) : DbM σ _)
          fun pending started db =>
            pending = base.invitations.count (·.holdsSeat tenant.id (pgTime started)) ∧
              db = base :=
        inner_read (fun _ _ => rfl) fun _ _ _ same => ⟨by rw [same]; rfl, same⟩
      refine Inner.bind members fun active => inner_of_fact fun counted => ?_
      refine Inner.bind invitations fun pending => inner_pure fun started db found => ?_
      obtain ⟨rfl, same⟩ := found
      exact ⟨same, tenant, mem, rfl, by rw [counted, occupancyOf]⟩

/-- The mark is set while it is not what the seats ask. -/
theorem inner_setOverageSince {occupancy : SeatOccupancy} {since : Option Int}
    (swept : Swept origin done moment base) (asked : since.isSome = occupancy.overCap) :
    Inner moment base (Counting base id occupancy)
      (TenantRepository.setOverageSince id since : DbM σ _)
      fun _ => Swept origin (done ++ [id]) := by
  have updates : Inner moment base (Counting base id occupancy)
      (tenantQuery (.update id (.setOverageSince since)) : DbM σ _)
      fun _ => Swept origin (done ++ [id]) := by
    apply inner_send
    rintro context db result writes later _ ⟨rfl, tenant, mem, rfl, rfl⟩ yields
    have found : db.tenants.find? tenant.id = some tenant := Table.find?_eq_some.mpr ⟨mem, rfl⟩
    rcases tenantUpdate_cases yields with ⟨_, _, missing⟩ | ⟨row, sees, _, _, rfl⟩
    · exact absurd (missing tenant found) (by simp [TenantUpdate.selects])
    · cases found.symm.trans sees
      refine swept.judge later rfl rfl fun row kept => ?_
      rcases Table.mem_put.mp kept with rfl | ⟨old, other⟩
      · refine .inr ⟨tenant, mem, ?_, ?_, ?_⟩
        · rw [Tenant.touch_proj Tenant.id fun _ _ _ => rfl, TenantUpdate.set_id]
        · rw [Tenant.touch_proj Tenant.live fun _ _ _ => rfl, TenantUpdate.set_live]
        · rw [Tenant.touch_proj Tenant.overageSince fun _ _ _ => rfl,
            Tenant.touch_proj Tenant.licensedSeats fun _ _ _ => rfl,
            Tenant.touch_proj Tenant.id fun _ _ _ => rfl]
          have marked : (since.map pgTime).isSome =
              (occupancyOf tenant context.startedAt db).overCap := Option.isSome_map.trans asked
          exact (Bool.eq_iff_iff.mp marked).trans overCap_occupancyOf
      · refine .inl ⟨old, fun same => other ?_⟩
        rw [same, Tenant.touch_proj Tenant.id fun _ _ _ => rfl, TenantUpdate.set_id]
  exact Inner.bind updates fun _ => inner_pure fun _ _ holds => holds

theorem inner_enqueue {event : DomainEvent} :
    Inner moment base (Swept origin done) (enqueue event : DbM σ _)
      fun _ => Swept origin done := by
  apply inner_send
  intro context db result writes _ _ swept yields
  cases yields
  exact ⟨swept.memberships, swept.invitations, swept.began, swept.known, swept.judged⟩

theorem inner_reconcileTenantTx (swept : Swept origin done moment base) :
    Inner moment base (fun _ db => db = base) (reconcileTenantTx id : DbM σ _)
      fun _ => Swept origin (done ++ [id]) := by
  refine Inner.bind inner_lockSeatOccupancy fun occupancy => ?_
  have clock : Inner moment base (Counting base id occupancy) (timeNow : DbM σ _)
      fun _ => Counting base id occupancy :=
    inner_read (fun _ _ => rfl) fun _ _ _ counting => counting
  have marked : occupancy.overageSince.isSome = occupancy.overCap →
      Inner moment base (Counting base id occupancy) (return () : DbM σ _)
        fun _ => Swept origin (done ++ [id]) := by
    intro right
    refine Attempt.pure fun server session _ looking =>
      ⟨looking.same, looking.since, looking.began, ?_⟩
    obtain ⟨same, tenant, mem, rfl, rfl⟩ := looking.sees
    rw [same]
    refine swept.judge looking.since rfl rfl fun row kept => ?_
    by_cases key : row.id = tenant.id
    · cases Table.eq_of_key_eq kept mem key
      exact .inr ⟨_, mem, rfl, rfl, (Bool.eq_iff_iff.mp right).trans overCap_occupancyOf⟩
    · exact .inl ⟨kept, key⟩
  cases above : occupancy.overCap with
  | true =>
      cases since : occupancy.overageSince with
      | none =>
          exact Inner.bind clock fun now => Inner.bind
            (inner_setOverageSince swept (by rw [above]; rfl)) fun _ => inner_enqueue
      | some since => exact marked (by rw [above, ‹occupancy.overageSince = _›]; rfl)
  | false =>
      cases since : occupancy.overageSince with
      | none => exact marked (by rw [above, since]; rfl)
      | some since =>
          exact Inner.bind clock fun now => Inner.bind
            (inner_setOverageSince swept (by rw [above]; rfl)) fun _ => inner_enqueue

/-! ## The batch -/

theorem clocked_reconcileOneTenant :
    Clocked (Swept origin done) (reconcileOneTenant id : DbM σ _)
      (fun _ => Swept origin (done ++ [id])) fun _ => Swept origin done :=
  clocked_runInTx ages_swept (fun _ _ swept => inner_reconcileTenantTx swept)
    (fun _ _ _ _ later swept => ages_swept _ _ _ later swept) fun _ _ _ swept =>
      { swept with judged := fun tenant mem live visited =>
          swept.judged tenant mem live (List.mem_append_left _ visited) }

/-- A sweep that counts no failure is done with all its candidates. -/
theorem clocked_reconcileTenants (candidates : List Uuid) (result : JobResult) :
    Clocked (Swept origin done) (reconcileTenants candidates result : DbM σ _)
      (fun final now db => result.failed ≤ final.failed ∧
        (final.failed = 0 → Swept origin (done ++ candidates) now db)) fun _ _ _ => True := by
  induction candidates generalizing done result with
  | nil => exact Attempt.pure fun _ _ _ here => ⟨here.1, le_rfl, fun _ => by simpa using here.2⟩
  | cons tenantID candidates ih =>
      have visits : Clocked (Swept origin done) (reconcileOneTenant tenantID : DbM σ _).observe
          (EndsAt (fun _ => Swept origin (done ++ [tenantID])) fun _ => Swept origin done)
          fun _ _ _ => True := clocked_reconcileOneTenant.observe
      refine Attempt.bind visits fun outcome => ?_
      cases outcome with
      | ok _ =>
          refine Attempt.relax (ih _) fun final _ _ _ ended => ?_
          simpa using ended
      | error failure =>
          refine Attempt.relax (ih _) fun final _ _ _ ended => ?_
          obtain ⟨idle, more, _⟩ := ended
          dsimp only at more
          exact ⟨idle, by omega, fun clean => by omega⟩

/-- The candidates are all the live tenants if these fit into the batch. -/
theorem clocked_listSeatOverageCandidates (order : RowOrder) {limit : Nat}
    (fits : (origin.db.tenants.select Tenant.live).length ≤ limit) :
    Clocked (fun now db => origin.now ≤ now ∧ db = origin.db)
      (withPool (listSeatOverageCandidates order limit) : DbM σ _)
      (fun candidates now db => (∀ id ∈ (origin.db.tenants.select Tenant.live).map Tenant.id,
        id ∈ candidates) ∧ Swept origin [] now db)
      fun _ _ _ => True := by
  have reads : ∀ moment base, origin.now ≤ moment ∧ base = origin.db →
      Inner moment base (fun _ db => db = base) (listSeatOverageCandidates order limit : DbM σ _)
        fun candidates started db =>
          (∀ id ∈ (origin.db.tenants.select Tenant.live).map Tenant.id, id ∈ candidates) ∧
            origin.now ≤ started ∧ db = origin.db := by
    rintro moment _ ⟨began, rfl⟩
    apply inner_read fun _ _ => rfl
    intro context db since same
    subst same
    refine ⟨fun id mem => ?_, began.trans since, rfl⟩
    have all : ((origin.db.tenants.select Tenant.live).map Tenant.id).length ≤ limit := by
      rwa [List.length_map]
    rw [← (order.perm _).length_eq] at all
    rw [List.take_of_length_le all]
    exact (order.perm _).mem_iff.mpr mem
  refine clocked_withPool (fun _ _ _ passes here => ⟨here.1.trans passes, here.2⟩) reads ?_
    (fun _ _ _ _ => trivial) fun _ _ _ _ => trivial
  rintro candidates started now db later ⟨all, began, rfl⟩
  refine ⟨all, rfl, rfl, began.trans later, ?_, fun _ _ _ visited => absurd visited (by simp)⟩
  exact fun tenant mem live => List.mem_map_of_mem (Table.mem_select.mpr ⟨mem, live⟩)

/-- A run with room for every live tenant. -/
theorem clocked_seatOverageReconcile (order : RowOrder) {limit : Nat}
    (fits : (origin.db.tenants.select Tenant.live).length ≤ limit) :
    Clocked (fun now db => origin.now ≤ now ∧ db = origin.db)
      (seatOverageReconcile order limit : DbM σ _)
      (fun result now db => result.failed = 0 →
        Swept origin ((origin.db.tenants.select Tenant.live).map Tenant.id) now db)
      fun _ _ _ => True := by
  refine Attempt.bind (clocked_listSeatOverageCandidates order fits) fun candidates => ?_
  have sweeps : (∀ id ∈ (origin.db.tenants.select Tenant.live).map Tenant.id,
        id ∈ candidates) →
      Clocked (Swept origin []) (reconcileTenants candidates ⟨0, 0, 0, 0⟩ : DbM σ _)
        (fun result now db => result.failed = 0 →
          Swept origin ((origin.db.tenants.select Tenant.live).map Tenant.id) now db)
        fun _ _ _ => True := by
    intro all
    refine Attempt.relax (clocked_reconcileTenants candidates _) fun result server _ _ ended => ?_
    refine ⟨ended.1, fun clean => ?_⟩
    have swept := ended.2.2 clean
    rw [List.nil_append] at swept
    exact { swept with
      judged := fun tenant mem live visited => swept.judged tenant mem live (all _ visited) }
  exact Attempt.strengthen (Attempt.of_fact sweeps) fun _ _ _ here =>
    ⟨here.2.1, here.1, here.2.2⟩

end Sweep

/-- A run without an error is done with every live tenant if they fit into a batch. -/
theorem swept_of_run {before after : DbServer} {order : RowOrder} {limit : Nat}
    {result : JobResult} (fits : (before.db.tenants.select Tenant.live).length ≤ limit)
    (completes : server.Completes (seatOverageReconcile order limit).run before (.ok result) after)
    (clean : result.failed = 0) :
    Swept before ((before.db.tenants.select Tenant.live).map Tenant.id) after.now after.db := by
  refine (clocked_seatOverageReconcile order fits).ended ?_ (fun _ _ _ _ _ _ => trivial)
    completes ⟨le_rfl, rfl⟩ clean
  exact fun _ _ _ _ later ended clean => ages_swept _ _ _ later (ended clean)

/-- No tenant comes to life in a sweep. -/
theorem Swept.length_live_le {origin : DbServer} {done : List Uuid} {now : Int} {db : Db}
    (swept : Swept origin done now db) :
    (db.tenants.select Tenant.live).length ≤ (origin.db.tenants.select Tenant.live).length := by
  have distinct : ((db.tenants.select Tenant.live).map Tenant.id).Nodup :=
    (List.filter_sublist.map Tenant.id).nodup db.tenants.nodup
  have known : (db.tenants.select Tenant.live).map Tenant.id ⊆
      (origin.db.tenants.select Tenant.live).map Tenant.id := by
    intro id mem
    obtain ⟨tenant, selected, rfl⟩ := List.mem_map.mp mem
    exact swept.known tenant (Table.mem_select.mp selected).1 (Table.mem_select.mp selected).2
  simpa using (List.subperm_of_subset distinct known).length_le

/-- Earlier runs leave the invitations alone and bring no tenant to life. -/
theorem Runs.keeps {limit count : Nat} {start before : DbServer}
    (runs : Runs limit count start before)
    (fits : (start.db.tenants.select Tenant.live).length ≤ limit) :
    (before.db.tenants.select Tenant.live).length ≤ limit ∧ start.now ≤ before.now ∧
      before.db.invitations = start.db.invitations := by
  induction runs with
  | none => exact ⟨fits, le_rfl, rfl⟩
  | run earlier completes clean ih =>
      obtain ⟨room, later, same⟩ := ih fits
      have swept := swept_of_run room completes clean
      exact ⟨swept.length_live_le.trans room, later.trans swept.began,
        swept.invitations.trans same⟩

/-- After any positive number of runs without an error, if every live tenant fits into a batch
and no invitation expires meanwhile, exactly the live tenants that use more seats than licensed
are marked. -/
theorem reconciled_of_runs {limit count : Nat} {start after : DbServer}
    (fits : (start.db.tenants.select Tenant.live).length ≤ limit)
    (unexpiring : Unexpiring start.now after.now start.db)
    (runs : Runs limit (count + 1) start after) : Reconciled after.now after.db := by
  cases runs with
  | run earlier completes clean =>
      obtain ⟨room, later, same⟩ := earlier.keeps fits
      have swept := swept_of_run room completes clean
      intro tenant mem live
      obtain ⟨moment, began, ended, marked⟩ :=
        swept.judged tenant mem live (swept.known tenant mem live)
      have steady : Unexpiring start.now after.now after.db := by
        rw [Unexpiring, swept.invitations, same]
        exact unexpiring
      rw [marked, steady.occupancy_eq (later.trans began) ended]

/-- Two live tenants: one within its license, and one with two members on one seat. -/
def starved : Db :=
  { Db.empty with
    tenants := ⟨[trialRow, { trialRow with id := 2, slug := "b", licensedSeats := 1 }], by decide⟩
    memberships := ⟨[⟨10, 2, 201, .active, 1, 0, 0, none⟩, ⟨11, 2, 202, .active, 1, 0, 0, none⟩],
      by decide⟩ }

/-- The rows in the order of the table. -/
def storedOrder : RowOrder :=
  ⟨id, fun _ => .refl _⟩

/-- In batches of two, one run marks the tenant. -/
theorem reconciled_after_one_run :
    ∃ after, Runs 2 1 ⟨starved, 0⟩ after ∧
      (after.db.tenants.find? 2).any (·.overageSince.isSome) = true ∧
      Reconciled after.now after.db := by
  obtain ⟨outcome, after, completes, ended⟩ := server.exists_completes_of_endsAs
    (seatOverageReconcile storedOrder 2).run ⟨starved, 0⟩ (proceeding 100 16)
    (fun outcome (after : DbServer) =>
      outcome.toOption.any (fun result : JobResult => decide (result.failed = 0)) &&
        (after.db.tenants.find? 2).any fun tenant : Tenant => tenant.overageSince.isSome)
    (by decide +kernel)
  rw [Bool.and_eq_true] at ended
  obtain ⟨passed, marked⟩ := ended
  obtain ⟨result, rfl, clean⟩ := ok_of_any passed
  have runs : Runs 2 1 ⟨starved, 0⟩ after := .run (.none _) completes clean
  refine ⟨after, runs, marked, reconciled_of_runs (by decide) ?_ runs⟩
  exact fun row mem => absurd mem List.not_mem_nil

/-- In batches of one, the same tenant may be taken in every run, and the other one is never
marked. -/
theorem never_reconciled_in_small_batches :
    ∃ start : DbServer, start.db = starved ∧
      ∀ count, ∃ after, Runs 1 count start after ∧ ¬Reconciled after.now after.db := by
  have idle : ∃ result, server.Completes (seatOverageReconcile storedOrder 1).run ⟨starved, 0⟩
      (.ok result) ⟨starved, 0⟩ ∧ result.failed = 0 := by
    obtain ⟨outcome, after, completes, ended⟩ := server.exists_completes_of_endsAs
      (seatOverageReconcile storedOrder 1).run ⟨starved, 0⟩ (proceeding 100 8)
      (fun outcome (after : DbServer) =>
        outcome.toOption.any (fun result : JobResult => decide (result.failed = 0)) &&
          decide (after = ⟨starved, 0⟩))
      (by decide +kernel)
    rw [Bool.and_eq_true, decide_eq_true_eq] at ended
    obtain ⟨result, rfl, clean⟩ := ok_of_any ended.1
    exact ⟨result, ended.2 ▸ completes, clean⟩
  obtain ⟨result, completes, clean⟩ := idle
  have again : ∀ count, Runs 1 count ⟨starved, 0⟩ ⟨starved, 0⟩ := by
    intro count
    induction count with
    | zero => exact .none _
    | succ count ih => exact .run ih completes clean
  refine ⟨⟨starved, 0⟩, rfl, fun count => ⟨_, again count, fun reconciled => ?_⟩⟩
  have marked := reconciled { trialRow with id := 2, slug := "b", licensedSeats := 1 }
    (List.mem_cons_of_mem _ List.mem_cons_self) rfl
  exact absurd (marked.mpr (by decide +kernel)) (by decide)

end SeatReconcile

end OrgMembership
