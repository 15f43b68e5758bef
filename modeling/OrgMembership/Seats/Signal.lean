import Mathlib.Data.List.Chain
import OrgMembership.Seats.Overage
import OrgMembership.Service.Jobs
import OrgMembership.Service.Projecting

/-!
# Seat overage signals

The reconciler tells when a tenant begins and when it stops to use more seats than it has
licensed, and keeps the last signal in `overage_since`.  It reads the seats, the mark and the
counts under the lock of the tenants row, and marks the row in the transaction that publishes
the signal.  So the committed signals alternate, beside every call that moves seats.
-/

namespace OrgMembership

open Concurrency Relational

namespace SeatSignal

/-! ## The calls -/

/-- The reconciler for one tenant, the calls that move its seats, and its events. -/
inductive Call
  | reconcile
  | moves (call : Overage.Call)
  | handle (skew : Int) (catalog : PlanCatalog) (event : Envelope)
  | replayParked (catalog : PlanCatalog)

/-- The program of a call for the tenant. -/
def code (tenantID : Uuid) : Call → DbProgram (Except Failure Unit)
  | .reconcile => (reconcileOneTenant tenantID).run
  | .moves call => Overage.code tenantID call
  | .handle skew catalog event => (handle skew catalog { event with tenantID }).run
  | .replayParked catalog =>
      Fallible.run do
        let _ ← replayParked catalog tenantID
        return ()

/-! ## Signals -/

/-- The signal of an event: whether the tenant is over its cap. -/
def signal (tenantID : Uuid) (event : DomainEvent) : Option Bool :=
  match event.data with
  | .tenantSeatOverageStarted id .. => if id = tenantID then some true else none
  | .tenantSeatOverageResolved id _ => if id = tenantID then some false else none
  | _ => none

theorem signal_of_personal {tenantID : Uuid} {event : DomainEvent}
    (personal : event.personal = true) : signal tenantID event = none := by
  rw [DomainEvent.personal] at personal
  rw [signal]
  split at personal
  all_goals simp_all

theorem signal_of_relayed {tenantID : Uuid} {event : DomainEvent}
    (relayed : event.relayed = true) : signal tenantID event = none := by
  rw [DomainEvent.relayed] at relayed
  rw [signal]
  split at relayed
  all_goals simp_all

/-- The signals alternate, the first one says that the cap is exceeded, and the last one is
the mark. -/
structure Alternates (signals : List Bool) (marked : Bool) : Prop where
  chain : (false :: signals).IsChain (· ≠ ·)
  last : (false :: signals).getLast? = some marked

theorem alternates_nil : Alternates [] false :=
  ⟨List.isChain_singleton _, rfl⟩

theorem Alternates.flip {signals : List Bool} {marked : Bool}
    (alternates : Alternates signals marked) :
    Alternates (signals ++ [!marked]) (!marked) where
  chain := by
    rw [← List.cons_append, List.isChain_append]
    refine ⟨alternates.chain, List.isChain_singleton _, ?_⟩
    intro previous last next head
    rw [alternates.last, Option.mem_some_iff] at last
    rw [List.head?_cons, Option.mem_some_iff] at head
    subst last head
    exact (Bool.not_ne_self marked).symm
  last := by
    rw [← List.cons_append, List.getLast?_append]
    rfl

/-- The tenant has a row, and the signals since the start lead to its mark. -/
def Told (tenantID : Uuid) (origin db : Db) : Prop :=
  ∃ tenant ∈ db.tenants, tenant.id = tenantID ∧
    ∃ events, db.outbox = origin.outbox ++ events ∧
      Alternates (events.filterMap (signal tenantID)) tenant.overageSince.isSome

/-! ## What a transaction has read -/

section Read

variable (tenantID : Uuid)

/-- The row that an entry has locked. -/
def lockedRow : Entry Query.Result → Option Tenant
  | .issued (.tenant (.lockLive id)) found => if id = tenantID then found else none
  | _ => none

/-- The members that an entry has counted. -/
def countedActive : Entry Query.Result → Option Nat
  | .issued (.membership (.countActive id)) active => if id = tenantID then some active else none
  | _ => none

/-- The invitations that an entry has counted. -/
def countedPending : Entry Query.Result → Option Nat
  | .issued (.invitation (.countPending id)) pending => if id = tenantID then some pending else none
  | _ => none

/-- What the open transaction has read of the seats. -/
def readOccupancy (session : DbSession) : Option SeatOccupancy := do
  let tenant ← (Entry.sinceBegan session.history).findSome? (lockedRow tenantID)
  let active ← (Entry.sinceBegan session.history).findSome? (countedActive tenantID)
  let pending ← (Entry.sinceBegan session.history).findSome? (countedPending tenantID)
  return ⟨tenant.licensedSeats, tenant.overageSince, active, pending⟩

/-- The signals that a session publishes. -/
def pendingSignals (session : DbSession) : List Bool :=
  (session.writes.filterMap Write.published).filterMap (signal tenantID)

/-- The signals that a session publishes say what it has read. -/
def Agrees (session : DbSession) : Prop :=
  ∀ above ∈ pendingSignals tenantID session,
    ∃ occupancy, readOccupancy tenantID session = some occupancy ∧ occupancy.overCap = above

end Read

/-! ## The protocol -/

/-- Every commit agrees with the occupancy that its transaction counted. -/
def protocol (tenantID : Uuid) (origin : Db) : DbProtocol where
  Inv server := Told tenantID origin server.db
  Admits _ server session := Disciplined server session
  Coexist server actor other := Disciplined server actor ∧
    Compatible actor.locks other.locks ∧ Disciplined server other
  Guar actor before after := before = after ∨
    after = dialect.committed before actor ∧ Agrees tenantID actor
  Drift before after := before.db = after.db

section Protocol

variable {σ α : Type} {tenantID : Uuid} {origin : Db}

theorem lenient : Lenient (protocol tenantID origin) :=
  fun _ _ => .inl rfl

theorem outbox_committed (server : DbServer) (session : DbSession) :
    (dialect.committed server session).db.outbox =
      server.db.outbox ++ session.writes.filterMap Write.published :=
  outbox_applyAll _ _

/-! ## Transactions without a signal -/

/-- A transaction that leaves the mark of every tenant alone, deletes no tenant and publishes no
signal. -/
structure Mute (tenantID : Uuid) (server : DbServer) (session : DbSession) : Prop where
  marks : tenantAccess.Faithful Write.tenantChange
    (fun old new => new.overageSince = old.overageSince) server session
  kept : ∀ id, .tenant (.delete id) ∉ session.writes
  quiet : pendingSignals tenantID session = []

theorem stable_mute : (protocol tenantID origin).Stable (Mute tenantID) := by
  intro before after session _ _ rely mute
  rcases rely with ⟨actor, ⟨acting, compatible, disciplined⟩, rfl | ⟨rfl, _⟩⟩ | unchanged
  · exact mute
  · exact { mute with
      marks := tenantLawful.faithful_committed acting.tenantsGuarded compatible
        disciplined.tenantsGuarded mute.marks }
  · exact { mute with
      marks := fun row put keep base mem => mute.marks row put keep base
        ((show before.db = after.db from unchanged) ▸ mem) }

theorem mute_of_unwritten {server : DbServer} {session : DbSession}
    (unwritten : session.writes = []) : Mute tenantID server session := by
  constructor
  · intro row put
    simp [Session.changes, unwritten] at put
  · simp [unwritten]
  · simp [pendingSignals, unwritten]

theorem commits_mute {server : DbServer} {session : DbSession}
    (inv : Told tenantID origin server.db) (mute : Mute tenantID server session) :
    Told tenantID origin (dialect.committed server session).db ∧ Agrees tenantID session := by
  obtain ⟨tenant, mem, same, events, outbox, alternates⟩ := inv
  refine ⟨?_, by simp [Agrees, mute.quiet]⟩
  obtain ⟨version, memVersion, key, made⟩ := tenantLawful.version_committed mute.marks mem
    (mt tenantLawful.mem_changes.mp (mute.kept _))
  have marked : version.overageSince = tenant.overageSince := by
    rcases made with rfl | ⟨_, marked⟩
    · rfl
    · exact marked
  refine ⟨version, memVersion, key.trans same, events ++ session.writes.filterMap Write.published,
    ?_, ?_⟩
  · rw [outbox_committed, outbox, List.append_assoc]
  · have quiet := mute.quiet
    rw [pendingSignals] at quiet
    rw [List.filterMap_append, quiet, List.append_nil, marked]
    exact alternates

/-- The statements of such a transaction. -/
def Plain (tenantID : Uuid) : Query → Prop
  | .tenant (.insert _) | .tenant (.update _ _) | .tenant (.hardDeleteTenant _) => False
  | .event (.enqueue event) => signal tenantID event = none
  | _ => True

theorem plain_of_reads {query : Query} (reads : query.writesTo = []) : Plain tenantID query := by
  unfold Plain
  split
  all_goals trivial

theorem plain_personal (event : DomainEvent) (personal : event.personal = true) :
    Plain tenantID (.event (.enqueue event)) :=
  signal_of_personal personal

theorem Mute.extended {server : DbServer} {session : DbSession} {query : Query}
    {context : Context} {result : query.Result} {locks : List (Lock LockKey)}
    {writes : List Write} (mute : Mute tenantID server session) (plain : Plain tenantID query)
    (yields : (query.effect context (dialect.view server session)).Yields result writes) :
    Mute tenantID server (session.extended query result locks writes) where
  marks := by
    apply tenantLawful.faithful_extended_of (fun _ _ _ early late => late.trans early) mute.marks
    intro row put old mem same
    cases tenant_write yields (tenantLawful.mem_filterMap.mp put) with
    | insert => exact absurd plain id
    | update => exact absurd plain id
    | patch memRow patch =>
        have same : old.id = _ := same.trans (Tenant.touch_proj Tenant.id (fun _ _ _ => rfl) _ _ _)
        rw [LifecyclePatch.set_id] at same
        cases Table.eq_of_key_eq mem memRow same
        rw [Tenant.touch_proj Tenant.overageSince fun _ _ _ => rfl]
        cases patch <;> rfl
    | setLastEventAt memRow | markOwnerless memRow =>
        cases Table.eq_of_key_eq mem memRow
          (same.trans (Tenant.touch_proj Tenant.id (fun _ _ _ => rfl) _ _ _))
        exact Tenant.touch_proj Tenant.overageSince (fun _ _ _ => rfl) _ _ _
  kept id deleted := by
    rcases List.mem_append.mp deleted with old | new
    · exact mute.kept id old
    · cases tenant_write yields new with
      | delete => exact plain
  quiet := by
    have quiet : (writes.filterMap Write.published).filterMap (signal tenantID) = [] := by
      rcases published_cases yields with silent | ⟨event, rfl, rfl⟩
      · rw [silent, List.filterMap_nil]
      · exact List.filterMap_cons_none plain
    have before := mute.quiet
    rw [pendingSignals] at before
    rw [pendingSignals, Session.extended, List.filterMap_append, List.filterMap_append, before,
      quiet, List.append_nil]

theorem within_plain {body : DbM σ α} (issues : Fallible.Issues (Only (Plain tenantID)) body) :
    Within (protocol tenantID origin) (Mute tenantID) body fun _ => Mute tenantID :=
  within_only lenient stable_mute (fun _ plain _ _ _ _ _ _ mute _ yields =>
    mute.extended plain yields) issues

theorem idles_mute {body : DbM σ α}
    (runs : Within (protocol tenantID origin) (Mute tenantID) body fun _ => Mute tenantID) :
    Idles (protocol tenantID origin) (transaction .pg body) := by
  apply attempt_idle_transaction lenient fun _ => stable_mute
  · exact Attempt.strengthen runs fun _ _ _ blank => mute_of_unwritten blank.unwritten
  · intro _ server session inv mute _
    obtain ⟨told, agrees⟩ := commits_mute inv mute
    exact ⟨told, .inr ⟨rfl, agrees⟩, session.idle_closed⟩

theorem idles_plain {body : DbM σ α} (issues : Fallible.Issues (Only (Plain tenantID)) body) :
    Idles (protocol tenantID origin) (transaction .pg body) :=
  idles_mute (within_plain issues)

/-! ## The reconciler -/

/-- The transaction has locked the tenant's row. -/
structure Held (tenantID : Uuid) (tenant : Tenant) (server : DbServer) (session : DbSession) :
    Prop where
  locked : TenantLocked tenantID session
  mem : tenant ∈ server.db.tenants
  key : tenant.id = tenantID

theorem Held.extended {server : DbServer} {session : DbSession} {tenant : Tenant} {query : Query}
    {result : query.Result} {locks : List (Lock LockKey)} {writes : List Write}
    (held : Held tenantID tenant server session) :
    Held tenantID tenant server (session.extended query result locks writes) :=
  { held with locked := List.mem_append_left _ held.locked }

theorem Held.keeps {before after : DbServer} {session : DbSession} {tenant : Tenant}
    (rely : (protocol tenantID origin).Rely session before after)
    (held : Held tenantID tenant before session) : Held tenantID tenant after session := by
  rcases rely with ⟨actor, ⟨acting, compatible, _⟩, rfl | ⟨rfl, _⟩⟩ | unchanged
  · exact held
  · have locked : Exclusive session.locks (tenantAccess.rowKey tenant.id) := by
      rw [held.key]
      exact .inr held.locked
    exact { held with
      mem := (tenantLawful.mem_committed_iff acting.tenantsGuarded compatible locked).mpr
        held.mem }
  · exact { held with mem := (show before.db = after.db from unchanged) ▸ held.mem }

/-- The transaction has counted the seats and written nothing yet. -/
structure Counted (tenantID : Uuid) (occupancy : SeatOccupancy) (server : DbServer)
    (session : DbSession) : Prop where
  held : ∃ tenant, Held tenantID tenant server session ∧
    tenant.overageSince = occupancy.overageSince
  unwritten : session.writes = []
  read : readOccupancy tenantID session = some occupancy

/-- The transaction has turned the mark of the tenant and published these signals. -/
structure Turned (tenantID : Uuid) (above : Bool) (signals : List Bool) (server : DbServer)
    (session : DbSession) : Prop where
  held : ∃ tenant, Held tenantID tenant server session ∧ tenant.overageSince.isSome = !above
  marked : ∃ row, row.id = tenantID ∧ row.overageSince.isSome = above ∧
    session.changes Write.tenantChange = [.put row]
  published : pendingSignals tenantID session = signals
  read : ∃ occupancy, readOccupancy tenantID session = some occupancy ∧ occupancy.overCap = above

theorem stable_counted {occupancy : SeatOccupancy} :
    (protocol tenantID origin).Stable (Counted tenantID occupancy) := by
  intro before after session _ _ rely counted
  obtain ⟨tenant, held, same⟩ := counted.held
  exact { counted with held := ⟨tenant, held.keeps rely, same⟩ }

theorem stable_turned {above : Bool} {signals : List Bool} :
    (protocol tenantID origin).Stable (Turned tenantID above signals) := by
  intro before after session _ _ rely turned
  obtain ⟨tenant, held, same⟩ := turned.held
  exact { turned with held := ⟨tenant, held.keeps rely, same⟩ }

/-- A statement that is none of the three reads. -/
theorem readOccupancy_extended {session : DbSession} {query : Query} {result : query.Result}
    {locks : List (Lock LockKey)} {writes : List Write}
    (locking : lockedRow tenantID (.issued query result) = none)
    (active : countedActive tenantID (.issued query result) = none)
    (pending : countedPending tenantID (.issued query result) = none) :
    readOccupancy tenantID (session.extended query result locks writes) =
      readOccupancy tenantID session := by
  simp [readOccupancy, Session.extended, Entry.sinceBegan, locking, active, pending]

theorem commits_turned {server : DbServer} {session : DbSession} {above : Bool}
    (inv : Told tenantID origin server.db) (turned : Turned tenantID above [above] server session) :
    Told tenantID origin (dialect.committed server session).db ∧ Agrees tenantID session := by
  obtain ⟨tenant, held, unmarked⟩ := turned.held
  obtain ⟨row, key, marked, changes⟩ := turned.marked
  obtain ⟨other, mem, same, events, outbox, alternates⟩ := inv
  cases Table.eq_of_key_eq mem held.mem (same.trans held.key.symm)
  constructor
  · refine ⟨row, ?_, key, events ++ session.writes.filterMap Write.published, ?_, ?_⟩
    · change row ∈ tenantAccess.table (dialect.view server session)
      rw [tenantLawful.table_view, changes]
      exact Table.mem_put.mpr (.inl rfl)
    · rw [outbox_committed, outbox, List.append_assoc]
    · have published := turned.published
      rw [pendingSignals] at published
      rw [List.filterMap_append, published, marked]
      have flipped := alternates.flip
      rwa [unmarked, Bool.not_not] at flipped
  · intro said mem
    rw [turned.published, List.mem_singleton] at mem
    rw [mem]
    exact turned.read

/-- The transaction has read the tenant's row under its lock. -/
structure Locked (tenantID : Uuid) (tenant : Tenant) (server : DbServer) (session : DbSession) :
    Prop where
  held : Held tenantID tenant server session
  unwritten : session.writes = []
  row : (Entry.sinceBegan session.history).findSome? (lockedRow tenantID) = some tenant

theorem stable_locked {tenant : Tenant} :
    (protocol tenantID origin).Stable (Locked tenantID tenant) :=
  fun _ _ _ _ _ rely locked => { locked with held := locked.held.keeps rely }

theorem Locked.reads {server : DbServer} {session : DbSession} {tenant : Tenant} {query : Query}
    {result : query.Result} {locks : List (Lock LockKey)}
    (locked : Locked tenantID tenant server session)
    (other : lockedRow tenantID (.issued query result) = none) :
    Locked tenantID tenant server (session.extended query result locks []) where
  held := locked.held.extended
  unwritten := by simp [Session.extended, locked.unwritten]
  row := by simp only [Session.extended, Entry.sinceBegan, List.findSome?_cons, other, locked.row]

theorem within_lock :
    Within (protocol tenantID origin) (fun _ session => session.Blank)
      (tenantQuery (.lockLive tenantID) : DbM σ _) fun found server session =>
        ∀ tenant, found = some tenant → Locked tenantID tenant server session := by
  apply within_lockLive _ lenient (Protocol.stable_local _)
  · exact fun _ _ _ _ _ _ _ found => absurd found (by simp)
  · rintro server session tenant _ blank sees other ⟨⟩
    have view : dialect.view server session = server.db := view_of_unwritten blank.unwritten
    constructor
    · exact ⟨List.mem_append_right _ List.mem_cons_self, view ▸ sees.mem, sees.id⟩
    · simp [Session.extended, blank.unwritten]
    · simp [Session.extended, Entry.sinceBegan, lockedRow]

theorem within_lockSeatOccupancy :
    Within (protocol tenantID origin) (fun _ session => session.Blank)
      (TenantRepository.lockSeatOccupancy tenantID : DbM σ _) (Counted tenantID) := by
  refine Attempt.bind within_lock fun found => ?_
  cases found with
  | none => exact within_throw
  | some tenant =>
      have members : Within (protocol tenantID origin) (Locked tenantID tenant)
          (membershipQuery (.countActive tenantID) : DbM σ _) fun active server session =>
            Locked tenantID tenant server session ∧
              (Entry.sinceBegan session.history).findSome? (countedActive tenantID) =
                some active := by
        apply within_read lenient stable_locked fun _ _ => rfl
        intro server session fresh _ locked _
        exact ⟨locked.reads rfl, by simp [Session.extended, Entry.sinceBegan, countedActive]⟩
      have invitations : ∀ active : Nat, Within (protocol tenantID origin)
          (fun server session => Locked tenantID tenant server session ∧
            (Entry.sinceBegan session.history).findSome? (countedActive tenantID) = some active)
          (invitationQuery (.countPending tenantID) : DbM σ _) fun pending =>
            Counted tenantID ⟨tenant.licensedSeats, tenant.overageSince, active, pending⟩ := by
        intro active
        apply within_read lenient (stable_locked.and (Protocol.stable_local _)) fun _ _ => rfl
        rintro server session fresh _ ⟨locked, counted⟩ _
        refine ⟨⟨tenant, locked.held.extended, rfl⟩, (locked.reads rfl).unwritten, ?_⟩
        simp only [readOccupancy, Session.extended, Entry.sinceBegan, List.findSome?_cons,
          lockedRow, countedActive, countedPending, if_true, locked.row, counted]
        rfl
      refine Attempt.bind (Attempt.strengthen members fun _ _ _ locked => locked tenant rfl)
        fun active => Attempt.bind (invitations active) fun pending => ?_
      exact Attempt.pure fun _ _ _ counted => counted

/-- Marking the row while its mark is the other one. -/
theorem within_setOverageSince {occupancy : SeatOccupancy} {since : Option Int}
    (turns : occupancy.overageSince.isSome = !since.isSome)
    (above : occupancy.overCap = since.isSome) :
    Within (protocol tenantID origin) (Counted tenantID occupancy)
      (TenantRepository.setOverageSince tenantID since : DbM σ _)
      fun _ => Turned tenantID since.isSome [] := by
  have updates : Within (protocol tenantID origin) (Counted tenantID occupancy)
      (tenantQuery (.update tenantID (.setOverageSince since)) : DbM σ _)
      fun _ => Turned tenantID since.isSome [] := by
    apply within_send lenient stable_counted
    intro server session fresh result writes _ counted _ yields
    obtain ⟨tenant, held, same⟩ := counted.held
    have view : dialect.view server session = server.db := view_of_unwritten counted.unwritten
    rw [view] at yields
    have found : server.db.tenants.find? tenantID = some tenant :=
      Table.find?_eq_some.mpr ⟨held.mem, held.key⟩
    rcases tenantUpdate_cases yields with ⟨_, _, missing⟩ | ⟨row, sees, _, _, rfl⟩
    · exact absurd (missing tenant found) (by simp [TenantUpdate.selects])
    · cases found.symm.trans sees
      refine ⟨⟨tenant, held.extended, by rw [same, turns]⟩,
        ⟨tenant.touch (txNow (Dialect.context server session fresh))
          ((TenantUpdate.setOverageSince since).set tenant), ?_, ?_, ?_⟩, ?_, ?_⟩
      · rw [Tenant.touch_proj Tenant.id fun _ _ _ => rfl, TenantUpdate.set_id]
        exact held.key
      · rw [Tenant.touch_proj Tenant.overageSince fun _ _ _ => rfl]
        exact Option.isSome_map
      · simp [Session.changes, Session.extended, counted.unwritten, Write.tenantChange]
      · simp [pendingSignals, Session.extended, counted.unwritten, Write.published]
      · refine ⟨occupancy, ?_, above⟩
        rw [readOccupancy_extended rfl rfl rfl]
        exact counted.read
  exact Attempt.bind updates fun _ => Attempt.pure fun _ _ _ turned => turned

/-- Publishing the signal of the mark. -/
theorem within_signal {event : DomainEvent} {above : Bool}
    (signals : signal tenantID event = some above) :
    Within (protocol tenantID origin) (Turned tenantID above [])
      (enqueue event : DbM σ _) fun _ => Turned tenantID above [above] := by
  apply within_send lenient stable_turned
  intro server session fresh result writes _ turned _ yields
  cases yields
  obtain ⟨tenant, held, same⟩ := turned.held
  obtain ⟨row, key, marked, changes⟩ := turned.marked
  obtain ⟨occupancy, read, agrees⟩ := turned.read
  have quiet := turned.published
  rw [pendingSignals] at quiet
  refine ⟨⟨tenant, held.extended, same⟩, ⟨row, key, marked, ?_⟩, ?_, ⟨occupancy, ?_, agrees⟩⟩
  · rw [Session.changes_extended, changes]
    rfl
  · rw [pendingSignals, Session.extended, List.filterMap_append, List.filterMap_append, quiet]
    exact List.filterMap_cons_some signals
  · rw [readOccupancy_extended rfl rfl rfl]
    exact read

/-- A transaction that may commit: it publishes no signal, or the one of the mark it sets. -/
def Ready (tenantID : Uuid) (server : DbServer) (session : DbSession) : Prop :=
  Mute tenantID server session ∨ ∃ above, Turned tenantID above [above] server session

theorem stable_ready : (protocol tenantID origin).Stable (Ready tenantID) := by
  intro before after session invBefore invAfter rely ready
  rcases ready with mute | ⟨above, turned⟩
  · exact .inl (stable_mute _ _ _ invBefore invAfter rely mute)
  · exact .inr ⟨above, stable_turned _ _ _ invBefore invAfter rely turned⟩

theorem within_reconcileTenantTx :
    Within (protocol tenantID origin) (fun _ session => session.Blank)
      (reconcileTenantTx tenantID : DbM σ _) fun _ => Ready tenantID := by
  refine Attempt.bind within_lockSeatOccupancy fun occupancy => ?_
  have clock : Within (protocol tenantID origin) (Counted tenantID occupancy)
      (timeNow : DbM σ _) fun _ => Counted tenantID occupancy := by
    apply within_read lenient stable_counted fun _ _ => rfl
    intro server session fresh _ counted _
    obtain ⟨tenant, held, same⟩ := counted.held
    constructor
    · exact ⟨tenant, held.extended, same⟩
    · simp [Session.extended, counted.unwritten]
    · rw [readOccupancy_extended rfl rfl rfl]
      exact counted.read
  have quiet : Within (protocol tenantID origin) (Counted tenantID occupancy)
      (return () : DbM σ _) fun _ => Ready tenantID :=
    Attempt.pure fun _ _ _ counted => .inl (mute_of_unwritten counted.unwritten)
  have signals : ∀ {event : DomainEvent} {above : Bool}, signal tenantID event = some above →
      Within (protocol tenantID origin) (Turned tenantID above []) (enqueue event : DbM σ _)
        fun _ => Ready tenantID :=
    fun told => Attempt.relax (within_signal told) fun _ _ _ _ turned => .inr ⟨_, turned⟩
  cases above : occupancy.overCap with
  | true =>
      cases since : occupancy.overageSince with
      | none =>
          refine Attempt.bind clock fun now => Attempt.bind
            (within_setOverageSince (by rw [since]; rfl) above) fun _ => signals ?_
          exact if_pos rfl
      | some since => exact quiet
  | false =>
      cases since : occupancy.overageSince with
      | none => exact quiet
      | some since =>
          refine Attempt.bind clock fun now => Attempt.bind
            (within_setOverageSince (by rw [‹occupancy.overageSince = _›]; rfl) above)
            fun _ => signals ?_
          exact if_pos rfl

theorem idles_reconcileOneTenant :
    Idles (protocol tenantID origin) (reconcileOneTenant tenantID : DbM σ _) := by
  apply idles_runInTx
  apply attempt_idle_transaction lenient (fun _ => stable_ready) within_reconcileTenantTx
  intro _ server session inv ready _
  have commits : Told tenantID origin (dialect.committed server session).db ∧
      Agrees tenantID session := by
    rcases ready with mute | ⟨above, turned⟩
    · exact commits_mute inv mute
    · exact commits_turned inv turned
  exact ⟨commits.1, .inr ⟨rfl, commits.2⟩, session.idle_closed⟩

/-! ## The other calls -/

theorem assigns_plain {userID : Uuid} : AssignAllowed (Plain tenantID) tenantID userID where
  lockAssign _ := trivial
  scan _ := trivial
  lock _ _ := trivial
  revoke _ := trivial
  insert _ _ _ _ := trivial
  find _ := trivial
  publish := plain_personal

theorem registers_plain {userID : Uuid} : RegisterAllowed (Plain tenantID) tenantID userID where
  relock := ⟨fun _ => trivial, trivial, trivial, trivial, trivial⟩
  member := trivial
  findMember := trivial
  accept _ _ := trivial
  findInvitation _ := trivial
  assigns := assigns_plain
  grants := ⟨fun _ _ _ => trivial, fun _ => trivial, plain_personal⟩

theorem guards_plain {userID : Uuid} : GuardAllowed (Plain tenantID) tenantID userID :=
  ⟨trivial, trivial, trivial, trivial⟩

theorem removes_plain {userID : Uuid} (version : Int) :
    RemovalAllowed (Plain tenantID) tenantID userID version where
  scanRoles := trivial
  revokeRole _ := trivial
  scanDepts := trivial
  revokeDept _ := trivial
  scanMemberships := trivial
  endMembership _ := trivial
  probe := trivial
  publish := plain_personal

theorem idles_erased {id : Uuid} :
    Idles (protocol tenantID origin)
      (transaction .pg (InvitationRepository.erasePII tenantID id) : DbM σ _) :=
  idles_plain (issues_send trivial)

theorem idles_invited (config : InvitationConfig) (peers : InvitationPeers)
    (input : InvitationInput) (actorID : Uuid) :
    Idles (protocol tenantID origin) (invite config peers tenantID input actorID : DbM σ _) := by
  apply idles_invite lenient
  · exact fun input keycloakUserID => idles_plain (issues_inviteTx
      (fun _ => plain_of_reads) (fun _ => trivial) fun _ _ => trivial)
  · exact fun keycloakUserID => idles_plain (issues_send trivial)

theorem idles_revoked (id : Uuid) (version : Int) :
    Idles (protocol tenantID origin) (OrgMembership.revoke tenantID id version : DbM σ _) := by
  apply idles_revoke
  · exact idles_plain (InvitationRepository.issues_setStatus trivial trivial)
  · exact fun _ => idles_plain (InvitationRepository.issues_setKCCleanupPending trivial trivial)
  · exact idles_erased

theorem issues_statusPlain {userID : Uuid} {status : MembershipStatus} {version : Int} :
    Fallible.Issues (Only (Plain tenantID))
      (MembershipRepository.setStatus tenantID userID status version : DbM σ _) :=
  MembershipRepository.issues_setStatus trivial (fun _ => trivial) trivial

theorem idles_statusChanged {userID : Uuid} {status : MembershipStatus} {version : Int} :
    Idles (protocol tenantID origin)
      (changeStatus tenantID userID status version : DbM σ _) := by
  apply idles_changeStatus lenient
  · exact idles_plain ((issues_guardLastOwner trivial trivial).bind fun _ => issues_statusPlain)
  · exact idles_plain issues_statusPlain

theorem triple_seats (call : Seats.Call) :
    Triple server (protocol tenantID origin) (fun _ session => session = server.fresh)
      (Seats.code tenantID call) fun _ _ session => session.Idle := by
  cases call with
  | invite config peers input actorID =>
      exact triple_of_idles (idles_invited config peers input actorID).drop
  | addFromRegister userID keycloakUserID email isServiceAccount =>
      exact triple_of_idles (idles_addFromRegister lenient
        (idles_plain (issues_addFromRegisterTx registers_plain)) fun _ => idles_erased).drop
  | revoke id expectedVersion => exact triple_of_idles (idles_revoked id expectedVersion).drop
  | expireInvitations limit =>
      exact triple_of_idles (idles_withPool (idles_plain
        (InvitationRepository.issues_expireOverdue trivial fun _ => trivial))).drop

theorem triple_moves (call : Overage.Call) :
    Triple server (protocol tenantID origin) (fun _ session => session = server.fresh)
      (Overage.code tenantID call) fun _ _ session => session.Idle := by
  cases call with
  | seats call => exact triple_seats call
  | setStatus userID status expectedVersion workflow =>
      exact triple_of_idles (idles_setStatus idles_statusChanged).drop
  | setMembershipStatus userID status expectedVersion =>
      exact triple_of_idles (idles_withPool (idles_plain issues_statusPlain)).drop
  | removeUser userID actorID workflow =>
      exact triple_of_idles (idles_removeUser
        (idles_plain (issues_removeUserTx guards_plain removes_plain)))
  | deleteMember userID =>
      exact triple_of_idles (idles_runInTx
        (idles_plain (issues_deleteMemberTx guards_plain removes_plain trivial))).drop

theorem plain_of_delivers {env : Envelope} {duration : Int} {query : Query}
    (delivers : Delivers tenantID query) (carries : Carries env duration query) :
    Plain tenantID query := by
  unfold Plain
  split
  · exact delivers
  · exact delivers
  · exact delivers
  · exact signal_of_relayed carries
  · trivial

theorem keeps_delivers {env : Envelope} {duration : Int} {query : Query}
    (delivers : Delivers tenantID query) (carries : Carries env duration query) :
    Keeps (protocol tenantID origin) (Mute tenantID) (send .pg query : DbM σ _) := by
  apply attempt_send lenient stable_mute
  · exact fun _ _ _ _ _ _ mute _ yields =>
      mute.extended (plain_of_delivers delivers carries) yields
  · exact fun _ _ _ _ mute => mute

theorem idles_delivery {body : DbM σ α}
    (keeps : Keeps (protocol tenantID origin) (Mute tenantID) body) :
    Idles (protocol tenantID origin) (transaction .pg body) :=
  idles_mute (Attempt.weaken keeps (fun _ _ _ mute => mute) (fun _ _ _ _ mute => mute)
    fun _ _ _ _ _ => trivial)

end Protocol

/-! ## Every run -/

variable {tenantID : Uuid} {origin : Db}

theorem verified : Verified server (protocol tenantID origin) (code tenantID) (fun _ => True)
    fun _ _ _ session => session.Idle where
  triple call _ := by
    cases call with
    | reconcile => exact triple_of_idles idles_reconcileOneTenant
    | moves call => exact triple_moves call
    | handle skew catalog event =>
        exact triple_of_idles (idles_handle lenient fun _ =>
          idles_delivery (keeps_claimed (fun _ => keeps_delivers) rfl))
    | replayParked catalog =>
        exact triple_of_idles (idles_replayParked lenient fun _ _ =>
          idles_delivery (keeps_replayTx fun _ settles =>
            keeps_delivers (delivers_of_settles settles))).drop
  settled _ _ := fun _ _ _ _ _ _ holds => holds
  drift _ _ inv := ⟨inv, rfl⟩

theorem enforces {start : DbServer} :
    Enforces server (protocol tenantID origin) (code tenantID) (fun _ => True)
      (fun _ _ => True) (Config.initial start) where
  admits _ _ _ := trivial
  executes config index choice config' call session statement next reaches permitted executes := by
    obtain ⟨disciplined, others⟩ := facts_of_executes reaches executes
    refine ⟨disciplined, fun position other apart found _ => ?_⟩
    obtain ⟨compatible, mine⟩ := others position other apart found
    exact ⟨disciplined, compatible, mine⟩

/-- Beside every call that moves the tenant's seats, the committed signals alternate and begin
with one that the cap is exceeded, the tenant is marked if and only if the last one says so,
and each step publishes no signal that differs from what its transaction has read under the
lock. -/
theorem signals_alternate {start : DbServer} {config : DbConfig Call (Except Failure Unit)}
    {tenant : Tenant} (stored : tenant ∈ start.db.tenants) (key : tenant.id = tenantID)
    (unmarked : tenant.overageSince = none)
    (reaches : server.Reaches (code tenantID) (fun _ _ => True) (Config.initial start) config) :
    Told tenantID start.db config.shared.db ∧
      ∀ index choice next, server.act (code tenantID) (.step index choice) config = some next →
        ∃ process events, config.processes[index]? = some process ∧
          next.shared.db.outbox = config.shared.db.outbox ++ events ∧
          ∀ above ∈ events.filterMap (signal tenantID),
            ∃ occupancy, readOccupancy tenantID process.loc = some occupancy ∧
              occupancy.overCap = above := by
  have told : Told tenantID start.db start.db :=
    ⟨tenant, stored, key, [], (List.append_nil _).symm, by rw [unmarked]; exact alternates_nil⟩
  refine ⟨reaches.inv verified enforces told, fun index choice next acted => ?_⟩
  obtain ⟨process, current, same | ⟨committed, agrees⟩⟩ :=
    reaches.guarantees verified enforces told trivial acted
  · exact ⟨process, [], current, by rw [same, List.append_nil], by simp⟩
  · refine ⟨process, process.loc.writes.filterMap Write.published, current, ?_, agrees⟩
    rw [committed, outbox_committed]

/-- A tenant whose one seat is taken and that has invited a user. -/
def crowded : Db :=
  { Seats.oneSeat with memberships := .singleton ⟨10, 1, 201, .active, 1, 0, 0, none⟩ }

/-- The tenant is marked; when the invitation is revoked, the mark goes. -/
theorem signals_alternate_after_revocation :
    ∃ config, server.Reaches (code 1) (fun _ _ => True) (Config.initial ⟨crowded, 0⟩) config ∧
      config.shared.db.outbox.filterMap (signal 1) = [true, false] ∧
      config.processes.all Process.returned = true ∧ Told 1 crowded config.shared.db := by
  obtain ⟨config, reaches, told⟩ := server.exists_reaches_of_run (code 1) (fun _ _ => True)
    (.start .reconcile :: List.replicate 8 (.step 0 (.proceed 100)) ++
      .start (.moves (.seats (.revoke 31 1))) :: List.replicate 9 (.step 1 (.proceed 100)) ++
      .start .reconcile :: List.replicate 8 (.step 2 (.proceed 100)))
    (Config.initial ⟨crowded, 0⟩)
    (fun config => config.shared.db.outbox.filterMap (signal 1) = [true, false] &&
      config.processes.all Process.returned) (by decide +kernel)
  rw [Bool.and_eq_true, decide_eq_true_eq] at told
  have stored : { trialRow with licensedSeats := 1 } ∈ crowded.tenants := List.mem_cons_self
  have key : { trialRow with licensedSeats := 1 }.id = 1 := rfl
  have alternate := signals_alternate stored key rfl reaches
  exact ⟨config, reaches, told.1, told.2, alternate.1⟩

end SeatSignal

end OrgMembership
