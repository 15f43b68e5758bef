import OrgMembership.Repository.Member
import OrgMembership.Repository.Tenant
import OrgMembership.Store.Discipline

/-!
# Proof rules of the repositories

What the calls that take the tenants row establish, and what a repository call
in a transaction of its own leaves behind when it only reads.
-/

namespace OrgMembership

open Concurrency Relational

variable {σ α : Type} {protocol : DbProtocol}
  {pre : Assertion DbServer DbSession}

/-! ## Reading -/

/-- A commit without writes changes nothing. -/
theorem committed_of_unwritten {server : DbServer} {session : DbSession}
    (unwritten : session.writes = []) : dialect.committed server session = server := by
  rw [Dialect.committed, Dialect.view, unwritten]
  rfl

theorem view_of_unwritten {server : DbServer} {session : DbSession}
    (unwritten : session.writes = []) : dialect.view server session = server.db := by
  rw [Dialect.view, unwritten]
  rfl

theorem confined_of_reads {harmless : Write → Prop} {query : Query}
    (reads : query.writesTo = []) : dialect.Confined harmless (fun _ => True) query := by
  intro context db result writes evaluated
  refine ⟨fun write mem => ?_, fun _ _ => trivial⟩
  have table := Query.table_mem_writesTo evaluated mem
  rw [reads] at table
  exact absurd table List.not_mem_nil

/-- Code that leaves what it started from when it fails. -/
abbrev Atomic (protocol : DbProtocol)
    (pre : Assertion DbServer DbSession) (program : DbM σ α)
    (post : α → Assertion DbServer DbSession) : Prop :=
  Attempt server protocol pre program post fun _ => pre

theorem atomic_throw {post : α → Assertion DbServer DbSession} {failure : Failure} :
    Atomic protocol pre (throw failure : DbM σ α) post :=
  Attempt.throw fun _ _ _ holds => holds

/-- Code that keeps an assertion, whatever its outcome. -/
abbrev Keeps (protocol : DbProtocol)
    (pre : Assertion DbServer DbSession) (program : DbM σ α) : Prop :=
  Attempt server protocol pre program (fun _ => pre) fun _ => pre

theorem Keeps.observe {program : DbM σ α} (keeps : Keeps protocol pre program) :
    Keeps protocol pre program.observe :=
  Attempt.relax (Attempt.observe keeps) fun result _ _ _ holds => by cases result <;> exact holds

/-- Code that may be run outside a transaction and leaves none open. -/
abbrev Idles (protocol : DbProtocol) (program : DbM σ α) : Prop :=
  Keeps protocol (fun _ session => session.Idle) program

theorem idles_pure {value : α} : Idles protocol (pure value : DbM σ α) :=
  Attempt.pure fun _ _ _ idle => idle

theorem idles_throw {failure : Failure} : Idles protocol (throw failure : DbM σ α) :=
  Attempt.throw fun _ _ _ idle => idle

theorem idles_withPool {body : DbM σ α} (idles : Idles protocol (transaction .pg body)) :
    Idles protocol (withPool body) :=
  attempt_withPool idles

theorem idles_runInTx {body : DbM σ α} (idles : Idles protocol (transaction .pg body)) :
    Idles protocol (runInTx body) :=
  attempt_runInTx idles fun _ _ _ _ _ idle => idle

/-- A stable fact that no statement of the session itself undoes, a commit apart. -/
structure Lasting (protocol : DbProtocol)
    (kept : Assertion DbServer DbSession) : Prop where
  stable : protocol.Stable kept
  opened : ∀ server session now, kept server session → kept server (session.opened now)
  closed : ∀ server session, kept server session → kept server session.closed
  extended : ∀ server session query result locks writes, kept server session →
    kept server (session.extended query result locks writes)

theorem lasting_true : Lasting protocol fun _ _ => True :=
  ⟨Protocol.stable_local _, fun _ _ _ _ => trivial, fun _ _ _ => trivial,
    fun _ _ _ _ _ _ _ => trivial⟩

/-- What reading keeps, in transactions of its own and between them. -/
structure Reader (protocol : DbProtocol)
    (pre : Assertion DbServer DbSession) : Prop where
  idle : ∀ server session, pre server session → session.Idle
  withPool : ∀ {σ α : Type} {body : DbM σ α},
    Fallible.Issues (Only (dialect.Confined (fun _ => False) fun _ => True)) body →
      Keeps protocol pre (withPool body)
  read : ∀ {σ : Type} {query : Query} {value : Context → Db → query.Result},
    (∀ context db, query.effect context db = .read (value context db)) →
      Keeps protocol pre (send .pg query : DbM σ _)

/-- Reading keeps a lasting fact. -/
theorem reader_lasting {kept : Assertion DbServer DbSession} (lenient : Lenient protocol)
    (lasting : Lasting protocol kept) :
    Reader protocol fun server session => session.Idle ∧ kept server session where
  idle _ _ holds := holds.1
  withPool issues := by
    apply attempt_withPool
    have stable : protocol.Stable fun server session => session.writes = [] ∧ kept server session :=
      (Protocol.stable_local _).and lasting.stable
    apply attempt_transaction lenient ((Protocol.stable_local _).and lasting.stable)
      (fun _ => stable) (fun _ => stable) _ (attempt_confined lenient stable _ issues
        fun _ _ _ holds => holds)
    · rintro value server session inv ⟨unwritten, holds⟩ _
      rw [committed_of_unwritten unwritten]
      exact ⟨inv, lenient session server, session.idle_closed, lasting.closed _ _ holds⟩
    · exact fun _ _ _ session _ holds => ⟨session.idle_closed, lasting.closed _ _ holds.2⟩
    · exact fun _ _ _ _ _ after => after
    · exact fun _ _ session _ holds => ⟨session.idle_closed, lasting.closed _ _ holds.2⟩
    · exact fun _ _ _ _ holds => holds
    · exact fun server session _ holds => ⟨rfl, lasting.opened _ _ _ holds.2⟩
    · rintro server session query result locks writes harmless _ ⟨unwritten, holds⟩
      refine ⟨?_, lasting.extended _ _ _ _ _ _ holds⟩
      simpa [Session.extended, unwritten, List.eq_nil_iff_forall_not_mem] using harmless
  read reads :=
    attempt_read lenient ((Protocol.stable_local _).and lasting.stable) reads
      (fun _ _ _ _ holds _ => ⟨holds.1.extended, lasting.extended _ _ _ _ _ _ holds.2⟩)
      fun _ _ _ _ holds => holds

theorem reader_idle (lenient : Lenient protocol) :
    Reader protocol fun _ session => session.Idle := by
  simpa only [and_true] using reader_lasting lenient lasting_true

theorem Reader.timeNow (reader : Reader protocol pre) : Keeps protocol pre (timeNow : DbM σ Int) :=
  reader.read fun _ _ => rfl

/-- Reading outside a transaction. -/
theorem idles_read {query : Query} {value : Context → Db → query.Result}
    (lenient : Lenient protocol)
    (reads : ∀ context db, query.effect context db = .read (value context db)) :
    Idles protocol (send .pg query : DbM σ _) :=
  (reader_idle lenient).read reads

theorem idles_timeNow (lenient : Lenient protocol) : Idles protocol (timeNow : DbM σ Int) :=
  (reader_idle lenient).timeNow

/-- The triple of such code as a process. -/
theorem triple_of_idles {program : DbM Unit α} (idles : Idles protocol program) :
    Triple server protocol (fun _ session => session = server.fresh) program.run
      fun _ _ session => session.Idle := by
  refine Triple.weaken (Attempt.run idles) (fun _ _ _ fresh => fresh ▸ Session.idle_fresh)
    fun result _ _ _ holds => ?_
  cases result <;> exact holds

/-- The result of such code may be dropped. -/
theorem Idles.drop {program : DbM σ α} (idles : Idles protocol program) :
    Idles protocol (program >>= fun _ => pure ()) :=
  Attempt.bind idles fun _ => idles_pure

/-- A transaction that has not written yet. -/
structure Reading (session : DbSession) : Prop where
  inside : session.inTx = true
  unwritten : session.writes = []

theorem reading_of_blank {session : DbSession} (blank : session.Blank) : Reading session :=
  ⟨blank.inside, blank.unwritten⟩

/-- Reading at the start of a transaction, whatever the outcome. -/
theorem attempt_reading {body : DbM σ α} (lenient : Lenient protocol)
    (issues : Fallible.Issues (Only (dialect.Confined (fun _ => False) fun _ => True)) body) :
    Attempt server protocol (fun _ => Reading) body (fun _ _ => Reading) fun _ _ => Reading := by
  refine attempt_confined lenient (Protocol.stable_local _) ?_ issues fun _ _ _ reading => reading
  intro server session query result locks writes harmless _ reading
  refine ⟨reading.inside, ?_⟩
  simpa [Session.extended, reading.unwritten, List.eq_nil_iff_forall_not_mem] using harmless

theorem within_reading {body : DbM σ α} (lenient : Lenient protocol)
    (issues : Fallible.Issues (Only (dialect.Confined (fun _ => False) fun _ => True)) body) :
    Within protocol (fun _ => Reading) body fun _ _ => Reading :=
  Attempt.weaken (attempt_reading lenient issues) (fun _ _ _ reading => reading)
    (fun _ _ _ _ reading => reading) fun _ _ _ _ _ => trivial

/-! ## The tenants row -/

/-- The session holds the tenants row `FOR UPDATE`. -/
def TenantLocked (tenantID : Uuid) (session : DbSession) : Prop :=
  ⟨.tenant tenantID, .update⟩ ∈ session.locks

instance (tenantID : Uuid) (session : DbSession) : Decidable (TenantLocked tenantID session) :=
  inferInstanceAs (Decidable (_ ∈ _))

section Lock

variable {tenantID : Uuid}

/-- The live tenant that a session sees. -/
structure SeesTenant (server : DbServer) (session : DbSession) (tenantID : Uuid)
    (tenant : Tenant) : Prop where
  mem : tenant ∈ (dialect.view server session).tenants
  id : tenant.id = tenantID
  live : tenant.live = true

/-- Locking the live tenant. -/
theorem within_lockLive (post : Option Tenant → Assertion DbServer DbSession)
    (lenient : Lenient protocol) (stable : protocol.Stable pre)
    (absent : ∀ server session locks, protocol.Inv server → pre server session →
      (∀ tenant, ¬SeesTenant server session tenantID tenant) →
      post none server (session.extended (.tenant (.lockLive tenantID)) none locks []))
    (present : ∀ server session tenant, protocol.Inv server → pre server session →
      SeesTenant server session tenantID tenant →
      post (some tenant) server (session.extended (.tenant (.lockLive tenantID)) (some tenant)
        [⟨.tenant tenantID, .update⟩] [])) :
    Within protocol pre (tenantQuery (.lockLive tenantID) : DbM σ _) post := by
  refine within_send lenient stable ?_
  intro server session fresh result writes inv holds _ evaluated
  obtain ⟨rfl, ⟨rfl, dead⟩ | ⟨tenant, mem, id, live, rfl, kept⟩⟩ := Access.lockRow_cases evaluated
  · refine absent server session _ inv holds fun tenant sees => ?_
    exact absurd sees.live (by simp [dead tenant sees.mem sees.id])
  · change post (some tenant) server (session.extended _ _
      (tenantAccess.lockRow (dialect.view server session) tenantID Tenant.live).kept [])
    rw [kept]
    exact present server session tenant inv holds ⟨mem, id, live⟩

/-- `LockByID` fails unless it locks the live tenant. -/
theorem within_lockByID {post : Assertion DbServer DbSession} (lenient : Lenient protocol)
    (stable : protocol.Stable pre)
    (present : ∀ server session tenant, protocol.Inv server → pre server session →
      SeesTenant server session tenantID tenant →
      post server (session.extended (.tenant (.lockLive tenantID)) (some tenant)
        [⟨.tenant tenantID, .update⟩] [])) :
    Within protocol pre (TenantRepository.lockByID tenantID : DbM σ _) (fun _ => post) := by
  refine Attempt.bind (within_lockLive
    (fun found server session => found.isSome = true → post server session) lenient stable
    (fun _ _ _ _ _ _ none => absurd none (by simp))
    fun server session tenant inv holds sees _ => present server session tenant inv holds sees)
    fun found => ?_
  cases found with
  | none => exact within_throw
  | some tenant => exact Attempt.pure fun _ _ _ holds => holds rfl

/-- `LicensedSeatsForUpdate` returns the seats of the live tenant it locks. -/
theorem within_licensedSeatsForUpdate {post : Int → Assertion DbServer DbSession}
    (lenient : Lenient protocol) (stable : protocol.Stable pre)
    (present : ∀ server session tenant, protocol.Inv server → pre server session →
      SeesTenant server session tenantID tenant →
      post tenant.licensedSeats server (session.extended (.tenant (.lockLive tenantID))
        (some tenant) [⟨.tenant tenantID, .update⟩] [])) :
    Within protocol pre (TenantRepository.licensedSeatsForUpdate tenantID : DbM σ _) post := by
  refine Attempt.bind (within_lockLive
    (fun found server session => ∀ tenant, found = some tenant →
      post tenant.licensedSeats server session) lenient stable
    (fun _ _ _ _ _ _ _ none => absurd none (by simp)) ?_) fun found => ?_
  · intro server session tenant inv holds sees other found
    cases found
    exact present server session tenant inv holds sees
  · cases found with
    | none => exact within_throw
    | some tenant => exact Attempt.pure fun _ _ _ holds => holds tenant rfl

end Lock

/-! ## Who locks the tenants row -/

section Unlocked

variable {tenantID : Uuid}

theorem not_owns_tenant_memberships : ¬membershipAccess.Owns ⟨.tenant tenantID, .update⟩ := by
  rintro (⟨id, key⟩ | ⟨row, mem⟩)
  · cases key
  · simp only [membershipAccess] at mem
    split at mem <;> simp at mem

theorem not_owns_tenant_roles : ¬roleAccess.Owns ⟨.tenant tenantID, .update⟩ := by
  rintro (⟨id, key⟩ | ⟨row, mem⟩)
  · cases key
  · simp [mem_roleEntries] at mem

/-- Statements on memberships do not take the tenants row for update. -/
theorem membershipQuery_free (query : MembershipQuery) (context : Context) (db : Db) :
    ⟨.tenant tenantID, .update⟩ ∉ (query.effect context db).kept := by
  intro mem
  cases query with
  | findByUserID | countActive | scan | scanTenant => exact absurd mem List.not_mem_nil
  | insert =>
      rcases Access.owns_of_insertRow mem with own | shared
      · exact not_owns_tenant_memberships own
      · cases shared
  | setStatus | softDelete => exact not_owns_tenant_memberships (Access.owns_of_updateRow mem)
  | delete => exact not_owns_tenant_memberships (Access.owns_of_deleteRow mem)

/-- Statements on roles do not take the tenants row for update. -/
theorem roleQuery_free (query : RoleQuery) (context : Context) (db : Db) :
    ⟨.tenant tenantID, .update⟩ ∉ (query.effect context db).kept := by
  intro mem
  cases query with
  | listByUser | countActiveOwners | find | scan => exact absurd mem List.not_mem_nil
  | insert =>
      rcases Access.owns_of_insertRow mem with own | shared
      · exact not_owns_tenant_roles own
      · cases shared
  | softDelete => exact not_owns_tenant_roles (Access.owns_of_updateRow mem)
  | delete => exact not_owns_tenant_roles (Access.owns_of_deleteRow mem)

theorem enqueue_free (event : DomainEvent) (context : Context) (db : Db) :
    ⟨.tenant tenantID, .update⟩ ∉ ((EventQuery.enqueue event).effect context db).kept := by
  simp [EventQuery.effect]

end Unlocked

end OrgMembership
