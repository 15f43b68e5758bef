import OrgMembership.Concurrency.Sequence
import OrgMembership.Relational.Solo
import OrgMembership.Repository.Rules

/-!
# Calls with no concurrent writer

The proof rules of code that runs alone.  Outside a transaction its assertions speak about
the committed rows, inside one about the rows that the transaction sees.
-/

namespace OrgMembership

open Concurrency Relational

variable {σ α β : Type}

/-- The contract of a call that runs alone while the server makes choices of a kind: only the
clock moves. -/
def soloBy (given : Chance PgError → Bool) : DbProtocol :=
  Protocol.alone (Statement Query) DbSession given fun before after : DbServer =>
    before.db = after.db

/-- The same whatever the server does. -/
abbrev solo : DbProtocol :=
  soloBy fun _ => true

variable {given : Chance PgError → Bool}

theorem lenient_solo : Lenient (soloBy given) :=
  fun _ _ => trivial

theorem stable_solo (fact : Db → DbSession → Prop) :
    (soloBy given).Stable fun server session => fact server.db session :=
  Protocol.stable_alone fun _ _ _ same holds => same ▸ holds

/-! ## Inside a transaction -/

/-- A fact about the rows that a transaction sees, over the committed rows. -/
def Seen (base : Db) (fact : Db → Prop) : Assertion DbServer DbSession :=
  fun server session => server.db = base ∧ fact (dialect.view server session)

variable {base : Db} {pre fact : Db → Prop}

theorem stable_seen : (soloBy given).Stable (Seen base fact) :=
  Protocol.stable_alone fun before after session same holds => by
    have seen : dialect.view after session = dialect.view before session := by
      rw [Dialect.view, Dialect.view, same]
    exact ⟨same ▸ holds.1, seen ▸ holds.2⟩

theorem Seen.mono {weaker : Db → Prop} {server : DbServer} {session : DbSession}
    (seen : Seen base fact server session) (implies : ∀ db, fact db → weaker db) :
    Seen base weaker server session :=
  ⟨seen.1, implies _ seen.2⟩

/-- Code inside a transaction that no other one overlaps.  However it ends, it has committed
nothing yet. -/
abbrev Inside (base : Db) (pre : Db → Prop) (program : DbM σ α) (post : α → Db → Prop) : Prop :=
  Attempt server solo (Seen base pre) program (fun value => Seen base (post value))
    fun _ server _ => server.db = base

/-- The same with good captured variables. -/
abbrev InsideOn (good : σ → Prop) (base : Db) (pre : Db → Prop) (program : DbM σ α)
    (post : α → Db → Prop) : Prop :=
  AttemptOn server solo good (Seen base pre) program (fun value => Seen base (post value))
    fun _ server _ => server.db = base

section Inside

variable {program : DbM σ α} {post : α → Db → Prop}

theorem Inside.weaken {stronger : Db → Prop} {weaker : α → Db → Prop}
    (inside : Inside base pre program post) (before : ∀ db, stronger db → pre db)
    (after : ∀ value db, post value db → weaker value db) :
    Inside base stronger program weaker :=
  Attempt.weaken inside (fun _ _ _ seen => seen.mono before)
    (fun value _ _ _ seen => seen.mono (after value)) fun _ _ _ _ same => same

theorem Inside.bind {first : DbM σ α} {rest : α → DbM σ β} {middle : α → Db → Prop}
    {post : β → Db → Prop} (starts : Inside base pre first middle)
    (continues : ∀ value, Inside base (middle value) (rest value) post) :
    Inside base pre (first >>= rest) post :=
  Attempt.bind starts continues

theorem inside_pure {value : α} (holds : ∀ db, pre db → post value db) :
    Inside base pre (pure value : DbM σ α) post :=
  Attempt.pure fun _ _ _ seen => seen.mono holds

theorem inside_throw {failure : Failure} : Inside base pre (throw failure : DbM σ α) post :=
  Attempt.throw fun _ _ _ seen => seen.1

theorem inside_of_fact {claim : Prop} (inside : claim → Inside base pre program post) :
    Inside base (fun db => claim ∧ pre db) program post :=
  Attempt.strengthen (Attempt.of_fact inside) fun _ _ _ seen => ⟨seen.2.1, seen.1, seen.2.2⟩

theorem inside_of_exists {ι : Type} {pre : ι → Db → Prop}
    (inside : ∀ index, Inside base (pre index) program post) :
    Inside base (fun db => ∃ index, pre index db) program post := by
  intro captured server session inv seen
  obtain ⟨same, index, holds⟩ := seen
  exact inside index captured server session inv ⟨same, holds⟩

theorem insideOn_of_fact {good : σ → Prop} {claim : Prop}
    (inside : claim → InsideOn good base pre program post) :
    InsideOn good base (fun db => claim ∧ pre db) program post :=
  AttemptOn.weaken (AttemptOn.of_fact inside) (fun _ _ _ seen => ⟨seen.2.1, seen.1, seen.2.2⟩)
    (fun _ _ _ _ seen => seen) fun _ _ _ _ same => same

/-- A transaction from known rows. -/
theorem inside_of_start (inside : ∀ start, pre start → Inside base (· = start) program post) :
    Inside base pre program post := by
  intro captured server session inv seen
  exact inside _ seen.2 captured server session inv ⟨seen.1, rfl⟩

/-- A query of such a transaction. -/
theorem inside_send {query : Query} {post : query.Result → Db → Prop}
    (evaluates : ∀ context db result writes, pre db →
      (query.effect context db).Yields result writes →
      post result (dialect.applyAll writes db)) :
    Inside base pre (send .pg query : DbM σ _) post := by
  apply attempt_send lenient_solo stable_seen
  · intro server session fresh result writes _ seen _ yields
    refine ⟨seen.1, ?_⟩
    rw [Dialect.view_extended]
    exact evaluates _ _ _ _ seen.2 yields
  · exact fun _ _ _ _ seen => seen.1

/-- Code inside such a transaction, with what its failures are. -/
abbrev Breaks (broken : Failure → Prop) (base : Db) (pre : Db → Prop) (program : DbM σ α)
    (post : α → Db → Prop) : Prop :=
  Attempt server solo (Seen base pre) program (fun value => Seen base (post value))
    fun failure server _ => server.db = base ∧ broken failure

theorem breaks_send {broken : Failure → Prop} {query : Query} {post : query.Result → Db → Prop}
    (faults : ∀ fault, broken (.pg fault))
    (evaluates : ∀ context db result writes, pre db →
      (query.effect context db).Yields result writes →
      post result (dialect.applyAll writes db)) :
    Breaks broken base pre (send .pg query : DbM σ _) post := by
  apply attempt_send lenient_solo stable_seen
  · intro server session fresh result writes _ seen _ yields
    refine ⟨seen.1, ?_⟩
    rw [Dialect.view_extended]
    exact evaluates _ _ _ _ seen.2 yields
  · exact fun fault _ _ _ seen => ⟨seen.1, faults fault⟩

/-- Code whose failures are all such. -/
theorem Inside.breaks {broken : Failure → Prop} (inside : Inside base pre program post)
    (any : ∀ failure, broken failure) : Breaks broken base pre program post :=
  Attempt.weaken inside (fun _ _ _ seen => seen) (fun _ _ _ _ seen => seen)
    fun failure _ _ _ same => ⟨same, any failure⟩

/-- What each query of the code keeps, however the code ends. -/
theorem keeps_seen {allowed : Query → Prop}
    (keeps : ∀ query, allowed query → ∀ context db result writes, fact db →
      (query.effect context db).Yields result writes → fact (dialect.applyAll writes db))
    (issues : Fallible.Issues (Only allowed) program) :
    Keeps solo (Seen base fact) program := by
  apply attempt_only lenient_solo stable_seen _ issues
  · exact fun _ _ _ seen => seen
  · intro query permitted server session fresh result writes _ seen _ yields
    refine ⟨seen.1, ?_⟩
    rw [Dialect.view_extended]
    exact keeps query permitted _ _ _ _ seen.2 yields

theorem inside_of_keeps (keeps : Keeps solo (Seen base fact) program) :
    Inside base fact program fun _ => fact :=
  Attempt.weaken keeps (fun _ _ _ seen => seen) (fun _ _ _ _ seen => seen)
    fun _ _ _ _ seen => seen.1

theorem inside_only {allowed : Query → Prop}
    (keeps : ∀ query, allowed query → ∀ context db result writes, fact db →
      (query.effect context db).Yields result writes → fact (dialect.applyAll writes db))
    (issues : Fallible.Issues (Only allowed) program) :
    Inside base fact program fun _ => fact :=
  inside_of_keeps (keeps_seen keeps issues)

/-- Queries commit nothing. -/
theorem inside_any (issues : Fallible.Issues (Only fun _ => True) program) :
    Inside base (fun _ => True) program fun _ _ => True :=
  inside_only (fun _ _ _ _ _ _ _ _ => trivial) issues

/-- Code that only reads. -/
theorem inside_reads (issues : Fallible.Issues (Only fun query => query.writesTo = []) program) :
    Inside base fact program fun _ => fact := by
  refine inside_only (fun query reads context db result writes holds yields => ?_) issues
  rw [Query.writes_eq_nil yields reads]
  exact holds

/-- A query that only reads. -/
theorem inside_read {query : Query} {value : Context → Db → query.Result}
    {post : query.Result → Db → Prop}
    (reads : ∀ context db, query.effect context db = .read (value context db))
    (answers : ∀ context db, pre db → post (value context db) db) :
    Inside base pre (send .pg query : DbM σ _) post := by
  refine inside_send fun context db result writes holds yields => ?_
  rw [reads] at yields
  obtain ⟨rfl, rfl⟩ := Effect.yields_read.mp yields
  exact answers context db holds

theorem inside_enqueue {start : Db} {event : DomainEvent} :
    Inside base (· = start) (enqueue event : DbM σ _)
      fun _ db => db = { start with outbox := start.outbox ++ [event] } := by
  refine inside_send fun context db result writes same yields => ?_
  obtain ⟨_, rfl⟩ := Prod.mk.inj (Except.ok.inj yields)
  rw [same]
  rfl

/-- Events that are published one after the other. -/
theorem inside_enqueueEach {start : Db} {rows : List α} (event : α → DomainEvent) :
    Inside base (· = start) (rows.forM fun row => (enqueue (event row) : DbM σ _))
      fun _ db => db = { start with outbox := start.outbox ++ rows.map event } := by
  let published (done : List α) (db : Db) : Prop :=
    db = { start with outbox := start.outbox ++ done.map event }
  have each : ∀ done, ∀ row ∈ rows, Inside base (published done) (enqueue (event row) : DbM σ _)
      fun _ => published (done ++ [row]) :=
    fun done row _ => inside_enqueue.weaken (fun _ same => same) fun _ db same => by
      simp only [published, same, List.map_append, List.append_assoc, List.map_cons, List.map_nil]
  refine Inside.weaken (Attempt.forM_along (fun done => Seen base (published done)) each []) ?_
    fun _ _ after => after
  rintro _ rfl
  simp [published]

/-! An `UPDATE` that scanned for its rows updates each of them, since nobody else writes. -/

section UpdateEach

variable {Row Id : Type} [DecidableEq Id] {access : Access Db Write LockKey Row Id}
  {changeOf : Write → Option (Change Row Id)} {condition : Row → Bool}
  {set : Context → Row → Row}

/-- The rows that replace others. -/
def Replaces (set : Context → Row → Row) (old new : Row) : Prop :=
  ∃ context, new = set context old

/-- A row that waits for its update is as it was. -/
theorem mem_of_waiting (lawful : access.Lawful dialect changeOf)
    (keyed : ∀ context row, access.key (set context row) = access.key row) {start : Db}
    {done todo rows : List Row} {row : Row}
    (split : (access.table start).select condition = done ++ row :: todo)
    (replaced : List.Forall₂ (Replaces set) done rows) :
    row ∈ access.table (dialect.applyAll (rows.map fun row => access.change (.put row)) start) := by
  have selected : row ∈ (access.table start).select condition := by simp [split]
  rw [dialect.table_applyAll access.table changeOf lawful.table_write]
  apply Table.mem_applyAll_of_untouched (Table.mem_select.mp selected).1
  intro change made about
  obtain ⟨new, memNew, same⟩ := List.mem_map.mp (lawful.mem_filterMap.mp made)
  have put : change = .put new :=
    (Option.some.inj (((lawful.inverse _ change).mpr rfl).symm.trans
      ((lawful.inverse _ (.put new)).mpr same.symm)))
  subst put
  obtain ⟨old, memOld, context, rfl⟩ := Table.exists_of_forall₂ replaced.flip memNew
  have keys : ((done ++ row :: todo).map access.key).Nodup := by
    rw [← split]
    exact (List.filter_sublist.map access.key).nodup (access.table start).nodup
  rw [List.map_append, List.map_cons, List.nodup_append] at keys
  exact keys.2.2 _ (List.mem_map_of_mem memOld) _ List.mem_cons_self
    ((keyed context old).symm.trans about)

/-- The scan of an `UPDATE`. -/
def Scans (base : Db) (access : Access Db Write LockKey Row Id) (condition : Row → Bool)
    (scan : DbM σ (List Id)) : Prop :=
  ∀ start, Inside base (· = start) scan fun ids db =>
    ids = ((access.table start).select condition).map access.key ∧ db = start

/-- The visit of one row. -/
def Updates (base : Db) (access : Access Db Write LockKey Row Id) (condition : Row → Bool)
    (set : Context → Row → Row) (visit : Id → DbM σ (Option Row)) : Prop :=
  ∀ id pre post, (∀ context db result writes, pre db →
    (access.updateRow db id condition fun row => .ok (set context row) :
      DbEffect _).Yields result writes → post result (dialect.applyAll writes db)) →
    Inside base pre (visit id) post

/-- What an `UPDATE` makes of the rows. -/
def Updated (access : Access Db Write LockKey Row Id) (condition : Row → Bool)
    (set : Context → Row → Row) (start : Db) (rows : List Row) (db : Db) : Prop :=
  List.Forall₂ (Replaces set) ((access.table start).select condition) rows ∧
    db = dialect.applyAll (rows.map fun row => access.change (.put row)) start

theorem inside_visitEach (lawful : access.Lawful dialect changeOf)
    (keyed : ∀ context row, access.key (set context row) = access.key row)
    {visit : Id → DbM σ (Option Row)} (visits : Updates base access condition set visit)
    {start : Db} :
    Inside base (· = start)
      (visitEach visit (((access.table start).select condition).map access.key))
      (Updated access condition set start) := by
  -- the rows that are updated, and those that wait
  let progress (ids : List Id) (rows : List Row) (db : Db) : Prop :=
    ∃ done todo, (access.table start).select condition = done ++ todo ∧
      ids = todo.map access.key ∧ List.Forall₂ (Replaces set) done rows ∧
      db = dialect.applyAll (rows.map fun row => access.change (.put row)) start
  have each : ∀ id ids rows, Inside base (progress (id :: ids) rows) (visit id)
      fun found => progress ids (rows ++ found.toList) := by
    intro id ids rows
    apply visits
    rintro context db result writes ⟨done, todo, split, left, replaced, rfl⟩ yields
    obtain ⟨row, todo, rfl, rfl, rfl⟩ := List.map_eq_cons_iff.mp left.symm
    have selected : row ∈ (access.table start).select condition := by simp [split]
    have found : (access.updateRow
        (dialect.applyAll (rows.map fun row => access.change (.put row)) start) (access.key row)
        condition fun row => .ok (set context row) : DbEffect _).Yields
          (some (set context row)) [access.change (.put (set context row))] :=
      Access.updateRow_found (mem_of_waiting lawful keyed split replaced)
        (Table.mem_select.mp selected).2 rfl
    obtain ⟨rfl, rfl⟩ := Prod.mk.inj (Except.ok.inj (yields.symm.trans found))
    refine ⟨done ++ [row], todo, by simp [split], rfl,
      List.rel_append replaced (.cons ⟨context, rfl⟩ .nil), ?_⟩
    rw [Option.toList_some, List.map_append, Dialect.applyAll_append]
    rfl
  have collects := attempt_collecting (fun ids rows => Seen base (progress ids rows)) each
    (((access.table start).select condition).map access.key) []
  refine Inside.weaken collects ?_ ?_
  · rintro _ rfl
    exact ⟨[], _, rfl, rfl, .nil, rfl⟩
  · rintro rows db ⟨done, todo, split, left, replaced, rfl⟩
    rw [List.map_eq_nil_iff.mp left.symm, List.append_nil] at split
    rw [Updated, split]
    exact ⟨replaced, rfl⟩

theorem inside_update (lawful : access.Lawful dialect changeOf)
    (keyed : ∀ context row, access.key (set context row) = access.key row)
    {scan : DbM σ (List Id)} {visit : Id → DbM σ (Option Row)}
    (scans : Scans base access condition scan) (visits : Updates base access condition set visit)
    {start : Db} :
    Inside base (· = start) (scan >>= visitEach visit) (Updated access condition set start) := by
  refine Inside.bind (scans start) fun ids => inside_of_fact fun found => ?_
  rw [found]
  exact inside_visitEach lawful keyed visits

/-- The visit of one row of a `SELECT … FOR UPDATE`. -/
def Locks (base : Db) (access : Access Db Write LockKey Row Id) (condition : Row → Bool)
    (visit : Id → DbM σ (Option Row)) : Prop :=
  ∀ id pre post, (∀ db result writes, pre db →
    (access.lockRow db id condition : DbEffect _).Yields result writes →
      post result (dialect.applyAll writes db)) → Inside base pre (visit id) post

/-- The rows that are locked are those that were found. -/
theorem inside_lockEach {visit : Id → DbM σ (Option Row)}
    (visits : Locks base access condition visit) {start : Db} :
    Inside base (· = start)
      (visitEach visit (((access.table start).select condition).map access.key))
      fun rows db => rows = (access.table start).select condition ∧ db = start := by
  let progress (ids : List Id) (rows : List Row) (db : Db) : Prop :=
    ∃ todo, (access.table start).select condition = rows ++ todo ∧ ids = todo.map access.key ∧
      db = start
  have each : ∀ id ids rows, Inside base (progress (id :: ids) rows) (visit id)
      fun found => progress ids (rows ++ found.toList) := by
    intro id ids rows
    apply visits
    rintro db result writes ⟨todo, split, left, rfl⟩ yields
    obtain ⟨row, todo, rfl, rfl, rfl⟩ := List.map_eq_cons_iff.mp left.symm
    have selected : row ∈ (access.table db).select condition := by simp [split]
    have found : (access.lockRow db (access.key row) condition : DbEffect _).Yields (some row) [] :=
      Access.lockRow_found (Table.mem_select.mp selected).1 (Table.mem_select.mp selected).2
    obtain ⟨rfl, rfl⟩ := Prod.mk.inj (Except.ok.inj (yields.symm.trans found))
    exact ⟨todo, by simp [split], rfl, rfl⟩
  have collects := attempt_collecting (fun ids rows => Seen base (progress ids rows)) each
    (((access.table start).select condition).map access.key) []
  refine Inside.weaken collects ?_ ?_
  · rintro _ rfl
    exact ⟨_, rfl, rfl, rfl⟩
  · rintro rows db ⟨todo, split, left, rfl⟩
    rw [List.map_eq_nil_iff.mp left.symm, List.append_nil] at split
    exact ⟨split.symm, rfl⟩

end UpdateEach

end Inside

/-! ## Whole calls -/

/-- Code that starts outside a transaction and leaves none open, with what it makes of the
committed rows while the server makes choices of a kind. -/
abbrev AloneBy (given : Chance PgError → Bool) (pre : Db → Prop) (program : DbM σ α)
    (post : α → Db → Prop) (fails : Failure → Db → Prop) : Prop :=
  Attempt server (soloBy given) (fun server session => session.Idle ∧ pre server.db) program
    (fun value server session => session.Idle ∧ post value server.db)
    fun failure server session => session.Idle ∧ fails failure server.db

/-- The same whatever the server does. -/
abbrev Alone (pre : Db → Prop) (program : DbM σ α) (post : α → Db → Prop)
    (fails : Failure → Db → Prop) : Prop :=
  AloneBy (fun _ => true) pre program post fails

/-- The same with good captured variables. -/
abbrev AloneOn (given : Chance PgError → Bool) (good : σ → Prop) (pre : Db → Prop)
    (program : DbM σ α) (post : α → Db → Prop) (fails : Failure → Db → Prop) : Prop :=
  AttemptOn server (soloBy given) good (fun server session => session.Idle ∧ pre server.db) program
    (fun value server session => session.Idle ∧ post value server.db)
    fun failure server session => session.Idle ∧ fails failure server.db

section Alone

variable {program : DbM σ α} {post : α → Db → Prop} {fails : Failure → Db → Prop}

/-- What holds whatever the server does holds if it makes choices of a kind. -/
theorem triple_soloBy {program : DbProgram α} {pre : Assertion DbServer DbSession}
    {post : α → Assertion DbServer DbSession} (triple : Triple server solo pre program post) :
    Triple server (soloBy given) pre program post :=
  fun server session _ holds => wp_alone_of_all (triple server session trivial holds)

theorem AloneBy.weaken {stronger : Db → Prop} {weaker : α → Db → Prop}
    {failsMore : Failure → Db → Prop} (alone : AloneBy given pre program post fails)
    (before : ∀ db, stronger db → pre db) (after : ∀ value db, post value db → weaker value db)
    (failing : ∀ failure db, fails failure db → failsMore failure db) :
    AloneBy given stronger program weaker failsMore :=
  Attempt.weaken alone (fun _ _ _ holds => ⟨holds.1, before _ holds.2⟩)
    (fun _ _ _ _ holds => ⟨holds.1, after _ _ holds.2⟩)
    fun _ _ _ _ holds => ⟨holds.1, failing _ _ holds.2⟩

theorem AloneBy.bind {first : DbM σ α} {rest : α → DbM σ β} {middle : α → Db → Prop}
    {post : β → Db → Prop} (starts : AloneBy given pre first middle fails)
    (continues : ∀ value, AloneBy given (middle value) (rest value) post fails) :
    AloneBy given pre (first >>= rest) post fails :=
  Attempt.bind starts continues

theorem alone_pure {value : α} (holds : ∀ db, pre db → post value db) :
    AloneBy given pre (pure value : DbM σ α) post fails :=
  Attempt.pure fun _ _ _ here => ⟨here.1, holds _ here.2⟩

theorem AloneBy.map {change : α → β} {post : β → Db → Prop}
    (alone : AloneBy given pre program (fun value => post (change value)) fails) :
    AloneBy given pre (change <$> program) post fails := by
  rw [← bind_pure_comp]
  exact AloneBy.bind alone fun _ => alone_pure fun _ after => after

theorem alone_throw {failure : Failure} (holds : ∀ db, pre db → fails failure db) :
    AloneBy given pre (throw failure : DbM σ α) post fails :=
  Attempt.throw fun _ _ _ here => ⟨here.1, holds _ here.2⟩

/-- What the rows are after each outcome. -/
def Ends (post : α → Db → Prop) (fails : Failure → Db → Prop) : Except Failure α → Db → Prop
  | .ok value => post value
  | .error failure => fails failure

theorem AloneBy.observe {failsMore : Failure → Db → Prop}
    (alone : AloneBy given pre program post fails) :
    AloneBy given pre program.observe (Ends post fails) failsMore :=
  Attempt.relax (Attempt.observe alone) fun result _ _ _ holds => by cases result <;> exact holds

theorem alone_of_fact {claim : Prop} (alone : claim → AloneBy given pre program post fails) :
    AloneBy given (fun db => claim ∧ pre db) program post fails :=
  Attempt.strengthen (Attempt.of_fact alone) fun _ _ _ here => ⟨here.2.1, here.1, here.2.2⟩

/-- A transaction commits what its body made of the rows, or leaves them alone; then its body
broke, or the server failed.  It may have committed them although the server fails. -/
theorem aloneOn_transaction_breaking {good : σ → Prop} {body : DbM σ α} {broken : Failure → Prop}
    (inside : ∀ base, pre base → AttemptOn server solo good (Seen base (· = base)) body
      (fun value => Seen base (post value))
      fun failure server _ => server.db = base ∧ broken failure)
    (breaking : ∀ failure db, broken failure → pre db → fails failure db)
    (faulting : ∀ fault db, pre db → fails (.pg fault) db)
    (losing : given .lose = true → ∀ value db, post value db →
      fails (.pg .connectionException) db) :
    AloneOn given good pre (transaction .pg body) post fails := by
  -- the committed rows are fixed when the transaction starts
  have based : ∀ base, pre base →
      AloneOn given good (· = base) (transaction .pg body) post fails := by
    intro base holds
    exact attemptOn_transaction lenient_solo
      (stable_solo fun db session => session.Idle ∧ db = base)
      (fun _ => stable_seen) (fun failure => stable_solo fun db _ => db = base ∧ broken failure)
      (fun server session _ here => ⟨here.2, by
        rw [view_of_unwritten (session.blank_opened server.now).unwritten, here.2]⟩)
      (fun captured good => triple_soloBy (inside base holds captured good))
      (fun value server session _ seen _ => ⟨trivial, trivial, session.idle_closed, seen.2⟩)
      (fun fault _ _ session _ seen =>
        ⟨session.idle_closed, seen.1.symm ▸ faulting fault base holds⟩)
      (fun value _ session granted _ after =>
        ⟨session.idle_closed, losing granted value _ after.2⟩)
      (fun failure _ session _ broke =>
        ⟨session.idle_closed, broke.1.symm ▸ breaking failure base broke.2 holds⟩)
      fun fault _ _ _ here => ⟨here.1, here.2.symm ▸ faulting fault base holds⟩
  exact AttemptOn.weaken
    (AttemptOn.of_exists fun base => AttemptOn.of_fact fun holds => based base holds)
    (fun server _ _ here => ⟨server.db, here.2, here.1, rfl⟩) (fun _ _ _ _ after => after)
    fun _ _ _ _ failed => failed

theorem aloneOn_transaction {good : σ → Prop} {body : DbM σ α}
    (inside : ∀ base, pre base → InsideOn good base (· = base) body post)
    (failing : ∀ failure db, pre db → fails failure db)
    (losing : given .lose = true → ∀ value db, post value db →
      fails (.pg .connectionException) db) :
    AloneOn given good pre (transaction .pg body) post fails :=
  aloneOn_transaction_breaking
    (fun base holds => AttemptOn.weaken (inside base holds) (fun _ _ _ seen => seen)
      (fun _ _ _ _ seen => seen) fun _ _ _ _ same => ⟨same, trivial⟩)
    (fun failure db _ holds => failing failure db holds)
    (fun fault db holds => failing (.pg fault) db holds) losing

/-- What a call reports when its transaction was committed and the answer got lost. -/
def lostAnswer : Failure :=
  wrapConnErr (.pg .connectionException)

/-- The rows after a transaction that failed: they are as they were, unless it was committed
and the answer got lost. -/
def Aborted (given : Chance PgError → Bool) (pre done : Db → Prop) (failure : Failure) (db : Db) :
    Prop :=
  pre db ∨ given .lose = true ∧ failure = lostAnswer ∧ done db

/-- With every answer, the transaction was not committed. -/
theorem Aborted.answered {done : Db → Prop} {failure : Failure} {db : Db}
    (aborted : Aborted Chance.isAnswered pre done failure db) : pre db :=
  aborted.resolve_right fun lost => Bool.noConfusion lost.1

theorem Aborted.elim {done : Db → Prop} {failure : Failure} {db : Db} {claim : Prop}
    (aborted : Aborted given pre done failure db) (kept : pre db → claim) (lost : done db → claim) :
    claim :=
  Or.elim aborted kept fun committed => lost committed.2.2

theorem Aborted.mono {done morePre moreDone : Db → Prop} {failure : Failure} {db : Db}
    (aborted : Aborted given pre done failure db) (kept : pre db → morePre db)
    (lost : done db → moreDone db) : Aborted given morePre moreDone failure db :=
  Or.imp kept (fun committed => ⟨committed.1, committed.2.1, lost committed.2.2⟩) aborted

/-- What is tried again was not committed. -/
theorem Aborted.again {done : Db → Prop} {failure : Failure} {db : Db}
    (retries : failure.retryable = true)
    (aborted : Aborted given pre done (wrapConnErr failure) db) : pre db := by
  refine aborted.resolve_right fun lost => ?_
  have same := lost.2.1
  revert same retries
  unfold Failure.retryable lostAnswer
  split <;> simp [wrapConnErr]

/-- What only fails in the rows it has found, before the transaction. -/
theorem AloneBy.before {done : Db → Prop} (alone : AloneBy given pre program post fun _ => pre) :
    AloneBy given pre program post (Aborted given pre done) :=
  alone.weaken (fun _ here => here) (fun _ _ after => after) fun _ _ => .inl

/-- A retried transaction: the attempts that are rolled back leave the rows alone. -/
theorem aloneOn_runInTx {good : σ → Prop} {body : DbM σ α}
    (inside : ∀ base, pre base → InsideOn good base (· = base) body post) :
    AloneOn given good pre (runInTx body) post
      (Aborted given pre fun db => ∃ value, post value db) :=
  attemptOn_runInTx (aloneOn_transaction inside (fun _ _ holds => .inl holds)
    fun granted value _ after => .inr ⟨granted, rfl, value, after⟩)
    fun _ _ _ retries _ here => ⟨here.1, here.2.again retries⟩

theorem alone_transaction {body : DbM σ α}
    (inside : ∀ base, pre base → Inside base (· = base) body post)
    (failing : ∀ failure db, pre db → fails failure db)
    (losing : given .lose = true → ∀ value db, post value db →
      fails (.pg .connectionException) db) :
    AloneBy given pre (transaction .pg body) post fails :=
  AttemptOn.any_iff.mp (aloneOn_transaction
    (fun base holds => AttemptOn.any_iff.mpr (inside base holds)) failing losing)

theorem alone_transaction_breaking {body : DbM σ α} (broken : Failure → Prop)
    (inside : ∀ base, pre base → Breaks broken base (· = base) body post)
    (breaking : ∀ failure db, broken failure → pre db → fails failure db)
    (faulting : ∀ fault db, pre db → fails (.pg fault) db)
    (losing : given .lose = true → ∀ value db, post value db →
      fails (.pg .connectionException) db) :
    AloneBy given pre (transaction .pg body) post fails :=
  AttemptOn.any_iff.mp (aloneOn_transaction_breaking
    (fun base holds => AttemptOn.any_iff.mpr (inside base holds)) breaking faulting losing)

theorem alone_withPool {body : DbM σ α}
    (inside : ∀ base, pre base → Inside base (· = base) body post)
    (failing : ∀ failure db, pre db → fails failure db)
    (losing : given .lose = true → ∀ value db, post value db → fails lostAnswer db) :
    AloneBy given pre (withPool body) post fails :=
  attempt_withPool (alone_transaction inside (fun _ db holds => failing _ db holds) losing)

theorem alone_runInTx {body : DbM σ α}
    (inside : ∀ base, pre base → Inside base (· = base) body post) :
    AloneBy given pre (runInTx body) post (Aborted given pre fun db => ∃ value, post value db) :=
  AttemptOn.any_iff.mp (aloneOn_runInTx fun base holds =>
    AttemptOn.any_iff.mpr (inside base holds))

/-- A retried transaction on known rows, with what it leaves whatever it returns. -/
theorem aloneOn_runInTx_from {good : σ → Prop} {body : DbM σ α} {left : Db → Prop}
    (inside : InsideOn good base (· = base) body fun _ => left) :
    AloneOn given good (· = base) (runInTx body) (fun _ => left)
      (Aborted given (· = base) left) := by
  have runs : AloneOn given good (· = base) (runInTx body) (fun _ => left)
      (Aborted given (· = base) fun db => ∃ _ : α, left db) := by
    apply aloneOn_runInTx
    rintro start rfl
    exact inside
  refine AttemptOn.weaken runs (fun _ _ _ here => here) (fun _ _ _ _ after => after) ?_
  exact fun _ _ _ _ failed => ⟨failed.1, failed.2.mono (fun same => same)
    fun after => after.elim fun _ left => left⟩

theorem alone_runInTx_from {body : DbM σ α} {left : Db → Prop}
    (inside : Inside base (· = base) body fun _ => left) :
    AloneBy given (· = base) (runInTx body) (fun _ => left) (Aborted given (· = base) left) :=
  AttemptOn.any_iff.mp (aloneOn_runInTx_from (AttemptOn.any_iff.mpr inside))

/-- A retried transaction, with what its failures are. -/
theorem alone_runInTx_breaking {body : DbM σ α} {broken reported : Failure → Prop}
    (faults : ∀ fault, broken (.pg fault))
    (wraps : ∀ failure, broken failure → reported (wrapConnErr failure))
    (inside : ∀ base, pre base → Breaks broken base (· = base) body post) :
    AloneBy given pre (runInTx body) post fun failure db => reported failure ∧
      Aborted given pre (fun db => ∃ value, post value db) failure db := by
  have attempts : AloneBy given pre (transaction .pg body) post fun failure db =>
      reported (wrapConnErr failure) ∧
        Aborted given pre (fun db => ∃ value, post value db) (wrapConnErr failure) db :=
    alone_transaction_breaking broken inside
      (fun failure _ broke holds => ⟨wraps failure broke, .inl holds⟩)
      (fun fault _ holds => ⟨wraps _ (faults fault), .inl holds⟩)
      fun granted value _ after => ⟨wraps _ (faults _), .inr ⟨granted, rfl, value, after⟩⟩
  exact attempt_runInTx attempts fun _ _ _ retries _ here => ⟨here.1, here.2.2.again retries⟩

/-- Code with variables of its own. -/
theorem AloneOn.capturing {τ : Type} {good : τ → Prop} {initial : τ} {program : DbM τ α}
    (holds : good initial) (alone : AloneOn given good pre program post fails) :
    AloneBy given pre (Fallible.capturing initial program : DbM σ _)
      (fun value db => good value.2 ∧ post value.1 db) fails :=
  Attempt.relax (AttemptOn.capturing holds alone) fun _ _ _ _ after =>
    ⟨after.2.1, after.1, after.2.2⟩

/-- A lookup in a transaction of its own. -/
theorem alone_lookup {body : DbM σ α} {found : α → Prop}
    (inside : Inside base (· = base) body fun value db => found value ∧ db = base) :
    AloneBy given (· = base) (withPool body) (fun value db => found value ∧ db = base)
      fun _ db => db = base := by
  apply alone_withPool
  · rintro _ rfl
    exact inside
  · exact fun _ _ same => same
  · exact fun _ _ _ after => after.2

/-- A read in a transaction of its own. -/
theorem alone_read (query : Query) (value : Db → query.Result)
    (reads : ∀ context db, query.effect context db = .read (value db)) :
    AloneBy given (· = base) (withPool (send .pg query) : DbM σ _)
      (fun found db => found = value base ∧ db = base) fun _ db => db = base :=
  alone_lookup (inside_read reads fun _ _ here => ⟨by rw [here], here⟩)

/-- A retried transaction that fails in rows as those before it or after it. -/
theorem alone_runInTx_into {body : DbM σ α} {post : α → Db → Prop} {left : Db → Prop}
    (inside : ∀ start, pre start → Inside start (· = start) body post)
    (starts : ∀ db, pre db → left db) (ends : ∀ value db, post value db → left db) :
    AloneBy given pre (runInTx body) post fun _ => left := by
  have runs : AloneBy given pre (runInTx body) post
      (Aborted given pre fun db => ∃ value, post value db) := alone_runInTx inside
  exact runs.weaken (fun _ here => here) (fun _ _ after => after) fun _ db aborted =>
    aborted.elim (starts db) fun ⟨value, after⟩ => ends value db after

/-- Code that keeps the fact may start and fail in these rows: in all rows with the fact, or,
where no answer gets lost, in some of them. -/
structure Restores (given : Chance PgError → Bool) (pre fact : Db → Prop) : Prop where
  holds : ∀ db, pre db → fact db
  lost : given .lose = true → ∀ db, fact db → pre db

theorem restores_refl : Restores given fact fact :=
  ⟨fun _ holds => holds, fun _ _ holds => holds⟩

theorem restores_answered (holds : fact base) : Restores Chance.isAnswered (· = base) fact :=
  ⟨fun _ same => same ▸ holds, nofun⟩

/-- A retried transaction whose body keeps a fact of the rows. -/
theorem alone_runInTx_keeping {body : DbM σ α} (restores : Restores given pre fact)
    (inside : ∀ start, Inside start fact body fun _ => fact) :
    AloneBy given pre (runInTx body) (fun _ => fact) fun _ => pre := by
  have runs : AloneBy given pre (runInTx body) (fun _ => fact)
      (Aborted given pre fun db => ∃ _ : α, fact db) :=
    alone_runInTx fun start here => (inside start).weaken
      (fun _ same => same ▸ restores.holds start here) fun _ _ after => after
  refine runs.weaken (fun _ here => here) (fun _ _ after => after) ?_
  rintro _ db (here | ⟨granted, _, _, after⟩)
  · exact here
  · exact restores.lost granted db after

theorem alone_withPool_keeping {body : DbM σ α} (restores : Restores given pre fact)
    (inside : ∀ start, Inside start fact body fun _ => fact) :
    AloneBy given pre (withPool body) (fun _ => fact) fun _ => pre :=
  alone_withPool (fun start here => (inside start).weaken
    (fun _ same => same ▸ restores.holds start here) fun _ _ after => after)
    (fun _ _ here => here) fun granted _ => restores.lost granted

theorem keeps_runInTx {body : DbM σ α} (inside : ∀ base, Inside base fact body fun _ => fact) :
    AloneBy given fact (runInTx body) (fun _ => fact) fun _ => fact :=
  alone_runInTx_keeping restores_refl inside

theorem keeps_withPool {body : DbM σ α} (inside : ∀ base, Inside base fact body fun _ => fact) :
    AloneBy given fact (withPool body) (fun _ => fact) fun _ => fact :=
  alone_withPool_keeping restores_refl inside

/-- What reading keeps outside a transaction. -/
theorem reader_solo (fact : Db → Prop) :
    Reader (soloBy given) fun server session => session.Idle ∧ fact server.db :=
  reader_lasting lenient_solo
    { stable := stable_solo fun db _ => fact db
      opened := fun _ _ _ holds => holds
      closed := fun _ _ holds => holds
      extended := fun _ _ _ _ _ _ holds => holds }

/-- How a call that ran alone has ended. -/
theorem AloneBy.ended {program : DbM Unit α} (alone : AloneBy given pre program post fails)
    {before after : DbServer} {outcome : Except Failure α}
    (completes : server.CompletesBy given program.run before outcome after)
    (holds : pre before.db) : Ends post fails outcome after.db := by
  have started : wp server (soloBy given) program.run
      (fun outcome server session => session.Idle ∧ Ends post fails outcome server.db) before
      server.fresh :=
    Triple.weaken (Attempt.run alone) (fun _ _ _ here => here)
      (fun outcome _ _ _ ended => by cases outcome <;> exact ended)
      before server.fresh trivial ⟨Session.idle_fresh, holds⟩
  have ended : ∃ session : DbSession, session.Idle ∧ Ends post fails outcome after.db := by
    refine completes.sound ?_ ?_ ?_ ?_ started
    · exact fun _ _ => rfl
    · exact fun _ => rfl
    · exact fun _ _ _ first second => first.trans second
    · exact fun _ _ _ _ same ended => ⟨ended.1, same ▸ ended.2⟩
  obtain ⟨_, _, ended⟩ := ended
  exact ended

end Alone

/-! ## Calls without a fault -/

/-- Nothing is asked of the clock and of the identifiers of new rows. -/
def calm : Peace Db where
  clock _ := True
  unused _ _ := True

section Calm

variable {post : α → Db → Prop}

theorem completes_calm_withPool {body : DbM σ α} (turns : Turns dialect calm pre body post) :
    Completes dialect calm (fun _ => pre) (withPool body) fun value _ => post value :=
  Succeeds.mapError (completes_of_turns turns)

theorem completes_calm_runInTx {body : DbM σ α} (turns : Turns dialect calm pre body post) :
    Completes dialect calm (fun _ => pre) (runInTx body) fun value _ => post value :=
  Succeeds.mapError (completes_retrying (completes_of_turns turns))

/-- A read of known rows. -/
theorem turns_read (query : Query) (value : Db → query.Result)
    (reads : ∀ context db, query.effect context db = .read (value db)) :
    Turns dialect calm (· = base) (send .pg query : DbM σ _)
      fun found db => found = value base ∧ db = base := by
  apply turns_send
  rintro context db _ _ rfl
  refine ⟨value db, [], ?_, rfl, rfl⟩
  change (query.effect context db).outcome = _
  rw [reads]
  rfl

/-- A precondition may decide what the code is about. -/
theorem completes_given {program : DbM σ α} {fact : Prop}
    (completes : fact → Completes dialect calm (fun _ => pre) program fun value _ => post value) :
    Completes dialect calm (fun _ db => fact ∧ pre db) program fun value _ => post value := by
  rintro captured server session ⟨resting, given, before⟩
  exact completes given captured server session ⟨resting, before⟩

/-- What succeeds is observed to succeed. -/
theorem completes_observe {program : DbM σ α} {value : α}
    (completes : Completes dialect calm (fun _ => pre) program fun found _ db =>
      found = value ∧ fact db) :
    Completes dialect calm (fun _ => pre) program.observe fun result _ db =>
      result = .ok value ∧ fact db := by
  refine Succeeds.weaken (Succeeds.observe completes) (fun _ _ _ here => here) ?_
  rintro result captured server session ⟨_, rfl, resting, rfl, holds⟩
  exact ⟨resting, rfl, holds⟩

/-- A call that succeeds alone, whenever the server is without faults. -/
theorem delivers_of_completes {program : DbM Unit α}
    (completes : Completes dialect calm (fun _ => pre) program fun value _ => post value)
    {before : DbServer} (holds : pre before.db) :
    server.Delivers Chance.isProceed program.run before fun outcome after =>
      ∃ value, outcome = .ok value ∧ post value after.db := by
  have ends : ends server (calm.solitude dialect)
      (fun outcome server session => ∃ value, outcome = .ok value ∧
        Rests (fun (_ : Unit) => post value) () server session) program.run before server.fresh :=
    Succeeds.run completes ⟨rfl, holds⟩
  have delivers : server.Delivers Chance.isProceed program.run before fun outcome after =>
      ∃ session : DbSession, ∃ value, outcome = .ok value ∧
        Rests (fun (_ : Unit) => post value) () after session := by
    apply System.delivers_of_ends ⟨.proceed 0, rfl⟩ ?_ ?_ ?_ ends
    · rintro stmt (fresh | fault | _) server session given
      · exact ⟨trivial, fresh, rfl, trivial⟩
      · cases given
      · cases given
    · exact fun _ _ => ⟨trivial, rfl⟩
    · rintro outcome before after session same ⟨value, ok, resting, holds⟩
      exact ⟨value, ok, resting, (show before.db = after.db from same) ▸ holds⟩
  refine ⟨delivers.1, fun outcome after ended => ?_⟩
  obtain ⟨_, value, ok, _, holds⟩ := delivers.2 outcome after ended
  exact ⟨value, ok, holds⟩

end Calm

/-! ## Runs from given rows -/

/-- Steps that are given one id after the other. -/
def proceeding (first count : Nat) : List (Action Unit (Chance PgError) Nat) :=
  (List.range count).map fun offset => .step 0 (.proceed (first + offset))

theorem ok_of_any {outcome : Except Failure α} {holds : α → Prop} [DecidablePred holds]
    (passed : (outcome.toOption.any fun value => decide (holds value)) = true) :
    ∃ value, outcome = .ok value ∧ holds value := by
  cases outcome with
  | error failure => cases passed
  | ok value => exact ⟨value, rfl, of_decide_eq_true passed⟩

/-- The failure of an outcome. -/
def failureOf : Except Failure α → Option Failure
  | .ok _ => none
  | .error failure => some failure

theorem error_of_any {outcome : Except Failure α} {holds : Failure → Bool}
    (passed : (failureOf outcome).any holds = true) :
    ∃ failure, outcome = .error failure ∧ holds failure = true := by
  cases outcome with
  | error failure => exact ⟨failure, rfl, passed⟩
  | ok value => cases passed

end OrgMembership
