import OrgMembership.Relational.Discipline

/-!
# Versioned rows

A trigger stamps every change of a row with the next version.  Then a version stands for the
content of the row, in every run of whatever programs: the version never decreases, two
committed states with one version are the same, and of the conditional updates that expect one
version at most one changes the row.
-/

namespace Relational

open Concurrency

variable {Query : Type} {Result : Query → Type} {Db Write Key Fault Row Id : Type}

/-- A later state of a row is the same or has a higher version. -/
def Versioned (version : Row → Int) (old new : Row) : Prop :=
  new = old ∨ version old < version new

section Order

variable {version : Row → Int} {first second third : Row}

theorem Versioned.refl (row : Row) : Versioned version row row :=
  .inl rfl

theorem Versioned.trans (early : Versioned version first second)
    (late : Versioned version second third) : Versioned version first third := by
  rcases early with rfl | early
  · exact late
  · rcases late with rfl | late
    · exact .inr early
    · exact .inr (Int.lt_trans early late)

theorem Versioned.le (versioned : Versioned version first second) :
    version first ≤ version second := by
  rcases versioned with rfl | higher
  · exact Int.le_refl _
  · exact Int.le_of_lt higher

theorem Versioned.eq (versioned : Versioned version first second)
    (same : version second = version first) : second = first := by
  rcases versioned with same | higher
  · exact same
  · omega

end Order

variable [DecidableEq Id] [DecidableEq Key] {access : Access Db Write Key Row Id}
  {dialect : Dialect Query Result Db Write Key Fault}
  {changeOf : Write → Option (Change Row Id)} {evolves : Row → Row → Prop}
  {Call Outcome : Type} {code : Call → Program (Reply Result Fault) Outcome}
  {permits : Config (Reply Result Fault) Call (Server Db) (Session Result Write Key) Outcome →
    Action Call (Chance Fault) Nat → Prop} {server : Server Db}
  {config : Config (Reply Result Fault) Call (Server Db) (Session Result Write Key) Outcome}

/-! ## The versions of a row -/

/-- In every run the pending versions evolve from the committed ones. -/
theorem Access.Lawful.faithful_of_reaches (lawful : access.Lawful dialect changeOf)
    (evolution : access.Evolution dialect changeOf evolves)
    (reaches : dialect.system.Reaches code permits (Config.initial server) config) :
    ∀ process ∈ config.processes, access.Guarded changeOf process.loc ∧
      access.Faithful changeOf evolves config.shared process.loc := by
  refine (Dialect.each_of_reaches (fun _ => True) (fun server session =>
    access.Guarded changeOf session ∧ access.Faithful changeOf evolves server session) reaches
    trivial ?_ ?_ ?_ ?_ ?_).2
  · intro server session _ blank
    constructor
    · intro change made
      simp [Session.changes, blank] at made
    · intro row put
      simp [Session.changes, blank] at put
  · rintro server session query context result writes ⟨guarded, faithful⟩ evaluated
    exact ⟨lawful.guarded_extended guarded evaluated,
      lawful.faithful_extended evolution faithful evaluated⟩
  · exact fun _ _ _ _ => trivial
  · rintro server actor session compatible ⟨acting, _⟩ ⟨guarded, faithful⟩
    exact ⟨guarded, lawful.faithful_committed acting compatible guarded faithful⟩
  · exact fun _ _ _ holds => holds

/-- The action does not commit a transaction that has deleted the row. -/
def Access.Spares (_ : Access Db Write Key Row Id) (changeOf : Write → Option (Change Row Id))
    (id : Id) (config : Config (Reply Result Fault) Call (Server Db)
      (Session Result Write Key) Outcome) : Action Call (Chance Fault) Nat → Prop
  | .step index _ => ∀ call session next,
      config.processes[index]? = some ⟨call, session, .call .commit next⟩ →
        .delete id ∉ session.changes changeOf
  | _ => True

/-- An action leaves the committed state alone, or it commits. -/
theorem Dialect.db_of_act {action : Action Call (Chance Fault) Nat}
    {config' : Config (Reply Result Fault) Call (Server Db) (Session Result Write Key) Outcome}
    (acted : dialect.system.act code action config = some config') :
    config'.shared.db = config.shared.db ∨
      ∃ index chance call session next, action = .step index chance ∧
        config.processes[index]? = some ⟨call, session, .call .commit next⟩ ∧
          config'.shared = dialect.committed config.shared session := by
  cases action with
  | start call | crash index | signal elapsed =>
      cases acted
      exact .inl rfl
  | step index chance =>
      obtain ⟨call, session, statement, next, executes⟩ :=
        dialect.system.executes_of_act_step code acted
      obtain ⟨current, _, rfl⟩ := executes
      cases statement with
      | begin => cases chance <;> exact .inl rfl
      | rollback => exact .inl rfl
      | query query =>
          cases chance with
          | fail | lose => exact .inl rfl
          | proceed fresh =>
              simp only [system, exec]
              split <;> exact .inl rfl
      | commit =>
          cases chance with
          | fail fault => exact .inl rfl
          | proceed | lose => exact .inr ⟨index, _, call, session, next, rfl, current, rfl⟩

/-- A committed row evolves as long as nobody deletes it. -/
theorem Access.Lawful.evolves_of_reaches (lawful : access.Lawful dialect changeOf)
    (evolution : access.Evolution dialect changeOf evolves) (refl : ∀ row, evolves row row)
    {later : Config (Reply Result Fault) Call (Server Db) (Session Result Write Key) Outcome}
    (reaches : dialect.system.Reaches code permits (Config.initial server) config) {row : Row}
    (mem : row ∈ access.table config.shared.db)
    (further : dialect.system.Reaches code (fun config action => permits config action ∧
      access.Spares changeOf (access.key row) config action) config later) :
    ∃ version ∈ access.table later.shared.db, access.key version = access.key row ∧
      evolves row version := by
  induction further with
  | refl => exact ⟨row, mem, rfl, refl row⟩
  | @step before after action prior permitted acted ih =>
      obtain ⟨old, memOld, key, evolved⟩ := ih
      rcases Dialect.db_of_act acted with same | ⟨index, _, call, session, next, rfl, current, step⟩
      · exact ⟨old, same ▸ memOld, key, evolved⟩
      · have soFar := reaches.trans (prior.mono fun _ _ both => both.1)
        have faithful := (lawful.faithful_of_reaches evolution soFar _
          (List.mem_of_getElem? current)).2
        have kept := permitted.2 call session next current
        rw [← key] at kept
        obtain ⟨version, memVersion, same, made⟩ := lawful.version_committed faithful memOld kept
        refine ⟨version, step ▸ memVersion, same.trans key, ?_⟩
        rcases made with rfl | ⟨_, further⟩
        · exact evolved
        · exact evolution.trans _ _ _ evolved further

/-! ## Conditional updates -/

/-- The statements that change a row only if it has an expected version: which row and which
version a statement with such an effect expects. -/
structure Access.Conditional (access : Access Db Write Key Row Id)
    (dialect : Dialect Query Result Db Write Key Fault)
    (changeOf : Write → Option (Change Row Id)) (version : Row → Int)
    (expects : (query : Query) → Result query → Option (Id × Int)) : Prop where
  changes : ∀ query context db result writes id expected,
    dialect.eval query context db = .ok (result, writes) →
      expects query result = some (id, expected) →
        (∃ old ∈ access.table db, access.key old = id ∧ version old = expected) ∧
          (∃ new, .put new ∈ writes.filterMap changeOf ∧ access.key new = id) ∧
            ∀ new, .put new ∈ writes.filterMap changeOf → access.key new = id →
              expected < version new

/-- The open transaction has changed a row that had an expected version. -/
def Session.Updated (expects : (query : Query) → Result query → Option (Id × Int)) (id : Id)
    (expected : Int) (session : Session Result Write Key) : Prop :=
  ∃ query result, .issued query result ∈ session.current ∧
    expects query result = some (id, expected)

/-- The statement has changed a row that had an expected version. -/
def Entry.updates (expects : (query : Query) → Result query → Option (Id × Int))
    (id : Id) (expected : Int) : Entry Result → Bool
  | .began => false
  | .issued query result => expects query result = some (id, expected)

/-- The row is still at the expected version for everybody else, and beyond it for the
transaction. -/
structure Access.Ahead (access : Access Db Write Key Row Id)
    (dialect : Dialect Query Result Db Write Key Fault)
    (changeOf : Write → Option (Change Row Id)) (version : Row → Int) (id : Id) (expected : Int)
    (server : Server Db) (session : Session Result Write Key) : Prop where
  put : ∃ row, .put row ∈ session.changes changeOf ∧ access.key row = id
  committed : ∀ row ∈ access.table server.db, access.key row = id → version row ≤ expected
  seen : ∀ row ∈ access.table (dialect.view server session), access.key row = id →
    expected < version row

section Ahead

variable {version : Row → Int} {expects : (query : Query) → Result query → Option (Id × Int)}
  {id : Id} {expected : Int} {session : Session Result Write Key} {query : Query}
  {context : Context} {result : Result query} {writes : List Write}

omit [DecidableEq Id] [DecidableEq Key] in
/-- The transaction has changed the row before, or its last statement does. -/
theorem Session.Updated.cases {locks : List (Lock Key)}
    (updated : (session.extended query result locks writes).Updated expects id expected) :
    session.Updated expects id expected ∨ expects query result = some (id, expected) := by
  obtain ⟨issued, answer, mem, expecting⟩ := updated
  unfold Session.current at mem
  split at mem
  case isFalse => exact absurd mem List.not_mem_nil
  case isTrue inside =>
    rcases List.mem_cons.mp mem with same | earlier
    · cases same
      exact .inr expecting
    · refine .inl ⟨issued, answer, ?_, expecting⟩
      rw [Session.current, if_pos (show session.inTx = true from inside)]
      exact earlier

omit [DecidableEq Key] in
/-- Further statements of the transaction stay ahead. -/
theorem Access.Ahead.extended (lawful : access.Lawful dialect changeOf)
    (evolution : access.Evolution dialect changeOf (Versioned version))
    (ahead : access.Ahead dialect changeOf version id expected server session)
    (kept : .delete id ∉ session.changes changeOf) {locks : List (Lock Key)}
    (evaluated : dialect.eval query context (dialect.view server session) = .ok (result, writes)) :
    access.Ahead dialect changeOf version id expected server
      (session.extended query result locks writes) where
  put := by
    obtain ⟨row, put, key⟩ := ahead.put
    rw [Session.changes_extended]
    exact ⟨row, List.mem_append_left _ put, key⟩
  committed := ahead.committed
  seen := by
    intro row mem key
    rw [lawful.table_extended] at mem
    rcases Table.mem_applyAll mem with put | ⟨old, _⟩
    · obtain ⟨prior, putPrior, keyPrior⟩ := ahead.put
      obtain ⟨current, memCurrent, keyCurrent, _⟩ :=
        Table.exists_mem_applyAll_of_put (access.table server.db) putPrior (keyPrior ▸ kept)
      rw [← lawful.table_view] at memCurrent
      have later := evolution.authored query context _ result writes evaluated row put current
        memCurrent (keyCurrent.trans (keyPrior.trans key.symm))
      exact Int.lt_of_lt_of_le (ahead.seen current memCurrent (keyCurrent.trans keyPrior)) later.le
    · exact ahead.seen row old key

omit [DecidableEq Key] in
/-- A conditional update that changes the row puts the transaction ahead. -/
theorem Access.Conditional.ahead (lawful : access.Lawful dialect changeOf)
    (conditional : access.Conditional dialect changeOf version expects)
    (faithful : access.Faithful changeOf (Versioned version) server session)
    (kept : .delete id ∉ session.changes changeOf) {locks : List (Lock Key)}
    (evaluated : dialect.eval query context (dialect.view server session) = .ok (result, writes))
    (expecting : expects query result = some (id, expected)) :
    access.Ahead dialect changeOf version id expected server
      (session.extended query result locks writes) := by
  obtain ⟨⟨old, memOld, keyOld, rfl⟩, ⟨new, putNew, keyNew⟩, beyond⟩ :=
    conditional.changes query context _ result writes id expected evaluated expecting
  constructor
  · rw [Session.changes_extended]
    exact ⟨new, List.mem_append_right _ putNew, keyNew⟩
  · intro base mem key
    rcases lawful.mem_view memOld with put | ⟨here, _⟩
    · exact (faithful old (lawful.mem_changes.mpr put) (keyOld ▸ kept) base mem
        (key.trans keyOld.symm)).le
    · obtain rfl := Table.eq_of_key_eq mem here (key.trans keyOld.symm)
      exact Int.le_refl _
  · intro row mem key
    rw [lawful.table_extended] at mem
    rcases Table.mem_applyAll mem with put | ⟨_, untouched⟩
    · exact beyond row put key
    · exact absurd (keyNew.trans key.symm) (untouched _ putNew)

omit [DecidableEq Id] [DecidableEq Key] in
/-- A transaction that is ahead does not find the expected version again. -/
theorem Access.Ahead.not_expects
    (conditional : access.Conditional dialect changeOf version expects)
    (ahead : access.Ahead dialect changeOf version id expected server session)
    (evaluated : dialect.eval query context (dialect.view server session) = .ok (result, writes)) :
    expects query result ≠ some (id, expected) := by
  intro expecting
  obtain ⟨⟨old, mem, key, same⟩, _⟩ :=
    conditional.changes query context _ result writes id expected evaluated expecting
  have beyond := ahead.seen old mem key
  omega

/-- The row stays locked, so another commit changes neither side. -/
theorem Access.Ahead.commits (lawful : access.Lawful dialect changeOf)
    {actor : Session Result Write Key} (acting : access.Guarded changeOf actor)
    (compatible : Compatible actor.locks session.locks) (guarded : access.Guarded changeOf session)
    (ahead : access.Ahead dialect changeOf version id expected server session) :
    access.Ahead dialect changeOf version id expected (dialect.committed server actor) session := by
  obtain ⟨prior, put, rfl⟩ := ahead.put
  have locked : Exclusive session.locks (access.rowKey (access.key prior)) := guarded _ put
  constructor
  · exact ⟨prior, put, rfl⟩
  · intro row mem key
    rw [← key] at locked
    exact ahead.committed row ((lawful.mem_committed_iff acting compatible locked).mp mem) key
  · intro row mem key
    refine ahead.seen row ?_ key
    rw [lawful.table_view] at mem ⊢
    exact Table.mem_applyAll_of_touched ⟨_, put, key.symm⟩ mem

/-- What a session is up to with a row at an expected version: if it has changed the row, it is
ahead, and it has changed it once. -/
structure Access.Careful (access : Access Db Write Key Row Id)
    (dialect : Dialect Query Result Db Write Key Fault)
    (changeOf : Write → Option (Change Row Id)) (version : Row → Int)
    (expects : (query : Query) → Result query → Option (Id × Int)) (id : Id) (expected : Int)
    (server : Server Db) (session : Session Result Write Key) : Prop where
  guarded : access.Guarded changeOf session
  faithful : access.Faithful changeOf (Versioned version) server session
  ahead : session.Updated expects id expected → .delete id ∉ session.changes changeOf →
    access.Ahead dialect changeOf version id expected server session
  once : .delete id ∉ session.changes changeOf →
    session.current.countP (Entry.updates expects id expected) ≤ 1

omit [DecidableEq Key] in
/-- A session without statements in the open transaction. -/
theorem Access.careful_blank (unwritten : session.writes = []) (unissued : session.current = []) :
    access.Careful dialect changeOf version expects id expected server session where
  guarded change made := by simp [Session.changes, unwritten] at made
  faithful row put := by simp [Session.changes, unwritten] at put
  ahead updated := by
    obtain ⟨query, result, mem, _⟩ := updated
    rw [unissued] at mem
    exact absurd mem List.not_mem_nil
  once _ := by
    rw [unissued]
    exact Nat.zero_le 1

omit [DecidableEq Key] in
theorem Access.Careful.extended (lawful : access.Lawful dialect changeOf)
    (evolution : access.Evolution dialect changeOf (Versioned version))
    (conditional : access.Conditional dialect changeOf version expects)
    (careful : access.Careful dialect changeOf version expects id expected server session)
    (evaluated : dialect.eval query context (dialect.view server session) = .ok (result, writes)) :
    access.Careful dialect changeOf version expects id expected server
      (session.extended query result (dialect.kept query context (dialect.view server session))
        writes) := by
  have earlier : .delete id ∉ session.changes changeOf ++ writes.filterMap changeOf →
      .delete id ∉ session.changes changeOf :=
    fun kept deleted => kept (List.mem_append_left _ deleted)
  constructor
  · exact lawful.guarded_extended careful.guarded evaluated
  · exact lawful.faithful_extended evolution careful.faithful evaluated
  · intro updated kept
    rw [Session.changes_extended] at kept
    rcases updated.cases with before | expecting
    · exact (careful.ahead before (earlier kept)).extended lawful evolution (earlier kept) evaluated
    · exact conditional.ahead lawful careful.faithful (earlier kept) evaluated expecting
  · intro kept
    rw [Session.changes_extended] at kept
    have before := careful.once (earlier kept)
    unfold Session.current at before ⊢
    split
    case isFalse => exact Nat.zero_le 1
    case isTrue inside =>
      have open' : session.inTx = true := inside
      rw [if_pos open'] at before
      rw [Session.extended, Entry.sinceBegan, List.countP_cons]
      split
      case isFalse => exact before
      case isTrue expecting =>
        -- the first such change, since the transaction would be ahead otherwise
        have first : (Entry.sinceBegan session.history).countP
            (Entry.updates expects id expected) = 0 := by
          rw [List.countP_eq_zero]
          rintro (_ | ⟨issued, answer⟩) mem found
          · cases found
          · have updated : session.Updated expects id expected := by
              refine ⟨issued, answer, ?_, of_decide_eq_true found⟩
              rw [Session.current, if_pos open']
              exact mem
            exact (careful.ahead updated (earlier kept)).not_expects conditional evaluated
              (of_decide_eq_true expecting)
        exact Nat.le_of_eq (by rw [first])

/-- In every run the sessions are careful. -/
theorem Access.Conditional.careful_of_reaches (lawful : access.Lawful dialect changeOf)
    (evolution : access.Evolution dialect changeOf (Versioned version))
    (conditional : access.Conditional dialect changeOf version expects)
    (reaches : dialect.system.Reaches code permits (Config.initial server) config) :
    ∀ process ∈ config.processes,
      access.Careful dialect changeOf version expects id expected config.shared process.loc := by
  refine (Dialect.each_of_reaches_of (fun _ => True)
    (access.Careful dialect changeOf version expects id expected) reaches trivial
    (fun _ _ => Access.careful_blank rfl rfl) (fun _ _ _ => Access.careful_blank rfl rfl)
    (fun _ _ _ => Access.careful_blank rfl rfl) ?_ (fun _ _ _ _ => trivial) ?_ ?_).2
  · exact fun _ _ _ _ _ _ careful evaluated =>
      careful.extended lawful evolution conditional evaluated
  · intro server actor session compatible acting careful
    exact { careful with
      faithful := lawful.faithful_committed acting.guarded compatible careful.guarded
        careful.faithful
      ahead := fun updated kept => (careful.ahead updated kept).commits lawful acting.guarded
        compatible careful.guarded }
  · intro server session now careful
    exact { careful with
      ahead := fun updated kept => { careful.ahead updated kept with } }

/-- Two transactions that expect one version of a row cannot both change it: when the first has
committed, the second one is not about to. -/
theorem Access.Conditional.once (lawful : access.Lawful dialect changeOf)
    (evolution : access.Evolution dialect changeOf (Versioned version))
    (conditional : access.Conditional dialect changeOf version expects)
    {before after later : Config (Reply Result Fault) Call (Server Db)
      (Session Result Write Key) Outcome}
    (reaches : dialect.system.Reaches code permits (Config.initial server) before)
    {call call' : Call} {session' : Session Result Write Key} {index index' : Nat}
    {chance : Chance Fault} (effective : chance.takesEffect = true)
    {next next' : Reply Result Fault .commit → Program (Reply Result Fault) Outcome}
    (current : before.processes[index]? = some ⟨call, session, .call .commit next⟩)
    (updated : session.Updated expects id expected)
    (permitted : permits before (.step index chance))
    (spared : access.Spares changeOf id before (.step index chance))
    (acted : dialect.system.act code (.step index chance) before = some after)
    (further : dialect.system.Reaches code (fun config action => permits config action ∧
      access.Spares changeOf id config action) after later)
    (current' : later.processes[index']? = some ⟨call', session', .call .commit next'⟩)
    (updated' : session'.Updated expects id expected) :
    .delete id ∈ session'.changes changeOf := by
  have kept := spared call session next current
  have ahead := (conditional.careful_of_reaches lawful evolution reaches _
    (List.mem_of_getElem? current)).ahead updated kept
  obtain ⟨prior, put, rfl⟩ := ahead.put
  obtain ⟨row, mem, key, _⟩ := Table.exists_mem_applyAll_of_put (access.table before.shared.db) put
    kept
  rw [← lawful.table_view] at mem
  have beyond := ahead.seen row mem key
  have committed : after.shared = dialect.committed before.shared session := by
    obtain ⟨_, _, _, _, executes⟩ := dialect.system.executes_of_act_step code acted
    obtain ⟨here, _, rfl⟩ := executes
    cases current.symm.trans here
    cases chance with
    | fail => cases effective
    | proceed | lose => rfl
  have reached : dialect.system.Reaches code permits (Config.initial server) after :=
    .step reaches permitted acted
  have stored : row ∈ access.table after.shared.db := by rwa [committed]
  rw [← key] at further
  obtain ⟨version', memLater, same, evolved⟩ :=
    lawful.evolves_of_reaches evolution Versioned.refl reached stored further
  by_contra kept'
  have soFar := reached.trans (further.mono fun _ _ both => both.1)
  have behind := ((conditional.careful_of_reaches lawful evolution soFar _
    (List.mem_of_getElem? current')).ahead updated' kept').committed version' memLater
      (same.trans key)
  have higher := evolved.le
  omega

end Ahead

end Relational
