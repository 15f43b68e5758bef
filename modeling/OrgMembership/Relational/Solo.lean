import OrgMembership.Concurrency.Solo
import OrgMembership.Relational.Transaction

/-!
# Transactions that run alone

Without other sessions and without faults, a client works on one database: what
its session sees.  Its queries change that database one after the other, and a
commit leaves it as it is.
-/

namespace Relational

open Concurrency

variable {Query : Type} {Result : Query → Type} {Db Write Key Fault Failure σ α : Type}

/-- The times at which a client runs, and the identifiers it is given for new
rows. -/
structure Peace (Db : Type) where
  clock : Int → Prop
  unused : Nat → Db → Prop

/-- No fault, and only the clock goes on. -/
def Peace.solitude (peace : Peace Db) (dialect : Dialect Query Result Db Write Key Fault) :
    Solitude (Statement Query) (Server Db) (Session Result Write Key) (Chance Fault) where
  calm server := peace.clock server.now
  drifts before after := before.db = after.db
  gives _ chance server session :=
    ∃ fresh, chance = .proceed fresh ∧ peace.unused fresh (dialect.view server session)
  drifts_refl _ := rfl
  drifts_trans _ _ _ first second := first.trans second

variable [DecidableEq Key] {dialect : Dialect Query Result Db Write Key Fault} {peace : Peace Db}
  {raise : Fault → Failure} {pre : σ → Db → Prop} {post : α → σ → Db → Prop}

/-- A fact about what the session sees. -/
def Sees (dialect : Dialect Query Result Db Write Key Fault) (fact : σ → Db → Prop)
    (captured : σ) (server : Server Db) (session : Session Result Write Key) : Prop :=
  fact captured (dialect.view server session)

/-- A fact about the committed state, between two transactions. -/
def Rests (fact : σ → Db → Prop) (captured : σ) (server : Server Db)
    (session : Session Result Write Key) : Prop :=
  session.writes = [] ∧ fact captured server.db

/-- Code of a transaction that runs alone. -/
abbrev Works (dialect : Dialect Query Result Db Write Key Fault) (peace : Peace Db)
    (pre : σ → Db → Prop) (program : Client Result Fault σ Failure α)
    (post : α → σ → Db → Prop) : Prop :=
  Succeeds dialect.system (peace.solitude dialect) (Sees dialect pre) program
    fun value => Sees dialect (post value)

/-- Code outside transactions that runs alone. -/
abbrev Completes (dialect : Dialect Query Result Db Write Key Fault) (peace : Peace Db)
    (pre : σ → Db → Prop) (program : Client Result Fault σ Failure α)
    (post : α → σ → Db → Prop) : Prop :=
  Succeeds dialect.system (peace.solitude dialect) (Rests pre) program
    fun value => Rests (post value)

theorem works_send {query : Query} {post : Result query → σ → Db → Prop}
    (evaluates : ∀ captured context db, peace.clock context.now → peace.unused context.fresh db →
      pre captured db → ∃ result writes, dialect.eval query context db = .ok (result, writes) ∧
        post result captured (dialect.applyAll writes db)) :
    Works dialect peace pre (send raise query : Client Result Fault σ Failure _) post := by
  rintro captured server session holds drifted _ same clock ⟨fresh, rfl, unused⟩
  have seen : dialect.view drifted session = dialect.view server session := by
    rw [Dialect.view, Dialect.view, same]
  obtain ⟨result, writes, evaluated, after⟩ := evaluates captured
    (Dialect.context drifted session fresh) (dialect.view drifted session) clock unused
    (seen ▸ holds)
  simp only [Dialect.system, Dialect.exec, evaluated]
  refine ⟨result, rfl, ?_⟩
  rw [Sees, Dialect.view_extended]
  exact after

/-- Code of a transaction that runs alone and leaves its captured variables as they
are. -/
def Turns (dialect : Dialect Query Result Db Write Key Fault) (peace : Peace Db) (pre : Db → Prop)
    (program : Client Result Fault σ Failure α) (post : α → Db → Prop) : Prop :=
  ∀ current : σ, Works dialect peace (fun captured db => captured = current ∧ pre db) program
    fun value captured db => captured = current ∧ post value db

section Turns

variable {β : Type} {pre : Db → Prop} {middle : α → Db → Prop} {post : β → Db → Prop}

theorem Turns.pure {value : α} (holds : ∀ db, pre db → middle value db) :
    Turns dialect peace pre (pure value : Client Result Fault σ Failure α) middle :=
  fun _ => Succeeds.pure fun _ _ _ before => ⟨before.1, holds _ before.2⟩

theorem Turns.bind {first : Client Result Fault σ Failure α}
    {rest : α → Client Result Fault σ Failure β} (begins : Turns dialect peace pre first middle)
    (goesOn : ∀ value, Turns dialect peace (middle value) (rest value) post) :
    Turns dialect peace pre (first >>= rest) post :=
  fun current => Succeeds.bind (begins current) fun value => goesOn value current

/-- A precondition may decide what the code is about. -/
theorem Turns.given {program : Client Result Fault σ Failure α} {fact : Prop}
    (turns : fact → Turns dialect peace pre program middle) :
    Turns dialect peace (fun db => fact ∧ pre db) program middle := by
  rintro current captured server session ⟨same, given, before⟩
  exact turns given current captured server session ⟨same, before⟩

theorem turns_send {query : Query} {after : Result query → Db → Prop}
    (evaluates : ∀ context db, peace.clock context.now → peace.unused context.fresh db → pre db →
      ∃ result writes, dialect.eval query context db = .ok (result, writes) ∧
        after result (dialect.applyAll writes db)) :
    Turns dialect peace pre (send raise query : Client Result Fault σ Failure _) after := by
  intro current
  apply works_send
  rintro captured context db clock unused ⟨same, before⟩
  obtain ⟨result, writes, evaluated, holds⟩ := evaluates context db clock unused before
  exact ⟨result, writes, evaluated, same, holds⟩

end Turns

section Fails

variable {solitude : Solitude (Statement Query) (Server Db) (Session Result Write Key)
  (Chance Fault)}

/-- A query that the database refuses fails. -/
theorem fails_send {query : Query} {fault : Fault}
    (refuses : ∀ context db, dialect.eval query context db = .error fault) :
    Fails dialect.system solitude (send raise query : Client Result Fault σ Failure _) := by
  rintro captured server session drifted chance - - -
  cases chance with
  | proceed fresh =>
      simp only [Dialect.system, Dialect.exec, refuses]
      exact ⟨raise fault, rfl⟩
  | fail fault => exact ⟨raise fault, rfl⟩
  | lose => exact ⟨raise dialect.lost, rfl⟩

/-- A transaction fails with its body. -/
theorem fails_transaction {body : Client Result Fault σ Failure α}
    (fails : Fails dialect.system solitude body) :
    Fails dialect.system solitude (transaction raise body) := by
  intro captured server session
  refine ends_bind (ends_of_forall ?_ _ _ _)
  rintro (fault | _) server session
  · exact ⟨raise fault, rfl⟩
  · refine ends_bind (ends_mono ?_ (fails captured server session))
    rintro ⟨_, captured⟩ server session ⟨failure, rfl⟩
    exact ends_bind (ends_of_forall (fun _ _ _ => ⟨failure, rfl⟩) _ _ _)

end Fails

/-- A transaction works on the committed state and commits what it sees. -/
theorem completes_transaction {body : Client Result Fault σ Failure α}
    (works : Works dialect peace pre body post) :
    Completes dialect peace pre (transaction raise body) post := by
  rintro captured server session ⟨_, holds⟩ drifted _ same _ ⟨_, rfl, _⟩
  have opened : Sees dialect pre captured drifted (session.opened drifted.now) := by
    rw [Sees, Dialect.view, ← same]
    exact holds
  change ends _ _ _ ((body.start captured).bind _) drifted (session.opened drifted.now)
  refine ends_bind (ends_mono ?_ (works captured drifted _ opened))
  rintro ⟨_, captured⟩ server session ⟨value, rfl, done⟩ drifted _ same _ ⟨_, rfl, _⟩
  refine ⟨value, rfl, rfl, ?_⟩
  change post value captured (dialect.view drifted session)
  rw [Dialect.view, ← same]
  exact done

theorem completes_of_turns {pre : Db → Prop} {post : α → Db → Prop}
    {body : Client Result Fault σ Failure α} (turns : Turns dialect peace pre body post) :
    Completes dialect peace (fun _ => pre) (transaction raise body) fun value _ => post value := by
  rintro captured server session ⟨resting, before⟩
  refine ends_mono ?_ (completes_transaction (turns captured) captured server session
    ⟨resting, rfl, before⟩)
  rintro result server session ⟨value, done, resting, _, after⟩
  exact ⟨value, done, resting, after⟩

/-- An attempt that succeeds is not repeated. -/
theorem succeeds_retrying {retryable : Failure → Bool} {attempts : Nat}
    {attempt : Client Result Fault σ Failure α}
    {solitude : Solitude (Statement Query) (Server Db) (Session Result Write Key) (Chance Fault)}
    {pre : σ → Server Db → Session Result Write Key → Prop}
    {post : α → σ → Server Db → Session Result Write Key → Prop}
    (succeeds : Succeeds dialect.system solitude pre attempt post) :
    Succeeds dialect.system solitude pre (retrying retryable attempts attempt) post := by
  cases attempts with
  | zero => exact succeeds
  | succ attempts =>
      intro captured server session before
      refine ends_bind (ends_mono ?_ (succeeds captured server session before))
      rintro ⟨_, captured⟩ server session ⟨value, rfl, holds⟩
      exact ⟨value, rfl, holds⟩

theorem completes_retrying {retryable : Failure → Bool} {attempts : Nat}
    {attempt : Client Result Fault σ Failure α}
    (completes : Completes dialect peace pre attempt post) :
    Completes dialect peace pre (retrying retryable attempts attempt) post :=
  succeeds_retrying completes

/-! ## Time

Rules for code whose outcome depends on the clock: facts about the start of the
transaction and the present moment, besides what the session sees. -/

section Aging

/-- No fault, and the clock does not go back. -/
def aging (dialect : Dialect Query Result Db Write Key Fault) (unused : Nat → Db → Prop) :
    Solitude (Statement Query) (Server Db) (Session Result Write Key) (Chance Fault) where
  calm _ := True
  drifts before after := before.db = after.db ∧ before.now ≤ after.now
  gives _ chance server session :=
    ∃ fresh, chance = .proceed fresh ∧ unused fresh (dialect.view server session)
  drifts_refl _ := ⟨rfl, Int.le_refl _⟩
  drifts_trans _ _ _ first second := ⟨first.1.trans second.1, Int.le_trans first.2 second.2⟩

variable {unused : Nat → Db → Prop}

/-- Code of a transaction: facts about its start, the clock and what it sees. -/
abbrev TurnsAt (dialect : Dialect Query Result Db Write Key Fault) (unused : Nat → Db → Prop)
    (pre : Int → Int → Db → Prop) (program : Client Result Fault σ Failure α)
    (post : α → Int → Int → Db → Prop) : Prop :=
  Succeeds dialect.system (aging dialect unused)
    (fun _ server session => pre session.startedAt server.now (dialect.view server session)) program
    fun value _ server session =>
      post value session.startedAt server.now (dialect.view server session)

/-- Code outside transactions: facts about the clock and the committed state. -/
abbrev CompletesAt (dialect : Dialect Query Result Db Write Key Fault) (unused : Nat → Db → Prop)
    (pre : Int → Db → Prop) (program : Client Result Fault σ Failure α)
    (post : α → Int → Db → Prop) : Prop :=
  Succeeds dialect.system (aging dialect unused)
    (fun _ server session => session.writes = [] ∧ pre server.now server.db) program
    fun value _ server session => session.writes = [] ∧ post value server.now server.db

theorem turnsAt_send {query : Query} {pre : Int → Int → Db → Prop}
    {post : Result query → Int → Int → Db → Prop}
    (evaluates : ∀ context now db, now ≤ context.now → unused context.fresh db →
      pre context.startedAt now db → ∃ result writes,
        dialect.eval query context db = .ok (result, writes) ∧
          post result context.startedAt context.now (dialect.applyAll writes db)) :
    TurnsAt dialect unused pre (send raise query : Client Result Fault σ Failure _) post := by
  rintro captured server session holds drifted _ ⟨same, later⟩ _ ⟨fresh, rfl, notUsed⟩
  have seen : dialect.view drifted session = dialect.view server session := by
    rw [Dialect.view, Dialect.view, same]
  rw [← seen] at holds
  obtain ⟨result, writes, evaluated, after⟩ := evaluates (Dialect.context drifted session fresh)
    server.now (dialect.view drifted session) later notUsed holds
  simp only [Dialect.system, Dialect.exec, evaluated]
  refine ⟨result, rfl, ?_⟩
  rw [Dialect.view_extended]
  exact after

/-- A query outside transactions only reads. -/
theorem completesAt_send {query : Query} {pre : Int → Db → Prop}
    {post : Result query → Int → Db → Prop}
    (evaluates : ∀ context now db, now ≤ context.now → pre now db → ∃ result,
      dialect.eval query context db = .ok (result, []) ∧ post result context.now db) :
    CompletesAt dialect unused pre (send raise query : Client Result Fault σ Failure _) post := by
  rintro captured server session ⟨resting, holds⟩ drifted _ ⟨same, later⟩ _ ⟨fresh, rfl, _⟩
  have seen : dialect.view drifted session = drifted.db := by
    rw [Dialect.view, resting]
    rfl
  rw [same] at holds
  obtain ⟨result, evaluated, after⟩ :=
    evaluates (Dialect.context drifted session fresh) server.now drifted.db later holds
  simp only [Dialect.system, Dialect.exec, seen, evaluated]
  refine ⟨result, rfl, ?_, after⟩
  rw [Session.extended, resting]
  rfl

/-- A transaction works on the committed state from some later moment on, and commits
what it sees at a still later one. -/
theorem completesAt_transaction {pre : Int → Db → Prop} {entered : Int → Int → Db → Prop}
    {ready : α → Int → Int → Db → Prop} {post : α → Int → Db → Prop}
    {body : Client Result Fault σ Failure α}
    (opens : ∀ now later db, now ≤ later → pre now db → entered later later db)
    (turns : TurnsAt dialect unused entered body ready)
    (closes : ∀ value started now later db, now ≤ later → ready value started now db →
      post value later db) :
    CompletesAt dialect unused pre (transaction raise body) post := by
  rintro captured server session ⟨_, holds⟩ drifted _ ⟨same, later⟩ _ ⟨_, rfl, _⟩
  have opened : entered (session.opened drifted.now).startedAt drifted.now
      (dialect.view drifted (session.opened drifted.now)) := by
    rw [Dialect.view, ← same]
    exact opens server.now drifted.now server.db later holds
  change ends _ _ _ ((body.start captured).bind _) drifted (session.opened drifted.now)
  refine ends_bind (ends_mono ?_ (turns captured drifted _ opened))
  rintro ⟨_, captured⟩ server session ⟨value, rfl, done⟩ drifted _ ⟨same, later⟩ _ ⟨_, rfl, _⟩
  refine ⟨value, rfl, rfl, ?_⟩
  change post value drifted.now (dialect.view drifted session)
  rw [Dialect.view, ← same]
  exact closes value session.startedAt server.now drifted.now _ later done

end Aging

end Relational
