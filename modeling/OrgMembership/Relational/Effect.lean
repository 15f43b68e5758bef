import OrgMembership.Relational.Table
import OrgMembership.Relational.Transaction

/-!
# Effects of queries on tables

A query is described by its effect on the state it sees: the outcome, the locks
it takes and keeps, and the locks it only waits for.  The effects of the row
operations of SQL are defined here once for any table: reads, row locks, updates
that check their condition on the row they lock, deletes, and inserts that a
unique index may absorb.
-/

namespace Relational

variable {Db Write Key Fault Row Id α β : Type}

/-- The outcome of a query, the locks it takes and keeps, and the locks it only
waits for. -/
structure Effect (Write Key Fault α : Type) where
  outcome : Except Fault (α × List Write)
  kept : List (Lock Key)
  awaited : List (Lock Key)

namespace Effect

/-- Return a value and change nothing. -/
def read (value : α) : Effect Write Key Fault α :=
  ⟨.ok (value, []), [], []⟩

/-- Fail without taking a lock. -/
def refuse (fault : Fault) : Effect Write Key Fault α :=
  ⟨.error fault, [], []⟩

/-- Take a full-strength lock on a key that is no row. -/
def advisory (key : Key) : Effect Write Key Fault Unit :=
  ⟨.ok ((), []), [⟨key, .update⟩], []⟩

/-- Change the value of an effect. -/
def map (f : α → β) (effect : Effect Write Key Fault α) : Effect Write Key Fault β :=
  { effect with outcome := effect.outcome.map fun result => (f result.1, result.2) }

/-- An effect that went through returned this value and made these writes. -/
def Yields (effect : Effect Write Key Fault α) (value : α) (writes : List Write) : Prop :=
  effect.outcome = .ok (value, writes)

@[simp]
theorem yields_read {value result : α} {writes : List Write} :
    (read value : Effect Write Key Fault α).Yields result writes ↔
      result = value ∧ writes = [] := by
  simp [Yields, read, eq_comm]

@[simp]
theorem not_yields_refuse {fault : Fault} {result : α} {writes : List Write} :
    ¬(refuse fault : Effect Write Key Fault α).Yields result writes := by
  simp [Yields, refuse]

@[simp]
theorem yields_advisory {key : Key} {result : Unit} {writes : List Write} :
    (advisory key : Effect Write Key Fault Unit).Yields result writes ↔ writes = [] := by
  simp [Yields, advisory, eq_comm]

theorem yields_map {f : α → β} {effect : Effect Write Key Fault α} {result : β}
    {writes : List Write} :
    (effect.map f).Yields result writes ↔
      ∃ value, effect.Yields value writes ∧ f value = result := by
  simp only [Yields, map]
  cases effect.outcome with
  | error fault => simp [Except.map]
  | ok out =>
      rcases out with ⟨value, made⟩
      simp only [Except.map, Except.ok.injEq, Prod.mk.injEq]
      constructor
      · rintro ⟨rfl, rfl⟩
        exact ⟨value, ⟨rfl, rfl⟩, rfl⟩
      · rintro ⟨_, ⟨rfl, rfl⟩, rfl⟩
        exact ⟨rfl, rfl⟩

end Effect

/-- A dialect given by the effects of its queries. -/
def Dialect.ofEffects {Query : Type} {Result : Query → Type} (lost : Fault)
    (write : Write → Db → Db)
    (effect : (query : Query) → Context → Db → Effect Write Key Fault (Result query)) :
    Dialect Query Result Db Write Key Fault where
  write
  kept query context db := (effect query context db).kept
  awaited query context db := (effect query context db).awaited
  eval query context db := (effect query context db).outcome
  lost

/-- A table that each write either changes or leaves alone holds, after any
writes, the result of its own changes. -/
theorem Dialect.table_applyAll {Query : Type} {Result : Query → Type} [DecidableEq Id]
    (dialect : Dialect Query Result Db Write Key Fault) {key : Row → Id}
    (table : Db → Table key) (changeOf : Write → Option (Change Row Id))
    (lawful : ∀ write db, table (dialect.write write db) =
      ((changeOf write).elim (table db) fun change => (table db).apply change))
    (writes : List Write) (db : Db) :
    table (dialect.applyAll writes db) = (table db).applyAll (writes.filterMap changeOf) := by
  induction writes generalizing db with
  | nil => rfl
  | cons write writes ih =>
      rw [Dialect.applyAll_cons, ih, lawful]
      cases found : changeOf write with
      | none => rw [List.filterMap_cons_none found, Option.elim_none]
      | some change => rw [List.filterMap_cons_some found, Option.elim_some, Table.applyAll_cons]

/-! ## Row operations -/

/-- How the rows of one table are reached in a database: the table itself, a
change of it as a write, the lock of a row, and the unique-index entries of a
row, which are locked by whoever writes the row. -/
structure Access (Db Write Key Row Id : Type) where
  key : Row → Id
  table : Db → Table key
  change : Change Row Id → Write
  rowKey : Id → Key
  entries : Row → List Key

namespace Access

variable [DecidableEq Id] (access : Access Db Write Key Row Id) (db : Db)

/-- The locks of whoever writes a row: the row and its index entries. -/
def written (mode : LockMode) (row : Row) : List (Lock Key) :=
  ⟨access.rowKey (access.key row), mode⟩ :: (access.entries row).map (⟨·, .update⟩)

/-- The rows a multi-row update or delete will visit. -/
def scan (condition : Row → Bool) : Effect Write Key Fault (List Id) :=
  .read (((access.table db).select condition).map access.key)

/-- `SELECT … FOR UPDATE` of one row. -/
def lockRow (id : Id) (condition : Row → Bool) : Effect Write Key Fault (Option Row) :=
  match (access.table db).find? id with
  | none => .read none
  | some row =>
      if condition row then
        ⟨.ok (some row, []), [⟨access.rowKey id, .update⟩], []⟩
      else
        .read none

/-- `UPDATE` of one row, if it meets the condition.  Other columns than the key
change, so the row is locked without excluding foreign-key checks; the index
entries of both versions are locked. -/
def updateRow (id : Id) (condition : Row → Bool) (set : Row → Except Fault Row) :
    Effect Write Key Fault (Option Row) :=
  match (access.table db).find? id with
  | none => .read none
  | some row =>
      if condition row then
        match set row with
        | .error fault => ⟨.error fault, [], access.written .noKeyUpdate row⟩
        | .ok updated =>
            ⟨.ok (some updated, [access.change (.put updated)]),
              access.written .noKeyUpdate row ++ (access.entries updated).map (⟨·, .update⟩), []⟩
      else
        .read none

/-- `DELETE` of one row, if it meets the condition. -/
def deleteRow (id : Id) (condition : Row → Bool) (refusal : Row → Option Fault) :
    Effect Write Key Fault (Option Row) :=
  match (access.table db).find? id with
  | none => .read none
  | some row =>
      if condition row then
        match refusal row with
        | some fault => ⟨.error fault, [], access.written .update row⟩
        | none => ⟨.ok (some row, [access.change (.delete id)]), access.written .update row, []⟩
      else
        .read none

/-- `INSERT … ON CONFLICT DO NOTHING`: absorbed by a conflicting row, refused by
a violated constraint, and otherwise a new row that also locks the rows it
refers to against deletion.  It always waits for the writers of its own index
entries. -/
def insertRow (row : Row) (conflicting : Row → Bool) (refusal : Option Fault)
    (parents : List Key) : Effect Write Key Fault (Option Row) :=
  let waiting := (access.entries row).map (⟨·, .update⟩)
  match (access.table db).first? conflicting with
  | some _ => ⟨.ok (none, []), [], waiting⟩
  | none =>
      match refusal with
      | some fault => ⟨.error fault, [], waiting⟩
      | none =>
          ⟨.ok (some row, [access.change (.put row)]),
            access.written .update row ++ parents.map (⟨·, .keyShare⟩), []⟩

variable {access db} {id : Id} {condition : Row → Bool} {result : Option Row}
  {writes : List Write}

theorem lockRow_cases
    (yields : (access.lockRow db id condition : Effect Write Key Fault _).Yields result writes) :
    writes = [] ∧
      (result = none ∧
          (∀ row ∈ access.table db, access.key row = id → condition row = false) ∨
        ∃ row ∈ access.table db, access.key row = id ∧ condition row = true ∧ result = some row ∧
          (access.lockRow db id condition : Effect Write Key Fault _).kept =
            [⟨access.rowKey id, .update⟩]) := by
  rw [lockRow] at yields ⊢
  split at yields
  case h_1 absent =>
    obtain ⟨rfl, rfl⟩ := Effect.yields_read.mp yields
    exact ⟨rfl, .inl ⟨rfl, fun row mem keyEq =>
      absurd keyEq (Table.find?_eq_none.mp absent row mem)⟩⟩
  case h_2 row found =>
    obtain ⟨mem, keyEq⟩ := Table.find?_eq_some.mp found
    split at yields
    case isTrue holds =>
      obtain ⟨rfl, rfl⟩ := Prod.mk.inj (Except.ok.inj yields)
      exact ⟨rfl, .inr ⟨row, mem, keyEq, holds, rfl, by rw [if_pos holds]⟩⟩
    case isFalse fails =>
      obtain ⟨rfl, rfl⟩ := Effect.yields_read.mp yields
      refine ⟨rfl, .inl ⟨rfl, fun other memOther otherKey => ?_⟩⟩
      rw [Table.eq_of_key_eq memOther mem (otherKey.trans keyEq.symm)]
      exact Bool.not_eq_true _ ▸ fails

theorem updateRow_cases {set : Row → Except Fault Row}
    (yields : (access.updateRow db id condition set).Yields result writes) :
    (result = none ∧ writes = [] ∧
        ∀ row ∈ access.table db, access.key row = id → condition row = false) ∨
      ∃ row ∈ access.table db, ∃ updated, access.key row = id ∧ condition row = true ∧
        set row = .ok updated ∧ result = some updated ∧ writes = [access.change (.put updated)] ∧
        (access.updateRow db id condition set).kept =
          access.written .noKeyUpdate row ++ (access.entries updated).map (⟨·, .update⟩) := by
  rw [updateRow] at yields ⊢
  split at yields
  case h_1 absent =>
    obtain ⟨rfl, rfl⟩ := Effect.yields_read.mp yields
    exact .inl ⟨rfl, rfl, fun row mem keyEq =>
      absurd keyEq (Table.find?_eq_none.mp absent row mem)⟩
  case h_2 row found =>
    obtain ⟨mem, keyEq⟩ := Table.find?_eq_some.mp found
    split at yields
    case isFalse fails =>
      obtain ⟨rfl, rfl⟩ := Effect.yields_read.mp yields
      refine .inl ⟨rfl, rfl, fun other memOther otherKey => ?_⟩
      rw [Table.eq_of_key_eq memOther mem (otherKey.trans keyEq.symm)]
      exact Bool.not_eq_true _ ▸ fails
    case isTrue holds =>
      rw [if_pos holds]
      split at yields
      case h_1 fault refused => cases yields
      case h_2 updated computed =>
        obtain ⟨rfl, rfl⟩ := Prod.mk.inj (Except.ok.inj yields)
        exact .inr ⟨row, mem, updated, keyEq, holds, computed, rfl, rfl, rfl⟩

theorem deleteRow_cases {refusal : Row → Option Fault}
    (yields : (access.deleteRow db id condition refusal).Yields result writes) :
    (result = none ∧ writes = [] ∧
        ∀ row ∈ access.table db, access.key row = id → condition row = false) ∨
      ∃ row ∈ access.table db, access.key row = id ∧ condition row = true ∧ refusal row = none ∧
        result = some row ∧ writes = [access.change (.delete id)] ∧
        (access.deleteRow db id condition refusal).kept = access.written .update row := by
  rw [deleteRow] at yields ⊢
  split at yields
  case h_1 absent =>
    obtain ⟨rfl, rfl⟩ := Effect.yields_read.mp yields
    exact .inl ⟨rfl, rfl, fun row mem keyEq =>
      absurd keyEq (Table.find?_eq_none.mp absent row mem)⟩
  case h_2 row found =>
    obtain ⟨mem, keyEq⟩ := Table.find?_eq_some.mp found
    split at yields
    case isFalse fails =>
      obtain ⟨rfl, rfl⟩ := Effect.yields_read.mp yields
      refine .inl ⟨rfl, rfl, fun other memOther otherKey => ?_⟩
      rw [Table.eq_of_key_eq memOther mem (otherKey.trans keyEq.symm)]
      exact Bool.not_eq_true _ ▸ fails
    case isTrue holds =>
      split at yields
      case h_1 fault refused => cases yields
      case h_2 allowed =>
        obtain ⟨rfl, rfl⟩ := Prod.mk.inj (Except.ok.inj yields)
        exact .inr ⟨row, mem, keyEq, holds, allowed, rfl, rfl, by rw [if_pos holds]⟩

omit [DecidableEq Id] in
theorem insertRow_cases {row : Row} {conflicting : Row → Bool} {refusal : Option Fault}
    {parents : List Key}
    (yields : (access.insertRow db row conflicting refusal parents).Yields result writes) :
    (result = none ∧ writes = [] ∧ ∃ other ∈ access.table db, conflicting other = true) ∨
      ((∀ other ∈ access.table db, conflicting other = false) ∧ refusal = none ∧
        result = some row ∧ writes = [access.change (.put row)] ∧
        (access.insertRow db row conflicting refusal parents).kept =
          access.written .update row ++ parents.map (⟨·, .keyShare⟩)) := by
  simp only [insertRow] at yields ⊢
  split at yields
  case h_1 other found =>
    obtain ⟨rfl, rfl⟩ := Prod.mk.inj (Except.ok.inj yields)
    exact .inl ⟨rfl, rfl, other, Table.first?_some found⟩
  case h_2 unopposed =>
    cases refusal with
    | some fault => cases yields
    | none =>
        obtain ⟨rfl, rfl⟩ := Prod.mk.inj (Except.ok.inj yields)
        exact .inr ⟨Table.first?_eq_none.mp unopposed, rfl, rfl, rfl, rfl⟩

/-! What a row operation does in a known state. -/

theorem lockRow_found {row : Row} (mem : row ∈ access.table db) (holds : condition row = true) :
    (access.lockRow db (access.key row) condition : Effect Write Key Fault _).Yields
      (some row) [] := by
  rw [lockRow, Table.find?_eq_some.mpr ⟨mem, rfl⟩]
  simp [Effect.Yields, holds]

theorem updateRow_found {set : Row → Except Fault Row} {row updated : Row}
    (mem : row ∈ access.table db) (holds : condition row = true)
    (computed : set row = .ok updated) :
    (access.updateRow db (access.key row) condition set).Yields (some updated)
      [access.change (.put updated)] := by
  rw [updateRow, Table.find?_eq_some.mpr ⟨mem, rfl⟩]
  simp [Effect.Yields, holds, computed]

omit [DecidableEq Id] in
theorem insertRow_unopposed {row : Row} {conflicting : Row → Bool} {refusal : Option Fault}
    {parents : List Key} (unopposed : ∀ other ∈ access.table db, conflicting other = false)
    (allowed : refusal = none) :
    (access.insertRow db row conflicting refusal parents).Yields (some row)
      [access.change (.put row)] := by
  simp only [insertRow, Table.first?_eq_none.mpr unopposed, allowed]
  rfl

/-! What a row operation writes is a change of its own table. -/

theorem writes_of_lockRow {write : Write}
    (yields : (access.lockRow db id condition : Effect Write Key Fault _).Yields result writes) :
    write ∉ writes := by
  rw [(lockRow_cases yields).1]
  exact List.not_mem_nil

theorem writes_of_updateRow {set : Row → Except Fault Row} {write : Write}
    (yields : (access.updateRow db id condition set).Yields result writes)
    (mem : write ∈ writes) : ∃ change, write = access.change change := by
  rcases updateRow_cases yields with ⟨_, rfl, _⟩ | ⟨_, _, updated, _, _, _, _, rfl, _⟩
  · exact absurd mem List.not_mem_nil
  · exact ⟨.put updated, List.mem_singleton.mp mem⟩

theorem writes_of_deleteRow {refusal : Row → Option Fault} {write : Write}
    (yields : (access.deleteRow db id condition refusal).Yields result writes)
    (mem : write ∈ writes) : write = access.change (.delete id) := by
  rcases deleteRow_cases yields with ⟨_, rfl, _⟩ | ⟨_, _, _, _, _, _, rfl, _⟩
  · exact absurd mem List.not_mem_nil
  · exact List.mem_singleton.mp mem

omit [DecidableEq Id] in
theorem writes_of_insertRow {row : Row} {conflicting : Row → Bool} {refusal : Option Fault}
    {parents : List Key} {write : Write}
    (yields : (access.insertRow db row conflicting refusal parents).Yields result writes)
    (mem : write ∈ writes) : write = access.change (.put row) := by
  rcases insertRow_cases yields with ⟨_, rfl, _⟩ | ⟨_, _, _, rfl, _⟩
  · exact absurd mem List.not_mem_nil
  · exact List.mem_singleton.mp mem

/-! Whoever writes a row keeps its lock. -/

theorem exclusive_of_updateRow {set : Row → Except Fault Row} {write : Write}
    (yields : (access.updateRow db id condition set).Yields result writes)
    (mem : write ∈ writes) :
    Exclusive (access.updateRow db id condition set).kept (access.rowKey id) := by
  rcases updateRow_cases yields with ⟨_, rfl, _⟩ | ⟨row, _, updated, rfl, _, _, _, _, kept⟩
  · exact absurd mem List.not_mem_nil
  · rw [kept]
    exact .inl (List.mem_append_left _ List.mem_cons_self)

theorem exclusive_of_deleteRow {refusal : Row → Option Fault} {write : Write}
    (yields : (access.deleteRow db id condition refusal).Yields result writes)
    (mem : write ∈ writes) :
    Exclusive (access.deleteRow db id condition refusal).kept (access.rowKey id) := by
  rcases deleteRow_cases yields with ⟨_, rfl, _⟩ | ⟨row, _, rfl, _, _, _, _, kept⟩
  · exact absurd mem List.not_mem_nil
  · rw [kept]
    exact .inr List.mem_cons_self

omit [DecidableEq Id] in
theorem exclusive_of_insertRow {row : Row} {conflicting : Row → Bool} {refusal : Option Fault}
    {parents : List Key} {write : Write}
    (yields : (access.insertRow db row conflicting refusal parents).Yields result writes)
    (mem : write ∈ writes) :
    Exclusive (access.insertRow db row conflicting refusal parents).kept
      (access.rowKey (access.key row)) := by
  rcases insertRow_cases yields with ⟨_, rfl, _⟩ | ⟨_, _, _, _, kept⟩
  · exact absurd mem List.not_mem_nil
  · rw [kept]
    exact .inr (List.mem_append_left _ List.mem_cons_self)

omit [DecidableEq Id] in
theorem entry_of_insertRow {row : Row} {conflicting : Row → Bool} {refusal : Option Fault}
    {parents : List Key} {write : Write} {entry : Key}
    (yields : (access.insertRow db row conflicting refusal parents).Yields result writes)
    (mem : write ∈ writes) (memEntry : entry ∈ access.entries row) :
    ⟨entry, .update⟩ ∈ (access.insertRow db row conflicting refusal parents).kept := by
  rcases insertRow_cases yields with ⟨_, rfl, _⟩ | ⟨_, _, _, _, kept⟩
  · exact absurd mem List.not_mem_nil
  · rw [kept]
    exact List.mem_append_left _ (List.mem_cons_of_mem _ (List.mem_map_of_mem memEntry))

omit [DecidableEq Id] in
theorem parent_of_insertRow {row : Row} {conflicting : Row → Bool} {refusal : Option Fault}
    {parents : List Key} {write : Write} {parent : Key}
    (yields : (access.insertRow db row conflicting refusal parents).Yields result writes)
    (mem : write ∈ writes) (memParent : parent ∈ parents) :
    ⟨parent, .keyShare⟩ ∈ (access.insertRow db row conflicting refusal parents).kept := by
  rcases insertRow_cases yields with ⟨_, rfl, _⟩ | ⟨_, _, _, _, kept⟩
  · exact absurd mem List.not_mem_nil
  · rw [kept]
    exact List.mem_append_right _ (List.mem_map_of_mem memParent)

/-! The locks of a row operation are those of its own table, and those of the
rows a new row refers to. -/

/-- A lock of some row of the table or of an entry of its indexes. -/
def Owns (access : Access Db Write Key Row Id) (lock : Lock Key) : Prop :=
  (∃ id, lock.key = access.rowKey id) ∨ ∃ row, lock.key ∈ access.entries row

omit [DecidableEq Id] in
theorem owns_of_written {mode : LockMode} {row : Row} {lock : Lock Key}
    (mem : lock ∈ access.written mode row) : access.Owns lock := by
  rcases List.mem_cons.mp mem with rfl | indexed
  · exact .inl ⟨_, rfl⟩
  · obtain ⟨entry, memEntry, rfl⟩ := List.mem_map.mp indexed
    exact .inr ⟨row, memEntry⟩

/-- The only lock a locking read keeps. -/
theorem eq_of_lockRow {lock : Lock Key}
    (mem : lock ∈ (access.lockRow db id condition : Effect Write Key Fault _).kept) :
    lock = ⟨access.rowKey id, .update⟩ := by
  rw [lockRow] at mem
  split at mem
  · exact absurd mem List.not_mem_nil
  · split at mem
    · exact List.mem_singleton.mp mem
    · exact absurd mem List.not_mem_nil

theorem owns_of_updateRow {set : Row → Except Fault Row} {lock : Lock Key}
    (mem : lock ∈ (access.updateRow db id condition set).kept) : access.Owns lock := by
  rw [updateRow] at mem
  split at mem
  · exact absurd mem List.not_mem_nil
  · split at mem
    · split at mem
      · exact absurd mem List.not_mem_nil
      · rcases List.mem_append.mp mem with old | new
        · exact owns_of_written old
        · obtain ⟨entry, memEntry, rfl⟩ := List.mem_map.mp new
          exact .inr ⟨_, memEntry⟩
    · exact absurd mem List.not_mem_nil

theorem owns_of_deleteRow {refusal : Row → Option Fault} {lock : Lock Key}
    (mem : lock ∈ (access.deleteRow db id condition refusal).kept) : access.Owns lock := by
  rw [deleteRow] at mem
  split at mem
  · exact absurd mem List.not_mem_nil
  · split at mem
    · split at mem
      · exact absurd mem List.not_mem_nil
      · exact owns_of_written mem
    · exact absurd mem List.not_mem_nil

omit [DecidableEq Id] in
theorem owns_of_insertRow {row : Row} {conflicting : Row → Bool} {refusal : Option Fault}
    {parents : List Key} {lock : Lock Key}
    (mem : lock ∈ (access.insertRow db row conflicting refusal parents).kept) :
    access.Owns lock ∨ lock.mode = .keyShare := by
  simp only [insertRow] at mem
  split at mem
  · exact absurd mem List.not_mem_nil
  · cases refusal with
    | some fault => exact absurd mem List.not_mem_nil
    | none =>
        rcases List.mem_append.mp mem with own | parent
        · exact .inl (owns_of_written own)
        · obtain ⟨key, _, rfl⟩ := List.mem_map.mp parent
          exact .inr rfl

end Access

end Relational
