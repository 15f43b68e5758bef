import OrgMembership.Relational.Effect
import OrgMembership.Relational.Logic

/-!
# The discipline of row locks

Every writer of a row holds the row's lock until its transaction ends.  So no
two transactions write one row, the committed version of a row a transaction has
written or locked does not change under it, and a relation between the versions
of a row that every statement keeps relates the committed version to the
pending one.  These facts hold in every run, whatever the programs are.
-/

namespace Relational

open Concurrency

variable {Query : Type} {Result : Query → Type} {Db Write Key Fault Row Id : Type}
  [DecidableEq Id]
variable {context : Context} {db : Db} {writes : List Write} {query : Query} {result : Result query}
  {row : Row} {evolves : Row → Row → Prop} {before after : Server Db}

/-- A table takes part in a dialect: which writes change it, and that whoever
changes a row holds its lock. -/
structure Access.Lawful (access : Access Db Write Key Row Id)
    (dialect : Dialect Query Result Db Write Key Fault)
    (changeOf : Write → Option (Change Row Id)) : Prop where
  inverse : ∀ write change, changeOf write = some change ↔ write = access.change change
  table_write : ∀ write db, access.table (dialect.write write db) =
    ((changeOf write).elim (access.table db) fun change => (access.table db).apply change)
  guarded : ∀ query context db result writes,
    dialect.eval query context db = .ok (result, writes) →
      ∀ change ∈ writes.filterMap changeOf,
        Exclusive (dialect.kept query context db) (access.rowKey (change.target access.key))

variable {access : Access Db Write Key Row Id}
  {dialect : Dialect Query Result Db Write Key Fault}
  {changeOf : Write → Option (Change Row Id)}

theorem Access.Lawful.mem_filterMap (lawful : access.Lawful dialect changeOf)
    {change : Change Row Id} :
    change ∈ writes.filterMap changeOf ↔ access.change change ∈ writes := by
  rw [List.mem_filterMap]
  constructor
  · rintro ⟨write, mem, found⟩
    exact (lawful.inverse write change).mp found ▸ mem
  · exact fun mem => ⟨_, mem, (lawful.inverse _ change).mpr rfl⟩

/-- A session's pending changes of one table. -/
def Session.changes (changeOf : Write → Option (Change Row Id))
    (session : Session Result Write Key) : List (Change Row Id) :=
  session.writes.filterMap changeOf

omit [DecidableEq Id] in
@[simp]
theorem Session.changes_extended (session : Session Result Write Key) (query : Query)
    (result : Result query) (locks : List (Lock Key)) (writes : List Write) :
    (session.extended query result locks writes).changes changeOf =
      session.changes changeOf ++ writes.filterMap changeOf :=
  List.filterMap_append

theorem Access.Lawful.mem_changes (lawful : access.Lawful dialect changeOf)
    {session : Session Result Write Key} {change : Change Row Id} :
    change ∈ session.changes changeOf ↔ access.change change ∈ session.writes :=
  lawful.mem_filterMap

/-- A row of the written table was put by a write or stood there untouched. -/
theorem Access.Lawful.mem_applyAll (lawful : access.Lawful dialect changeOf)
    (mem : row ∈ access.table (dialect.applyAll writes db)) :
    access.change (.put row) ∈ writes ∨ row ∈ access.table db ∧
      ∀ change, access.change change ∈ writes → change.target access.key ≠ access.key row := by
  rw [dialect.table_applyAll access.table changeOf lawful.table_write] at mem
  rcases Table.mem_applyAll mem with put | ⟨old, untouched⟩
  · exact .inl (lawful.mem_filterMap.mp put)
  · exact .inr ⟨old, fun change written => untouched change (lawful.mem_filterMap.mpr written)⟩

/-- The table a session sees. -/
theorem Access.Lawful.table_view (lawful : access.Lawful dialect changeOf) (server : Server Db)
    (session : Session Result Write Key) :
    access.table (dialect.view server session) =
      (access.table server.db).applyAll (session.changes changeOf) :=
  dialect.table_applyAll access.table changeOf lawful.table_write session.writes server.db

/-- A row that a session sees is one it wrote, or a committed one that it left
alone. -/
theorem Access.Lawful.mem_view (lawful : access.Lawful dialect changeOf) {server : Server Db}
    {session : Session Result Write Key} (mem : row ∈ access.table (dialect.view server session)) :
    access.change (.put row) ∈ session.writes ∨ row ∈ access.table server.db ∧
      ∀ change, access.change change ∈ session.writes →
        change.target access.key ≠ access.key row :=
  lawful.mem_applyAll mem

/-- A table that the session does not change. -/
theorem Access.Lawful.table_view_of_untouched (lawful : access.Lawful dialect changeOf)
    {server : Server Db} {session : Session Result Write Key}
    (untouched : ∀ change, access.change change ∉ session.writes) :
    access.table (dialect.view server session) = access.table server.db := by
  have none : session.changes changeOf = [] :=
    List.eq_nil_iff_forall_not_mem.mpr fun change made =>
      untouched change (lawful.mem_changes.mp made)
  rw [lawful.table_view, none]
  rfl

theorem Access.Lawful.table_extended (lawful : access.Lawful dialect changeOf) (server : Server Db)
    (session : Session Result Write Key) (query : Query) (result : Result query)
    (locks : List (Lock Key)) (writes : List Write) :
    access.table (dialect.view server (session.extended query result locks writes)) =
      (access.table (dialect.view server session)).applyAll (writes.filterMap changeOf) := by
  rw [lawful.table_view, lawful.table_view, Session.changes_extended, Table.applyAll_append]

/-- What a session sees of a row that keeps a property in the committed state. -/
theorem Access.Lawful.exists_view (lawful : access.Lawful dialect changeOf)
    {session : Session Result Write Key} {property : Row → Prop}
    (mem : row ∈ access.table (dialect.view before session)) (holds : property row)
    (kept : row ∈ access.table before.db → ∃ version ∈ access.table after.db,
      access.key version = access.key row ∧ property version) :
    ∃ version ∈ access.table (dialect.view after session),
      access.key version = access.key row ∧ property version := by
  rw [lawful.table_view] at mem ⊢
  by_cases touched : ∃ change ∈ session.changes changeOf,
      change.target access.key = access.key row
  · exact ⟨row, Table.mem_applyAll_of_touched touched mem, rfl, holds⟩
  · rcases Table.mem_applyAll mem with put | ⟨old, _⟩
    · exact absurd ⟨_, put, rfl⟩ touched
    · obtain ⟨version, memVersion, same, holds⟩ := kept old
      refine ⟨version, Table.mem_applyAll_of_untouched memVersion ?_, same, holds⟩
      exact fun change memChange about => touched ⟨change, memChange, about.trans same⟩

/-- What a session sees inherits from what it saw, if the committed state does. -/
theorem Access.Lawful.inherits_view (lawful : access.Lawful dialect changeOf)
    {session : Session Result Write Key} {matters : Row → Prop} {descends : Row → Row → Prop}
    (same : ∀ row, descends row row)
    (inherits : (access.table after.db).Inherits (access.table before.db) matters descends) :
    (access.table (dialect.view after session)).Inherits
      (access.table (dialect.view before session)) matters descends := by
  intro row mem holds
  rw [lawful.table_view] at mem ⊢
  rcases Table.mem_applyAll mem with put | ⟨kept, untouched⟩
  · exact ⟨row, Table.mem_applyAll_of_touched ⟨_, put, rfl⟩ mem, rfl, holds, same row⟩
  · obtain ⟨old, memOld, keyOld, holdsOld, descended⟩ := inherits row kept holds
    refine ⟨old, Table.mem_applyAll_of_untouched memOld ?_, keyOld, holdsOld, descended⟩
    exact fun change memChange about => untouched change memChange (about.trans keyOld)

/-- A session does not come to see a row that is not new in the committed
state. -/
theorem Access.Lawful.mem_view_of_mem (lawful : access.Lawful dialect changeOf)
    {session : Session Result Write Key}
    (old : row ∈ access.table after.db → row ∈ access.table before.db)
    (mem : row ∈ access.table (dialect.view after session)) :
    row ∈ access.table (dialect.view before session) := by
  rw [lawful.table_view] at mem ⊢
  rcases Table.mem_applyAll mem with put | ⟨kept, untouched⟩
  · exact Table.mem_applyAll_of_touched ⟨_, put, rfl⟩ mem
  · exact Table.mem_applyAll_of_untouched (old kept) untouched

/-- An update after which its row no longer meets the condition leaves the
others that do. -/
theorem Access.Lawful.mem_of_updateRow (lawful : access.Lawful dialect changeOf) {id : Id}
    {condition : Row → Bool} {set : Row → Except Fault Row} {result : Option Row}
    (yields : (access.updateRow db id condition set).Yields result writes)
    (ends : ∀ row updated, set row = .ok updated →
      access.key updated = access.key row ∧ condition updated = false)
    (mem : row ∈ (access.table db).applyAll (writes.filterMap changeOf))
    (holds : condition row = true) : row ∈ access.table db ∧ access.key row ≠ id := by
  rcases Access.updateRow_cases yields with
    ⟨_, rfl, unmatched⟩ | ⟨old, memOld, updated, keyEq, _, computed, _, rfl, _⟩
  · exact ⟨mem, fun same => absurd holds (by simp [unmatched row mem same])⟩
  · obtain ⟨sameKey, ended⟩ := ends old updated computed
    rw [List.filterMap_cons_some ((lawful.inverse _ _).mpr rfl), List.filterMap_nil,
      Table.applyAll_cons, Table.applyAll_nil] at mem
    rcases Table.mem_apply.mp mem with put | ⟨kept, apart⟩
    · cases put
      rw [ended] at holds
      cases holds
    · exact ⟨kept, fun same => apart (same.trans (keyEq.symm.trans sameKey.symm))⟩

/-- The session holds the lock of every row it has changed. -/
def Access.Guarded (access : Access Db Write Key Row Id)
    (changeOf : Write → Option (Change Row Id)) (session : Session Result Write Key) : Prop :=
  ∀ change ∈ session.changes changeOf,
    Exclusive session.locks (access.rowKey (change.target access.key))

/-- Every pending version of a row evolves from the committed one, unless the
session deleted the row in between. -/
def Access.Faithful (access : Access Db Write Key Row Id)
    (changeOf : Write → Option (Change Row Id)) (evolves : Row → Row → Prop)
    (server : Server Db) (session : Session Result Write Key) : Prop :=
  ∀ row, .put row ∈ session.changes changeOf →
    .delete (access.key row) ∉ session.changes changeOf →
      ∀ base ∈ access.table server.db, access.key base = access.key row → evolves base row

/-- A relation between the versions of a row that every statement keeps. -/
structure Access.Evolution (access : Access Db Write Key Row Id)
    (dialect : Dialect Query Result Db Write Key Fault)
    (changeOf : Write → Option (Change Row Id)) (evolves : Row → Row → Prop) : Prop where
  trans : ∀ first second third, evolves first second → evolves second third → evolves first third
  authored : ∀ query context db result writes,
    dialect.eval query context db = .ok (result, writes) →
      ∀ row, .put row ∈ writes.filterMap changeOf →
        ∀ old ∈ access.table db, access.key old = access.key row → evolves old row

theorem Access.Lawful.guarded_extended (lawful : access.Lawful dialect changeOf)
    {session : Session Result Write Key} (guarded : access.Guarded changeOf session)
    (evaluated : dialect.eval query context db = .ok (result, writes)) :
    access.Guarded changeOf
      (session.extended query result (dialect.kept query context db) writes) := by
  intro change mem
  rw [Session.changes_extended] at mem
  rcases List.mem_append.mp mem with old | new
  · exact (guarded change old).mono (List.subset_append_left _ _)
  · exact (lawful.guarded query context db result writes evaluated change new).mono
      (List.subset_append_right _ _)

section Commit

variable [DecidableEq Key] {server : Server Db} {actor session : Session Result Write Key}

/-- A row that another session has locked is the same before and after a
commit. -/
theorem Access.Lawful.mem_committed_iff (lawful : access.Lawful dialect changeOf)
    (guarded : access.Guarded changeOf actor) (compatible : Compatible actor.locks session.locks)
    (exclusive : Exclusive session.locks (access.rowKey (access.key row))) :
    row ∈ access.table (dialect.committed server actor).db ↔ row ∈ access.table server.db := by
  have apart : ∀ change ∈ actor.changes changeOf, change.target access.key ≠ access.key row :=
    fun change mem about => compatible.not_exclusive (about ▸ guarded change mem) exclusive
  rw [Dialect.committed, lawful.table_view]
  constructor
  · intro mem
    rcases Table.mem_applyAll mem with put | ⟨old, _⟩
    · exact absurd rfl (apart _ put)
    · exact old
  · exact fun mem => Table.mem_applyAll_of_untouched mem apart

/-- What a session sees still inherits from the committed state after another
one's commit. -/
theorem Access.Lawful.inherits_committed (lawful : access.Lawful dialect changeOf)
    {matters : Row → Prop} {descends : Row → Row → Prop} (same : ∀ row, descends row row)
    (guardedActor : access.Guarded changeOf actor)
    (compatible : Compatible actor.locks session.locks)
    (guarded : access.Guarded changeOf session)
    (inherits : (access.table (dialect.view server session)).Inherits (access.table server.db)
      matters descends) :
    (access.table (dialect.view (dialect.committed server actor) session)).Inherits
      (access.table (dialect.committed server actor).db) matters descends := by
  intro row mem holds
  rw [lawful.table_view] at mem
  rcases Table.mem_applyAll mem with put | ⟨kept, _⟩
  · have seen : row ∈ access.table (dialect.view server session) := by
      rw [lawful.table_view]
      exact Table.mem_applyAll_of_touched ⟨_, put, rfl⟩ mem
    obtain ⟨old, memOld, keyOld, holdsOld, descended⟩ := inherits row seen holds
    have exclusive : Exclusive session.locks (access.rowKey (access.key old)) :=
      keyOld ▸ guarded _ put
    exact ⟨old, (lawful.mem_committed_iff guardedActor compatible exclusive).mpr memOld, keyOld,
      holdsOld, descended⟩
  · exact ⟨row, kept, rfl, holds, same row⟩

theorem Access.Lawful.faithful_committed (lawful : access.Lawful dialect changeOf)
    (guardedActor : access.Guarded changeOf actor)
    (compatible : Compatible actor.locks session.locks) (guarded : access.Guarded changeOf session)
    (faithful : access.Faithful changeOf evolves server session) :
    access.Faithful changeOf evolves (dialect.committed server actor) session := by
  intro row put kept base memBase keyEq
  have exclusive : Exclusive session.locks (access.rowKey (access.key base)) :=
    keyEq ▸ guarded _ put
  exact faithful row put kept base
    ((lawful.mem_committed_iff guardedActor compatible exclusive).mp memBase) keyEq

end Commit

/-- A statement that evolves the rows it puts from those the session sees keeps the
pending versions faithful. -/
theorem Access.Lawful.faithful_extended_of (lawful : access.Lawful dialect changeOf)
    (trans : ∀ first second third, evolves first second → evolves second third →
      evolves first third) {server : Server Db} {session : Session Result Write Key}
    {locks : List (Lock Key)} (faithful : access.Faithful changeOf evolves server session)
    (authored : ∀ row, .put row ∈ writes.filterMap changeOf →
      ∀ old ∈ access.table (dialect.view server session), access.key old = access.key row →
        evolves old row) :
    access.Faithful changeOf evolves server (session.extended query result locks writes) := by
  intro row put kept base memBase keyEq
  rw [Session.changes_extended] at put kept
  have keptBefore : .delete (access.key row) ∉ session.changes changeOf :=
    fun deleted => kept (List.mem_append_left _ deleted)
  rcases List.mem_append.mp put with old | new
  · exact faithful row old keptBefore base memBase keyEq
  · have authored := authored row new
    rw [lawful.table_view] at authored
    by_cases touched : ∃ prior, .put prior ∈ session.changes changeOf ∧
        access.key prior = access.key row
    · obtain ⟨prior, memPrior, keyPrior⟩ := touched
      obtain ⟨current, memCurrent, keyCurrent, putCurrent⟩ :=
        Table.exists_mem_applyAll_of_put (access.table server.db) memPrior
          (keyPrior ▸ keptBefore)
      have keySame := keyCurrent.trans keyPrior
      exact trans base current row
        (faithful current putCurrent (keySame ▸ keptBefore) base memBase (keyEq.trans keySame.symm))
        (authored current memCurrent keySame)
    · refine authored base (Table.mem_applyAll_of_untouched memBase ?_) keyEq
      intro change mem about
      cases change with
      | put prior => exact touched ⟨prior, mem, about.trans keyEq⟩
      | delete target =>
          rw [show target = access.key row from about.trans keyEq] at mem
          exact keptBefore mem

theorem Access.Lawful.faithful_extended (lawful : access.Lawful dialect changeOf)
    (evolution : access.Evolution dialect changeOf evolves) {server : Server Db}
    {session : Session Result Write Key} {locks : List (Lock Key)}
    (faithful : access.Faithful changeOf evolves server session)
    (evaluated : dialect.eval query context (dialect.view server session) =
      .ok (result, writes)) :
    access.Faithful changeOf evolves server (session.extended query result locks writes) :=
  lawful.faithful_extended_of evolution.trans faithful
    (evolution.authored query context _ result writes evaluated)

/-- A committed row that a session does not delete is, after its commit, the same
or a version that evolved from it. -/
theorem Access.Lawful.version_committed (lawful : access.Lawful dialect changeOf)
    {server : Server Db} {session : Session Result Write Key}
    (faithful : access.Faithful changeOf evolves server session)
    (mem : row ∈ access.table server.db)
    (kept : .delete (access.key row) ∉ session.changes changeOf) :
    ∃ version ∈ access.table (dialect.committed server session).db,
      access.key version = access.key row ∧
        (version = row ∨ .put version ∈ session.changes changeOf ∧ evolves row version) := by
  rw [Dialect.committed, lawful.table_view]
  by_cases touched : ∃ prior, .put prior ∈ session.changes changeOf ∧
      access.key prior = access.key row
  · obtain ⟨prior, memPrior, keyPrior⟩ := touched
    obtain ⟨version, memVersion, keyVersion, put⟩ :=
      Table.exists_mem_applyAll_of_put (access.table server.db) memPrior (keyPrior ▸ kept)
    have keySame := keyVersion.trans keyPrior
    exact ⟨version, memVersion, keySame,
      .inr ⟨put, faithful version put (keySame ▸ kept) row mem keySame.symm⟩⟩
  · refine ⟨row, Table.mem_applyAll_of_untouched mem fun change memChange about => ?_, rfl,
      .inl rfl⟩
    cases change with
    | put prior => exact touched ⟨prior, memChange, about⟩
    | delete target =>
        rw [show target = access.key row from about] at memChange
        exact kept memChange

/-! ## Unique indexes -/

/-- Every statement keeps the index entries of a table distinct and locks the
entries of the rows it puts. -/
structure Access.Indexed (access : Access Db Write Key Row Id)
    (dialect : Dialect Query Result Db Write Key Fault)
    (changeOf : Write → Option (Change Row Id)) : Prop where
  held : ∀ query context db result writes,
    dialect.eval query context db = .ok (result, writes) →
      ∀ row, .put row ∈ writes.filterMap changeOf →
        ∀ entry ∈ access.entries row, ⟨entry, .update⟩ ∈ dialect.kept query context db
  distinct : ∀ query context db result writes,
    dialect.eval query context db = .ok (result, writes) →
      (access.table db).DistinctBy access.entries →
        ((access.table db).applyAll (writes.filterMap changeOf)).DistinctBy access.entries

/-- The index entries are distinct in what the session sees, and it holds the
entries of the rows it has put. -/
structure Access.Distinct (access : Access Db Write Key Row Id)
    (dialect : Dialect Query Result Db Write Key Fault)
    (changeOf : Write → Option (Change Row Id)) (server : Server Db)
    (session : Session Result Write Key) : Prop where
  seen : (access.table (dialect.view server session)).DistinctBy access.entries
  held : ∀ row, .put row ∈ session.changes changeOf →
    ∀ entry ∈ access.entries row, ⟨entry, .update⟩ ∈ session.locks

/-- The row is all that a statement writes, and the statement locks its index entries. -/
structure Access.PutsOnly (access : Access Db Write Key Row Id) (writes : List Write)
    (kept : List (Lock Key)) (row : Row) : Prop where
  only : writes = [access.change (.put row)]
  held : ∀ entry ∈ access.entries row, ⟨entry, .update⟩ ∈ kept

theorem Access.Lawful.eq_of_change_eq (lawful : access.Lawful dialect changeOf)
    {row other : Row} (same : access.change (.put row) = access.change (.put other)) :
    row = other := by
  have found := (lawful.inverse _ (.put row)).mpr rfl
  rw [same, (lawful.inverse _ (.put other)).mpr rfl] at found
  exact (Change.put.inj (Option.some.inj found)).symm

theorem Access.Lawful.putsOnly_of_updateRow (lawful : access.Lawful dialect changeOf) {id : Id}
    {condition : Row → Bool} {set : Row → Except Fault Row} {result : Option Row} {row : Row}
    (yields : (access.updateRow db id condition set).Yields result writes)
    (put : access.change (.put row) ∈ writes) :
    access.PutsOnly writes (access.updateRow db id condition set).kept row := by
  rcases Access.updateRow_cases yields with ⟨_, rfl, _⟩ | ⟨_, _, updated, _, _, _, _, rfl, kept⟩
  · exact absurd put List.not_mem_nil
  · obtain rfl := lawful.eq_of_change_eq (List.mem_singleton.mp put)
    refine ⟨rfl, fun entry memEntry => ?_⟩
    rw [kept]
    exact List.mem_append_right _ (List.mem_map_of_mem memEntry)

theorem Access.Lawful.putsOnly_of_insertRow (lawful : access.Lawful dialect changeOf)
    {conflicting : Row → Bool} {refusal : Option Fault} {parents : List Key}
    {result : Option Row} {fresh row : Row}
    (yields : (access.insertRow db fresh conflicting refusal parents).Yields result writes)
    (put : access.change (.put row) ∈ writes) :
    access.PutsOnly writes (access.insertRow db fresh conflicting refusal parents).kept row := by
  rcases Access.insertRow_cases yields with ⟨_, rfl, _⟩ | ⟨_, _, _, rfl, _⟩
  · exact absurd put List.not_mem_nil
  · obtain rfl := lawful.eq_of_change_eq (List.mem_singleton.mp put)
    exact ⟨rfl, fun _ memEntry => Access.entry_of_insertRow yields put memEntry⟩

/-- An index holds if every statement puts one row at most, locks its entries, and leaves them to
no other row. -/
theorem Access.Lawful.indexed (lawful : access.Lawful dialect changeOf)
    (puts : ∀ {query context db result writes row},
      dialect.eval query context db = .ok (result, writes) → access.change (.put row) ∈ writes →
        access.PutsOnly writes (dialect.kept query context db) row)
    (apart : ∀ {query context db result writes row other entry},
      dialect.eval query context db = .ok (result, writes) → access.change (.put row) ∈ writes →
        (access.table db).DistinctBy access.entries → other ∈ access.table db →
          entry ∈ access.entries row → entry ∈ access.entries other →
            access.key row = access.key other) : access.Indexed dialect changeOf where
  held query context db result writes evaluated row mem :=
    (puts evaluated (lawful.mem_filterMap.mp mem)).held
  distinct query context db result writes evaluated distinct := by
    have origin : ∀ row ∈ (access.table db).applyAll (writes.filterMap changeOf),
        access.change (.put row) ∈ writes ∨ row ∈ access.table db := fun row mem =>
      (Table.mem_applyAll mem).imp lawful.mem_filterMap.mp And.left
    intro first memFirst second memSecond entry memEntry memEntry'
    refine Table.eq_of_key_eq memFirst memSecond ?_
    rcases origin first memFirst with put | old <;> rcases origin second memSecond with put' | old'
    · rw [(puts evaluated put).only] at put'
      rw [lawful.eq_of_change_eq (List.mem_singleton.mp put')]
    · exact apart evaluated put distinct old' memEntry memEntry'
    · exact (apart evaluated put' distinct old memEntry' memEntry).symm
    · rw [distinct first old second old' entry memEntry memEntry']

theorem Access.Lawful.distinct_extended (lawful : access.Lawful dialect changeOf)
    (indexed : access.Indexed dialect changeOf) {server : Server Db}
    {session : Session Result Write Key}
    (distinct : access.Distinct dialect changeOf server session)
    (evaluated : dialect.eval query context (dialect.view server session) =
      .ok (result, writes)) :
    access.Distinct dialect changeOf server (session.extended query result
      (dialect.kept query context (dialect.view server session)) writes) where
  seen := by
    have step := indexed.distinct query context _ result writes evaluated distinct.seen
    rw [lawful.table_view] at step ⊢
    rwa [Session.changes_extended, Table.applyAll_append]
  held row put entry mem := by
    rw [Session.changes_extended] at put
    rcases List.mem_append.mp put with old | new
    · exact List.mem_append_left _ (distinct.held row old entry mem)
    · exact List.mem_append_right _
        (indexed.held query context _ result writes evaluated row new entry mem)

section Commit

variable [DecidableEq Key] {server : Server Db} {actor session : Session Result Write Key}

/-- A row that is new to a session after another one's commit shares no entry
with a row the session has put. -/
theorem Access.Lawful.entry_apart (lawful : access.Lawful dialect changeOf)
    (compatible : Compatible actor.locks session.locks)
    (distinctActor : access.Distinct dialect changeOf server actor)
    (distinct : access.Distinct dialect changeOf server session) {mine other : Row} {entry : Key}
    (put : .put mine ∈ session.changes changeOf)
    (seen : mine ∈ access.table (dialect.view server session))
    (memOther : other ∈ access.table (dialect.committed server actor).db)
    (untouched : ∀ change ∈ session.changes changeOf,
      change.target access.key ≠ access.key other)
    (memEntry : entry ∈ access.entries mine) (memEntry' : entry ∈ access.entries other) :
    mine = other := by
  rw [Dialect.committed, lawful.table_view] at memOther
  rcases Table.mem_applyAll memOther with putOther | ⟨old, _⟩
  · have heldOther := distinctActor.held other putOther entry memEntry'
    have held := distinct.held mine put entry memEntry
    exact absurd rfl (compatible.key_ne heldOther held)
  · refine distinct.seen mine seen other ?_ entry memEntry memEntry'
    rw [lawful.table_view]
    exact Table.mem_applyAll_of_untouched old untouched

theorem Access.Lawful.distinct_committed (lawful : access.Lawful dialect changeOf)
    (compatible : Compatible actor.locks session.locks)
    (distinctActor : access.Distinct dialect changeOf server actor)
    (distinct : access.Distinct dialect changeOf server session) :
    access.Distinct dialect changeOf (dialect.committed server actor) session where
  held := distinct.held
  seen := by
    intro first memFirst second memSecond entry memEntry memEntry'
    have seenPut : ∀ row, .put row ∈ session.changes changeOf →
        row ∈ access.table (dialect.view (dialect.committed server actor) session) →
          row ∈ access.table (dialect.view server session) := by
      intro row put mem
      rw [lawful.table_view] at mem ⊢
      exact Table.mem_applyAll_of_touched ⟨_, put, rfl⟩ mem
    have origin := fun row (mem : row ∈ access.table (dialect.view _ session)) =>
      Table.mem_applyAll (lawful.table_view (dialect.committed server actor) session ▸ mem)
    rcases origin first memFirst with putFirst | ⟨oldFirst, untouchedFirst⟩ <;>
      rcases origin second memSecond with putSecond | ⟨oldSecond, untouchedSecond⟩
    · exact distinct.seen first (seenPut first putFirst memFirst) second
        (seenPut second putSecond memSecond) entry memEntry memEntry'
    · exact lawful.entry_apart compatible distinctActor distinct putFirst
        (seenPut first putFirst memFirst) oldSecond untouchedSecond memEntry memEntry'
    · exact (lawful.entry_apart compatible distinctActor distinct putSecond
        (seenPut second putSecond memSecond) oldFirst untouchedFirst memEntry' memEntry).symm
    · exact distinctActor.seen first oldFirst second oldSecond entry memEntry memEntry'

end Commit

/-! ## Facts of every run -/

section Run

variable [DecidableEq Key] {Call Outcome : Type}
  {code : Call → Program (Reply Result Fault) Outcome}
  {permits : Config (Reply Result Fault) Call (Server Db) (Session Result Write Key) Outcome →
    Action Call (Chance Fault) Nat → Prop} {server : Server Db}
  {config : Config (Reply Result Fault) Call (Server Db) (Session Result Write Key) Outcome}

/-- An invariant of the committed state and a property of every session hold in
every run, if sessions have the property when they are made, when a transaction starts and
when one ends, statements keep it, a commit of a session with the property keeps the
invariant, and the property survives the commits of sessions with compatible locks. -/
theorem Dialect.each_of_reaches_of (inv : Db → Prop)
    (property : Server Db → Session Result Write Key → Prop)
    (reaches : dialect.system.Reaches code permits (Config.initial server) config)
    (initially : inv server.db)
    (fresh : ∀ server, inv server.db → property server .fresh)
    (opens : ∀ server (session : Session Result Write Key), inv server.db →
      property server (session.opened server.now))
    (closes : ∀ server (session : Session Result Write Key), inv server.db →
      property server session.closed)
    (answers : ∀ server session query context result writes, property server session →
      dialect.eval query context (dialect.view server session) = .ok (result, writes) →
        property server (session.extended query result
          (dialect.kept query context (dialect.view server session)) writes))
    (commits : ∀ server session, inv server.db → property server session →
      inv (dialect.committed server session).db)
    (interferes : ∀ server actor session, Compatible actor.locks session.locks →
      property server actor → property server session →
        property (dialect.committed server actor) session)
    (timeless : ∀ server session now, property server session →
      property { server with now } session) :
    inv config.shared.db ∧ ∀ process ∈ config.processes, property config.shared process.loc := by
  refine System.Reaches.each reaches
    (fun reaches => compatible_of_reaches reaches) initially fresh ?_ ?_ ?_
  · intro statement chance server session inv holds
    cases statement with
    | begin =>
        cases chance with
        | proceed fresh => exact ⟨inv, opens server session inv⟩
        | fail | lose => exact ⟨inv, holds⟩
    | commit =>
        cases chance with
        | proceed | lose =>
            have inv' := commits server session inv holds
            exact ⟨inv', closes _ session inv'⟩
        | fail fault => exact ⟨inv, closes server session inv⟩
    | rollback => exact ⟨inv, closes server session inv⟩
    | query query =>
        cases chance with
        | fail | lose => exact ⟨inv, holds⟩
        | proceed fresh =>
            cases evaluated : dialect.eval query (context server session fresh)
                (dialect.view server session) with
            | error fault =>
                simp only [system, exec, evaluated]
                exact ⟨inv, holds⟩
            | ok result =>
                simp only [system, exec, evaluated]
                exact ⟨inv, answers _ _ _ _ _ _ holds evaluated⟩
  · intro statement chance server actor session compatible inv holdsActor holds
    cases statement with
    | commit =>
        cases chance with
        | proceed | lose => exact interferes server actor session compatible holdsActor holds
        | fail fault => exact holds
    | begin => cases chance <;> exact holds
    | rollback => exact holds
    | query query =>
        cases chance with
        | fail | lose => exact holds
        | proceed fresh =>
            simp only [system, exec]
            split <;> exact holds
  · exact fun elapsed server inv => ⟨inv, fun session holds => timeless server session _ holds⟩

/-- The same if every session without writes has the property. -/
theorem Dialect.each_of_reaches (inv : Db → Prop)
    (property : Server Db → Session Result Write Key → Prop)
    (reaches : dialect.system.Reaches code permits (Config.initial server) config)
    (initially : inv server.db)
    (blank : ∀ server session, inv server.db → session.writes = [] → property server session)
    (answers : ∀ server session query context result writes, property server session →
      dialect.eval query context (dialect.view server session) = .ok (result, writes) →
        property server (session.extended query result
          (dialect.kept query context (dialect.view server session)) writes))
    (commits : ∀ server session, inv server.db → property server session →
      inv (dialect.committed server session).db)
    (interferes : ∀ server actor session, Compatible actor.locks session.locks →
      property server actor → property server session →
        property (dialect.committed server actor) session)
    (timeless : ∀ server session now, property server session →
      property { server with now } session) :
    inv config.shared.db ∧ ∀ process ∈ config.processes, property config.shared process.loc :=
  Dialect.each_of_reaches_of inv property reaches initially
    (fun server inv => blank server _ inv rfl) (fun server _ inv => blank server _ inv rfl)
    (fun server _ inv => blank server _ inv rfl) answers commits interferes timeless

/-- A unique index holds in what every session of every run sees. -/
theorem Access.Lawful.distinct_of_reaches (lawful : access.Lawful dialect changeOf)
    (indexed : access.Indexed dialect changeOf)
    (reaches : dialect.system.Reaches code permits (Config.initial server) config)
    (initially : (access.table server.db).DistinctBy access.entries) :
    (access.table config.shared.db).DistinctBy access.entries ∧
      ∀ process ∈ config.processes, access.Distinct dialect changeOf config.shared process.loc := by
  refine Dialect.each_of_reaches (fun db => (access.table db).DistinctBy access.entries)
    (access.Distinct dialect changeOf) reaches initially ?_ ?_ ?_ ?_ ?_
  · intro server session distinct blank
    refine ⟨?_, fun row put => by simp [Session.changes, blank] at put⟩
    rw [Dialect.view, blank]
    exact distinct
  · exact fun server session query context result writes distinct evaluated =>
      lawful.distinct_extended indexed distinct evaluated
  · exact fun server session _ distinct => distinct.seen
  · exact fun server actor session compatible acting distinct =>
      lawful.distinct_committed compatible acting distinct
  · exact fun server session now distinct => ⟨distinct.seen, distinct.held⟩

end Run

end Relational
