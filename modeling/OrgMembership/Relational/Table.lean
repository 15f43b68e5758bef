import Mathlib.Data.List.Induction
import Mathlib.Data.List.Nodup
import Mathlib.Data.List.Perm.Subperm

/-!
# Keyed tables

A table is a list of rows in which no two rows share a key.  The order of the
rows carries no meaning: a written row moves to the end.  Rows are changed by
`Change`s, so that a transaction can collect its changes and a commit apply
them at once.
-/

namespace Relational

variable {Row Key : Type}

/-- Rows with pairwise distinct keys. -/
structure Table (key : Row → Key) where
  rows : List Row
  nodup : (rows.map key).Nodup

namespace Table

variable {key : Row → Key}

instance [DecidableEq Row] : DecidableEq (Table key) := fun first second =>
  decidable_of_iff (first.rows = second.rows)
    ⟨fun same => by cases first; cases second; cases same; rfl, fun same => same ▸ rfl⟩

instance : Membership Row (Table key) :=
  ⟨fun table row => row ∈ table.rows⟩

instance : EmptyCollection (Table key) :=
  ⟨⟨[], List.nodup_nil⟩⟩

/-- The table of one row. -/
def singleton (row : Row) : Table key :=
  ⟨[row], List.nodup_singleton _⟩

theorem mem_rows {table : Table key} {row : Row} : row ∈ table.rows ↔ row ∈ table :=
  Iff.rfl

@[simp]
theorem not_mem_empty (row : Row) : row ∉ (∅ : Table key) :=
  List.not_mem_nil

/-- A key determines its row. -/
theorem eq_of_key_eq {table : Table key} {first second : Row} (memFirst : first ∈ table)
    (memSecond : second ∈ table) (keyEq : key first = key second) : first = second :=
  List.inj_on_of_nodup_map table.nodup memFirst memSecond keyEq

/-- The rows that satisfy a condition. -/
def select (table : Table key) (condition : Row → Bool) : List Row :=
  table.rows.filter condition

@[simp]
theorem mem_select {table : Table key} {condition : Row → Bool} {row : Row} :
    row ∈ table.select condition ↔ row ∈ table ∧ condition row = true :=
  List.mem_filter

theorem select_eq_nil {table : Table key} {condition : Row → Bool}
    (misses : ∀ row ∈ table, condition row = false) : table.select condition = [] := by
  rw [select, List.filter_eq_nil_iff]
  exact fun row mem => by simp [misses row mem]

theorem select_eq_singleton {table : Table key} {condition : Row → Bool} {row : Row}
    (mem : row ∈ table) (holds : condition row = true)
    (only : ∀ other ∈ table, condition other = true → other = row) :
    table.select condition = [row] := by
  have distinct : (table.select condition).Nodup := table.nodup.of_map.filter _
  have same : table.select condition = List.replicate (table.select condition).length row := by
    rw [List.eq_replicate_iff]
    refine ⟨rfl, fun other memOther => ?_⟩
    obtain ⟨memOther, holdsOther⟩ := mem_select.mp memOther
    exact only other memOther holdsOther
  have once : (table.select condition).length ≤ 1 := by
    rw [same] at distinct
    exact List.nodup_replicate.mp distinct
  have some : 0 < (table.select condition).length :=
    List.length_pos_of_mem (mem_select.mpr ⟨mem, holds⟩)
  rw [same, show (table.select condition).length = 1 by omega]
  rfl

/-- Every row that matters stood in the earlier table under the same key, mattered
there, and descends to the later one. -/
def Inherits (after before : Table key) (matters : Row → Prop) (descends : Row → Row → Prop) :
    Prop :=
  ∀ row ∈ after, matters row →
    ∃ old ∈ before, key old = key row ∧ matters old ∧ descends old row

theorem Inherits.refl {matters : Row → Prop} {descends : Row → Row → Prop}
    (same : ∀ row, descends row row) (table : Table key) :
    table.Inherits table matters descends :=
  fun row mem holds => ⟨row, mem, rfl, holds, same row⟩

theorem Inherits.trans {first second third : Table key} {matters : Row → Prop}
    {descends : Row → Row → Prop}
    (composes : ∀ oldest old row, descends oldest old → descends old row → descends oldest row)
    (late : third.Inherits second matters descends)
    (early : second.Inherits first matters descends) :
    third.Inherits first matters descends := by
  intro row mem holds
  obtain ⟨old, memOld, keyOld, holdsOld, descended⟩ := late row mem holds
  obtain ⟨oldest, memOldest, keyOldest, holdsOldest, earlier⟩ := early old memOld holdsOld
  exact ⟨oldest, memOldest, keyOldest.trans keyOld, holdsOldest,
    composes oldest old row earlier descended⟩

/-- How many rows satisfy a condition. -/
def count (table : Table key) (condition : Row → Bool) : Nat :=
  table.rows.countP condition

/-- Two rows that count have different keys. -/
theorem exists_two_of_count {table : Table key} {condition : Row → Bool}
    (many : 1 < table.count condition) :
    ∃ first ∈ table, ∃ second ∈ table, first ≠ second ∧ condition first = true ∧
      condition second = true := by
  rw [count, List.countP_eq_length_filter] at many
  have nodup : (table.rows.filter condition).Nodup := (table.nodup.of_map).filter _
  obtain ⟨first, second, rest, split⟩ : ∃ first second rest,
      table.rows.filter condition = first :: second :: rest := by
    match shape : table.rows.filter condition with
    | [] => simp [shape] at many
    | [_] => simp [shape] at many
    | first :: second :: rest => exact ⟨first, second, rest, rfl⟩
  have memFirst : first ∈ table.rows.filter condition := by simp [split]
  have memSecond : second ∈ table.rows.filter condition := by simp [split]
  rw [split, List.nodup_cons] at nodup
  rw [List.mem_filter] at memFirst memSecond
  exact ⟨first, memFirst.1, second, memSecond.1, fun same => nodup.1 (by simp [same]),
    memFirst.2, memSecond.2⟩

/-- Counted rows that each come from another row, with the same key, are at most as
many as those. -/
theorem count_le_count {table other : Table key} {condition condition' : Row → Bool}
    (comes : ∀ row ∈ table, condition row = true →
      ∃ old ∈ other, key old = key row ∧ condition' old = true) :
    table.count condition ≤ other.count condition' := by
  rw [count, count, List.countP_eq_length_filter, List.countP_eq_length_filter,
    ← List.length_map key, ← List.length_map key]
  have nodup : ((table.rows.filter condition).map key).Nodup :=
    (List.filter_sublist.map key).nodup table.nodup
  refine (nodup.subperm fun target mem => ?_).length_le
  obtain ⟨row, memRow, rfl⟩ := List.mem_map.mp mem
  obtain ⟨memRow, holds⟩ := List.mem_filter.mp memRow
  obtain ⟨old, memOld, keyEq, holdsOld⟩ := comes row memRow holds
  exact List.mem_map.mpr ⟨old, List.mem_filter.mpr ⟨memOld, holdsOld⟩, keyEq⟩

/-- One key may count without coming from another row. -/
theorem count_le_count_succ {table other : Table key} {condition condition' : Row → Bool}
    (target : Key) (comes : ∀ row ∈ table, condition row = true → key row ≠ target →
      ∃ old ∈ other, key old = key row ∧ condition' old = true) :
    table.count condition ≤ other.count condition' + 1 := by
  rw [count, count, List.countP_eq_length_filter, List.countP_eq_length_filter,
    ← List.length_map key, ← List.length_map key]
  change _ ≤ (target :: (other.rows.filter condition').map key).length
  have nodup : ((table.rows.filter condition).map key).Nodup :=
    (List.filter_sublist.map key).nodup table.nodup
  refine (nodup.subperm fun found mem => ?_).length_le
  obtain ⟨row, memRow, rfl⟩ := List.mem_map.mp mem
  obtain ⟨memRow, holds⟩ := List.mem_filter.mp memRow
  by_cases same : key row = target
  · rw [same]
    exact List.mem_cons_self
  · obtain ⟨old, memOld, keyEq, holdsOld⟩ := comes row memRow holds same
    exact List.mem_cons_of_mem _
      (List.mem_map.mpr ⟨old, List.mem_filter.mpr ⟨memOld, holdsOld⟩, keyEq⟩)

/-- A counted row that another condition leaves out. -/
theorem count_lt_count {table : Table key} {condition condition' : Row → Bool} {row : Row}
    (mem : row ∈ table) (counts : condition' row = true)
    (fewer : ∀ other ∈ table, condition other = true → other ≠ row ∧ condition' other = true) :
    table.count condition < table.count condition' := by
  rw [count, count, List.countP_eq_length_filter, List.countP_eq_length_filter]
  have nodup : (table.rows.filter condition).Nodup := (table.nodup.of_map).filter _
  have fresh : row ∉ table.rows.filter condition := fun found =>
    (fewer row mem (List.mem_filter.mp found).2).1 rfl
  refine ((List.nodup_cons.mpr ⟨fresh, nodup⟩).subperm ?_).length_le
  rintro other (_ | ⟨_, memOther⟩)
  · exact List.mem_filter.mpr ⟨mem, counts⟩
  · obtain ⟨memOther, holds⟩ := List.mem_filter.mp memOther
    exact List.mem_filter.mpr ⟨memOther, (fewer other memOther holds).2⟩

/-- Some row that satisfies a condition. -/
def first? (table : Table key) (condition : Row → Bool) : Option Row :=
  table.rows.find? condition

theorem first?_some {table : Table key} {condition : Row → Bool} {row : Row}
    (found : table.first? condition = some row) : row ∈ table ∧ condition row = true :=
  ⟨List.mem_of_find?_eq_some found, List.find?_some found⟩

theorem first?_eq_none {table : Table key} {condition : Row → Bool} :
    table.first? condition = none ↔ ∀ row ∈ table, condition row = false := by
  simp [first?, mem_rows]

/-- No two rows share an index entry. -/
def DistinctBy {Entry : Type} (table : Table key) (entries : Row → List Entry) : Prop :=
  ∀ first ∈ table, ∀ second ∈ table, ∀ entry ∈ entries first, entry ∈ entries second →
    first = second

instance {Entry : Type} [DecidableEq Row] [DecidableEq Entry] (table : Table key)
    (entries : Row → List Entry) : Decidable (table.DistinctBy entries) :=
  inferInstanceAs (Decidable (∀ first ∈ table.rows, ∀ second ∈ table.rows,
    ∀ entry ∈ entries first, entry ∈ entries second → first = second))

/-- A partial unique index: the rows that meet its condition differ in its columns. -/
theorem distinctBy_iff {Entry : Type} {table : Table key} {entries : Row → List Entry}
    {condition : Row → Prop} {columns : Row → Entry}
    (indexed : ∀ row entry, entry ∈ entries row ↔ condition row ∧ entry = columns row) :
    table.DistinctBy entries ↔ ∀ first ∈ table, ∀ second ∈ table, condition first →
      condition second → columns first = columns second → first = second := by
  constructor
  · intro distinct first memFirst second memSecond holds holds' same
    exact distinct first memFirst second memSecond _ ((indexed _ _).mpr ⟨holds, rfl⟩)
      ((indexed _ _).mpr ⟨holds', same⟩)
  · intro differ first memFirst second memSecond entry memEntry memEntry'
    obtain ⟨holds, rfl⟩ := (indexed _ _).mp memEntry
    obtain ⟨holds', same⟩ := (indexed _ _).mp memEntry'
    exact differ first memFirst second memSecond holds holds' same

/-- At most one row has an index entry. -/
theorem DistinctBy.length_select_le {Entry : Type} {table : Table key} {entries : Row → List Entry}
    {condition : Row → Bool} {entry : Entry} (distinct : table.DistinctBy entries)
    (indexed : ∀ row, condition row = true → entry ∈ entries row) :
    (table.select condition).length ≤ 1 := by
  have single : ∀ first ∈ table.select condition, ∀ second ∈ table.select condition,
      first = second := by
    intro first memFirst second memSecond
    obtain ⟨memFirst, holdsFirst⟩ := mem_select.mp memFirst
    obtain ⟨memSecond, holdsSecond⟩ := mem_select.mp memSecond
    exact distinct first memFirst second memSecond entry (indexed first holdsFirst)
      (indexed second holdsSecond)
  have nodup : (table.select condition).Nodup :=
    (List.Nodup.of_map key table.nodup).filter condition
  match shape : table.select condition with
  | [] | [_] => simp
  | first :: second :: _ =>
      rw [shape] at single nodup
      have same := single first (by simp) second (by simp)
      simp [same] at nodup

variable [DecidableEq Key]

/-- Remove the row with the given key, if there is one. -/
def erase (table : Table key) (target : Key) : Table key where
  rows := table.rows.filter fun row => key row ≠ target
  nodup := (List.filter_sublist.map key).nodup table.nodup

@[simp]
theorem mem_erase {table : Table key} {target : Key} {row : Row} :
    row ∈ table.erase target ↔ row ∈ table ∧ key row ≠ target := by
  simp [← mem_rows, erase]

/-- Write a row, replacing the row with the same key. -/
def put (table : Table key) (row : Row) : Table key where
  rows := (table.erase (key row)).rows ++ [row]
  nodup := by
    rw [List.map_append, List.nodup_append]
    refine ⟨(table.erase (key row)).nodup, by simp, ?_⟩
    intro target found
    obtain ⟨other, member, rfl⟩ := List.mem_map.mp found
    simpa using (mem_erase.mp member).2

@[simp]
theorem mem_put {table : Table key} {row other : Row} :
    other ∈ table.put row ↔ other = row ∨ other ∈ table ∧ key other ≠ key row := by
  rw [← mem_rows, put, List.mem_append, mem_rows, mem_erase, List.mem_singleton, or_comm]

/-- The row with the given key. -/
def find? (table : Table key) (target : Key) : Option Row :=
  table.rows.find? fun row => key row = target

theorem find?_eq_some {table : Table key} {target : Key} {row : Row} :
    table.find? target = some row ↔ row ∈ table ∧ key row = target := by
  constructor
  · intro found
    exact ⟨List.mem_of_find?_eq_some found, by simpa using List.find?_some found⟩
  · rintro ⟨member, rfl⟩
    cases found : table.find? (key row) with
    | none => simpa using List.find?_eq_none.mp found row member
    | some other =>
        have otherKey : key other = key row := by simpa using List.find?_some found
        rw [eq_of_key_eq (List.mem_of_find?_eq_some found) member otherKey]

theorem find?_eq_none {table : Table key} {target : Key} :
    table.find? target = none ↔ ∀ row ∈ table, key row ≠ target := by
  simp [find?, mem_rows]

/-- Some row has the key. -/
def Has (table : Table key) (target : Key) : Prop :=
  ∃ row ∈ table, key row = target

theorem isSome_find? {table : Table key} {target : Key} :
    (table.find? target).isSome = true ↔ table.Has target := by
  simp [Option.isSome_iff_exists, find?_eq_some, Has]

instance (table : Table key) (target : Key) : Decidable (table.Has target) :=
  decidable_of_iff _ isSome_find?

omit [DecidableEq Key] in
@[simp]
theorem not_has_empty (target : Key) : ¬(∅ : Table key).Has target := by
  simp [Has]

@[simp]
theorem has_put {table : Table key} {row : Row} {target : Key} :
    (table.put row).Has target ↔ key row = target ∨ table.Has target := by
  constructor
  · rintro ⟨other, mem, rfl⟩
    rcases mem_put.mp mem with rfl | ⟨old, _⟩
    · exact .inl rfl
    · exact .inr ⟨other, old, rfl⟩
  · rintro (rfl | ⟨other, mem, rfl⟩)
    · exact ⟨row, mem_put.mpr (.inl rfl), rfl⟩
    · by_cases same : key other = key row
      · exact ⟨row, mem_put.mpr (.inl rfl), same.symm⟩
      · exact ⟨other, mem_put.mpr (.inr ⟨mem, same⟩), rfl⟩

@[simp]
theorem has_erase {table : Table key} {erased target : Key} :
    (table.erase erased).Has target ↔ table.Has target ∧ target ≠ erased := by
  constructor
  · rintro ⟨row, mem, rfl⟩
    exact ⟨⟨row, (mem_erase.mp mem).1, rfl⟩, (mem_erase.mp mem).2⟩
  · rintro ⟨⟨row, mem, rfl⟩, apart⟩
    exact ⟨row, mem_erase.mpr ⟨mem, apart⟩, rfl⟩

end Table

/-! ## Changes -/

/-- One change of a table. -/
inductive Change (Row Key : Type)
  | put (row : Row)
  | delete (target : Key)

namespace Change

/-- The key a change is about. -/
def target (key : Row → Key) : Change Row Key → Key
  | put row => key row
  | delete target => target

end Change

namespace Table

variable {key : Row → Key} [DecidableEq Key]

/-- Apply one change. -/
def apply (table : Table key) : Change Row Key → Table key
  | .put row => table.put row
  | .delete target => table.erase target

/-- A row of a changed table was put by the change or stood there before and is
not what the change is about. -/
theorem mem_apply {table : Table key} {change : Change Row Key} {row : Row} :
    row ∈ table.apply change ↔
      change = .put row ∨ row ∈ table ∧ key row ≠ change.target key := by
  cases change with
  | put other =>
      rw [apply, mem_put, Change.put.injEq, eq_comm]
      rfl
  | delete target => simp [apply, Change.target]

/-- Apply changes in order. -/
def applyAll (table : Table key) (changes : List (Change Row Key)) : Table key :=
  changes.foldl apply table

@[simp]
theorem applyAll_nil (table : Table key) : table.applyAll [] = table :=
  rfl

theorem applyAll_cons (table : Table key) (change : Change Row Key)
    (changes : List (Change Row Key)) :
    table.applyAll (change :: changes) = (table.apply change).applyAll changes :=
  rfl

theorem applyAll_append (table : Table key) (first second : List (Change Row Key)) :
    table.applyAll (first ++ second) = (table.applyAll first).applyAll second :=
  List.foldl_append

/-- A row whose key no change is about stays. -/
theorem mem_applyAll_of_untouched {table : Table key} {changes : List (Change Row Key)} {row : Row}
    (mem : row ∈ table) (untouched : ∀ change ∈ changes, change.target key ≠ key row) :
    row ∈ table.applyAll changes := by
  induction changes generalizing table with
  | nil => exact mem
  | cons change changes ih =>
      rw [applyAll_cons]
      apply ih
      · exact mem_apply.mpr (.inr ⟨mem, (untouched change List.mem_cons_self).symm⟩)
      · exact fun other memOther => untouched other (List.mem_cons_of_mem _ memOther)

/-- A row of the changed table was put by a change or stood there untouched. -/
theorem mem_applyAll {table : Table key} {changes : List (Change Row Key)} {row : Row}
    (mem : row ∈ table.applyAll changes) :
    .put row ∈ changes ∨ row ∈ table ∧ ∀ change ∈ changes, change.target key ≠ key row := by
  induction changes generalizing table with
  | nil => exact .inr ⟨mem, by simp⟩
  | cons change changes ih =>
      rw [applyAll_cons] at mem
      rcases ih mem with put | ⟨kept, untouched⟩
      · exact .inl (List.mem_cons_of_mem _ put)
      · rcases mem_apply.mp kept with rfl | ⟨old, apart⟩
        · exact .inl List.mem_cons_self
        · refine .inr ⟨old, fun other memOther => ?_⟩
          rcases List.mem_cons.mp memOther with rfl | later
          · exact apart.symm
          · exact untouched other later

/-- A key that some change puts and none deletes ends with a row that was put. -/
theorem exists_mem_applyAll_of_put (table : Table key) {changes : List (Change Row Key)}
    {row : Row} (put : .put row ∈ changes) (kept : .delete (key row) ∉ changes) :
    ∃ current ∈ table.applyAll changes, key current = key row ∧ .put current ∈ changes := by
  induction changes using List.reverseRecOn with
  | nil => exact absurd put List.not_mem_nil
  | append_singleton changes change ih =>
      rw [applyAll_append, applyAll_cons, applyAll_nil]
      by_cases last : change.target key = key row
      · cases change with
        | put current =>
            exact ⟨current, mem_apply.mpr (.inl rfl), last, by simp⟩
        | delete target =>
            rw [← show target = key row from last] at kept
            simp at kept
      · have earlier : .put row ∈ changes := by
          rcases List.mem_append.mp put with earlier | latest
          · exact earlier
          · rw [← List.mem_singleton.mp latest] at last
            exact absurd rfl last
        obtain ⟨current, mem, keyEq, memPut⟩ :=
          ih earlier fun deleted => kept (List.mem_append_left _ deleted)
        exact ⟨current, mem_apply.mpr (.inr ⟨mem, keyEq ▸ Ne.symm last⟩), keyEq,
          List.mem_append_left _ memPut⟩

/-- What a table has after changes that do not delete it. -/
theorem has_applyAll {table : Table key} {changes : List (Change Row Key)} {target : Key}
    (kept : .delete target ∉ changes) :
    (table.applyAll changes).Has target ↔
      (∃ row, .put row ∈ changes ∧ key row = target) ∨ table.Has target := by
  induction changes generalizing table with
  | nil => simp
  | cons change changes ih =>
      rw [applyAll_cons, ih fun deleted => kept (List.mem_cons_of_mem _ deleted)]
      cases change with
      | put row =>
          simp only [apply, has_put, List.mem_cons, Change.put.injEq, or_and_right, exists_or,
            exists_eq_left]
          rw [or_left_comm, or_assoc]
      | delete erased =>
          have apart : target ≠ erased := fun same => kept (same ▸ List.mem_cons_self)
          simp [apply, apart]

/-- What changes make of a key they touch does not depend on the table. -/
theorem mem_applyAll_of_touched {table other : Table key} {changes : List (Change Row Key)}
    {row : Row} (touched : ∃ change ∈ changes, change.target key = key row)
    (mem : row ∈ table.applyAll changes) : row ∈ other.applyAll changes := by
  induction changes using List.reverseRecOn with
  | nil => simp at touched
  | append_singleton changes change ih =>
      rw [applyAll_append, applyAll_cons, applyAll_nil] at mem ⊢
      rcases mem_apply.mp mem with rfl | ⟨kept, apart⟩
      · exact mem_apply.mpr (.inl rfl)
      · refine mem_apply.mpr (.inr ⟨ih ?_ kept, apart⟩)
        obtain ⟨first, memFirst, about⟩ := touched
        rcases List.mem_append.mp memFirst with earlier | latest
        · exact ⟨first, earlier, about⟩
        · rw [List.mem_singleton.mp latest] at about
          exact absurd about.symm apart

/-- A selection that a change is not about keeps its rows and their order. -/
theorem select_apply_of_apart {table : Table key} {change : Change Row Key}
    {condition : Row → Bool} (fresh : ∀ row, change = .put row → condition row = false)
    (apart : ∀ row ∈ table, key row = change.target key → condition row = false) :
    (table.apply change).select condition = table.select condition := by
  have erased : (table.erase (change.target key)).select condition = table.select condition := by
    rw [select, select, erase, List.filter_filter]
    refine List.filter_congr fun row mem => ?_
    by_cases about : key row = change.target key
    · simp [apart row mem about]
    · simp [about]
  cases change with
  | put row =>
      rw [apply, ← erased, select, put, List.filter_append]
      simp [fresh row rfl, select, Change.target]
  | delete target => exact erased

/-- A new row of a selection comes after the others. -/
theorem select_put_fresh {table : Table key} {condition : Row → Bool} {row : Row}
    (unused : ∀ other ∈ table, key other ≠ key row) (selected : condition row = true) :
    (table.put row).select condition = table.select condition ++ [row] := by
  have kept : (table.erase (key row)).rows = table.rows :=
    List.filter_eq_self.mpr fun other mem => by simpa using unused other mem
  rw [select, put, List.filter_append, kept, select]
  simp [selected]

theorem select_applyAll_of_apart {table : Table key} {changes : List (Change Row Key)}
    {condition : Row → Bool} (fresh : ∀ row, .put row ∈ changes → condition row = false)
    (apart : ∀ change ∈ changes, ∀ row ∈ table, key row = change.target key →
      condition row = false) :
    (table.applyAll changes).select condition = table.select condition := by
  induction changes generalizing table with
  | nil => rfl
  | cons change changes ih =>
      rw [applyAll_cons, ih]
      · apply select_apply_of_apart
        · rintro row rfl
          exact fresh row List.mem_cons_self
        · exact apart change List.mem_cons_self
      · exact fun row mem => fresh row (List.mem_cons_of_mem _ mem)
      · intro later mem row memRow about
        rcases mem_apply.mp memRow with rfl | ⟨old, _⟩
        · exact fresh row List.mem_cons_self
        · exact apart later (List.mem_cons_of_mem _ mem) row old about

/-! ## Replacing a selection -/

omit [DecidableEq Key] in
theorem exists_of_forall₂ {updates : Row → Row → Prop} {olds news : List Row} {old : Row}
    (replaces : List.Forall₂ updates olds news) (mem : old ∈ olds) :
    ∃ new ∈ news, updates old new := by
  induction replaces with
  | nil => cases mem
  | cons first _ ih =>
      rcases List.mem_cons.mp mem with rfl | later
      · exact ⟨_, List.mem_cons_self, first⟩
      · obtain ⟨new, memNew, updated⟩ := ih later
        exact ⟨new, List.mem_cons_of_mem _ memNew, updated⟩

omit [DecidableEq Key] in
theorem map_of_forall₂ {β : Type} {field : Row → β} {updates : Row → Row → Prop}
    {olds news : List Row} (kept : ∀ old new, updates old new → field new = field old)
    (replaces : List.Forall₂ updates olds news) : news.map field = olds.map field := by
  induction replaces with
  | nil => rfl
  | cons first _ ih => rw [List.map_cons, List.map_cons, kept _ _ first, ih]

section Replace

variable {table : Table key} {condition : Row → Bool} {updates : Row → Row → Prop}
  {rows : List Row} (keyed : ∀ old new, updates old new → key new = key old)
  (replaces : List.Forall₂ updates (table.select condition) rows)

include keyed replaces

/-- After the rows of a selection are replaced, a row is one of the new ones or was not
selected. -/
theorem mem_replaced {row : Row} (mem : row ∈ table.applyAll (rows.map .put)) :
    (∃ old, updates old row) ∨ row ∈ table ∧ condition row = false := by
  rcases mem_applyAll mem with put | ⟨old, untouched⟩
  · obtain ⟨_, memNew, made⟩ := List.mem_map.mp put
    cases made
    obtain ⟨old, _, updated⟩ := exists_of_forall₂ replaces.flip memNew
    exact .inl ⟨old, updated⟩
  · right
    refine ⟨old, Bool.eq_false_iff.mpr fun selected => ?_⟩
    obtain ⟨new, memNew, updated⟩ := exists_of_forall₂ replaces (mem_select.mpr ⟨old, selected⟩)
    exact untouched (.put new) (List.mem_map_of_mem memNew) (keyed row new updated)

/-- Another selection keeps its rows. -/
theorem select_replaced {other : Row → Bool}
    (apart : ∀ row, condition row = true → other row = false)
    (leaves : ∀ old new, updates old new → other old = false → other new = false) :
    (table.applyAll (rows.map .put)).select other = table.select other := by
  have source : ∀ new ∈ rows, ∃ old ∈ table, other old = false ∧ updates old new := by
    intro new mem
    obtain ⟨old, memOld, updated⟩ := exists_of_forall₂ replaces.flip mem
    obtain ⟨memOld, selected⟩ := mem_select.mp memOld
    exact ⟨old, memOld, apart old selected, updated⟩
  apply select_applyAll_of_apart
  · intro row put
    obtain ⟨_, memNew, made⟩ := List.mem_map.mp put
    cases made
    obtain ⟨old, _, missed, updated⟩ := source row memNew
    exact leaves old row updated missed
  · intro change mem row memRow about
    obtain ⟨new, memNew, rfl⟩ := List.mem_map.mp mem
    obtain ⟨old, memOld, missed, updated⟩ := source new memNew
    rwa [eq_of_key_eq memRow memOld (about.trans (keyed old new updated))]

end Replace

end Table

end Relational
