import Mathlib.Data.List.Basic

/-!
# Row locks

The four strengths of Postgres row locks with their conflict table.  A lock is
taken on a key; unique-index entries and advisory locks are keys like rows and
are always taken at full strength.
-/

namespace Relational

/-- The row-lock strengths, weakest first. -/
inductive LockMode
  | keyShare
  | share
  | noKeyUpdate
  | update
  deriving DecidableEq

/-- Two transactions cannot hold conflicting modes of one key. -/
def LockMode.conflicts : LockMode → LockMode → Bool
  | .keyShare, other => other = .update
  | .share, other => other = .noKeyUpdate || other = .update
  | .noKeyUpdate, other => other ≠ .keyShare
  | .update, _ => true

theorem LockMode.conflicts_comm (first second : LockMode) :
    first.conflicts second = second.conflicts first := by
  cases first <;> cases second <;> rfl

/-- A mode held on a key. -/
structure Lock (Key : Type) where
  key : Key
  mode : LockMode
  deriving DecidableEq

variable {Key : Type} [DecidableEq Key]

/-- Locks of different transactions that exclude each other. -/
def Lock.conflicts (first second : Lock Key) : Bool :=
  first.key = second.key && first.mode.conflicts second.mode

theorem Lock.conflicts_comm (first second : Lock Key) :
    first.conflicts second = second.conflicts first := by
  rw [Lock.conflicts, Lock.conflicts, LockMode.conflicts_comm]
  simp only [eq_comm]

/-- No lock of one list conflicts with a lock of the other. -/
def Compatible (first second : List (Lock Key)) : Prop :=
  ∀ lock ∈ first, ∀ other ∈ second, lock.conflicts other = false

theorem Compatible.symm {first second : List (Lock Key)} (compatible : Compatible first second) :
    Compatible second first := by
  intro lock mem other memOther
  rw [Lock.conflicts_comm]
  exact compatible other memOther lock mem

theorem Compatible.append {first second others : List (Lock Key)}
    (compatibleFirst : Compatible first others) (compatibleSecond : Compatible second others) :
    Compatible (first ++ second) others := by
  intro lock mem
  rcases List.mem_append.mp mem with inFirst | inSecond
  · exact compatibleFirst lock inFirst
  · exact compatibleSecond lock inSecond

/-- A full-strength lock excludes every lock of another transaction on its key. -/
theorem Compatible.key_ne {first second : List (Lock Key)} (compatible : Compatible first second)
    {key : Key} (held : ⟨key, .update⟩ ∈ first) {lock : Lock Key} (mem : lock ∈ second) :
    lock.key ≠ key := by
  rintro rfl
  simpa [Lock.conflicts, LockMode.conflicts] using compatible _ held lock mem

/-- The locks a writer of a row holds on it. -/
def Exclusive (locks : List (Lock Key)) (key : Key) : Prop :=
  ⟨key, .noKeyUpdate⟩ ∈ locks ∨ ⟨key, .update⟩ ∈ locks

omit [DecidableEq Key] in
theorem Exclusive.mono {locks more : List (Lock Key)} {key : Key} (exclusive : Exclusive locks key)
    (subset : locks ⊆ more) : Exclusive more key :=
  exclusive.imp (subset ·) (subset ·)

/-- No two transactions write one row. -/
theorem Compatible.not_exclusive {first second : List (Lock Key)}
    (compatible : Compatible first second) {key : Key} (exclusive : Exclusive first key) :
    ¬Exclusive second key := by
  intro other
  rcases exclusive with held | held <;> rcases other with held' | held' <;>
    simpa [Lock.conflicts, LockMode.conflicts] using compatible _ held _ held'

end Relational
