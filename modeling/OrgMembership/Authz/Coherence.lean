import Mathlib.Logic.Relation
import OrgMembership.Authz.Departments
import OrgMembership.Authz.Visible

/-!
# Coherence of the I-8 cache

Every call that changes the membership, the roles or the departments of a user evicts the
`om:memberships` entry of that user once it knows of its commit, and none changes those of another
user.  So a cached projection shows what a fresh read would, unless a COMMIT was carried out
without an answer.
-/

namespace OrgMembership

open Concurrency Relational

namespace Coherence

variable {σ α : Type} {tenantID userID : Uuid} {base db : Db}

/-- Whether a call that went through evicts the user's entry.  I-10 returns at once when the
user is in no group. -/
def evicts : UserCall → Bool
  | .assignFromGroups groups _ _ => !groups.isEmpty
  | _ => true

/-- The cache after a call.  A call that fails returns before the eviction. -/
def evict (call : UserCall) (tenantID userID : Uuid) (outcome : Except Failure Unit)
    (cache : MembershipCache) : MembershipCache :=
  match outcome with
  | .error _ => cache
  | .ok _ => if evicts call then cache.put tenantID userID none else cache

/-- A call that goes through without an eviction changes nothing. -/
theorem alone_of_not_evicts {call : UserCall} (spares : evicts call = false) :
    Alone (· = base) (performCall tenantID userID call) (fun _ db => db = base)
      fun _ db => db = base := by
  cases call with
  | assignFromGroups groups mappings order =>
      have unchanged : Alone (· = base)
          (assignFromGroups tenantID userID groups mappings order : DbM Unit _)
          (fun _ db => db = base) fun _ db => db = base := by
        rw [assignFromGroups, if_pos (by simpa [evicts] using spares)]
        exact alone_pure fun _ same => same
      exact AloneBy.bind unchanged fun _ => alone_pure fun _ same => same
  | _ => exact (Bool.false_ne_true spares.symm).elim

/-! ## Every sequence of calls -/

/-- The database and the keys of I-8. -/
structure World where
  server : DbServer
  cache : MembershipCache

/-- The user has no entry, or one that shows what a fresh read would. -/
def Coherent (tenantID userID : Uuid) (world : World) : Prop :=
  ∀ entry, world.cache.entries tenantID userID = some entry →
    visibleOf tenantID userID world.server.db = some entry.projection.visible

theorem Coherent.empty {server : DbServer} : Coherent tenantID userID ⟨server, .empty⟩ := by
  intro entry cached
  cases cached

/-- One call completes before the next starts, I-8 answers, or time passes, in which entries may
expire and plans may change.  The server's choices during a call may depend on its user. -/
inductive Step (given : Uuid → Uuid → Chance PgError → Bool) : World → World → Prop
  | call {before : World} {after : DbServer} (tenantID userID : Uuid) (call : UserCall)
      (outcome : Except Failure Unit)
      (completes : OrgMembership.server.CompletesBy (given tenantID userID)
        (performCall tenantID userID call).run before.server outcome after) :
      Step given before ⟨after, evict call tenantID userID outcome before.cache⟩
  | get (before : World) (lookups : Lookups) (tenantID userID : Uuid) (rows : Except Failure Db)
      (reads : ∀ db, rows = .ok db → db = before.server.db) :
      Step given before
        ⟨before.server, (getMembership lookups before.cache tenantID userID rows).2⟩
  | wait (before : World) (elapsed : Nat) (cache : MembershipCache)
      (lost : ∀ tenantID userID, cache.entries tenantID userID = none ∨
        cache.entries tenantID userID = before.cache.entries tenantID userID) :
      Step given before ⟨OrgMembership.server.signal elapsed before.server, cache⟩

/-- A call about the user whose COMMIT, if it is carried out, is answered. -/
theorem Coherent.own {before : World} {after : DbServer} {call : UserCall}
    {outcome : Except Failure Unit} (coherent : Coherent tenantID userID before)
    (completes : OrgMembership.server.CompletesBy Chance.isAnswered
      (performCall tenantID userID call).run before.server outcome after) :
    Coherent tenantID userID ⟨after, evict call tenantID userID outcome before.cache⟩ := by
  have ended := (frames_performCall (restores_answered
    (Framed.refl tenantID userID before.server.db))).ended completes rfl
  intro entry cached
  cases outcome with
  | error failure =>
      have unchanged : after.db = before.server.db := ended
      rw [unchanged]
      exact coherent entry cached
  | ok value =>
      cases evicted : evicts call with
      | true =>
          rw [evict, if_pos evicted, MembershipCache.entries_put] at cached
          cases cached
      | false =>
          have unchanged : after.db = before.server.db :=
            (alone_of_not_evicts evicted).ended completes.completes rfl
          rw [unchanged]
          rw [evict, if_neg (by simp [evicted])] at cached
          exact coherent entry cached

/-- A call about another user, however it ends. -/
theorem Coherent.other {before : World} {after : DbServer} {call : UserCall}
    {outcome : Except Failure Unit} {otherTenant otherUser : Uuid}
    (coherent : Coherent tenantID userID before)
    (other : (tenantID, userID) ≠ (otherTenant, otherUser))
    (completes : OrgMembership.server.Completes
      (performCall otherTenant otherUser call).run before.server outcome after) :
    Coherent tenantID userID ⟨after, evict call otherTenant otherUser outcome before.cache⟩ := by
  have ended := (frames_performCall restores_refl).ended completes
    (Framed.refl otherTenant otherUser before.server.db)
  have framed : Framed otherTenant otherUser before.server.db after.db := by
    cases outcome with
    | error => exact ended
    | ok => exact ended
  have kept : (evict call otherTenant otherUser outcome before.cache).entries tenantID userID =
      before.cache.entries tenantID userID := by
    cases outcome with
    | error => rfl
    | ok =>
        rw [evict]
        split
        · exact MembershipCache.entries_put_of_ne other
        · rfl
  intro entry cached
  rw [← coherent entry (kept.symm.trans cached)]
  exact AuthZRepository.visibleOf_congr (framed.others _ _ other) (framed.tenants _)

/-- An answer of I-8 shows what a fresh read would: the same of the member, or not found if
there is none.  Without an entry it needs the database. -/
def Fresh (lookups : Lookups) (tenantID userID : Uuid) (db : Db) (rows : Except Failure Db) :
    Except Failure MembershipProjection → Prop
  | .ok projection => ∃ fresh, readFromDB lookups tenantID userID db = some fresh ∧
      projection.visible = fresh.visible
  | .error failure => rows = .error failure ∨
      readFromDB lookups tenantID userID db = none ∧
        failure = newError .memberNotFound "no active membership in this tenant"

theorem Coherent.get {world : World} (coherent : Coherent tenantID userID world)
    {lookups : Lookups} {rows : Except Failure Db}
    (reads : ∀ db, rows = .ok db → db = world.server.db) :
    Fresh lookups tenantID userID world.server.db rows
        (getMembership lookups world.cache tenantID userID rows).1 ∧
      Coherent tenantID userID
        ⟨world.server, (getMembership lookups world.cache tenantID userID rows).2⟩ := by
  have shown := map_visible_readFromDB lookups tenantID userID world.server.db
  unfold getMembership
  cases hit : world.cache.getCached tenantID userID with
  | some projection =>
      refine ⟨?_, coherent⟩
      rw [MembershipCache.getCached, Option.map_eq_some_iff] at hit
      obtain ⟨entry, current, rfl⟩ := hit
      have cached := coherent entry (Option.filter_eq_some_iff.mp current).1
      rw [← shown, Option.map_eq_some_iff] at cached
      obtain ⟨fresh, read, same⟩ := cached
      exact ⟨fresh, read, same.symm⟩
  | none =>
      cases rows with
      | error failure => exact ⟨.inl rfl, coherent⟩
      | ok db =>
          obtain rfl := reads db rfl
          dsimp only
          cases read : readFromDB lookups tenantID userID world.server.db with
          | none => exact ⟨.inr ⟨read, rfl⟩, coherent⟩
          | some projection =>
              refine ⟨⟨projection, read, rfl⟩, fun entry cached => ?_⟩
              obtain ⟨row, _, rfl⟩ := Option.map_eq_some_iff.mp read
              change (world.cache.put tenantID userID _).entries tenantID userID = _ at cached
              rw [MembershipCache.entries_put] at cached
              cases cached
              rw [read] at shown
              exact shown.symm

/-- I-8 caches the projection of its user only. -/
theorem getMembership_entries_of_ne {lookups : Lookups} {cache : MembershipCache}
    {rows : Except Failure Db} {otherTenant otherUser : Uuid}
    (other : (tenantID, userID) ≠ (otherTenant, otherUser)) :
    (getMembership lookups cache otherTenant otherUser rows).2.entries tenantID userID =
      cache.entries tenantID userID := by
  unfold getMembership
  cases cache.getCached otherTenant otherUser with
  | some => rfl
  | none =>
      cases rows with
      | error => rfl
      | ok db =>
          dsimp only
          cases read : readFromDB lookups otherTenant otherUser db with
          | none => rfl
          | some projection =>
              obtain ⟨row, _, rfl⟩ := Option.map_eq_some_iff.mp read
              exact MembershipCache.entries_put_of_ne other

section Runs

variable {given : Uuid → Uuid → Chance PgError → Bool}
  (answers : given tenantID userID = Chance.isAnswered)

include answers

theorem Step.coherent {before after : World} (step : Step given before after)
    (coherent : Coherent tenantID userID before) : Coherent tenantID userID after := by
  cases step with
  | call otherTenant otherUser call outcome completes =>
      by_cases other : (tenantID, userID) = (otherTenant, otherUser)
      · cases other
        rw [answers] at completes
        exact coherent.own completes
      · exact coherent.other other completes.completes
  | get lookups otherTenant otherUser rows reads =>
      by_cases other : (tenantID, userID) = (otherTenant, otherUser)
      · cases other
        exact (coherent.get reads).2
      · intro entry cached
        exact coherent entry ((getMembership_entries_of_ne other).symm.trans cached)
  | wait elapsed cache lost =>
      intro entry cached
      rcases lost tenantID userID with none | kept
      · rw [none] at cached
        cases cached
      · exact coherent entry (kept ▸ cached)

theorem Coherent.runs {start final : World} (coherent : Coherent tenantID userID start)
    (runs : Relation.ReflTransGen (Step given) start final) :
    Coherent tenantID userID final := by
  induction runs with
  | refl => exact coherent
  | tail _ step ih => exact step.coherent answers ih

end Runs

end Coherence

open Coherence in
/-- After every sequence of completed calls, I-8 shows of a user what a fresh read would, if no
call about the user lost the answer to a COMMIT that was carried out. -/
theorem getMembership_fresh {given : Uuid → Uuid → Chance PgError → Bool} {tenantID userID : Uuid}
    (answers : given tenantID userID = Chance.isAnswered) {start final : World}
    (coherent : Coherent tenantID userID start)
    (runs : Relation.ReflTransGen (Step given) start final) {lookups : Lookups}
    {rows : Except Failure Db} (reads : ∀ db, rows = .ok db → db = final.server.db) :
    Fresh lookups tenantID userID final.server.db rows
      (getMembership lookups final.cache tenantID userID rows).1 :=
  ((coherent.runs answers runs).get reads).1

namespace Coherence

/-- A catalog without departments and plans. -/
def bare : Lookups :=
  ⟨fun _ => ∅, .ok [], .ok []⟩

/-- I-8 has cached a member. -/
def cached : World :=
  ⟨⟨AuthZRepository.assigned, 0⟩,
    (getMembership bare .empty 1 102 (.ok AuthZRepository.assigned)).2⟩

/-- I-8 caches a member, I-5 removes the user, and I-8 answers again. -/
theorem fresh_after_deletion :
    ∃ final, Relation.ReflTransGen (Step fun _ _ => Chance.isAnswered) cached final ∧
      isMember 1 102 final.server.db = false ∧
      Fresh bare 1 102 final.server.db (.ok final.server.db)
        (getMembership bare final.cache 1 102 (.ok final.server.db)).1 := by
  obtain ⟨outcome, after, completes, passed⟩ := server.exists_completesBy_of_endsBy
    Chance.isAnswered (performCall 1 102 .deleteMember).run ⟨AuthZRepository.assigned, 0⟩
    (List.replicate 15 (.step 0 (.proceed 100)))
    (fun _ after => !isMember 1 102 after.db) (by decide +kernel)
  have runs : Relation.ReflTransGen (Step fun _ _ => Chance.isAnswered) cached _ :=
    .single (.call 1 102 .deleteMember outcome completes)
  exact ⟨_, runs, by simpa using passed,
    getMembership_fresh rfl (Coherent.empty.get (by simp)).2 runs (by simp)⟩

/-- I-8 caches a member, the COMMIT of I-5 is carried out and its answer lost, and I-8 goes on
to answer with the member that is no more. -/
theorem stale_after_lost_answer :
    ∃ final projection, Relation.ReflTransGen (Step fun _ _ _ => true) cached final ∧
      readFromDB bare 1 102 final.server.db = none ∧
      (getMembership bare final.cache 1 102 (.ok final.server.db)).1 = .ok projection := by
  obtain ⟨outcome, after, completes, passed⟩ := server.exists_completes_of_endsAs
    (performCall 1 102 .deleteMember).run ⟨AuthZRepository.assigned, 0⟩
    (List.replicate 14 (.step 0 (.proceed 100)) ++ [.step 0 .lose])
    (fun outcome after => !outcome.isOk && (readFromDB bare 1 102 after.db).isNone)
    (by decide +kernel)
  rw [Bool.and_eq_true, Option.isNone_iff_eq_none] at passed
  have hit : (cached.cache.getCached 1 102).isSome = true := by decide +kernel
  obtain ⟨projection, hit⟩ := Option.isSome_iff_exists.mp hit
  cases outcome with
  | ok => cases passed.1
  | error failure =>
      refine ⟨_, projection, .single (.call 1 102 .deleteMember _ completes), passed.2, ?_⟩
      change (getMembership bare cached.cache 1 102 _).1 = _
      rw [getMembership, hit]

end Coherence

end OrgMembership
