import OrgMembership.Repository.Alone
import OrgMembership.Service.Provisioning

/-!
# The version that I-2 returns

The answer of I-2 is computed from the request: the version that it expected and one.  The
stored version is the trigger's, which counts an update only when it changes the row.
-/

namespace OrgMembership

open Concurrency Relational

namespace RealmFields

/-- The body of I-2. -/
structure Request where
  realmID : String
  realmType : String
  keycloakShard : String
  recordVersion : Int
  deriving DecidableEq

/-- The answer of I-2. -/
structure Response where
  tenantID : Uuid
  realmID : String
  realmType : String
  recordVersion : Int
  deriving DecidableEq

/-- The realm types that I-2 accepts. -/
def realmTypeOf? : String → Option RealmType
  | "shared" => some .shared
  | "dedicated" => some .dedicated
  | _ => none

variable {σ : Type} {tenantID : Uuid} {request : Request} {base db : Db}

/-- I-2: the answer counts the version up from the request, not from the stored row. -/
def patchTenantRealm (tenantID : Uuid) (req : Request) : DbM σ Response :=
  if req.realmID = "" || req.keycloakShard = "" || req.realmType = "" then
    throw (newError .validation "realm_id, realm_type, keycloak_shard are required")
  else
    match realmTypeOf? req.realmType with
    | none =>
        throw (newErrorWith .invalidRealmType "realm_type must be one of shared, dedicated"
          [("received", .text req.realmType)])
    | some realmType => do
        setRealmFields tenantID req.realmID realmType req.keycloakShard req.recordVersion
        return ⟨tenantID, req.realmID, req.realmType, req.recordVersion + 1⟩

/-- The stored values are those of the request. -/
def Repeats (request : Request) (row : Tenant) : Prop :=
  request.realmID = row.realmID ∧ realmTypeOf? request.realmType = some row.realmType ∧
    request.keycloakShard = row.keycloakShard

/-- The version of the tenant's row. -/
def versionOf (tenantID : Uuid) (db : Db) : Option Int :=
  (db.tenants.find? tenantID).map Tenant.recordVersion

theorem versionOf_put {row : Tenant} (own : row.id = tenantID) :
    versionOf tenantID { base with tenants := base.tenants.put row } = some row.recordVersion := by
  have found : (base.tenants.put row).find? tenantID = some row :=
    Table.find?_eq_some.mpr ⟨Table.mem_put.mpr (.inl rfl), own⟩
  rw [versionOf, found]
  rfl

section Update

variable {realmID shard : String} {realmType : RealmType} {version : Int} {start : Db}

/-- The row has the version that the update expects, and afterwards the next one exactly if the
update changes it. -/
structure Updated (tenantID : Uuid) (realmID : String) (realmType : RealmType) (shard : String)
    (version : Int) (base db : Db) : Prop where
  expected : versionOf tenantID base = some version
  stored : ∀ row, base.tenants.find? tenantID = some row →
    versionOf tenantID db = some (if realmID = row.realmID ∧ realmType = row.realmType ∧
      shard = row.keycloakShard then version else version + 1)

/-- A failure other than a version conflict, if the expected version is stored. -/
def Innocent (tenantID : Uuid) (version : Int) (base : Db) (failure : Failure) : Prop :=
  versionOf tenantID base = some version → failure.is .optimisticLockConflict = false

theorem is_wrapConnErr (failure : Failure) :
    (wrapConnErr failure).is .optimisticLockConflict = failure.is .optimisticLockConflict := by
  rcases failure with error | error | _ | _
  · cases error <;> rfl
  all_goals rfl

theorem innocent_fault (fault : PgError) : Innocent tenantID version base (.pg fault) :=
  fun _ => rfl

theorem Innocent.wraps {failure : Failure} (innocent : Innocent tenantID version base failure) :
    Innocent tenantID version base (wrapConnErr failure) :=
  fun expected => (is_wrapConnErr failure).trans (innocent expected)

theorem breaks_update :
    Breaks (Innocent tenantID version base) start (· = base)
      (tenantQuery (.update tenantID (.setRealmFields realmID realmType shard version)) : DbM σ _)
      fun found db => (found = none → versionOf tenantID base ≠ some version) ∧
        ∀ row, found = some row → Updated tenantID realmID realmType shard version base db := by
  apply breaks_send innocent_fault
  rintro context _ result writes rfl yields
  rename_i base
  rcases tenantUpdate_cases yields with ⟨absent, _, missing⟩ | ⟨row, found, selected, updated, rfl⟩
  · refine ⟨fun _ expected => ?_, fun _ found => nomatch absent.symm.trans found⟩
    obtain ⟨row, found, matching⟩ := Option.map_eq_some_iff.mp expected
    exact absurd matching (of_decide_eq_false (missing row found))
  · have matching : row.recordVersion = version := of_decide_eq_true selected
    refine ⟨fun absent => (nomatch absent.symm.trans updated), fun _ _ => ⟨?_, ?_⟩⟩
    · rw [versionOf, found, ← matching]
      rfl
    · rintro _ stored
      cases found.symm.trans stored
      have own : (row.touch (txNow context)
          (TenantUpdate.set row (.setRealmFields realmID realmType shard version))).id =
            tenantID := by
        rw [Tenant.touch_proj Tenant.id fun _ _ _ => rfl]
        exact (Table.find?_eq_some.mp found).2
      refine (versionOf_put own).trans (congrArg some ?_)
      split
      case isTrue same =>
        obtain ⟨rfl, rfl, rfl⟩ := same
        exact (congrArg Tenant.recordVersion (if_pos rfl)).trans matching
      case isFalse changes =>
        rw [← matching]
        exact Tenant.recordVersion_touch fun same => changes ⟨congrArg Tenant.realmID same,
          congrArg Tenant.realmType same, congrArg Tenant.keycloakShard same⟩

theorem breaks_setRealmFields :
    Breaks (Innocent tenantID version base) start (· = base)
      (TenantRepository.setRealmFields tenantID realmID realmType shard version : DbM σ _)
      fun _ => Updated tenantID realmID realmType shard version base := by
  have reads : Fallible.Issues (Only fun query => query.writesTo = [])
      (tenantQuery (.findByIDIncludingDeleted tenantID) : DbM σ _) := issues_send rfl
  have updates : Breaks (Innocent tenantID version base) start (· = base)
      (TenantRepository.updateVersioned tenantID
        (.setRealmFields realmID realmType shard version)
        (TenantRepository.probed (tenantQuery (.findByIDIncludingDeleted tenantID)))
        fun current => [("record_version", .int current.recordVersion)] : DbM σ _)
      fun _ => Updated tenantID realmID realmType shard version base := by
    refine Attempt.bind breaks_update fun found => ?_
    cases found with
    | some row =>
        exact Attempt.pure fun _ _ _ seen => seen.mono fun _ after => after.2 row rfl
    | none =>
        -- without the expected version any failure may be reported
        refine Attempt.strengthen (Attempt.of_fact fun conflict => ?_) fun _ _ _ seen =>
          ⟨seen.2.1 rfl, seen⟩
        refine Inside.breaks ?_ fun _ expected => absurd expected conflict
        refine Inside.bind (inside_reads reads.mapError) fun current => ?_
        cases current <;> exact inside_throw
  exact Attempt.bind updates fun _ => Attempt.pure fun _ _ _ seen => seen

end Update

/-- How I-2 ends, run alone. -/
theorem alone_patchTenantRealm :
    Alone (· = base) (patchTenantRealm tenantID request : DbM σ _)
      (fun response db => response.recordVersion = request.recordVersion + 1 ∧
        ∃ realmType, realmTypeOf? request.realmType = some realmType ∧
          Updated tenantID request.realmID realmType request.keycloakShard request.recordVersion
            base db)
      fun failure _ => Innocent tenantID request.recordVersion base failure := by
  rw [patchTenantRealm]
  split
  · exact alone_throw fun _ _ _ => rfl
  split
  case h_1 => exact alone_throw fun _ _ _ => rfl
  case h_2 realmType known =>
    have sets : Alone (· = base)
        (setRealmFields tenantID request.realmID realmType request.keycloakShard
          request.recordVersion : DbM σ _)
        (fun _ => Updated tenantID request.realmID realmType request.keycloakShard
          request.recordVersion base)
        fun failure _ => Innocent tenantID request.recordVersion base failure := by
      have runs : ∀ start, start = base →
          Breaks (Innocent tenantID request.recordVersion base) start (· = start)
          (TenantRepository.setRealmFields tenantID request.realmID realmType
            request.keycloakShard request.recordVersion : DbM σ _)
          fun _ => Updated tenantID request.realmID realmType request.keycloakShard
            request.recordVersion base := by
        rintro start rfl
        exact breaks_setRealmFields
      exact (alone_runInTx_breaking innocent_fault (fun _ innocent => innocent.wraps) runs).weaken
        (fun _ same => same) (fun _ _ updated => updated) fun _ _ failed => failed.1
    exact AloneBy.bind sets fun _ => alone_pure fun _ updated => ⟨rfl, realmType, known, updated⟩

/-- A stored version that an answer names is accepted next time. -/
def Usable (tenantID : Uuid) (response : Response) (server : DbServer) : Prop :=
  versionOf tenantID server.db = some response.recordVersion ∧
    ∀ next outcome after, next.recordVersion = response.recordVersion →
      OrgMembership.server.Completes (patchTenantRealm tenantID next : DbM Unit _).run server
        outcome after →
      ∀ failure, outcome = .error failure → failure.is .optimisticLockConflict = false

/-- An accepted I-2 returns the stored version exactly if it changes a stored value. -/
theorem patchTenantRealm_usable (tenantID : Uuid) (request : Request) (response : Response)
    (before after : DbServer)
    (completes : server.Completes (patchTenantRealm tenantID request : DbM Unit _).run before
      (.ok response) after) :
    Usable tenantID response after ↔
      ∀ row, before.db.tenants.find? tenantID = some row → ¬Repeats request row := by
  obtain ⟨next, realmType, known, updated⟩ := alone_patchTenantRealm.ended completes rfl
  obtain ⟨row, found, _⟩ := Option.map_eq_some_iff.mp updated.expected
  have stored := updated.stored row found
  have repeats_iff : Repeats request row ↔ request.realmID = row.realmID ∧
      realmType = row.realmType ∧ request.keycloakShard = row.keycloakShard := by
    rw [Repeats, known, Option.some_inj]
  simp only [found, Option.some_inj, forall_eq', repeats_iff]
  constructor
  · rintro ⟨usable, _⟩ same
    rw [if_pos same, usable, next, Option.some_inj] at stored
    omega
  · intro changes
    rw [if_neg changes, ← next] at stored
    refine ⟨stored, ?_⟩
    rintro again outcome final same repeats failure rfl
    exact alone_patchTenantRealm.ended repeats rfl (same ▸ stored)

/-- A tenant on the shared realm `trial`, at its first version. -/
def stored : Db :=
  { Db.empty with tenants := .singleton trialRow }

/-- Its realm becomes a dedicated one. -/
def dedicates : Request :=
  ⟨"acme", "dedicated", "shard-1", 1⟩

theorem patchTenantRealm_usable_dedicates :
    ∃ response after, server.Completes (patchTenantRealm 1 dedicates : DbM Unit _).run ⟨stored, 0⟩
      (.ok response) after ∧ response.recordVersion = 2 ∧ Usable 1 response after := by
  obtain ⟨outcome, after, completes, passed⟩ := server.exists_completes_of_endsAs
    (patchTenantRealm 1 dedicates : DbM Unit _).run ⟨stored, 0⟩ (proceeding 100 3)
    (fun outcome _ => outcome.toOption.any fun response => response.recordVersion = 2)
    (by decide +kernel)
  obtain ⟨response, rfl, version⟩ := ok_of_any passed
  refine ⟨response, after, completes, version,
    (patchTenantRealm_usable _ _ _ _ _ completes).mpr ?_⟩
  rintro row found ⟨same, _⟩
  cases found
  exact absurd same (by decide)

/-- An I-2 that repeats the stored values. -/
def repeating (version : Int) : Request :=
  ⟨"trial", "shared", "shard-0", version⟩

/-- It is accepted and returns a version that the row does not have, and the next I-2 with that
version is refused. -/
theorem patchTenantRealm_repeating :
    ∃ response after failure final, server.Completes
        (patchTenantRealm 1 (repeating 1) : DbM Unit _).run ⟨stored, 0⟩ (.ok response) after ∧
      response.recordVersion = 2 ∧ versionOf 1 after.db = some 1 ∧
      server.Completes (patchTenantRealm 1 (repeating 2) : DbM Unit _).run after (.error failure)
        final ∧ failure.is .optimisticLockConflict = true := by
  obtain ⟨outcome, after, completes, passed⟩ := server.exists_completes_of_endsAs
    (patchTenantRealm 1 (repeating 1) : DbM Unit _).run ⟨stored, 0⟩ (proceeding 100 3)
    (fun outcome after => (outcome.toOption.any fun response => response.recordVersion = 2) &&
      versionOf 1 after.db = some 1 &&
      server.endsAs (patchTenantRealm 1 (repeating 2) : DbM Unit _).run after (proceeding 200 4)
        fun outcome _ => (failureOf outcome).any fun failure =>
          failure.is .optimisticLockConflict) (by decide +kernel)
  simp only [Bool.and_eq_true, decide_eq_true_eq] at passed
  obtain ⟨response, rfl, version⟩ := ok_of_any passed.1.1
  obtain ⟨refused, final, repeats, failed⟩ := server.exists_completes_of_endsAs _ _ _ _ passed.2
  obtain ⟨failure, rfl, conflict⟩ := error_of_any failed
  exact ⟨response, after, failure, final, completes, version, passed.1.2, repeats, conflict⟩

end RealmFields

end OrgMembership
