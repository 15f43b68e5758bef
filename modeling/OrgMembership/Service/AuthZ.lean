import OrgMembership.Service.Provisioning
import OrgMembership.Service.Reads

/-!
# AuthZ service

I-8 `GetMembership`: the projection of a member, composed from the rows and the catalog, and
its cache entry.  A cached entry carries the generation of its plan and counts only as long
as the generation stands.
-/

namespace OrgMembership

open Relational

/-! ## Feature flags -/

/-- A JSON value of a feature flag. -/
inductive FlagValue
  | bool (value : Bool)
  | null
  | other (text : String)
  deriving DecidableEq

/-- Whether a flag with this value is on. -/
def FlagValue.enabled : FlagValue → Bool
  | .bool value => value
  | .null => false
  | .other _ => true

/-- `map[string]any`. -/
abbrev FlagMap : Type :=
  Table fun entry : String × FlagValue => entry.1

/-- The plan's defaults with the tenant's overrides. -/
def effectiveFlags (defaults overrides : FlagMap) : FlagMap :=
  defaults.applyAll (overrides.rows.map .put)

/-- The names of the flags that are on, sorted. -/
def enabledFlags (flags : FlagMap) : List String :=
  ((flags.rows.filter fun entry => entry.2.enabled).map Prod.fst).insertionSort (· ≤ ·)

/-- A plan of the catalog. -/
structure CatalogPlan where
  code : TenantPlan
  featureSet : FlagMap

/-- `PlanByCode`. -/
def planByCode (plans : List CatalogPlan) (code : TenantPlan) : Except Failure CatalogPlan :=
  match plans.find? (·.code = code) with
  | some plan => .ok plan
  | none => .error (newError .planNotFound "plan not found")

/-! ## The projection -/

/-- What I-8 answers. -/
structure MembershipProjection where
  userID : Uuid
  tenantID : Uuid
  status : MembershipStatus
  plan : TenantPlan
  subscriptionStatus : SubscriptionStatus
  readOnly : Bool
  locale : String
  mfaFreshnessSeconds : Int
  localAccountsEnabled : Bool
  residencyMode : ResidencyMode
  roles : List TenantRoleCode
  departments : List DeptMembershipView
  featureFlags : List String
  deriving DecidableEq

/-- A cancelled tenant is only read. -/
def readOnlyForStatus (status : SubscriptionStatus) : Bool :=
  status = .cancelled

/-- What the projection takes from elsewhere: the parser of the flags column, and the answers
of the catalog. -/
structure Lookups where
  decode : String → FlagMap
  departments : Except Failure (List CatalogDepartment)
  plans : Except Failure (List CatalogPlan)

/-- The code of a department; of entries with one id the last counts. -/
def Lookups.codeOf (lookups : Lookups) (departmentID : Uuid) : String :=
  match lookups.departments with
  | .error _ => ""
  | .ok all => ((all.reverse.find? (·.id = departmentID)).map CatalogDepartment.code).getD ""

/-- The defaults of a plan.  A failed lookup is swallowed. -/
def Lookups.defaultsOf (lookups : Lookups) (code : TenantPlan) : FlagMap :=
  match lookups.plans with
  | .error _ => ∅
  | .ok plans =>
      match planByCode plans code with
      | .error _ => ∅
      | .ok plan => plan.featureSet

/-- The composition of `readFromDB`.  `member` is derived and comes first. -/
def composeProjection (lookups : Lookups) (tenantID userID : Uuid) (row : MembershipProjectionRow) :
    MembershipProjection where
  userID
  tenantID
  status := row.columns.membershipStatus
  plan := row.columns.tenantPlan
  subscriptionStatus := row.columns.subscriptionStatus
  readOnly := readOnlyForStatus row.columns.subscriptionStatus
  locale := row.columns.locale
  mfaFreshnessSeconds := row.columns.mfaFreshnessSeconds
  localAccountsEnabled := row.columns.localAccountsEnabled
  residencyMode := row.columns.residencyMode
  roles := .member :: row.roles
  departments := row.departments.map fun view =>
    { view with code := lookups.codeOf view.departmentID }
  featureFlags := enabledFlags (effectiveFlags (lookups.defaultsOf row.columns.tenantPlan)
    (lookups.decode row.columns.tenantFeatureFlags))

/-- The answer without the cache. -/
def readFromDB (lookups : Lookups) (tenantID userID : Uuid) (db : Db) :
    Option MembershipProjection :=
  (AuthZRepository.findMembershipProjection tenantID userID db).map
    (composeProjection lookups tenantID userID)

/-! ## The cache -/

/-- The value of `om:memberships`: the projection and the generation it was built under. -/
structure CachedMembership where
  projection : MembershipProjection
  planGen : String
  deriving DecidableEq

/-- The keys that I-8 reads: `om:memberships` of every user and `om:plans:gen` of every plan,
which is the empty text when it is not set. -/
structure MembershipCache where
  entries : Uuid → Uuid → Option CachedMembership
  gens : TenantPlan → String

namespace MembershipCache

/-- A cache without any key. -/
def empty : MembershipCache :=
  ⟨fun _ _ => none, fun _ => ""⟩

/-- Whether an entry is no older than the last change of its plan. -/
def isCurrent (cache : MembershipCache) (entry : CachedMembership) : Bool :=
  entry.planGen = cache.gens entry.projection.plan

/-- An entry of an older generation of its plan is a miss. -/
def getCached (cache : MembershipCache) (tenantID userID : Uuid) : Option MembershipProjection :=
  ((cache.entries tenantID userID).filter cache.isCurrent).map CachedMembership.projection

/-- `SET` or `DEL` of one entry. -/
def put (cache : MembershipCache) (tenantID userID : Uuid) (entry : Option CachedMembership) :
    MembershipCache :=
  { cache with
    entries := fun otherTenant otherUser =>
      if otherTenant = tenantID ∧ otherUser = userID then entry
      else cache.entries otherTenant otherUser }

/-- The entry carries the generation of its plan. -/
def setCached (cache : MembershipCache) (projection : MembershipProjection) : MembershipCache :=
  cache.put projection.tenantID projection.userID
    (some ⟨projection, cache.gens projection.plan⟩)

@[simp]
theorem entries_put (cache : MembershipCache) (tenantID userID : Uuid)
    (entry : Option CachedMembership) :
    (cache.put tenantID userID entry).entries tenantID userID = entry := by
  simp [put]

theorem entries_put_of_ne {cache : MembershipCache} {tenantID userID otherTenant otherUser : Uuid}
    {entry : Option CachedMembership} (other : (otherTenant, otherUser) ≠ (tenantID, userID)) :
    (cache.put tenantID userID entry).entries otherTenant otherUser =
      cache.entries otherTenant otherUser := by
  rw [put]
  apply if_neg
  rintro ⟨rfl, rfl⟩
  exact other rfl

end MembershipCache

/-- I-8.  The read of the rows may fail. -/
def getMembership (lookups : Lookups) (cache : MembershipCache) (tenantID userID : Uuid)
    (rows : Except Failure Db) : Except Failure MembershipProjection × MembershipCache :=
  match cache.getCached tenantID userID with
  | some projection => (.ok projection, cache)
  | none =>
      match rows with
      | .error failure => (.error failure, cache)
      | .ok db =>
          match readFromDB lookups tenantID userID db with
          | none =>
              (.error (newError .memberNotFound "no active membership in this tenant"), cache)
          | some projection => (.ok projection, cache.setCached projection)

end OrgMembership
