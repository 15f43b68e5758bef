import OrgMembership.Service.Consumer
import OrgMembership.Service.Membership
import OrgMembership.Text.Unicode

/-!
# Provisioning service

I-1 `TrialSignup`, I-4 `SetMembershipStatus` and I-5 `DeleteMember`.  The
answers of the catalog are arguments.
-/

namespace OrgMembership

open Concurrency Relational

variable {σ : Type}

/-! ## I-1 -/

/-- The body of I-1. -/
structure TrialSignupInput where
  tenantID : Uuid
  slug : String
  name : String
  plan : TenantPlan
  ownerUserID : Uuid
  defaultLocale : String
  emailHash : String
  licensedSeats : Int
  deriving DecidableEq

/-- A department of the catalog. -/
structure CatalogDepartment where
  id : Uuid
  code : String
  isSystem : Bool
  isActive : Bool
  deriving DecidableEq

/-- The seats of a trial that asks for none. -/
def defaultTrialSeats : Int :=
  10

/-- The system departments a trial starts with. -/
def trialCodes : List String :=
  ["ENGINEERING", "DESIGN", "PROCUREMENT", "FINANCE", "LEGAL"]

/-- `[a-z0-9]`. -/
def isLowerAlnum (char : Char) : Bool :=
  char.isLower || char.isDigit

/-- `^[a-z0-9]([a-z0-9-]{1,61}[a-z0-9])?$` of at least three characters. -/
def isValidSlug (slug : String) : Bool :=
  let chars := slug.toList
  3 ≤ chars.length && chars.length ≤ 63 &&
    chars.all (fun char => isLowerAlnum char || char = '-') &&
    chars.head?.any isLowerAlnum && chars.getLast?.any isLowerAlnum

/-- `^[a-zA-Z]{1,8}(-[a-zA-Z0-9]{1,8})*$`. -/
def isValidLocale (locale : String) : Bool :=
  match locale.toList.splitOn '-' with
  | [] => false
  | language :: subtags =>
      (language.all Char.isAlpha && 1 ≤ language.length && language.length ≤ 8) &&
        subtags.all fun subtag =>
          subtag.all Char.isAlphanum && 1 ≤ subtag.length && subtag.length ≤ 8

/-- The hash in lower case, if it is one. -/
def normalizeEmailHash (hash : String) : Except Failure String :=
  let hash := Text.toLower (Text.trimSpace hash)
  if hash.length = 64 ∧ hash.toList.all fun char => char.isDigit || ('a' ≤ char && char ≤ 'f') then
    .ok hash
  else
    .error (newError .validation
      "email_hash must be the 64-character hex HMAC-SHA256 of the lower-cased email")

/-- The validated input: the normalised hash and the seats to license. -/
def checkTrialSignup (input : TrialSignupInput) : Except Failure (String × Int) := do
  if isValidSlug input.slug = false then
    throw (newError .validation ("slug must be 3–63 lowercase alphanumeric characters or " ++
      "hyphens, and must not start or end with a hyphen"))
  let hash ← if input.emailHash = "" then pure "" else normalizeEmailHash input.emailHash
  if input.licensedSeats < 0 then
    throw (newError .validation "licensed_seats must not be negative")
  if 255 < input.name.utf8ByteSize then
    throw (newError .validation "name must not exceed 255 characters")
  if input.defaultLocale ≠ "" ∧ isValidLocale input.defaultLocale = false then
    throw (newError .validation
      "default_locale must be a valid BCP-47 language tag (e.g. en-US, fr, zh-Hant)")
  return (hash, if input.licensedSeats = 0 then defaultTrialSeats else input.licensedSeats)

/-- The row of a new trial. -/
def trialTenant (input : TrialSignupInput) (trialEnds seats : Int) : TenantInsert where
  id := input.tenantID
  slug := input.slug
  name := input.name
  plan := input.plan
  status := .trial
  trialEndsAt := some trialEnds
  realmID := "trial"
  realmType := .shared
  keycloakShard := "shard-0"
  mfaFreshnessSeconds := 300
  localAccountsEnabled := true
  defaultLocale := if input.defaultLocale = "" then "en-US" else input.defaultLocale
  licensedSeats := seats

/-- What a new tenant starts with: its departments and labels, its owner, and
the events that announce it. -/
def seedTenant (input : TrialSignupInput) (trialEnds : Int) (trialDeptIDs : List Uuid) :
    DbM σ Unit := do
  trialDeptIDs.forM fun departmentID => do
    let _ ← TenantDepartmentRepository.activate input.tenantID departmentID
    return ()
  seedLabelsFor input.tenantID
  let membership ← MembershipRepository.insert input.tenantID input.ownerUserID .active
  let _ ← TenantRoleRepository.grant input.tenantID input.ownerUserID membership.id .tenantOwner
    input.ownerUserID
  enqueue ⟨input.tenantID, input.tenantID,
    .tenantCreated input.tenantID input.slug input.plan .trial⟩
  enqueue ⟨input.tenantID, input.tenantID, .trialStarted input.tenantID input.plan trialEnds⟩
  enqueue ⟨input.tenantID, input.ownerUserID,
    .tenantRoleGranted input.ownerUserID input.tenantID .tenantOwner input.ownerUserID⟩

/-- Claim the email hash for the tenant, if there is one. -/
def claimHash (hash : String) (tenantID : Uuid) : DbM σ Unit :=
  if hash = "" then
    return ()
  else
    claimEmailHashFor hash tenantID

/-- The transaction of `TrialSignup`.  A tenant that exists is not seeded
again. -/
def trialSignupTx (input : TrialSignupInput) (hash : String) (seats trialEnds : Int)
    (trialDeptIDs : List Uuid) : DbM σ (Tenant × Bool) := do
  ParkedTenantEventRepository.lockTenantProvisioning input.tenantID
  let (tenant, freshInsert) ← TenantRepository.insert (trialTenant input trialEnds seats)
  claimHash hash input.tenantID
  if freshInsert then do
    seedTenant input trialEnds trialDeptIDs
    return (tenant, true)
  else
    return (tenant, false)

/-- The tenant, whether it was created, and how the replay of its parked events
ended, which `TrialSignup` only logs. -/
structure TrialSignupResult where
  tenant : Tenant
  wasCreated : Bool
  replay : Except Failure Nat

/-- I-1 `TrialSignup`, which ends with a replay of what was parked for the tenant. -/
def trialSignup (catalog : PlanCatalog) (departments : Except Failure (List CatalogDepartment))
    (input : TrialSignupInput) : DbM σ TrialSignupResult :=
  match checkTrialSignup input, catalog input.plan with
  | .error failure, _ => throw failure
  | .ok _, .error failure => throw failure
  | .ok (hash, seats), .ok duration => do
      let now ← timeNow
      match departments with
      | .error failure => throw failure
      | .ok departments =>
          let trialDeptIDs := (departments.filter fun department =>
            department.isSystem && department.isActive && trialCodes.contains department.code).map
              CatalogDepartment.id
          let (tenant, wasCreated) ←
            runInTx (trialSignupTx input hash seats (now + days duration) trialDeptIDs)
          let replay ← (replayParked catalog input.tenantID).observe
          return ⟨tenant, wasCreated, replay⟩

/-! ## I-4 -/

/-- I-2. -/
def setRealmFields (tenantID : Uuid) (realmID : String) (realmType : RealmType)
    (shard : String) (recordVersion : Int) : DbM σ Unit :=
  runInTx (TenantRepository.setRealmFields tenantID realmID realmType shard recordVersion)

/-- I-4 `SetMembershipStatus`: one statement, without a check of the seats. -/
def setMembershipStatus (tenantID userID : Uuid) (status : MembershipStatus)
    (expectedVersion : Int) : DbM σ TenantMembership :=
  withPool (MembershipRepository.setStatus tenantID userID status expectedVersion)

/-! ## I-5 -/

/-- Mark the tenant when its last owner is gone.  The answer says whether this
call set the mark. -/
def escalateOwnerless (tenantID : Uuid) (wasOwner : Bool) : DbM σ Bool :=
  if wasOwner then do
    let ownerRemaining ← TenantRoleRepository.countActiveOwners tenantID
    if ownerRemaining = 0 then
      TenantRepository.markOwnerlessIfUnset tenantID
    else
      return false
  else
    return false

/-- The transaction of `DeleteMember`; a user who is gone is left alone. -/
def deleteMemberTx (tenantID userID : Uuid) : DbM σ Bool := do
  match ← (MembershipRepository.findByUserID tenantID userID).observe with
  | .error failure =>
      if failure.is .memberNotFound then
        return false
      else
        throw failure
  | .ok membership => do
      let roles ← TenantRoleRepository.listByUser tenantID userID
      cascadeRemoval tenantID userID ⟨0, 0, systemActorID⟩ membership.recordVersion
      escalateOwnerless tenantID (holdsOwner roles)

/-- Whether the removal left the tenant without an owner. -/
def deleteMember (tenantID userID : Uuid) : DbM σ Bool :=
  runInTx (deleteMemberTx tenantID userID)

end OrgMembership
