import OrgMembership.Departments.Groups

/-!
# The cached group resolution

I-10 asks the Group Mapping Service which departments, levels and roles the groups of a user
map to, and keeps the answer under three keys of the tenant, with a longer lived copy of each.
The keys name the tenant, but the answer is about the groups of one user.  So a later call for
other groups resolves to what it would resolve to without the cache only if the cached rows
contain the mapping rows of its groups.
-/

namespace OrgMembership

open Concurrency Relational

variable {σ : Type}

/-! ## The code -/

/-- The three cached lists of a resolution. -/
structure ResolutionEntries where
  gdm : Option (List (String × Uuid))
  grm : Option (List (String × DeptRole))
  gtrm : Option (List (String × TenantRoleCode))
  deriving DecidableEq

/-- The keys of a tenant, and their `:stale` counterparts. -/
structure ResolutionCache where
  fresh : ResolutionEntries
  stale : ResolutionEntries
  deriving DecidableEq

/-- A cache without any key. -/
def ResolutionCache.empty : ResolutionCache :=
  ⟨⟨none, none, none⟩, ⟨none, none, none⟩⟩

/-- Which of the three keys a write reaches. -/
structure EntriesReach where
  gdm : Bool
  grm : Bool
  gtrm : Bool

/-- Which cache operations of one resolution succeed.  Their errors are dropped. -/
structure CacheReach where
  read : Bool
  readStale : Bool
  set : EntriesReach
  setStale : EntriesReach

namespace GroupMappingService

/-- All three keys, or a miss. -/
def getCachedResolution (readable : Bool) (entries : ResolutionEntries) : Option GroupMappings :=
  match readable, entries with
  | true, ⟨some dm, some dr, some tr⟩ => some ⟨dm, dr, tr⟩
  | _, _ => none

/-- The three keys, each set if the cache can be reached for it. -/
def setEntries (reach : EntriesReach) (mappings : GroupMappings) (entries : ResolutionEntries) :
    ResolutionEntries where
  gdm := if reach.gdm then some mappings.depts else entries.gdm
  grm := if reach.grm then some mappings.levels else entries.grm
  gtrm := if reach.gtrm then some mappings.roles else entries.gtrm

/-- The fresh keys and the ones that are kept for an outage. -/
def setCachedResolution (reach : CacheReach) (mappings : GroupMappings) (cache : ResolutionCache) :
    ResolutionCache where
  fresh := setEntries reach.set mappings cache.fresh
  stale := setEntries reach.setStale mappings cache.stale

/-- The rows to resolve with, and the cache afterwards.  The client may not be wired. -/
def resolveMappings (reach : CacheReach) (client : Option (Except Failure GroupMappings))
    (cache : ResolutionCache) : GroupMappings × ResolutionCache :=
  match getCachedResolution reach.read cache.fresh with
  | some mappings => (mappings, cache)
  | none =>
      match client with
      | none => (⟨[], [], []⟩, cache)
      | some (.error _) =>
          ((getCachedResolution reach.readStale cache.stale).getD ⟨[], [], []⟩, cache)
      | some (.ok mappings) => (mappings, setCachedResolution reach mappings cache)

/-- `AssignFromGroups` with the resolution of its groups. -/
def assignFromGroups (tenantID userID : Uuid) (groups : List String) (reach : CacheReach)
    (client : Option (Except Failure GroupMappings)) (order : MapOrder)
    (cache : Uuid → ResolutionCache) : DbM σ JITResult × (Uuid → ResolutionCache) :=
  if groups.isEmpty then
    (return ⟨[], []⟩, cache)
  else
    let (mappings, resolved) := resolveMappings reach client (cache tenantID)
    (OrgMembership.assignFromGroups tenantID userID groups mappings order,
      Function.update cache tenantID resolved)

end GroupMappingService

/-! ## What a call reads of the rows -/

section Restrict

variable {mappings : GroupMappings} {groups : List String}

/-- The mapping rows of some groups. -/
def GroupMappings.restrict (mappings : GroupMappings) (groups : List String) : GroupMappings where
  depts := mappings.depts.filter fun row => groups.contains row.1
  levels := mappings.levels.filter fun row => groups.contains row.1
  roles := mappings.roles.filter fun row => groups.contains row.1

theorem resolveDeptRoles_restrict :
    resolveDeptRoles (mappings.restrict groups) groups = resolveDeptRoles mappings groups := by
  have paired : ∀ dept ∈ mappings.depts.filter fun row => groups.contains row.1,
      (((mappings.levels.filter fun row => groups.contains row.1).filter fun level =>
        level.1 = dept.1).map fun level => (dept.2, level.2)) =
      (mappings.levels.filter fun level => level.1 = dept.1).map fun level =>
        (dept.2, level.2) := by
    intro dept mem
    have listed : groups.contains dept.1 = true := (List.mem_filter.mp mem).2
    rw [List.filter_filter]
    refine congrArg _ (List.filter_congr fun level _ => ?_)
    by_cases same : level.1 = dept.1
    · rw [same, listed]
      simp
    · simp [same]
  rw [resolveDeptRoles, resolveDeptRoles, GroupMappings.restrict, List.filter_filter]
  simp only [Bool.and_self]
  rw [List.flatMap_congr paired]

theorem resolvesRole_restrict :
    resolvesRole (mappings.restrict groups) groups = resolvesRole mappings groups := by
  funext code
  rw [Bool.eq_iff_iff, resolvesRole_eq_true, resolvesRole_eq_true]
  simp only [GroupMappings.restrict, List.mem_filter, List.contains_iff_mem]
  constructor
  · rintro ⟨granted, group, listed, mem, _⟩
    exact ⟨granted, group, listed, mem⟩
  · rintro ⟨granted, group, listed, mem⟩
    exact ⟨granted, group, listed, mem, listed⟩

/-- A call reads no mapping rows but those of its groups. -/
theorem assignFromGroups_restrict {tenantID userID : Uuid} {order : MapOrder} :
    (assignFromGroups tenantID userID groups (mappings.restrict groups) order : DbM σ _) =
      assignFromGroups tenantID userID groups mappings order := by
  rw [assignFromGroups, assignFromGroups, resolveDeptRoles_restrict, resolvesRole_restrict]

end Restrict

/-! ## Runs -/

namespace Resolution

open GroupMappingService

/-- What the service answers: the mapping rows of the groups asked for. -/
def answer (rows : GroupMappings) (groups : List String) : Option (Except Failure GroupMappings) :=
  some (.ok (rows.restrict groups))

/-- Some keys have expired. -/
structure Lapsed (before after : ResolutionEntries) : Prop where
  gdm : after.gdm = before.gdm ∨ after.gdm = none
  grm : after.grm = before.grm ∨ after.grm = none
  gtrm : after.gtrm = before.gtrm ∨ after.gtrm = none

/-- A call for some user and groups, whatever the cache operations do, or expiry. -/
inductive Step (rows : Uuid → GroupMappings) :
    (Uuid → ResolutionCache) → (Uuid → ResolutionCache) → Prop
  | call (cache : Uuid → ResolutionCache) (tenantID userID : Uuid) (groups : List String)
      (reach : CacheReach) (order : MapOrder) :
      Step rows cache (GroupMappingService.assignFromGroups tenantID userID groups reach
        (answer (rows tenantID) groups) order cache : DbM Unit JITResult × _).2
  | lapse (cache after : Uuid → ResolutionCache)
      (fresh : ∀ tenantID, Lapsed (cache tenantID).fresh (after tenantID).fresh)
      (stale : ∀ tenantID, Lapsed (cache tenantID).stale (after tenantID).stale) :
      Step rows cache after

/-- A cached list is what the service answered for some groups. -/
def Fetched {α : Type} (rows : List (String × α)) (cached : Option (List (String × α))) : Prop :=
  ∀ list, cached = some list → ∃ groups : List String,
    list = rows.filter fun row => groups.contains row.1

/-- Each of the three lists has been fetched, not necessarily by the same call. -/
structure Sourced (rows : GroupMappings) (entries : ResolutionEntries) : Prop where
  gdm : Fetched rows.depts entries.gdm
  grm : Fetched rows.levels entries.grm
  gtrm : Fetched rows.roles entries.gtrm

/-- A cached list contains the rows of the groups. -/
def Contains {α : Type} (rows : List (String × α)) (cached : Option (List (String × α)))
    (groups : List String) : Prop :=
  ∀ list, cached = some list → ∀ row ∈ rows, row.1 ∈ groups → row ∈ list

/-- What is cached contains the mapping rows of the groups. -/
structure Covers (rows : GroupMappings) (entries : ResolutionEntries) (groups : List String) :
    Prop where
  gdm : Contains rows.depts entries.gdm groups
  grm : Contains rows.levels entries.grm groups
  gtrm : Contains rows.roles entries.gtrm groups

section Fetched

variable {α : Type} {rows : List (String × α)} {cached after : Option (List (String × α))}
  {groups : List String}

theorem Fetched.lapsed (fetched : Fetched rows cached) (lapsed : after = cached ∨ after = none) :
    Fetched rows after := by
  intro list here
  rcases lapsed with rfl | rfl
  · exact fetched list here
  · cases here

theorem Fetched.set (fetched : Fetched rows cached) (reached : Bool) :
    Fetched rows (if reached then some (rows.filter fun row => groups.contains row.1)
      else cached) := by
  intro list here
  split at here
  · cases here
    exact ⟨groups, rfl⟩
  · exact fetched list here

/-- The rows of the groups, read from the cache. -/
theorem Fetched.filter {list : List (String × α)} (fetched : Fetched rows (some list))
    (contains : Contains rows (some list) groups) :
    (list.filter fun row => groups.contains row.1) =
      rows.filter fun row => groups.contains row.1 := by
  obtain ⟨others, same⟩ := fetched list rfl
  rw [same, List.filter_filter]
  refine List.filter_congr fun row mem => ?_
  by_cases listed : row.1 ∈ groups
  · have here : row ∈ list := contains list rfl row mem listed
    rw [same, List.mem_filter] at here
    rw [here.2, Bool.and_true]
  · simp [listed]

end Fetched

variable {rows : Uuid → GroupMappings} {cache : Uuid → ResolutionCache}

theorem Sourced.empty (rows : GroupMappings) : Sourced rows ResolutionCache.empty.fresh :=
  ⟨nofun, nofun, nofun⟩

theorem Sourced.set {mappings : GroupMappings} {entries : ResolutionEntries} {groups : List String}
    (sourced : Sourced mappings entries) (reach : EntriesReach) :
    Sourced mappings (setEntries reach (mappings.restrict groups) entries) :=
  ⟨sourced.gdm.set _, sourced.grm.set _, sourced.gtrm.set _⟩

theorem Sourced.lapsed {mappings : GroupMappings} {before after : ResolutionEntries}
    (sourced : Sourced mappings before) (lapsed : Lapsed before after) : Sourced mappings after :=
  ⟨sourced.gdm.lapsed lapsed.gdm, sourced.grm.lapsed lapsed.grm, sourced.gtrm.lapsed lapsed.gtrm⟩

theorem Step.sourced {after : Uuid → ResolutionCache} (step : Step rows cache after)
    (sourced : ∀ tenantID, Sourced (rows tenantID) (cache tenantID).fresh) (tenantID : Uuid) :
    Sourced (rows tenantID) (after tenantID).fresh := by
  cases step with
  | lapse _ fresh _ => exact (sourced tenantID).lapsed (fresh tenantID)
  | call called userID groups reach order =>
      rw [GroupMappingService.assignFromGroups]
      split
      · exact sourced tenantID
      · by_cases same : tenantID = called
        · subst same
          simp only [Function.update_self, resolveMappings, answer]
          split
          · exact sourced tenantID
          · exact (sourced tenantID).set _
        · simpa only [Function.update_of_ne same] using sourced tenantID

theorem sourced_of_run (run : Relation.ReflTransGen (Step rows) (fun _ => .empty) cache) :
    ∀ tenantID, Sourced (rows tenantID) (cache tenantID).fresh := by
  induction run with
  | refl => exact fun tenantID => Sourced.empty (rows tenantID)
  | tail _ step ih => exact step.sourced ih

theorem getCachedResolution_restrict {mappings found : GroupMappings} {entries : ResolutionEntries}
    {groups : List String} {readable : Bool} (sourced : Sourced mappings entries)
    (covers : Covers mappings entries groups)
    (hit : getCachedResolution readable entries = some found) :
    found.restrict groups = mappings.restrict groups := by
  unfold getCachedResolution at hit
  split at hit
  case h_2 => cases hit
  case h_1 =>
    cases hit
    simp only [GroupMappings.restrict, sourced.gdm.filter covers.gdm, sourced.grm.filter covers.grm,
      sourced.gtrm.filter covers.gtrm]

end Resolution

/-- After any calls for any users and groups, a call for groups whose mapping rows the cache
contains, if it has an entry, does what it would do with an empty cache. -/
theorem assignFromGroups_of_cache {rows : Uuid → GroupMappings} {cache : Uuid → ResolutionCache}
    (run : Relation.ReflTransGen (Resolution.Step rows) (fun _ => .empty) cache)
    (tenantID userID : Uuid) {groups : List String} (reach : CacheReach) (order : MapOrder)
    (covers : Resolution.Covers (rows tenantID) (cache tenantID).fresh groups) :
    (GroupMappingService.assignFromGroups tenantID userID groups reach
        (Resolution.answer (rows tenantID) groups) order cache : DbM σ JITResult × _).1 =
      (GroupMappingService.assignFromGroups tenantID userID groups reach
        (Resolution.answer (rows tenantID) groups) order fun _ => .empty).1 := by
  have sourced := Resolution.sourced_of_run run tenantID
  rw [GroupMappingService.assignFromGroups, GroupMappingService.assignFromGroups]
  split
  · rfl
  · have missed : GroupMappingService.getCachedResolution reach.read
        ResolutionCache.empty.fresh = none := by
      unfold GroupMappingService.getCachedResolution
      cases reach.read <;> rfl
    simp only [GroupMappingService.resolveMappings, Resolution.answer, missed]
    split
    case h_1 found hit =>
      have same := Resolution.getCachedResolution_restrict sourced covers hit
      calc
        (assignFromGroups tenantID userID groups found order : DbM σ JITResult) =
            assignFromGroups tenantID userID groups (found.restrict groups) order :=
          assignFromGroups_restrict.symm
        _ = assignFromGroups tenantID userID groups ((rows tenantID).restrict groups) order := by
          rw [same]
    case h_2 => rfl

namespace Resolution

/-- Every cache operation succeeds. -/
def reachable : CacheReach :=
  ⟨true, true, ⟨true, true, true⟩, ⟨true, true, true⟩⟩

/-- The cache after a call for a user of some groups. -/
def cachedFor (groups : List String) : Uuid → ResolutionCache :=
  (GroupMappingService.assignFromGroups 1 101 groups reachable (answer Groups.reviewers groups)
    .declared fun _ => .empty : DbM Unit JITResult × _).2

/-- A call for the reviewers follows one for the reviewers and a group without mappings. -/
theorem reviewers_of_cache :
    (GroupMappingService.assignFromGroups 1 102 ["reviewers"] reachable
        (answer Groups.reviewers ["reviewers"]) .declared (cachedFor ["reviewers", "staff"]) :
          DbM Unit JITResult × _).1 =
      (GroupMappingService.assignFromGroups 1 102 ["reviewers"] reachable
        (answer Groups.reviewers ["reviewers"]) .declared fun _ => .empty).1 := by
  have covers : Covers Groups.reviewers (cachedFor ["reviewers", "staff"] 1).fresh
      ["reviewers"] := by
    constructor <;> rintro list cached row mem _ <;> cases cached <;> exact mem
  have run : Relation.ReflTransGen (Step fun _ => Groups.reviewers) (fun _ => .empty)
      (cachedFor ["reviewers", "staff"]) :=
    .single (.call _ 1 101 ["reviewers", "staff"] reachable .declared)
  exact assignFromGroups_of_cache run 1 102 reachable .declared covers

/-- After a call for a group without mappings the reviewers get nothing, where an empty cache
gives them the department and the role. -/
theorem reviewers_missed :
    Relation.ReflTransGen (Step fun _ => Groups.reviewers) (fun _ => .empty) (cachedFor ["staff"]) ∧
    (∃ after, server.Completes (GroupMappingService.assignFromGroups 1 102 ["reviewers"] reachable
        (answer Groups.reviewers ["reviewers"]) .declared (cachedFor ["staff"])).1.run
        ⟨Groups.joined, 0⟩ (.ok ⟨[], []⟩) after ∧ levelsOf 1 102 31 after.db = []) ∧
    ∃ after, server.Completes (GroupMappingService.assignFromGroups 1 102 ["reviewers"] reachable
        (answer Groups.reviewers ["reviewers"]) .declared fun _ => .empty).1.run
        ⟨Groups.joined, 0⟩ (.ok ⟨[31], [.tenderAdmin]⟩) after ∧
      levelsOf 1 102 31 after.db = [.reviewer] := by
  refine ⟨.single (.call _ 1 101 ["staff"] reachable .declared), ?_, ?_⟩
  · obtain ⟨outcome, after, completes, passed⟩ := server.exists_completes_of_endsAs
      (GroupMappingService.assignFromGroups 1 102 ["reviewers"] reachable
        (answer Groups.reviewers ["reviewers"]) .declared (cachedFor ["staff"])).1.run
      ⟨Groups.joined, 0⟩ (List.replicate 6 (.step 0 (.proceed 100)))
      (fun outcome after => outcome.toOption.any fun result =>
        result = ⟨[], []⟩ ∧ levelsOf 1 102 31 after.db = []) (by decide +kernel)
    obtain ⟨result, rfl, rfl, none⟩ := ok_of_any passed
    exact ⟨after, completes, none⟩
  · obtain ⟨outcome, after, completes, passed⟩ := server.exists_completes_of_endsAs
      (GroupMappingService.assignFromGroups 1 102 ["reviewers"] reachable
        (answer Groups.reviewers ["reviewers"]) .declared fun _ => .empty).1.run
      ⟨Groups.joined, 0⟩ (List.replicate 12 (.step 0 (.proceed 100)))
      (fun outcome after => outcome.toOption.any fun result =>
        result = ⟨[31], [.tenderAdmin]⟩ ∧ levelsOf 1 102 31 after.db = [.reviewer])
      (by decide +kernel)
    obtain ⟨result, rfl, rfl, level⟩ := ok_of_any passed
    exact ⟨after, completes, level⟩

end Resolution

end OrgMembership
