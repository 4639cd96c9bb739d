import CrossPatch.Domain.Hashing

/-!
# Server-owned execution plans

A plan is selected by identifier and never carries model-supplied commands.  Its
digest is taken over the plain compact text, without Unicode normalization, so
it determines every field of the plan.
-/

namespace CrossPatch.Runner.Catalog

open CrossPatch.Domain.Failure CrossPatch.Domain.Hashing
open CrossPatch.Library.JsonText CrossPatch.Library.Octets CrossPatch.Library.Sha256

inductive OracleProfile where
  | duplicateRace
  | payloadEquivalence
  deriving DecidableEq, Repr

def OracleProfile.value : OracleProfile → String
  | duplicateRace => "duplicate-race"
  | payloadEquivalence => "payload-equivalence"

structure ExecutionPlan where
  planId : String
  argv : List String
  workingDirectory : String
  timeoutSeconds : Int
  expectedCounts : Option (Int × Int × Int)
  expectedStatuses : Option (List Int)
  oracleProfile : Option OracleProfile
  deriving DecidableEq

def texts (values : List String) : Json := .arr (values.map .str)

def integers (values : List Int) : Json := .arr (values.map .int)

def countsJson : Option (Int × Int × Int) → Json
  | none => .null
  | some (receipts, jobs, deliveries) => integers [receipts, jobs, deliveries]

/-- Members present only when the plan sets the field. -/
def optionalMembers (statuses : Option (List Int)) (profile : Option OracleProfile) :
    List (String × Json) :=
  (statuses.map fun values => ("expected_statuses", integers values)).toList ++
    (profile.map fun chosen => ("oracle_profile", Json.str chosen.value)).toList

def ExecutionPlan.members (plan : ExecutionPlan) : List (String × Json) :=
  [("argv", texts plan.argv),
   ("expected_counts", countsJson plan.expectedCounts),
   ("plan_id", .str plan.planId),
   ("timeout_seconds", .int plan.timeoutSeconds),
   ("working_directory", .str plan.workingDirectory)] ++
    optionalMembers plan.expectedStatuses plan.oracleProfile

def ExecutionPlan.canonical (plan : ExecutionPlan) : Bytes :=
  encode (.obj (sortMembers plan.members))

def ExecutionPlan.sha256 (plan : ExecutionPlan) : String := hexdigest plan.canonical

/-! ## The digest determines the plan -/

theorem texts_injective {left right : List String} (same : texts left = texts right) :
    left = right := by
  injection same with items
  exact List.map_injective_iff.mpr (fun _ _ equal => Json.str.inj equal) items

theorem integers_injective {left right : List Int} (same : integers left = integers right) :
    left = right := by
  injection same with items
  exact List.map_injective_iff.mpr (fun _ _ equal => Json.int.inj equal) items

theorem countsJson_injective {left right : Option (Int × Int × Int)}
    (same : countsJson left = countsJson right) : left = right := by
  cases left with
  | none =>
      cases right with
      | none => rfl
      | some counts => cases same
  | some counts =>
      cases right with
      | none => cases same
      | some counts' =>
          have values := integers_injective same
          simp only [List.cons.injEq, and_true] at values
          exact congrArg some (Prod.ext values.1 (Prod.ext values.2.1 values.2.2))

theorem OracleProfile.value_injective {left right : OracleProfile}
    (same : left.value = right.value) : left = right := by
  cases left <;> cases right <;> first | rfl | exact absurd same (by decide)

theorem optionalMembers_other {statuses : Option (List Int)} {profile : Option OracleProfile}
    {key : String} {value : Json} (notStatuses : key ≠ "expected_statuses")
    (notProfile : key ≠ "oracle_profile") :
    (key, value) ∉ optionalMembers statuses profile := by
  cases statuses <;> cases profile <;> simp [optionalMembers, notStatuses, notProfile]

theorem optionalMembers_statuses {statuses : Option (List Int)}
    {profile : Option OracleProfile} {value : Json} :
    ("expected_statuses", value) ∈ optionalMembers statuses profile ↔
      ∃ values, statuses = some values ∧ value = integers values := by
  cases statuses <;> cases profile <;> simp [optionalMembers]

theorem optionalMembers_profile {statuses : Option (List Int)}
    {profile : Option OracleProfile} {value : Json} :
    ("oracle_profile", value) ∈ optionalMembers statuses profile ↔
      ∃ chosen, profile = some chosen ∧ value = .str chosen.value := by
  cases statuses <;> cases profile <;> simp [optionalMembers]

/-- Optional fields with the same members are equal. -/
theorem optionalMembers_injective {statuses statuses' : Option (List Int)}
    {profile profile' : Option OracleProfile}
    (same : ∀ member, member ∈ optionalMembers statuses profile ↔
      member ∈ optionalMembers statuses' profile') :
    statuses = statuses' ∧ profile = profile' := by
  have statusesSame (value : Json) := same ("expected_statuses", value)
  have profileSame (value : Json) := same ("oracle_profile", value)
  simp only [optionalMembers_statuses, optionalMembers_profile] at statusesSame profileSame
  constructor
  · cases statuses with
    | none =>
        cases statuses' with
        | none => rfl
        | some values' =>
            obtain ⟨values, impossible, _⟩ := (statusesSame _).mpr ⟨values', rfl, rfl⟩
            cases impossible
    | some values =>
        obtain ⟨values', present, equal⟩ := (statusesSame _).mp ⟨values, rfl, rfl⟩
        rw [present, integers_injective equal]
  · cases profile with
    | none =>
        cases profile' with
        | none => rfl
        | some chosen' =>
            obtain ⟨chosen, impossible, _⟩ := (profileSame _).mpr ⟨chosen', rfl, rfl⟩
            cases impossible
    | some chosen =>
        obtain ⟨chosen', present, equal⟩ := (profileSame _).mp ⟨chosen, rfl, rfl⟩
        rw [present, OracleProfile.value_injective (Json.str.inj equal)]

theorem ExecutionPlan.canonical_injective {left right : ExecutionPlan}
    (same : left.canonical = right.canonical) : left = right := by
  have sorted : sortMembers left.members = sortMembers right.members := by
    have objects := encode_injective same
    injection objects
  have membership (member : String × Json) :
      member ∈ left.members ↔ member ∈ right.members := by
    rw [← mem_sortMembers, sorted, mem_sortMembers]
  have argv := (membership ("argv", texts left.argv)).mp (by simp [members])
  have counts := (membership ("expected_counts", countsJson left.expectedCounts)).mp
    (by simp [members])
  have planId := (membership ("plan_id", .str left.planId)).mp (by simp [members])
  have timeout := (membership ("timeout_seconds", .int left.timeoutSeconds)).mp
    (by simp [members])
  have directory := (membership ("working_directory", .str left.workingDirectory)).mp
    (by simp [members])
  simp only [members, List.mem_append, List.mem_cons, Prod.mk.injEq, List.not_mem_nil,
    or_false] at argv counts planId timeout directory
  have optionalSame (member : String × Json) :
      member ∈ optionalMembers left.expectedStatuses left.oracleProfile ↔
        member ∈ optionalMembers right.expectedStatuses right.oracleProfile := by
    obtain ⟨key, value⟩ := member
    have whole := membership (key, value)
    by_cases special : key = "expected_statuses" ∨ key = "oracle_profile"
    · rcases special with rfl | rfl
      · simpa [members] using whole
      · simpa [members] using whole
    · rw [not_or] at special
      simp [optionalMembers_other special.1 special.2]
  have optional := optionalMembers_injective optionalSame
  have absent (key : String) (value : Json) (notStatuses : key ≠ "expected_statuses")
      (notProfile : key ≠ "oracle_profile") :
      (key, value) ∉ optionalMembers right.expectedStatuses right.oracleProfile :=
    optionalMembers_other notStatuses notProfile
  simp [absent] at argv counts planId timeout directory
  cases left
  cases right
  simp only [ExecutionPlan.mk.injEq]
  exact ⟨planId, texts_injective argv, directory, timeout, countsJson_injective counts,
    optional.1, optional.2⟩

/-! ## The catalog -/

def runnerPython : String := "/opt/crosspatch/venv/bin/python"

def testRoot : String := "/opt/crosspatch/tests"

def workspace : String := "/workspace"

def candidateService : String := "/opt/crosspatch/candidate_service.py"

def pytestPlan (planId testFile testName : String) (timeoutSeconds : Int := 60)
    (expectedCounts : Option (Int × Int × Int) := none)
    (expectedStatuses : Option (List Int) := none)
    (oracleProfile : Option OracleProfile := none) : ExecutionPlan where
  planId := planId
  argv := [runnerPython, "-m", "pytest", "-q", testFile ++ "::" ++ testName]
  workingDirectory := workspace
  timeoutSeconds := timeoutSeconds
  expectedCounts := expectedCounts
  expectedStatuses := expectedStatuses
  oracleProfile := oracleProfile

def candidateServicePlan (planId : String) (expectedCounts : Int × Int × Int)
    (expectedStatuses : Option (List Int)) (oracleProfile : OracleProfile) : ExecutionPlan where
  planId := planId
  argv := [runnerPython, candidateService]
  workingDirectory := workspace
  timeoutSeconds := 120
  expectedCounts := some expectedCounts
  expectedStatuses := expectedStatuses
  oracleProfile := some oracleProfile

def plans : List ExecutionPlan :=
  [pytestPlan "victim.single-delivery" (testRoot ++ "/victim/test_contract.py")
     "test_single_signed_delivery_is_processed_once",
   pytestPlan "victim.sequential-duplicate" (testRoot ++ "/victim/test_contract.py")
     "test_sequential_duplicate_is_idempotent",
   pytestPlan "victim.distinct-events" (testRoot ++ "/victim/test_contract.py")
     "test_distinct_event_ids_are_processed_independently",
   pytestPlan "victim.duplicate-race.affected"
     (testRoot ++ "/backend/integration/test_reproduction.py")
     "test_affected_revision_reproduces_real_duplicate_delivery" 60 (some (1, 2, 2)) none
     (some .duplicateRace),
   candidateServicePlan "victim.duplicate-race.candidate" (1, 1, 1) none .duplicateRace,
   pytestPlan "victim.payload-equivalence.affected"
     (testRoot ++ "/backend/integration/test_payload_equivalence.py")
     "test_affected_revision_rejects_semantically_equivalent_retry" 60 (some (1, 1, 1))
     (some [202, 409, 409]) (some .payloadEquivalence),
   candidateServicePlan "victim.payload-equivalence.candidate" (1, 1, 1)
     (some [202, 200, 409]) .payloadEquivalence,
   pytestPlan "victim.stress-duplicate-32" (testRoot ++ "/victim/test_race.py")
     "test_thirty_two_duplicate_requests_obey_documented_baseline" 120,
   pytestPlan "victim.stress-distinct-32" (testRoot ++ "/victim/test_race.py")
     "test_thirty_two_distinct_events_are_not_coalesced" 120,
   pytestPlan "victim.hmac-rejection" (testRoot ++ "/victim/test_contract.py")
     "test_invalid_hmac_is_rejected_without_database_writes",
   pytestPlan "victim.payload-mismatch" (testRoot ++ "/victim/test_contract.py")
     "test_reused_event_id_with_different_payload_is_rejected",
   pytestPlan "victim.worker-retry" (testRoot ++ "/victim/test_worker_retry.py")
     "test_failed_delivery_is_retried_without_losing_the_job",
   pytestPlan "policy.protected-paths" (testRoot ++ "/backend/security/test_broker_policy.py")
     "test_protected_or_escaping_paths_are_rejected"]

def candidatePlanIds : List String :=
  ["victim.duplicate-race.candidate", "victim.payload-equivalence.candidate"]

/-- A lookup table of plans; the deployed one is `ExecutionCatalog.default`. -/
structure ExecutionCatalog where
  plans : List ExecutionPlan

def ExecutionCatalog.default : ExecutionCatalog := ⟨Catalog.plans⟩

def ExecutionCatalog.resolve (catalog : ExecutionCatalog) (planId : String) :
    Attempt ExecutionPlan :=
  match catalog.plans.find? (·.planId == planId) with
  | some plan => .ok plan
  | none => raise .unknownExecutionPlan planId

end CrossPatch.Runner.Catalog
