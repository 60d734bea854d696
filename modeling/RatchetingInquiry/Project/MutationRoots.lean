import RatchetingInquiry.Library.Paths
import RatchetingInquiry.Project.Models

/-! The roots of an implementation goal. Its validator keeps every allowed mutation root out of the forbidden
authority roots. It does not look for a forbidden root inside an allowed one. -/

namespace RatchetingInquiry

/-- `_canonical` with `nonempty=True`. -/
def canonicalNonempty (values : List String) (label : String) : Except Failure Unit := do
  require (values ≠ []) (.validation (label ++ " must not be empty"))
  require (CanonicalIds values) (.validation (label ++ " must be unique and canonically ordered"))

/-- A normalized path below the root of the repository. -/
structure IsRepositoryPath (value : String) : Prop where
  no_backslash : '\\' ∉ value.toList
  relative : (PurePosixPath.parse value.toList).isAbsolute = false
  normal : value.toList = (PurePosixPath.parse value.toList).asPosix
  named : value ≠ "" ∧ value ≠ "."
  no_parent : ['.', '.'] ∉ (PurePosixPath.parse value.toList).parts

instance (value : String) : Decidable (IsRepositoryPath value) :=
  decidable_of_iff ('\\' ∉ value.toList ∧ (PurePosixPath.parse value.toList).isAbsolute = false ∧
      value.toList = (PurePosixPath.parse value.toList).asPosix ∧ (value ≠ "" ∧ value ≠ ".") ∧
      ['.', '.'] ∉ (PurePosixPath.parse value.toList).parts)
    ⟨fun ⟨backslash, relative, normal, named, parent⟩ => ⟨backslash, relative, normal, named, parent⟩,
      fun path => ⟨path.no_backslash, path.relative, path.normal, path.named, path.no_parent⟩⟩

/-- `_repository_relative_path`. -/
def repositoryRelativePath (label value : String) : Except Failure Unit :=
  require (IsRepositoryPath value) (.validation (label ++ " must be a normalized repository-relative path"))

/-- The text starts with the root and a slash. -/
def StartsBelow (value root : String) : Prop := root.toList ++ ['/'] <+: value.toList

instance (value root : String) : Decidable (StartsBelow value root) := inferInstanceAs (Decidable (_ <+: _))

/-- `ImplementationGoalContract.validate_goal`, run whenever a goal is built. -/
def ImplementationGoalContract.validateGoal (goal : ImplementationGoalContract) :
    Except Failure ImplementationGoalContract := do
  [(goal.preserveCapabilityIds, "goal preserved capabilities"), (goal.acceptanceCommands, "goal acceptance commands"),
    (goal.allowedMutationRoots, "allowed mutation roots"),
    (goal.forbiddenAuthorityRoots, "forbidden authority roots"), (goal.assumptionIds, "goal assumptions")].forM
    fun (values, label) => canonicalNonempty values label
  (goal.allowedMutationRoots ++ goal.forbiddenAuthorityRoots).forM (repositoryRelativePath "goal mutation root")
  require (∀ allowed ∈ goal.allowedMutationRoots, ∀ forbidden ∈ goal.forbiddenAuthorityRoots,
      ¬ (allowed = forbidden ∨ StartsBelow allowed forbidden))
    (.validation "allowed mutation roots cannot enter forbidden authority roots")
  return goal

/-- The path is the root or lies below it, component by component. -/
def LiesUnder (path root : String) : Prop :=
  (PurePosixPath.parse root.toList).parts <+: (PurePosixPath.parse path.toList).parts

/-- No path of the repository is permitted and forbidden at once. -/
def ImplementationGoalContract.RootsApart (goal : ImplementationGoalContract) : Prop :=
  ∀ path, IsRepositoryPath path → ∀ allowed ∈ goal.allowedMutationRoots,
    ∀ forbidden ∈ goal.forbiddenAuthorityRoots, ¬ (LiesUnder path allowed ∧ LiesUnder path forbidden)

theorem IsRepositoryPath.parts_eq {value : String} (path : IsRepositoryPath value) :
    (PurePosixPath.parse value.toList).parts = value.toList.splitOn '/' := by
  apply parts_eq_splitOn path.relative path.normal
  intro dot
  exact path.named.2 (String.toList_injective dot)

/-- Below the root, or the root itself: what the components say of two paths is what their texts say. -/
theorem liesUnder_iff {path root : String} (first : IsRepositoryPath path) (second : IsRepositoryPath root) :
    LiesUnder path root ↔ path = root ∨ StartsBelow path root := by
  unfold LiesUnder StartsBelow
  rw [first.parts_eq, second.parts_eq, separated_prefix_iff]
  have same_iff : root.toList.splitOn '/' = path.toList.splitOn '/' ↔ path = root := by
    constructor
    · intro same
      have joined := congrArg (['/'].intercalate ·) same
      simp only [List.intercalate_splitOn] at joined
      exact String.toList_injective joined.symm
    · intro same
      rw [same]
  constructor
  · intro leads
    by_cases same : path = root
    · exact .inl same
    · exact .inr ⟨leads, fun equal => same (same_iff.mp equal)⟩
  · intro below
    rcases below with same | ⟨leads, -⟩
    · rw [same]
    · exact leads

theorem validateGoal_paths {goal result : ImplementationGoalContract} (validated : goal.validateGoal = .ok result) :
    (∀ root ∈ goal.allowedMutationRoots ++ goal.forbiddenAuthorityRoots, IsRepositoryPath root) ∧
      ∀ allowed ∈ goal.allowedMutationRoots, ∀ forbidden ∈ goal.forbiddenAuthorityRoots,
        ¬ (allowed = forbidden ∨ StartsBelow allowed forbidden) := by
  rw [ImplementationGoalContract.validateGoal, forM_bind_eq_ok, forM_bind_eq_ok, require_bind_eq_ok] at validated
  obtain ⟨-, paths, apart, -⟩ := validated
  exact ⟨fun root owned => require_eq_ok.mp (paths root owned), apart⟩

/-- The roots of an accepted goal are apart just when no forbidden root lies inside an allowed one. -/
theorem goal_roots_apart_iff (goal result : ImplementationGoalContract) (validated : goal.validateGoal = .ok result) :
    goal.RootsApart ↔ ∀ allowed ∈ goal.allowedMutationRoots, ∀ forbidden ∈ goal.forbiddenAuthorityRoots,
      ¬ StartsBelow forbidden allowed := by
  obtain ⟨paths, kept⟩ := validateGoal_paths validated
  have allowedPath : ∀ allowed ∈ goal.allowedMutationRoots, IsRepositoryPath allowed :=
    fun allowed owned => paths allowed (List.mem_append_left _ owned)
  have forbiddenPath : ∀ forbidden ∈ goal.forbiddenAuthorityRoots, IsRepositoryPath forbidden :=
    fun forbidden owned => paths forbidden (List.mem_append_right _ owned)
  constructor
  · intro apart allowed first forbidden second below
    -- the forbidden root itself is permitted
    apply apart forbidden (forbiddenPath forbidden second) allowed first forbidden second
    exact ⟨(liesUnder_iff (forbiddenPath forbidden second) (allowedPath allowed first)).mpr (.inr below),
      List.prefix_refl _⟩
  · intro outside path known allowed first forbidden second ⟨permitted, denied⟩
    rcases List.prefix_or_prefix_of_prefix permitted denied with allowedLeads | forbiddenLeads
    · rcases (liesUnder_iff (forbiddenPath forbidden second) (allowedPath allowed first)).mp allowedLeads with
        same | below
      · exact kept allowed first forbidden second (.inl same.symm)
      · exact outside allowed first forbidden second below
    · exact kept allowed first forbidden second
        ((liesUnder_iff (allowedPath allowed first) (forbiddenPath forbidden second)).mp forbiddenLeads)

namespace Worked

/-- A goal that may change the sources and must not touch one directory of them. -/
def nestedRoots : ImplementationGoalContract where
  id := "goal"
  cycleId := "cycle"
  anchorId := "anchor"
  frontierId := "frontier"
  candidateId := "candidate"
  current := "current"
  desired := "desired"
  separator := "separator"
  expectedIncumbentReturn := "incumbent"
  expectedCandidateReturn := "candidate"
  preserveCapabilityIds := ["capability"]
  acceptanceCommands := ["pytest"]
  allowedMutationRoots := ["src"]
  forbiddenAuthorityRoots := ["src/authority"]
  assumptionIds := ["assumption"]
  incumbentGateDigest := "0000000000000000000000000000000000000000000000000000000000000000"
  proposedGateDigest := "1111111111111111111111111111111111111111111111111111111111111111"
  rollbackCondition := "rollback"
  reopeningCondition := "reopening"

/-- The same goal with the directory beside the sources. -/
def separateRoots : ImplementationGoalContract :=
  { nestedRoots with forbiddenAuthorityRoots := ["AGENTS.md", "srcs"] }

theorem separateRoots_apart : separateRoots.RootsApart :=
  (goal_roots_apart_iff separateRoots separateRoots (by decide +kernel)).mpr (by decide +kernel)

/-- The validator accepts a goal that permits changes inside a forbidden directory. -/
theorem nestedRoots_overlap : ¬ ∀ goal result : ImplementationGoalContract,
    goal.validateGoal = .ok result → goal.RootsApart := by
  intro claimed
  have apart := claimed nestedRoots nestedRoots (by decide +kernel)
  apply apart "src/authority/keys" (by decide +kernel) "src" (by decide) "src/authority" (by decide)
  unfold LiesUnder
  decide +kernel

end Worked

end RatchetingInquiry
