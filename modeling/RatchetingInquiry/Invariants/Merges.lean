import RatchetingInquiry.Invariants.AppendOnly
import RatchetingInquiry.Project.Derivation

/-! The proof chain of a merge. Nine kinds of project records lead from an anchor to a merged promotion; each
command checks its neighbours only, and the chain is assembled from the aggregate check and from what three
of the records keep of the moment they were recorded. -/

namespace RatchetingInquiry

section
variable [Fingerprints]

/-- One piece of passing evidence for a goal, an environment and the promoted commit. -/
structure EvidenceProven (evidence : DevelopmentEvidence) (promotion : PromotionDecision) (review : IndependentReview)
    (environment : CandidateEnvironmentManifest) (goal : ImplementationGoalContract) (anchor : ProjectAnchor) :
    Prop where
  passing : evidence.outcome = .pass
  same_goal : evidence.goalId = goal.id
  same_environment : evidence.candidateEnvironmentId = environment.id
  reviewed_commit : evidence.candidateCommitSha = review.reviewedCommitSha
  promoted_commit : evidence.candidateCommitSha = promotion.candidateCommitSha
  anchored : evidence.baseCommitSha = anchor.commitSha
  gate_sealed : evidence.gateDigest = goal.incumbentGateDigest ∨ evidence.gateDigest = goal.proposedGateDigest

/-- A merged promotion rests on owned records: a replacement, its valid independent review over passing
evidence, and the goal that seals the candidate selected by a derived frontier. -/
structure MergeProven (records : ProjectRecords) (promotion : PromotionDecision) (successor : ProjectSuccessorDecision)
    (review : IndependentReview) (environment : CandidateEnvironmentManifest) (goal : ImplementationGoalContract)
    (anchor : ProjectAnchor) (frontier : CapabilityFrontier) : Prop where
  successor_owned : successor ∈ records.projectSuccessorDecisions ∧ successor.id = promotion.successorDecisionId
  replaces : successor.disposition = .replace
  review_owned : review ∈ records.independentReviews ∧ review.id = successor.reviewId
  review_valid : review.outcome = .valid
  environment_owned : environment ∈ records.candidateEnvironments ∧ environment.id = review.candidateEnvironmentId
  independent : review.reviewerId ≠ environment.developerId
  evidence_given : review.evidenceIds ≠ []
  evidence_exact : successor.evidenceIds = review.evidenceIds
  evidence : ∀ evidenceId ∈ review.evidenceIds, ∃ evidence ∈ records.developmentEvidence,
    evidence.id = evidenceId ∧ EvidenceProven evidence promotion review environment goal anchor
  goal_owned : goal ∈ records.implementationGoals ∧ goal.id = successor.goalId
  anchor_owned : anchor ∈ records.projectAnchors ∧ anchor.id = goal.anchorId
  frontier_owned : frontier ∈ records.capabilityFrontiers ∧ frontier.id = goal.frontierId
  frontier_derived : rederiveCapabilityFrontier records frontier = .ok frontier
  selected : frontier.selectedDiscriminatorCandidateId = some goal.candidateId
  admitted : ∀ candidate ∈ records.implementationGoalCandidates, candidate.goal.id = goal.id →
    candidate.goal = goal ∧ candidate.selectedCandidateId = goal.candidateId ∧
      ∃ decision ∈ records.goalAdmissionDecisions, decision.candidateId = candidate.id ∧ decision.outcome = .admitted

variable {state before after : InquiryState}

theorem AggregateValid.project_parts (valid : AggregateValid state) :
    (∀ identifiers ∈ projectIdentities state.toProjectRecords, identifiers.Nodup) ∧
      validateGoals state.goalSources = .ok () ∧ validateProofChain state.toProjectRecords = .ok () := by
  have checked := valid.project
  simp only [validateProject, unit_bind_eq_ok, require_eq_ok] at checked
  obtain ⟨identities, -, goals, chain, -⟩ := checked
  exact ⟨identities, goals, chain⟩

/-- What the records of a merge keep of the moment they were recorded. -/
structure ChainRecorded (records : ProjectRecords) : Prop where
  promotions : ∀ promotion ∈ records.promotionDecisions, promotion.outcome = .merged → ∃ successor review,
    records.projectSuccessorDecisions.find? (fun item => item.id = promotion.successorDecisionId) = some successor ∧
      records.reviewById successor.reviewId = some review ∧ successor.disposition = .replace ∧
      review.outcome = .valid ∧ promotion.candidateCommitSha = review.reviewedCommitSha
  gates : ∀ evidence ∈ records.developmentEvidence, ∃ goal, records.goalById evidence.goalId = some goal ∧
    (evidence.gateDigest = goal.incumbentGateDigest ∨ evidence.gateDigest = goal.proposedGateDigest)
  frontiers : ∀ frontier ∈ records.capabilityFrontiers, rederiveCapabilityFrontier records frontier = .ok frontier

omit [Fingerprints] in
/-- A frontier is derived from the same candidates when more are recorded. -/
theorem rederiveCapabilityFrontier_grown {earlier later : ProjectRecords} {frontier : CapabilityFrontier}
    (grown : earlier.capabilitySuccessorCandidates <+: later.capabilitySuccessorCandidates)
    (distinct : (later.capabilitySuccessorCandidates.map CapabilitySuccessorCandidate.id).Nodup)
    (derived : rederiveCapabilityFrontier earlier frontier = .ok frontier) :
    rederiveCapabilityFrontier later frontier = .ok frontier := by
  simp only [rederiveCapabilityFrontier, found_bind_eq_ok] at derived ⊢
  obtain ⟨candidates, looked, same⟩ := derived
  exact ⟨candidates, mapM_indexBy_grown grown distinct looked, same⟩

omit [Fingerprints] in
theorem ChainRecorded.grown {earlier added : ProjectRecords} (recorded : ChainRecorded earlier)
    (distinct : ((earlier.join added).capabilitySuccessorCandidates.map CapabilitySuccessorCandidate.id).Nodup)
    (promotions : ∀ promotion ∈ added.promotionDecisions, promotion.outcome = .merged → ∃ successor review,
      earlier.projectSuccessorDecisions.find? (fun item => item.id = promotion.successorDecisionId) = some successor ∧
        earlier.reviewById successor.reviewId = some review ∧ successor.disposition = .replace ∧
        review.outcome = .valid ∧ promotion.candidateCommitSha = review.reviewedCommitSha)
    (gates : ∀ evidence ∈ added.developmentEvidence, ∃ goal, earlier.goalById evidence.goalId = some goal ∧
      (evidence.gateDigest = goal.incumbentGateDigest ∨ evidence.gateDigest = goal.proposedGateDigest))
    (frontiers : ∀ frontier ∈ added.capabilityFrontiers, rederiveCapabilityFrontier earlier frontier = .ok frontier) :
    ChainRecorded (earlier.join added) := by
  refine ⟨?_, ?_, ?_⟩
  · intro promotion member merged
    have sourced := (List.mem_append.mp member).elim (recorded.promotions promotion) (promotions promotion) merged
    obtain ⟨successor, review, decided, reviewed, rest⟩ := sourced
    exact ⟨successor, review, (List.prefix_append _ _).find?_eq_some decided,
      (List.prefix_append _ _).find?_eq_some reviewed, rest⟩
  · intro evidence member
    obtain ⟨goal, owned, pinned⟩ := (List.mem_append.mp member).elim (recorded.gates evidence) (gates evidence)
    exact ⟨goal, (List.prefix_append _ _).find?_eq_some owned, pinned⟩
  · intro frontier member
    have derived := (List.mem_append.mp member).elim (recorded.frontiers frontier) (frontiers frontier)
    exact rederiveCapabilityFrontier_grown (List.prefix_append _ _) distinct derived

theorem candidates_unique (valid : AggregateValid state) :
    (state.capabilitySuccessorCandidates.map CapabilitySuccessorCandidate.id).Nodup :=
  valid.project_parts.1 _ (by simp [projectIdentities, projectReferents])

omit [Fingerprints] in
theorem freshFrontier_derived {records : ProjectRecords} {frontier : CapabilityFrontier} {event : ProjectEvent}
    (judged : freshFrontier records frontier = .ok event) :
    rederiveCapabilityFrontier records frontier = .ok frontier := by
  unfold freshFrontier at judged
  split at judged
  next => simp at judged
  next expected derived =>
    rw [require_bind_eq_ok] at judged
    rw [derived, judged.1]

/-- A step that introduces no promotion, evidence or frontier keeps the chain. -/
theorem ChainRecorded.kept {added : InquiryState} (recorded : ChainRecorded before.toProjectRecords)
    (appended : after.toProjectRecords = before.toProjectRecords.join added.toProjectRecords)
    (valid : AggregateValid after) (promotions : added.promotionDecisions = [])
    (gates : added.developmentEvidence = []) (frontiers : added.capabilityFrontiers = []) :
    ChainRecorded after.toProjectRecords := by
  have distinct := candidates_unique valid
  rw [appended] at distinct ⊢
  refine recorded.grown distinct ?_ ?_ ?_
  · simp [promotions]
  · simp [gates]
  · simp [frontiers]

theorem chainRecorded_step {head : EventMetadata} {body : EventBody}
    (fresh : before.status = .notStarted → before = initialState) (recorded : ChainRecorded before.toProjectRecords)
    (transition : Transition before head body after) (valid : AggregateValid after) :
    ChainRecorded after.toProjectRecords := by
  have appended := (transition.recordsAppended fresh).project
  have distinct := candidates_unique valid
  cases transition with
  | project event active lawful =>
    cases event with
    | promotionDecisionRecorded promotion =>
      have judged := (recordOnce_eq_some.mp lawful).2
      simp only [freshPromotionDecision, found_bind_eq_ok, require_bind_eq_ok] at judged
      obtain ⟨successor, decided, review, reviewed, merging, -⟩ := judged
      rw [appended] at distinct ⊢
      refine recorded.grown distinct ?_ (by simp [EventBody.introduces, ProjectRecords.apply])
        (by simp [EventBody.introduces, ProjectRecords.apply])
      intro other member merged
      obtain rfl : other = promotion := by simpa [EventBody.introduces, ProjectRecords.apply] using member
      exact ⟨successor, review, decided, reviewed, merging merged⟩
    | developmentEvidenceRecorded evidence =>
      have judged := (recordOnce_eq_some.mp lawful).2
      simp only [freshDevelopmentEvidence, found_bind_eq_ok, require_bind_eq_ok] at judged
      obtain ⟨goal, owned, environment, -, ⟨-, pinned⟩, -⟩ := judged
      rw [appended] at distinct ⊢
      refine recorded.grown distinct (by simp [EventBody.introduces, ProjectRecords.apply]) ?_
        (by simp [EventBody.introduces, ProjectRecords.apply])
      intro other member
      obtain rfl : other = evidence := by simpa [EventBody.introduces, ProjectRecords.apply] using member
      exact ⟨goal, owned, pinned⟩
    | capabilityFrontierRecorded frontier =>
      have derived := freshFrontier_derived (recordOnce_eq_some.mp lawful).2
      rw [appended] at distinct ⊢
      refine recorded.grown distinct (by simp [EventBody.introduces, ProjectRecords.apply])
        (by simp [EventBody.introduces, ProjectRecords.apply]) ?_
      intro other member
      obtain rfl : other = frontier := by simpa [EventBody.introduces, ProjectRecords.apply] using member
      exact derived
    | _ => exact recorded.kept appended valid rfl rfl rfl
  | memory event => cases event <;> exact recorded.kept appended valid rfl rfl rfl
  | learning event => cases event <;> exact recorded.kept appended valid rfl rfl rfl
  | _ => exact recorded.kept appended valid rfl rfl rfl

theorem Replayable.chainRecorded (replayed : Replayable state) : ChainRecorded state.toProjectRecords := by
  induction replayed with
  | refl => constructor <;> simp [initialState]
  | tail earlier step ih =>
    obtain ⟨event, evolved⟩ := step
    obtain ⟨transition, valid⟩ := evolve_eq_ok.mp evolved
    exact chainRecorded_step (Replayable.unstarted_eq_initial earlier) ih transition valid

/-! What the aggregate check says about the records of the chain. -/

omit [Fingerprints] in
/-- An environment starts from the anchor of its goal. -/
theorem environment_anchored {records : ProjectRecords} (checked : validateProofChain records = .ok ())
    {environment : CandidateEnvironmentManifest} (owned : environment ∈ records.candidateEnvironments) :
    ∃ goal ∈ records.implementationGoals, goal.id = environment.goalId ∧ ∃ anchor ∈ records.projectAnchors,
      anchor.id = goal.anchorId ∧ anchor.commitSha = environment.baseCommitSha := by
  simp only [validateProofChain, require_bind_eq_ok, require_eq_ok] at checked
  have anchored := checked.1 environment owned
  rw [Option.any_eq_true] at anchored
  obtain ⟨anchor, looked, commit⟩ := anchored
  obtain ⟨goal, goalHit, anchorHit⟩ := Option.bind_eq_some_iff.mp looked
  obtain ⟨goalOwned, goalNamed⟩ := indexBy_some goalHit
  obtain ⟨anchorOwned, anchorNamed⟩ := indexBy_some anchorHit
  exact ⟨goal, goalOwned, goalNamed, anchor, anchorOwned, anchorNamed, by simpa using commit⟩

omit [Fingerprints] in
/-- Evidence has the base of its environment, and both have one goal. -/
theorem evidence_based {records : ProjectRecords} (checked : validateProofChain records = .ok ())
    {evidence : DevelopmentEvidence} (owned : evidence ∈ records.developmentEvidence) :
    ∃ environment ∈ records.candidateEnvironments, environment.id = evidence.candidateEnvironmentId ∧
      environment.goalId = evidence.goalId ∧ environment.baseCommitSha = evidence.baseCommitSha := by
  simp only [validateProofChain, require_bind_eq_ok, require_eq_ok] at checked
  have based := (checked.2.1 evidence owned).2
  rw [Option.any_eq_true] at based
  obtain ⟨environment, hit, exactly⟩ := based
  obtain ⟨environmentOwned, named⟩ := indexBy_some hit
  simp only [Bool.and_eq_true, decide_eq_true_eq] at exactly
  exact ⟨environment, environmentOwned, named, exactly⟩

omit [Fingerprints] in
/-- A valid review is by another agent and about passing evidence of its goal, environment and commit. -/
theorem review_independent {records : ProjectRecords} (checked : validateProofChain records = .ok ())
    {review : IndependentReview} (owned : review ∈ records.independentReviews) (outcome : review.outcome = .valid) :
    ∃ environment ∈ records.candidateEnvironments, environment.id = review.candidateEnvironmentId ∧
      environment.goalId = review.goalId ∧ review.reviewerId ≠ environment.developerId ∧
      ∀ evidenceId ∈ review.evidenceIds, ∃ evidence ∈ records.developmentEvidence, evidence.id = evidenceId ∧
        evidence.outcome = .pass ∧ evidence.goalId = review.goalId ∧
        evidence.candidateEnvironmentId = review.candidateEnvironmentId ∧
        evidence.candidateCommitSha = review.reviewedCommitSha := by
  simp only [validateProofChain, require_bind_eq_ok, require_eq_ok] at checked
  obtain ⟨-, evidenceOwned, independent, passing⟩ := checked.2.2.1 review owned
  rw [Option.any_eq_true] at independent
  obtain ⟨environment, hit, exactly⟩ := independent
  obtain ⟨environmentOwned, named⟩ := indexBy_some hit
  simp only [IndependentReview.isIndependent, Bool.and_eq_true, decide_eq_true_eq, List.all_eq_true] at exactly
  obtain ⟨⟨sameGoal, another⟩, about⟩ := exactly
  refine ⟨environment, environmentOwned, named, sameGoal, another, ?_⟩
  intro evidenceId listed
  have present : (records.evidenceWithId evidenceId).isSome := indexBy_isSome_iff.mpr (evidenceOwned listed)
  obtain ⟨evidence, evidenceHit⟩ := Option.isSome_iff_exists.mp present
  obtain ⟨member, evidenceNamed⟩ := indexBy_some evidenceHit
  have among : evidence ∈ records.evidenceAmong review.evidenceIds :=
    List.mem_filterMap.mpr ⟨evidenceId, listed, evidenceHit⟩
  obtain ⟨⟨goalSame, environmentSame⟩, commitSame⟩ := about evidence among
  exact ⟨evidence, member, evidenceNamed, passing outcome evidence among, goalSame, environmentSame, commitSame⟩

omit [Fingerprints] in
/-- A successor decision uses exactly the evidence of its review, for the same goal. -/
theorem successor_reviewed {records : ProjectRecords} (checked : validateProofChain records = .ok ())
    {successor : ProjectSuccessorDecision} (owned : successor ∈ records.projectSuccessorDecisions) :
    ∃ review ∈ records.independentReviews, review.id = successor.reviewId ∧ review.goalId = successor.goalId ∧
      review.evidenceIds = successor.evidenceIds := by
  simp only [validateProofChain, require_bind_eq_ok, require_eq_ok] at checked
  have reviewed := (checked.2.2.2.1 successor owned).2.2.2.2
  rw [Option.any_eq_true] at reviewed
  obtain ⟨review, hit, exactly⟩ := reviewed
  obtain ⟨reviewOwned, named⟩ := indexBy_some hit
  simp only [Bool.and_eq_true, decide_eq_true_eq] at exactly
  exact ⟨review, reviewOwned, named, exactly.1.1, exactly.2⟩

/-- A goal seals the candidate that its owned frontier selected. -/
theorem goal_selected {sources : GoalSources} (checked : validateGoals sources = .ok ())
    {goal : ImplementationGoalContract} (owned : goal ∈ sources.project.implementationGoals) :
    ∃ frontier ∈ sources.project.capabilityFrontiers, frontier.id = goal.frontierId ∧
      frontier.selectedDiscriminatorCandidateId = some goal.candidateId := by
  simp only [validateGoals, require_bind_eq_ok, require_eq_ok] at checked
  have selected := (checked.2.2.2.1 goal owned).2.2
  rw [Option.any_eq_true] at selected
  obtain ⟨frontier, hit, exactly⟩ := selected
  obtain ⟨frontierOwned, named⟩ := indexBy_some hit
  simp only [Bool.and_eq_true, decide_eq_true_eq] at exactly
  exact ⟨frontier, frontierOwned, named, exactly.2⟩

/-- A goal that was compiled is admitted. -/
theorem goal_admitted {sources : GoalSources} (checked : validateGoals sources = .ok ())
    {goal : ImplementationGoalContract} (owned : goal ∈ sources.project.implementationGoals)
    {candidate : ImplementationGoalCandidate} (compiled : candidate ∈ sources.project.implementationGoalCandidates)
    (named : candidate.goal.id = goal.id) :
    candidate.goal = goal ∧ candidate.selectedCandidateId = goal.candidateId ∧
      ∃ decision ∈ sources.project.goalAdmissionDecisions, decision.candidateId = candidate.id ∧
        decision.outcome = .admitted := by
  simp only [validateGoals, require_bind_eq_ok, require_eq_ok] at checked
  have recompiled := checked.1 candidate compiled
  have admitted := checked.2.2.2.2 goal owned
  have listed : candidate ∈ sources.project.implementationGoalCandidates.filter (fun item => item.goal.id = goal.id) :=
    List.mem_filter.mpr ⟨compiled, by simpa using named⟩
  unfold generatedGoalAdmitted at admitted
  split at admitted
  next none =>
    rw [none] at listed
    simp at listed
  next only one =>
    rw [one, List.mem_singleton] at listed
    subst listed
    simp only [Bool.and_eq_true, decide_eq_true_eq, List.any_eq_true] at admitted
    obtain ⟨same, decision, decided, ⟨about, outcome⟩, -⟩ := admitted
    -- the compiled goal seals the candidate that its frontier selected
    obtain ⟨join, -, -, rfl⟩ := compileImplementationGoalCandidate_eq_ok.mp recompiled
    exact ⟨same, by rw [← same]; rfl, decision, decided, about, outcome⟩
  next => simp at admitted

/-- Every merged promotion of every reachable state has its complete proof chain. -/
theorem merge_proven (reached : Reachable state) {promotion : PromotionDecision}
    (recorded : promotion ∈ state.promotionDecisions) (merged : promotion.outcome = .merged) :
    ∃ successor review environment goal anchor frontier,
      MergeProven state.toProjectRecords promotion successor review environment goal anchor frontier := by
  have chain := reached.replayable.chainRecorded
  obtain ⟨identities, goals, checked⟩ := reached.replayable.aggregateValid.project_parts
  have reviewIds : (state.independentReviews.map IndependentReview.id).Nodup :=
    identities _ (by simp [projectIdentities, projectReferents])
  have environmentIds : (state.candidateEnvironments.map CandidateEnvironmentManifest.id).Nodup :=
    identities _ (by simp [projectIdentities, projectReferents])
  have goalIds : (state.implementationGoals.map ImplementationGoalContract.id).Nodup :=
    identities _ (by simp [projectIdentities, projectReferents])
  obtain ⟨successor, review, successorHit, reviewHit, replaces, outcome, promoted⟩ :=
    chain.promotions promotion recorded merged
  have successorOwned := List.mem_of_find?_eq_some successorHit
  have successorNamed : successor.id = promotion.successorDecisionId := by simpa using List.find?_some successorHit
  have reviewOwned : review ∈ state.independentReviews := List.mem_of_find?_eq_some reviewHit
  have reviewNamed : review.id = successor.reviewId := by simpa using List.find?_some reviewHit
  -- the review that the decision was checked against is the one it names
  obtain ⟨sameReview, sameOwned, sameNamed, reviewGoal, reviewEvidence⟩ := successor_reviewed checked successorOwned
  obtain rfl : sameReview = review :=
    List.inj_on_of_nodup_map reviewIds sameOwned reviewOwned (sameNamed.trans reviewNamed.symm)
  obtain ⟨environment, environmentOwned, environmentNamed, environmentGoal, another, covered⟩ :=
    review_independent checked reviewOwned outcome
  obtain ⟨goal, goalOwned, goalNamed, anchor, anchorOwned, anchorNamed, anchored⟩ :=
    environment_anchored checked environmentOwned
  obtain ⟨frontier, frontierOwned, frontierNamed, selected⟩ := goal_selected goals goalOwned
  have goalOfReview : goal.id = sameReview.goalId := goalNamed.trans environmentGoal
  refine ⟨successor, sameReview, environment, goal, anchor, frontier, ?_⟩
  refine ⟨⟨successorOwned, successorNamed⟩, replaces, ⟨reviewOwned, reviewNamed⟩, outcome,
    ⟨environmentOwned, environmentNamed⟩, another, sameReview.evidence_canonical.1, reviewEvidence.symm, ?_,
    ⟨goalOwned, goalOfReview.trans reviewGoal⟩, ⟨anchorOwned, anchorNamed⟩, ⟨frontierOwned, frontierNamed⟩,
    chain.frontiers frontier frontierOwned, selected, ?_⟩
  · intro evidenceId listed
    obtain ⟨evidence, member, named, passing, evidenceGoal, evidenceEnvironment, commit⟩ := covered evidenceId listed
    obtain ⟨base, baseOwned, baseNamed, -, baseCommit⟩ := evidence_based checked member
    obtain rfl : base = environment := List.inj_on_of_nodup_map environmentIds baseOwned environmentOwned
      (baseNamed.trans (evidenceEnvironment.trans environmentNamed.symm))
    obtain ⟨sealing, sealingHit, gate⟩ := chain.gates evidence member
    have sealingNamed : sealing.id = evidence.goalId := by simpa using List.find?_some sealingHit
    obtain rfl : sealing = goal := List.inj_on_of_nodup_map goalIds (List.mem_of_find?_eq_some sealingHit) goalOwned
      (sealingNamed.trans (evidenceGoal.trans goalOfReview.symm))
    exact ⟨evidence, member, named, passing, sealingNamed.symm, baseNamed.symm, commit, commit.trans promoted.symm,
      baseCommit.symm.trans anchored.symm, gate⟩
  · intro candidate compiled candidateNamed
    exact goal_admitted goals goalOwned compiled candidateNamed

end

/-! A limitation of the worked repository is developed, reviewed and merged. -/

namespace Worked

def projectAnchor : ProjectAnchor where
  id := "anchor"
  repository := "repository"
  protectedBranch := "main"
  commitSha := "base"
  treeDigest := "tree"
  authorityDigest := "authority"
  gateDigest := gateDigest predecessorGateCommands

def projectLimitation : CapabilityLimitation where
  id := "limitation"
  anchorId := "anchor"
  kind := .implementation
  currentCapability := "current"
  missingCapability := "missing"
  consequentialBoundary := "boundary"
  protectedConsequenceIds := ["consequence"]
  observedEvidence := [artifact "observed"]

def capabilitySuccessor : CapabilitySuccessorCandidate where
  id := "candidate"
  anchorId := "anchor"
  limitationId := "limitation"
  kind := .implementation
  currentState := "current"
  desiredState := "desired"
  preservedCapabilityIds := ["capability"]
  gainKinds := [.repairedFailure]
  discriminatorId := some "goal-synthesis-acceptance"
  evidenceMechanismIds := ["mechanism"]
  estimatedCosts := [⟨"effort", some 1⟩]
  reversible := true

def capabilityFrontier : CapabilityFrontier where
  id := "frontier"
  anchorId := "anchor"
  limitationId := "limitation"
  candidateIds := ["candidate"]
  nondominatedCandidateIds := ["candidate"]
  incomparablePairs := []
  selectedDiscriminatorCandidateId := some "candidate"
  status := .ready

def sealedGoal : ImplementationGoalContract where
  id := "goal"
  cycleId := "cycle"
  anchorId := "anchor"
  frontierId := "frontier"
  candidateId := "candidate"
  current := "current"
  desired := "desired"
  separator := "boundary"
  expectedIncumbentReturn := "incumbent"
  expectedCandidateReturn := "candidate"
  preserveCapabilityIds := ["capability"]
  acceptanceCommands := ["check"]
  allowedMutationRoots := ["src"]
  forbiddenAuthorityRoots := ["docs"]
  assumptionIds := ["assumption"]
  incumbentGateDigest := "gate"
  proposedGateDigest := "proposed"
  rollbackCondition := "rollback"
  reopeningCondition := "reopening"

def developed : List CommandBody := [
  .project (.recordProjectAnchor projectAnchor),
  .project (.recordCapabilityLimitation projectLimitation),
  .project (.recordCapabilitySuccessorCandidate capabilitySuccessor),
  .project (.recordCapabilityFrontier capabilityFrontier),
  .project (.sealImplementationGoal sealedGoal),
  .project (.recordCandidateEnvironment {
    id := "environment"
    goalId := "goal"
    developerId := "developer"
    baseCommitSha := "base"
    candidateBranch := "branch"
    worktreePath := "worktree"
    initialTreeDigest := "tree"
    toolchainArtifact := artifact "toolchain"
    toolchainDigest := "toolchain" }),
  .project (.recordDevelopmentEvidence {
    id := "evidence"
    goalId := "goal"
    candidateEnvironmentId := "environment"
    kind := .test
    commandOrMethod := "check"
    outcome := .pass
    observedReturn := artifact "observed"
    baseCommitSha := "base"
    candidateCommitSha := "head"
    gateDigest := "proposed" }),
  .project (.recordIndependentReview {
    id := "review"
    goalId := "goal"
    candidateEnvironmentId := "environment"
    reviewerId := "reviewer"
    reviewerContextDigest := "context"
    reviewedCommitSha := "head"
    evidenceIds := ["evidence"]
    outcome := .valid
    findingsArtifact := artifact "findings" })]

def mergedPromotion : PromotionDecision where
  id := "promotion"
  successorDecisionId := "successor"
  candidateCommitSha := "head"
  pullRequestUrl := "url"
  requiredChecks := [⟨"check", .success⟩]
  outcome := .merged
  mergedCommitSha := some "merge"

def mergedOnce : List CommandBody := start :: developed ++ [
  .project (.decideProjectSuccessor {
    id := "successor"
    goalId := "goal"
    candidateId := "candidate"
    candidateEnvironmentId := "environment"
    reviewId := "review"
    evidenceIds := ["evidence"]
    disposition := .replace
    preservedCapabilityIds := ["capability"]
    gainKinds := [.repairedFailure]
    reason := "reviewed" }),
  .project (.recordPromotionDecision mergedPromotion)]

theorem mergedOnce_proven : mergedPromotion ∈ (reached mergedOnce).promotionDecisions ∧
    ∃ successor review environment goal anchor frontier, MergeProven (reached mergedOnce).toProjectRecords
      mergedPromotion successor review environment goal anchor frontier := by
  have recorded : mergedPromotion ∈ (reached mergedOnce).promotionDecisions := by decide +kernel
  exact ⟨recorded, merge_proven (reachable_reached mergedOnce) recorded rfl⟩

end Worked

end RatchetingInquiry
