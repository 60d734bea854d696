import RatchetingInquiry.Invariants.AppendOnly
import RatchetingInquiry.Core.Rebuild
import RatchetingInquiry.Invariants.Warrants

/-! Reconsolidation: a dependency of the predecessor is discharged by exact hard evidence or carried over to
the successor. The patch that accounts for the dependencies, the promotion of the successor and the link
between them are separate commands, and the link is judged without the routes of the successor. -/

namespace RatchetingInquiry

/-- Every route of the lemma requires the dependency. -/
def WarrantRecords.requiresThroughout (warrants : WarrantRecords) (lemmaId dependencyId : String) : Bool :=
  warrants.lemmaSupports.all (fun support => support.lemmaVersionId ≠ lemmaId ||
    support.allSupportRoutes.all (fun route => dependencyId ∈ route.requiredDependencyIds))

/-- A dependency that the patch of a recorded link transports is required by every route of the successor. -/
def carriesTransported (state : InquiryState) (command : DomainCommand) : Bool :=
  match command.body with
  | .learning (.recordReconsolidationLink link) =>
    state.memoryPatchCandidates.all (fun patch => patch.id ≠ link.memoryPatchId ||
      patch.dependencyDispositions.all (fun disposition => disposition.kind ≠ .transported ||
        state.requiresThroughout link.successorLemmaId disposition.dependencyId))
  | _ => true

theorem WarrantRecords.requiresThroughout_iff {warrants : WarrantRecords} {lemmaId dependencyId : String} :
    warrants.requiresThroughout lemmaId dependencyId = true ↔
      ∀ support ∈ warrants.lemmaSupports, support.lemmaVersionId = lemmaId →
        ∀ route ∈ support.allSupportRoutes, dependencyId ∈ route.requiredDependencyIds := by
  simp [WarrantRecords.requiresThroughout, or_iff_not_imp_left]

theorem WarrantRecords.extends_join (records added : WarrantRecords) : records.Extends (records.join added) := by
  constructor <;> exact List.prefix_append _ _

section
variable [Fingerprints]

/-- The disposition rests on an owned hard decision about the exact relation and scope of its dependency. -/
def DependencyDisposition.DischargedIn (disposition : DependencyDisposition) (warrants : WarrantRecords) : Prop :=
  ∃ decision ∈ warrants.warrantDecisions, ∃ dependency ∈ warrants.lemmaVersions,
    disposition.kind = .hardDischarged decision.id ∧ dependency.id = disposition.dependencyId ∧
      decision.warrantClass = .hard ∧ decision.propositionId = dependency.relationId ∧
      decision.scopeFingerprint = dependency.scope.fingerprint

/-- The patch discharges the dependency by hard evidence. -/
def MemoryPatchCandidate.Discharges (patch : MemoryPatchCandidate) (warrants : WarrantRecords)
    (dependencyId : String) : Prop :=
  ∃ disposition ∈ patch.dependencyDispositions, disposition.dependencyId = dependencyId ∧
    disposition.DischargedIn warrants

/-- No reconsolidation drops an undischarged dependency: whatever a route named in the linked patch requires
is discharged by the patch or required by every route of the successor. -/
def DependenciesTransported (state : InquiryState) : Prop :=
  ∀ link ∈ state.reconsolidationLinks, ∃ patch,
    state.memoryPatchCandidates.find? (fun item => item.id = link.memoryPatchId) = some patch ∧
      ∀ support ∈ state.lemmaSupports, support.lemmaVersionId = link.predecessorLemmaId →
        ∀ route ∈ support.allSupportRoutes, route.id ∈ patch.predecessorSupportRouteIds →
          ∀ dependencyId ∈ route.requiredDependencyIds,
            patch.Discharges state.toWarrantRecords dependencyId ∨
              state.requiresThroughout link.successorLemmaId dependencyId

/-- The patch transports or discharges every dependency of the predecessor routes that it names. -/
def MemoryPatchCandidate.Accounts (patch : MemoryPatchCandidate) (warrants : WarrantRecords) : Prop :=
  ∃ support ∈ warrants.lemmaSupports, support.lemmaVersionId = patch.targetLemmaId ∧
    ∀ dependencyId ∈ patchDependencies support patch, ∃ disposition ∈ patch.dependencyDispositions,
      disposition.dependencyId = dependencyId ∧
        (disposition.kind = .transported ∨ disposition.DischargedIn warrants)

/-- The routes of the successor require what the linked patch transports. -/
def ReconsolidationLink.Carries (link : ReconsolidationLink) (warrants : WarrantRecords) (learning : LearningRecords) :
    Prop :=
  ∃ patch, learning.memoryPatchCandidates.find? (fun item => item.id = link.memoryPatchId) = some patch ∧
    patch.targetLemmaId = link.predecessorLemmaId ∧
      ∃ support ∈ warrants.lemmaSupports, support.lemmaVersionId = link.successorLemmaId ∧
        ∀ disposition ∈ patch.dependencyDispositions, disposition.kind = .transported →
          ∀ route ∈ support.allSupportRoutes, disposition.dependencyId ∈ route.requiredDependencyIds

/-- What every record of a reconsolidation keeps about the records that it names. -/
structure ReconsolidationsSound (warrants : WarrantRecords) (learning : LearningRecords) : Prop where
  patches : ∀ patch ∈ learning.memoryPatchCandidates, patch.Accounts warrants
  links : ∀ link ∈ learning.reconsolidationLinks, link.Carries warrants learning

section
variable {earlier later : WarrantRecords}

theorem DependencyDisposition.DischargedIn.grown {disposition : DependencyDisposition}
    (discharged : disposition.DischargedIn earlier) (grown : earlier.Extends later) :
    disposition.DischargedIn later := by
  obtain ⟨decision, decided, dependency, owned, exactly⟩ := discharged
  exact ⟨decision, grown.decisions.subset decided, dependency, grown.versions.subset owned, exactly⟩

theorem MemoryPatchCandidate.Accounts.grown {patch : MemoryPatchCandidate} (accounts : patch.Accounts earlier)
    (grown : earlier.Extends later) : patch.Accounts later := by
  obtain ⟨support, owned, named, covered⟩ := accounts
  refine ⟨support, grown.supports.subset owned, named, ?_⟩
  intro dependencyId required
  obtain ⟨disposition, member, about, settled⟩ := covered dependencyId required
  exact ⟨disposition, member, about, settled.imp_right (fun discharged => discharged.grown grown)⟩

omit [Fingerprints] in
theorem ReconsolidationLink.Carries.grown {link : ReconsolidationLink} {learning added : LearningRecords}
    (carries : link.Carries earlier learning) (grown : earlier.Extends later) :
    link.Carries later (learning.join added) := by
  obtain ⟨patch, hit, targets, support, owned, named, required⟩ := carries
  have kept : learning.memoryPatchCandidates <+: (learning.join added).memoryPatchCandidates :=
    List.prefix_append _ _
  exact ⟨patch, kept.find?_eq_some hit, targets, support, grown.supports.subset owned, named, required⟩

end

variable {state before after : InquiryState}

/-- A discharge that the code accepts rests on owned records. -/
theorem requireDischarge_settles {warrants : WarrantRecords} {disposition : DependencyDisposition}
    (checked : requireDischarge warrants disposition = .ok ()) :
    disposition.kind = .transported ∨ disposition.DischargedIn warrants := by
  unfold requireDischarge at checked
  split at checked
  next transported => exact .inl transported
  next decisionId discharged =>
    rw [require_eq_ok, Option.any_eq_true] at checked
    obtain ⟨decision, decisionHit, exactly⟩ := checked
    rw [Option.any_eq_true] at exactly
    obtain ⟨dependency, dependencyHit, exactly⟩ := exactly
    obtain ⟨decided, decisionNamed⟩ := indexBy_some decisionHit
    obtain ⟨owned, dependencyNamed⟩ := indexBy_some dependencyHit
    simp only [Bool.and_eq_true, decide_eq_true_eq] at exactly
    obtain ⟨⟨hard, relation⟩, scope⟩ := exactly
    exact .inr ⟨decision, decided, dependency, owned, by rw [discharged, decisionNamed], dependencyNamed, hard,
      relation, scope⟩

theorem freshMemoryPatch_accounts {patch : MemoryPatchCandidate} {event : LearningEvent}
    (judged : freshMemoryPatch before patch = .ok event) : patch.Accounts before.toWarrantRecords := by
  simp only [freshMemoryPatch, found_bind_eq_ok, unit_bind_eq_ok, require_eq_ok, forM_eq_ok] at judged
  obtain ⟨version, versionHit, -, -, support, supportHit, ⟨-, accounted⟩, discharges, -⟩ := judged
  obtain ⟨versionFound, -⟩ := Option.filter_eq_some_iff.mp versionHit
  obtain ⟨supportFound, -⟩ := Option.filter_eq_some_iff.mp supportHit
  have versionNamed : version.id = patch.targetLemmaId := by simpa using List.find?_some versionFound
  have supportNamed : support.lemmaVersionId = version.id := by simpa using List.find?_some supportFound
  refine ⟨support, List.mem_of_find?_eq_some supportFound, supportNamed.trans versionNamed, ?_⟩
  intro dependencyId required
  obtain ⟨disposition, member, about⟩ := List.mem_map.mp (accounted required)
  exact ⟨disposition, member, about, requireDischarge_settles (discharges disposition member)⟩

omit [Fingerprints] in
/-- A link that the code accepts names an owned patch of its predecessor and an owned successor. -/
theorem freshReconsolidationLink_names {claims : ClaimRecords} {warrants : WarrantRecords} {learning : LearningRecords}
    {link : ReconsolidationLink} {event : LearningEvent}
    (judged : freshReconsolidationLink claims warrants learning link = .ok event) :
    ∃ patch, learning.memoryPatchCandidates.find? (fun item => item.id = link.memoryPatchId) = some patch ∧
      patch.targetLemmaId = link.predecessorLemmaId ∧
        link.successorLemmaId ∈ warrants.lemmaVersions.map LemmaVersion.id := by
  simp only [freshReconsolidationLink, found_bind_eq_ok, require_bind_eq_ok] at judged
  obtain ⟨patch, patchHit, predecessor, predecessorHit, successor, successorHit, -, -, ⟨targets, -⟩, -⟩ := judged
  have predecessorNamed : predecessor.id = link.predecessorLemmaId := by simpa using List.find?_some predecessorHit
  have successorNamed : successor.id = link.successorLemmaId := by simpa using List.find?_some successorHit
  refine ⟨patch, patchHit, targets.trans predecessorNamed, ?_⟩
  exact List.mem_map.mpr ⟨successor, List.mem_of_find?_eq_some successorHit, successorNamed⟩

omit [Fingerprints] in
theorem introduced_patch {body : EventBody} {patch : MemoryPatchCandidate}
    (member : patch ∈ (body.introduces before).memoryPatchCandidates) :
    body = .learning (.memoryPatchCandidateRecorded patch) := by
  cases body with
  | learning event => cases event <;> simp_all [EventBody.introduces, LearningRecords.apply]
  | memory event => cases event <;> simp [EventBody.introduces, InquiryState.applyMemory] at member
  | _ => simp [EventBody.introduces] at member

omit [Fingerprints] in
theorem introduced_link {body : EventBody} {link : ReconsolidationLink}
    (member : link ∈ (body.introduces before).reconsolidationLinks) :
    body = .learning (.reconsolidationLinked link) := by
  cases body with
  | learning event => cases event <;> simp_all [EventBody.introduces, LearningRecords.apply]
  | memory event => cases event <;> simp [EventBody.introduces, InquiryState.applyMemory] at member
  | _ => simp [EventBody.introduces] at member

/-- A link that meets the condition carries over what its patch transports. -/
theorem link_carries {head : EventMetadata} {link : ReconsolidationLink} {event : LearningEvent}
    (valid : AggregateValid before)
    (meets : carriesTransported before ⟨head, .learning (.recordReconsolidationLink link)⟩ = true)
    (judged : freshReconsolidationLink before.toClaimRecords before.toWarrantRecords before.toLearningRecords link =
      .ok event) : link.Carries before.toWarrantRecords before.toLearningRecords := by
  obtain ⟨patch, hit, targets, successorOwned⟩ := freshReconsolidationLink_names judged
  obtain ⟨support, owned, named⟩ := List.mem_map.mp (valid.warrants_valid.supported.1 successorOwned)
  refine ⟨patch, hit, targets, support, owned, named, ?_⟩
  intro disposition disposed transported
  have patchNamed : patch.id = link.memoryPatchId := by simpa using List.find?_some hit
  have allowed := List.all_eq_true.mp meets patch (List.mem_of_find?_eq_some hit)
  simp only [patchNamed, ne_eq, not_true_eq_false, decide_false, Bool.false_or, List.all_eq_true] at allowed
  have required := allowed disposition disposed
  simp only [transported, not_true_eq_false, decide_false, Bool.false_or] at required
  exact WarrantRecords.requiresThroughout_iff.mp required support owned named

theorem reconsolidationsSound_step {head : EventMetadata} {command : CommandBody} {body : EventBody}
    (valid : AggregateValid before) (fresh : before.status = .notStarted → before = initialState)
    (meets : carriesTransported before ⟨head, command⟩ = true)
    (proposed : Proposed before head.inquiryId command body) (transition : Transition before head body after)
    (sound : ReconsolidationsSound before.toWarrantRecords before.toLearningRecords) :
    ReconsolidationsSound after.toWarrantRecords after.toLearningRecords := by
  have appended := transition.recordsAppended fresh
  have grown : before.toWarrantRecords.Extends after.toWarrantRecords := by
    rw [appended.warrants]
    exact WarrantRecords.extends_join _ _
  rw [appended.learning]
  constructor
  · intro patch member
    rcases List.mem_append.mp member with earlier | introduced
    · exact (sound.patches patch earlier).grown grown
    · obtain rfl := introduced_patch introduced
      have lawful := proposed.learning_command.2
      exact (freshMemoryPatch_accounts (recordOnce_eq_some.mp lawful).2).grown grown
  · intro link member
    rcases List.mem_append.mp member with earlier | introduced
    · exact (sound.links link earlier).grown grown
    · obtain rfl := introduced_link introduced
      obtain ⟨rfl, lawful⟩ := proposed.learning_command
      exact (link_carries valid meets (recordOnce_eq_some.mp lawful).2).grown grown

theorem reconsolidationsSound_reached
    (reached : ReachableUnder (fun state command => carriesTransported state command) state) :
    ReconsolidationsSound state.toWarrantRecords state.toLearningRecords := by
  induction reached with
  | refl => constructor <;> simp [initialState]
  | tail earlier step ih =>
    obtain ⟨command, meets, applied⟩ := step
    have replayed := (ReachableUnder.reachable earlier).replayable
    rcases applyCommand_cases applied with rfl | ⟨body, decided, transition, -⟩
    · exact ih
    · exact reconsolidationsSound_step replayed.aggregateValid replayed.unstarted_eq_initial meets
        (decideBody_proposed decided) transition ih

/-- In every run whose links carry over what their patches transport, no reconsolidation drops an undischarged
dependency. -/
theorem reconsolidation_transports
    (reached : ReachableUnder (fun state command => carriesTransported state command) state) :
    DependenciesTransported state := by
  have sound := reconsolidationsSound_reached reached
  have valid := reached.reachable.replayable.aggregateValid.warrants_valid
  intro link linked
  obtain ⟨patch, hit, targets, successor, successorOwned, successorNamed, carried⟩ := sound.links link linked
  refine ⟨patch, hit, ?_⟩
  intro support owned named route member routeNamed dependencyId required
  -- the predecessor has one support, so the patch was accounted against this one
  obtain ⟨accountedSupport, accountedOwned, accountedNamed, accounted⟩ :=
    sound.patches patch (List.mem_of_find?_eq_some hit)
  obtain rfl : accountedSupport = support := List.inj_on_of_nodup_map valid.supports_unique accountedOwned owned
    (accountedNamed.trans (targets.trans named.symm))
  have listed : dependencyId ∈ patchDependencies accountedSupport patch :=
    List.mem_flatMap.mpr ⟨route, List.mem_filter.mpr ⟨member, by simpa using routeNamed⟩, required⟩
  obtain ⟨disposition, disposed, rfl, settled⟩ := accounted dependencyId listed
  rcases settled with transported | discharged
  · right
    rw [WarrantRecords.requiresThroughout_iff]
    intro other otherOwned otherNamed
    obtain rfl : successor = other := List.inj_on_of_nodup_map valid.supports_unique successorOwned otherOwned
      (successorNamed.trans otherNamed.symm)
    exact carried disposition disposed transported
  · exact .inl ⟨disposition, disposed, rfl, discharged⟩

end

/-! A second lemma that depends on the first meets a mismatch and is patched; its dependency is to be
transported. The successor either requires the dependency again or does not. -/

namespace Worked

def reprediction : PredictionSeal where
  id := "prediction"
  cognitivePlanId := "cognitive-plan"
  probeOrActionId := "probe"
  predictedReturnClass := "class"
  predictedConsequence := .null
  acceptableVariation := .null
  scopeFingerprint := scope.fingerprint
  basisClaimIds := []
  sealedSequence := 19

/-- The prediction is sealed while the attempt runs, and the captured return differs from it. -/
def mismatched : List CommandBody :=
  planned.tail ++ (acceptance "a" "result-a").take 2 ++ [
    .probe (.recordCognitivePlan
      ⟨"cognitive-plan", "obligation", "probe", "request-a", some "attempt-a", 0, scope.fingerprint, 18⟩),
    .probe (.sealPrediction reprediction)] ++ (acceptance "a" "result-a").drop 2 ++ [
    .probe (.recordMismatch
      ⟨"mismatch", "prediction", "return-a", "decode-a", "claim-a", scope.fingerprint, true, "difference"⟩)]

def transportingPatch : MemoryPatchCandidate where
  id := "patch"
  targetLemmaId := "lemma-b"
  triggeringMismatchId := "mismatch"
  triggeringReturnId := "return-a"
  proposedClaimId := "claim-c"
  patchKind := .relationChange
  predecessorSupportRouteIds := ["route-b"]
  dependencyDispositions := [⟨"lemma-a", .transported⟩]
  challengeObligationIds := ["obligation"]
  scopeFingerprint := scope.fingerprint

/-- The successor of the patched lemma, over one route with the given dependency. -/
def successor (dependency : Option String) : CommandBody :=
  .warrant (.promoteClaim {
    promotionId := "promotion-c"
    lemmaId := "lemma-c"
    relationId := "c"
    propositionKind := .existential
    scope := scope
    applicability := ⟨"always", []⟩
    supportRoutes := [route "route-c" "lemma-c" "decision-c" ⟨"evidence-c", "verdict-c"⟩ dependency]
    warrantDecisionId := "decision-c"
    provenanceRefs := ["provenance"]
    sourceClaimIds := ["claim-c"]
    predecessorRefs := ["lemma-b"] })

def reconsolidated (dependency : Option String) : List CommandBody :=
  promoted ++ warranted "b" "b" ++
    [promote "b" "b" [route "route-b" "lemma-b" "decision-b" ⟨"evidence-b", "verdict-b"⟩ (some "lemma-a")]] ++
    mismatched ++ warranted "c" "c" ++ [
    .learning (.recordMemoryPatchCandidate transportingPatch),
    .claim (.recordObligationDisposition ⟨"disposition", "obligation", .satisfied, "answered", ["decode-a"], none⟩),
    successor dependency,
    .claim (.appendCorrection ⟨"correction", .supersedes, "lemma-b", ["lemma-c"], scope, ⟨"author", "worked", none⟩⟩),
    .learning (.recordReconsolidationLink ⟨"link", "patch", "lemma-b", "lemma-c", "correction", "decision-c"⟩)]

theorem reconsolidated_transports :
    (reachedUnder carriesTransported (reconsolidated (some "lemma-a"))).reconsolidationLinks.map
        ReconsolidationLink.successorLemmaId = ["lemma-c"] ∧
      DependenciesTransported (reachedUnder carriesTransported (reconsolidated (some "lemma-a"))) :=
  ⟨by decide +kernel, reconsolidation_transports (reachableUnder_reachedUnder carriesTransported _)⟩

theorem reconsolidated_drops : ¬ ∀ state, Reachable state → DependenciesTransported state := by
  intro claimed
  have transported := claimed _ (reachable_reached (reconsolidated none))
  have evaluated : ⟨"link", "patch", "lemma-b", "lemma-c", "correction", "decision-c"⟩ ∈
        (reached (reconsolidated none)).reconsolidationLinks ∧
      (reached (reconsolidated none)).memoryPatchCandidates.find? (fun item => item.id = "patch") =
        some transportingPatch ∧
      (∃ support ∈ (reached (reconsolidated none)).lemmaSupports, support.lemmaVersionId = "lemma-b" ∧
        ∃ route ∈ support.allSupportRoutes, route.id ∈ transportingPatch.predecessorSupportRouteIds ∧
          "lemma-a" ∈ route.requiredDependencyIds) ∧
      (reached (reconsolidated none)).requiresThroughout "lemma-c" "lemma-a" = false := by decide +kernel
  obtain ⟨linked, patched, required, dropped⟩ := evaluated
  obtain ⟨patch, hit, accounted⟩ := transported _ linked
  obtain rfl : patch = transportingPatch := Option.some.inj (hit.symm.trans patched)
  obtain ⟨support, owned, named, route, member, routeNamed, depends⟩ := required
  rcases accounted support owned named route member routeNamed "lemma-a" depends with discharged | carried
  · obtain ⟨disposition, disposed, -, decision, -, dependency, -, kind, -⟩ := discharged
    obtain rfl : disposition = ⟨"lemma-a", .transported⟩ := by simpa [transportingPatch] using disposed
    simp at kind
  · rw [dropped] at carried
    simp at carried

end Worked

end RatchetingInquiry
