import RatchetingInquiry.Invariants.Compression
import RatchetingInquiry.Invariants.Merges

/-! What successors keep. A decision declares which capabilities are preserved; what is retained is what the
successor representation is granted, and what was promised is what the goal sealed. Neither is compared with
the declaration. -/

namespace RatchetingInquiry

/-- A recorded replacement disposes explicitly of every capability that its candidate is not granted. -/
def disposesWhatIsLost (state : InquiryState) (command : DomainCommand) : Bool :=
  match command.body with
  | .compression (.decideRepresentationSuccessor decision) => decision.disposition ≠ .replace ||
    (state.licenseById decision.incumbentLicenseId).all (fun incumbent =>
      (state.licenseById decision.candidateLicenseId).all (fun candidate =>
        incumbent.grantedCapabilityIds.all (fun capability =>
          capability ∈ decision.explicitlyDisposedCapabilityIds || capability ∈ candidate.grantedCapabilityIds)))
  | _ => true

/-- A recorded replacement of a project answers for every sealed capability that its candidate does not
preserve. -/
def answersForSealed (state : InquiryState) (command : DomainCommand) : Bool :=
  match command.body with
  | .project (.decideProjectSuccessor decision) => decision.disposition ≠ .replace ||
    (state.goalById decision.goalId).all (fun goal =>
      (state.successorCandidateById decision.candidateId).all (fun candidate =>
        goal.preserveCapabilityIds.all (fun capability =>
          capability ∈ candidate.preservedCapabilityIds || capability ∈ decision.preservedCapabilityIds ||
            capability ∈ decision.explicitlyDisposedCapabilityIds)))
  | _ => true

section
variable [Fingerprints] {state : InquiryState}

/-- Licenses have one identity each, so both kinds of lookup find the same one. -/
theorem AggregateValid.licenseById_of_index (valid : AggregateValid state) {licenseId : String}
    {license : ExactCompressionLicense}
    (indexed : indexBy ExactCompressionLicense.id state.exactCompressionLicenses licenseId = some license) :
    state.licenseById licenseId = some license := by
  have checked := valid.compression
  simp only [validateCompression, require_bind_eq_ok] at checked
  have unique : (state.exactCompressionLicenses.map ExactCompressionLicense.id).Nodup :=
    checked.1 _ (by simp [compressionIdentities])
  rw [CompressionRecords.licenseById, ← indexBy_eq_find unique]
  exact indexed

/-- A chain of recorded replacements leads from one license to another. -/
inductive ReplacementChain (state : InquiryState) : String → List RepresentationSuccessorDecision → String → Prop
  | nil (licenseId : String) : ReplacementChain state licenseId [] licenseId
  | cons (decision : RepresentationSuccessorDecision) (rest : List RepresentationSuccessorDecision) (lastId : String)
      (recorded : decision ∈ state.representationSuccessorDecisions) (replaces : decision.disposition = .replace)
      (later : ReplacementChain state decision.candidateLicenseId rest lastId) :
      ReplacementChain state decision.incumbentLicenseId (decision :: rest) lastId

/-- One replacement keeps what it does not dispose of. -/
theorem replacement_keeps (reached : ReachableUnder (fun state command => disposesWhatIsLost state command) state)
    {decision : RepresentationSuccessorDecision} (member : decision ∈ state.representationSuccessorDecisions)
    (replaces : decision.disposition = .replace) :
    ∃ incumbent candidate, state.licenseById decision.incumbentLicenseId = some incumbent ∧
      state.licenseById decision.candidateLicenseId = some candidate ∧
      ∀ capability ∈ incumbent.grantedCapabilityIds, capability ∉ decision.explicitlyDisposedCapabilityIds →
        capability ∈ candidate.grantedCapabilityIds := by
  obtain ⟨before, command, event, after, step, introduced, commanded, lawful⟩ :=
    reached.compression_origin CompressionRecords.representationSuccessorDecisions (fun _ _ => rfl) rfl member
  obtain rfl : event = .representationSuccessorDecided decision := by
    cases event <;> simp_all [CompressionRecords.apply]
  have judged := (recordOnce_eq_some.mp lawful).2
  simp only [freshRepresentationSuccessor, found_bind_eq_ok] at judged
  obtain ⟨incumbent, incumbentIndexed, candidate, candidateIndexed, -⟩ := judged
  have incumbentHit := step.replayable.aggregateValid.licenseById_of_index incumbentIndexed
  have candidateHit := step.replayable.aggregateValid.licenseById_of_index candidateIndexed
  have meets := step.meets
  simp only [disposesWhatIsLost, commanded, CompressionEvent.command, replaces, ne_eq, not_true_eq_false,
    decide_false, Bool.false_or, incumbentHit, candidateHit, Option.all_some, List.all_eq_true, Bool.or_eq_true,
    decide_eq_true_eq] at meets
  refine ⟨incumbent, candidate, step.license_kept incumbentHit, step.license_kept candidateHit, ?_⟩
  intro capability granted undisposed
  exact (meets capability granted).resolve_left undisposed

/-- In every run whose replacements dispose of what their candidates are not granted, a chain of replacements
loses no capability that none of them disposes of. -/
theorem succession_keeps (reached : ReachableUnder (fun state command => disposesWhatIsLost state command) state)
    {firstId lastId : String} {decisions : List RepresentationSuccessorDecision}
    (chain : ReplacementChain state firstId decisions lastId) {first last : ExactCompressionLicense}
    (firstOwned : state.licenseById firstId = some first) (lastOwned : state.licenseById lastId = some last) :
    ∀ capability ∈ first.grantedCapabilityIds,
      (∀ decision ∈ decisions, capability ∉ decision.explicitlyDisposedCapabilityIds) →
        capability ∈ last.grantedCapabilityIds := by
  induction chain generalizing first with
  | nil licenseId =>
    intro capability granted _
    obtain rfl : first = last := Option.some.inj (firstOwned.symm.trans lastOwned)
    exact granted
  | cons decision rest lastId recorded replaces _ ih =>
    intro capability granted undisposed
    obtain ⟨incumbent, candidate, incumbentOwned, candidateOwned, keeps⟩ := replacement_keeps reached recorded replaces
    obtain rfl : incumbent = first := Option.some.inj (incumbentOwned.symm.trans firstOwned)
    have kept := keeps capability granted (undisposed decision List.mem_cons_self)
    exact ih candidateOwned lastOwned capability kept
      (fun later listed => undisposed later (List.mem_cons_of_mem _ listed))

/-- The decision preserves every capability that its goal sealed, or disposes of it explicitly. -/
def ProjectSuccessorDecision.KeepsSealed (decision : ProjectSuccessorDecision) (state : InquiryState) : Prop :=
  ∃ goal, state.goalById decision.goalId = some goal ∧ ∀ capability ∈ goal.preserveCapabilityIds,
    capability ∈ decision.preservedCapabilityIds ∨ capability ∈ decision.explicitlyDisposedCapabilityIds

/-- In every run whose replacements answer for what their candidates do not preserve, every replacement keeps
what its goal sealed. -/
theorem replacements_keep_sealed (reached : ReachableUnder (fun state command => answersForSealed state command) state) :
    ∀ decision ∈ state.projectSuccessorDecisions, decision.disposition = .replace → decision.KeepsSealed state := by
  intro decision member replaces
  obtain ⟨before, command, event, after, step, introduced, commanded, lawful⟩ :=
    reached.project_origin ProjectRecords.projectSuccessorDecisions (fun _ _ => rfl) rfl member
  obtain rfl : event = .projectSuccessorDecided decision := by
    cases event <;> simp_all [ProjectRecords.apply]
  have judged := (recordOnce_eq_some.mp lawful).2
  simp only [freshProjectSuccessor, bind_eq_ok, found_eq_ok, require_eq_ok] at judged
  obtain ⟨evidence, -, goal, goalHit, candidate, candidateHit, review, -, environment, -, -, -, -, -, -, -, -,
    preserves, -⟩ := judged
  have meets := step.meets
  simp only [answersForSealed, commanded, ProjectEvent.command, replaces, ne_eq, not_true_eq_false, decide_false,
    Bool.false_or, goalHit, candidateHit, Option.all_some, List.all_eq_true, Bool.or_eq_true,
    decide_eq_true_eq] at meets
  obtain ⟨added, joined⟩ := step.joined
  refine ⟨goal, ?_, ?_⟩
  · unfold ProjectRecords.goalById at goalHit ⊢
    rw [joined.project]
    exact (List.prefix_append _ _).find?_eq_some goalHit
  · intro capability listed
    rcases meets capability listed with (proposed | preserved) | disposed
    · exact .inl ((preserves replaces).1 proposed)
    · exact .inl preserved
    · exact .inr disposed

end

/-! The license of the worked inquiry is replaced, and so is its sealed project. -/

namespace Worked

def replacement : RepresentationSuccessorDecision where
  id := "replacement"
  incumbentLicenseId := "license"
  candidateLicenseId := "successor"
  disposition := .replace
  preservedCapabilityIds := ["capability"]
  gainKinds := [.scope]
  warrantDecisionId := some "decision-replacement"
  reason := "reason"

/-- The license is replaced by one that is granted a capability; the decision declares the old one preserved. -/
def replaced (capability : String) : List CommandBody :=
  licensed "history" ++ .compression (.grantExactCompressionLicense
      (exactLicense "successor" capability (some "license") (by decide))) ::
    check "replacement" "representation-successor:replacement" ++
    [evaluate "replacement" "representation-successor:replacement",
      .compression (.decideRepresentationSuccessor replacement)]

def furtherReplacement : RepresentationSuccessorDecision where
  id := "further"
  incumbentLicenseId := "successor"
  candidateLicenseId := "last"
  disposition := .replace
  preservedCapabilityIds := ["capability"]
  gainKinds := [.scope]
  warrantDecisionId := some "decision-further"
  reason := "reason"

/-- The successor is replaced in its turn. -/
def replacedTwice : List CommandBody :=
  replaced "capability" ++ .compression (.grantExactCompressionLicense
      (exactLicense "last" "capability" (some "successor") (by decide))) ::
    check "further" "representation-successor:further" ++
    [evaluate "further" "representation-successor:further",
      .compression (.decideRepresentationSuccessor furtherReplacement)]

theorem replaced_keeps :
    ReplacementChain (reachedUnder disposesWhatIsLost replacedTwice) "license" [replacement, furtherReplacement]
        "last" ∧
      ∀ capability ∈ ["capability"],
        (∀ decision ∈ [replacement, furtherReplacement],
          capability ∉ decision.explicitlyDisposedCapabilityIds) →
          capability ∈ (exactLicense "last" "capability" (some "successor") (by decide)).grantedCapabilityIds := by
  have facts : (reachedUnder disposesWhatIsLost replacedTwice).representationSuccessorDecisions =
        [replacement, furtherReplacement] ∧
      (reachedUnder disposesWhatIsLost replacedTwice).licenseById "license" =
        some (exactLicense "license" "capability" none (by decide)) ∧
      (reachedUnder disposesWhatIsLost replacedTwice).licenseById "last" =
        some (exactLicense "last" "capability" (some "successor") (by decide)) := by decide +kernel
  obtain ⟨recorded, firstOwned, lastOwned⟩ := facts
  have chain : ReplacementChain (reachedUnder disposesWhatIsLost replacedTwice) "license"
      [replacement, furtherReplacement] "last" := by
    apply ReplacementChain.cons replacement [furtherReplacement] "last" (by simp [recorded]) rfl
    exact .cons furtherReplacement [] "last" (by simp [recorded]) rfl (.nil _)
  exact ⟨chain, succession_keeps (reachableUnder_reachedUnder _ _) chain firstOwned lastOwned⟩

/-- The decision declares the capability preserved, and the successor is not granted it. -/
theorem replaced_loses : ¬ ∀ state, Reachable state → ∀ firstId decisions lastId,
    ReplacementChain state firstId decisions lastId → ∀ first last, state.licenseById firstId = some first →
      state.licenseById lastId = some last → ∀ capability ∈ first.grantedCapabilityIds,
        (∀ decision ∈ decisions, capability ∉ decision.explicitlyDisposedCapabilityIds) →
          capability ∈ last.grantedCapabilityIds := by
  intro claimed
  have facts : replacement ∈ (reached (replaced "other")).representationSuccessorDecisions ∧
      (reached (replaced "other")).licenseById "license" =
        some (exactLicense "license" "capability" none (by decide)) ∧
      (reached (replaced "other")).licenseById "successor" =
        some (exactLicense "successor" "other" (some "license") (by decide)) := by decide +kernel
  obtain ⟨recorded, firstOwned, lastOwned⟩ := facts
  have chain : ReplacementChain (reached (replaced "other")) "license" [replacement] "successor" :=
    .cons replacement [] "successor" recorded rfl (.nil _)
  have kept := claimed _ (reachable_reached _) _ _ _ chain _ _ firstOwned lastOwned "capability" (by decide) (by decide)
  exact absurd kept (by decide)

/-- The sealed goal promises one more capability than its candidate preserves. -/
def promisingGoal : ImplementationGoalContract := { sealedGoal with preserveCapabilityIds := ["capability", "promise"] }

theorem repairs : [ProjectGainKind.repairedFailure] ≠ [] := List.cons_ne_nil _ _

def projectReplacement (disposed : List String) (canonical : CanonicalIds disposed) : ProjectSuccessorDecision where
  id := "successor"
  goalId := "goal"
  candidateId := "candidate"
  candidateEnvironmentId := "environment"
  reviewId := "review"
  evidenceIds := ["evidence"]
  disposition := .replace
  preservedCapabilityIds := ["capability"]
  explicitlyDisposedCapabilityIds := disposed
  gainKinds := [.repairedFailure]
  reason := "reviewed"
  evidence_canonical := given_singleton "evidence"
  preserved_canonical := given_singleton "capability"
  disposed_canonical := canonical
  gains_canonical := canonical_singleton "repaired_failure"
  replacement_gains := fun _ => repairs

def replacedProject (disposed : List String) (canonical : CanonicalIds disposed) : List CommandBody :=
  start :: developed.map (fun body =>
      if body = .project (.sealImplementationGoal sealedGoal) then .project (.sealImplementationGoal promisingGoal)
      else body) ++
    [.project (.decideProjectSuccessor (projectReplacement disposed canonical))]

theorem replacedProject_keeps_sealed :
    projectReplacement ["promise"] (by decide) ∈
        (reachedUnder answersForSealed (replacedProject ["promise"] (by decide))).projectSuccessorDecisions ∧
      (projectReplacement ["promise"] (by decide)).KeepsSealed
        (reachedUnder answersForSealed (replacedProject ["promise"] (by decide))) := by
  have member : projectReplacement ["promise"] (by decide) ∈
      (reachedUnder answersForSealed (replacedProject ["promise"] (by decide))).projectSuccessorDecisions := by
    decide +kernel
  exact ⟨member, replacements_keep_sealed (reachableUnder_reachedUnder _ _) _ member rfl⟩

/-- The decision preserves what the candidate proposed and says nothing of what the goal promised besides. -/
theorem replacedProject_gives_up : ¬ ∀ state, Reachable state → ∀ decision ∈ state.projectSuccessorDecisions,
    decision.disposition = .replace → decision.KeepsSealed state := by
  intro claimed
  have facts : projectReplacement [] (by decide) ∈
        (reached (replacedProject [] (by decide))).projectSuccessorDecisions ∧
      (reached (replacedProject [] (by decide))).goalById "goal" = some promisingGoal := by decide +kernel
  obtain ⟨member, owned⟩ := facts
  obtain ⟨goal, hit, kept⟩ := claimed _ (reachable_reached _) _ member rfl
  obtain rfl : promisingGoal = goal := Option.some.inj (owned.symm.trans hit)
  exact absurd (kept "promise" (by decide)) (by decide)

end Worked

end RatchetingInquiry
