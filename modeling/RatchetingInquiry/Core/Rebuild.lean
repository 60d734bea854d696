import RatchetingInquiry.Core.Growth

/-! An event is checked against a command that is rebuilt from it. The rebuilt command is the one that
proposed the event, up to the canonical order of the routes of a promotion. -/

namespace RatchetingInquiry

section
variable [Fingerprints] {state : InquiryState}

/-- A command proposes an event of its own area. -/
inductive Proposed (state : InquiryState) (inquiryId : String) : CommandBody → EventBody → Prop
  | started (manifestArtifact : ArtifactRef) (policyVersion : String) (context : InquiryContext)
      (unstarted : state.status = .notStarted) :
      Proposed state inquiryId (.startInquiry manifestArtifact policyVersion context)
        (.inquiryStarted manifestArtifact policyVersion context)
  | effect (command : EffectCommand) (event : EffectEvent) (active : state.isActive inquiryId)
      (lawful : decideEffect state command = .ok (some event)) : Proposed state inquiryId (.effect command) (.effect event)
  | claim (command : ClaimCommand) (event : ClaimEvent) (active : state.isActive inquiryId)
      (lawful : decideClaim state command = .ok (some event)) : Proposed state inquiryId (.claim command) (.claim event)
  | warrant (command : WarrantCommand) (event : WarrantEvent) (active : state.isActive inquiryId)
      (lawful : decideWarrant state command = .ok (some event)) :
      Proposed state inquiryId (.warrant command) (.warrant event)
  | probe (command : ProbeCommand) (event : ProbeDomainEvent) (active : state.isActive inquiryId)
      (lawful : decideProbe state command = .ok (some event)) : Proposed state inquiryId (.probe command) (.probe event)
  | memory (command : MemoryCommand) (event : MemoryEvent) (active : state.isActive inquiryId)
      (lawful : decideMemory state command = .ok (some event)) : Proposed state inquiryId (.memory command) (.memory event)
  | learning (command : LearningCommand) (event : LearningEvent) (active : state.isActive inquiryId)
      (lawful : decideLearning state command = .ok (some event)) :
      Proposed state inquiryId (.learning command) (.learning event)
  | compression (command : CompressionCommand) (event : CompressionEvent) (active : state.isActive inquiryId)
      (lawful : decideCompression state command = .ok (some event)) :
      Proposed state inquiryId (.compression command) (.compression event)
  | project (command : ProjectCommand) (event : ProjectEvent) (active : state.isActive inquiryId)
      (lawful : decideProject state command = .ok (some event)) :
      Proposed state inquiryId (.project command) (.project event)

theorem decideBody_proposed {inquiryId : String} {command : CommandBody} {body : EventBody}
    (decided : decideBody state inquiryId command = .ok (some body)) : Proposed state inquiryId command body := by
  cases command with
  | startInquiry manifestArtifact policyVersion context =>
    simp only [decideBody, decideStart] at decided
    split at decided
    next unstarted =>
      simp only [Except.ok.injEq, Option.some.injEq] at decided
      subst decided
      exact .started manifestArtifact policyVersion context unstarted
    next => split at decided <;> simp at decided
  | effect command =>
    obtain ⟨active, event, lawful, rfl⟩ := activeDecision_eq_some.mp decided
    exact .effect command event active lawful
  | claim command =>
    obtain ⟨active, event, lawful, rfl⟩ := activeDecision_eq_some.mp decided
    exact .claim command event active lawful
  | warrant command =>
    obtain ⟨active, event, lawful, rfl⟩ := activeDecision_eq_some.mp decided
    exact .warrant command event active lawful
  | probe command =>
    obtain ⟨active, event, lawful, rfl⟩ := activeDecision_eq_some.mp decided
    exact .probe command event active lawful
  | memory command =>
    obtain ⟨active, event, lawful, rfl⟩ := activeDecision_eq_some.mp decided
    exact .memory command event active lawful
  | learning command =>
    obtain ⟨active, event, lawful, rfl⟩ := activeDecision_eq_some.mp decided
    exact .learning command event active lawful
  | compression command =>
    obtain ⟨active, event, lawful, rfl⟩ := activeDecision_eq_some.mp decided
    exact .compression command event active lawful
  | project command =>
    obtain ⟨active, event, lawful, rfl⟩ := activeDecision_eq_some.mp decided
    exact .project command event active lawful

omit [Fingerprints] in
theorem recordOnce_returns {α β : Type} [RecordEq α] {existing : Option α} {record : α} {reused : String}
    {fresh : Except Failure β} {P : β → Prop} (returned : Returns fresh P) :
    Returns (recordOnce existing record reused fresh) (fun decided => ∀ event ∈ decided, P event) := by
  intro decided lawful event proposed
  rw [Option.mem_def] at proposed
  subst proposed
  exact returned event (recordOnce_eq_some.mp lawful).2

theorem decideClaim_command (command : ClaimCommand) :
    Returns (decideClaim state command) (fun decided => ∀ event ∈ decided, event.command = command) := by
  cases command with
  | openObligation obligation =>
    simp only [decideClaim, decideOpenObligation]
    split
    next =>
      split
      next => exact returns_pure (by simp)
      next => exact returns_error
    next =>
      split
      next => exact returns_pure (by simp)
      next =>
        repeat refine returns_bind fun _ => ?_
        exact returns_pure (by simp [ClaimEvent.command])
  | recordObligationDisposition disposition =>
    refine returns_bind fun _ => recordOnce_returns ?_
    repeat refine returns_bind fun _ => ?_
    exact returns_pure rfl
  | admitClaim claim =>
    refine recordOnce_returns ?_
    unfold freshClaim
    repeat refine returns_bind fun _ => ?_
    exact returns_pure rfl
  | recordCandidate candidate =>
    refine recordOnce_returns ?_
    unfold freshCandidate
    repeat refine returns_bind fun _ => ?_
    exact returns_pure rfl
  | recordResidual residual =>
    refine recordOnce_returns ?_
    unfold freshResidual
    repeat refine returns_bind fun _ => ?_
    exact returns_pure rfl
  | appendCorrection correction =>
    refine recordOnce_returns ?_
    unfold freshCorrection
    repeat refine returns_bind fun _ => ?_
    exact returns_pure rfl
  | changeGuardStanding change =>
    refine recordOnce_returns ?_
    unfold freshGuardChange
    repeat refine returns_bind fun _ => ?_
    exact returns_pure rfl

/-- What a lawful admission of a claim records. -/
theorem admitClaim_event {claim : Claim} {event : ClaimEvent}
    (lawful : decideClaim state (.admitClaim claim) = .ok (some event)) :
    event = .claimAdmitted claim (derivedConflicts state.toClaimRecords claim) (derivedObligations state claim) := by
  have judged := (recordOnce_eq_some.mp lawful).2
  simp only [freshClaim, require_bind_eq_ok, pure, Except.pure, Except.ok.injEq] at judged
  exact judged.2.2.symm

/-- What one command does to the claim records: the event that it decides is recorded as it stands. -/
inductive ClaimStep (before : InquiryState) (body : EventBody) (after : InquiryState) : Prop
  | started (unstarted : before.status = .notStarted) (records : after.toClaimRecords = {})
  | kept (residuals : List Residual) (context : after.context = before.context)
      (records : after.toClaimRecords = { before.toClaimRecords with residuals := residuals })
  | recorded (event : ClaimEvent) (body_is : body = .claim event)
      (lawful : decideClaim before event.command = .ok (some event)) (context : after.context = before.context)
      (records : after.toClaimRecords = before.toClaimRecords.apply event)

theorem Proposed.claimStep {next : InquiryState} {head : EventMetadata} {command : CommandBody} {body : EventBody}
    (proposed : Proposed state head.inquiryId command body) (transition : Transition state head body next) :
    ClaimStep state body next := by
  rcases transition.claimView with ⟨unstarted, records⟩ | ⟨context, records⟩ |
    ⟨event, -, rfl, -, -, context, -, records⟩ | ⟨context, -, overflow, records⟩
  · exact .started unstarted records
  · exact .kept state.residuals context records
  · cases proposed with
    | claim claimCommand _ _ lawful =>
      have rebuilt := decideClaim_command claimCommand _ lawful event rfl
      exact .recorded event rfl (rebuilt ▸ lawful) context records
  · exact .kept _ context records

theorem decideProbe_command (command : ProbeCommand) :
    Returns (decideProbe state command) (fun decided => ∀ event ∈ decided, event.command = command) := by
  cases command <;> refine recordOnce_returns ?_
  all_goals
    repeat refine returns_bind fun _ => ?_
    exact returns_pure rfl

theorem retrieve_named (resultId : String) (query : RetrievalQuery) (policy : StructuralRetrievalPolicy)
    (packages : List RetentionPackage) (owned : List (OwnedRecordKey × String)) :
    Returns (rejectRetrievalError (retrieve resultId query policy packages owned)) (fun result => result.id = resultId) := by
  have named : Returns (retrieve resultId query policy packages owned) (fun result => result.id = resultId) := by
    repeat refine returns_bind fun _ => ?_
    exact returns_pure rfl
  intro result returned
  cases outcome : retrieve resultId query policy packages owned with
  | error failure => simp [outcome, rejectRetrievalError] at returned
  | ok inner =>
    simp only [outcome, rejectRetrievalError, Except.ok.injEq] at returned
    exact returned ▸ named inner outcome

theorem decideMemory_command (command : MemoryCommand) :
    Returns (decideMemory state command) (fun decided => ∀ event ∈ decided, event.command = command) := by
  cases command
  case registerRetentionPackage registration =>
    simp only [decideMemory, decideRegisterRetentionPackage]
    split
    next =>
      split
      next => exact returns_pure (by simp)
      next => exact returns_error
    next =>
      repeat refine returns_bind fun _ => ?_
      exact returns_pure (by simp [MemoryEvent.command])
  case runRetrieval resultId query =>
    simp only [decideMemory, decideRunRetrieval]
    split
    next =>
      split
      next => exact returns_pure (by simp)
      next => exact returns_error
    next =>
      refine returns_bind fun _ => returns_bind fun _ => returns_bind fun _ => returns_bind fun _ => ?_
      refine returns_bind_of (retrieve_named _ _ _ _ _) fun result named => ?_
      exact returns_pure (by simp [MemoryEvent.command, named])
  all_goals
    refine recordOnce_returns ?_
    repeat refine returns_bind fun _ => ?_
    exact returns_pure rfl

theorem decideLearning_command (command : LearningCommand) :
    Returns (decideLearning state command) (fun decided => ∀ event ∈ decided, event.command = command) := by
  cases command <;> refine recordOnce_returns ?_
  all_goals
    repeat refine returns_bind fun _ => ?_
    exact returns_pure rfl

theorem decideCompression_command (command : CompressionCommand) :
    Returns (decideCompression state command) (fun decided => ∀ event ∈ decided, event.command = command) := by
  cases command
  case recordCompressionApplication application residues =>
    simp only [decideCompression, decideCompressionApplication]
    split
    next =>
      split
      next => exact returns_pure (by simp)
      next => exact returns_error
    next =>
      refine returns_map_some ?_
      repeat refine returns_bind fun _ => ?_
      exact returns_pure rfl
  all_goals
    refine recordOnce_returns ?_
    repeat refine returns_bind fun _ => ?_
    exact returns_pure rfl

theorem decideProject_command (command : ProjectCommand) :
    Returns (decideProject state command) (fun decided => ∀ event ∈ decided, event.command = command) := by
  cases command <;> refine recordOnce_returns ?_
  case recordCapabilityFrontier frontier =>
    unfold freshFrontier
    split
    next => exact returns_error
    next =>
      refine returns_bind fun _ => ?_
      exact returns_pure rfl
  all_goals
    repeat refine returns_bind fun _ => ?_
    exact returns_pure rfl

/-- A decision names the records that it was evaluated over. -/
theorem decideEvaluateWarrant_command {context : Option InquiryContext} {warrants : WarrantRecords}
    {evaluation : WarrantEvaluation} {event : WarrantEvent}
    (lawful : decideEvaluateWarrant context warrants evaluation = .ok (some event)) :
    event.command = .evaluateWarrant evaluation := by
  simp only [decideEvaluateWarrant, require_bind_eq_ok, found_bind_eq_ok, recordOnce_eq_some, Except.ok.injEq] at lawful
  obtain ⟨-, evidence, evidenceOwned, verdict, verdictOwned, -, pins, -, -, rfl⟩ := lawful
  have evidenceNamed : evidence.id = evaluation.evidenceId := by simpa using List.find?_some evidenceOwned
  have verdictNamed : verdict.id = evaluation.checkerVerdictId := by simpa using List.find?_some verdictOwned
  simp only [WarrantEvent.command, evaluatedDecision, evidenceNamed, verdictNamed]

/-- A warrant event other than a promotion is proposed by the command that is rebuilt from it. -/
theorem decideWarrant_command {command : WarrantCommand} {event : WarrantEvent}
    (lawful : decideWarrant state command = .ok (some event)) :
    event.command = command ∨ ∃ promotion version support link, command = .promoteClaim promotion ∧
      event = .lemmaPromoted version support link := by
  cases command with
  | recordNogood nogood =>
    have judged := (recordOnce_eq_some.mp lawful).2
    simp only [freshNogood, found_bind_eq_ok, require_bind_eq_ok, pure, Except.pure, Except.ok.injEq] at judged
    obtain ⟨-, -, -, -, rfl⟩ := judged
    exact .inl rfl
  | changeSupportRouteStanding change =>
    have judged := (recordOnce_eq_some.mp lawful).2
    simp only [freshRouteStandingChange, require_bind_eq_ok, pure, Except.pure, Except.ok.injEq] at judged
    obtain ⟨-, -, -, rfl⟩ := judged
    exact .inl rfl
  | changeNogoodStanding change =>
    have judged := (recordOnce_eq_some.mp lawful).2
    simp only [freshNogoodStandingChange, require_bind_eq_ok, pure, Except.pure, Except.ok.injEq] at judged
    obtain ⟨-, -, -, rfl⟩ := judged
    exact .inl rfl
  | recordEvidence evidence =>
    simp only [decideWarrant, decideRecordEvidence, require_bind_eq_ok, recordOnce_eq_some, Except.ok.injEq] at lawful
    obtain ⟨-, -, rfl⟩ := lawful
    exact .inl rfl
  | recordCheckerVerdict verdict =>
    simp only [decideWarrant, decideRecordCheckerVerdict, found_bind_eq_ok, require_bind_eq_ok, recordOnce_eq_some,
      Except.ok.injEq] at lawful
    obtain ⟨-, -, -, -, rfl⟩ := lawful
    exact .inl rfl
  | evaluateWarrant evaluation => exact .inl (decideEvaluateWarrant_command lawful)
  | promoteClaim promotion =>
    obtain ⟨-, decision, -, -, warranted, -, rfl⟩ := decidePromoteClaim_eq_some.mp lawful
    exact .inr ⟨promotion, _, _, _, rfl, rfl⟩

/-! An event of these areas is proposed by the command that is rebuilt from it. -/

theorem Proposed.probe_command {inquiryId : String} {command : CommandBody} {event : ProbeDomainEvent}
    (proposed : Proposed state inquiryId command (.probe event)) :
    command = .probe event.command ∧ decideProbe state event.command = .ok (some event) := by
  cases proposed with
  | probe command _ _ lawful =>
    rw [decideProbe_command command _ lawful _ rfl]
    exact ⟨rfl, lawful⟩

theorem Proposed.memory_command {inquiryId : String} {command : CommandBody} {event : MemoryEvent}
    (proposed : Proposed state inquiryId command (.memory event)) :
    command = .memory event.command ∧ decideMemory state event.command = .ok (some event) := by
  cases proposed with
  | memory command _ _ lawful =>
    rw [decideMemory_command command _ lawful _ rfl]
    exact ⟨rfl, lawful⟩

theorem Proposed.learning_command {inquiryId : String} {command : CommandBody} {event : LearningEvent}
    (proposed : Proposed state inquiryId command (.learning event)) :
    command = .learning event.command ∧ decideLearning state event.command = .ok (some event) := by
  cases proposed with
  | learning command _ _ lawful =>
    rw [decideLearning_command command _ lawful _ rfl]
    exact ⟨rfl, lawful⟩

theorem Proposed.compression_command {inquiryId : String} {command : CommandBody} {event : CompressionEvent}
    (proposed : Proposed state inquiryId command (.compression event)) :
    command = .compression event.command ∧ decideCompression state event.command = .ok (some event) := by
  cases proposed with
  | compression command _ _ lawful =>
    rw [decideCompression_command command _ lawful _ rfl]
    exact ⟨rfl, lawful⟩

theorem Proposed.project_command {inquiryId : String} {command : CommandBody} {event : ProjectEvent}
    (proposed : Proposed state inquiryId command (.project event)) :
    command = .project event.command ∧ decideProject state event.command = .ok (some event) := by
  cases proposed with
  | project command _ _ lawful =>
    rw [decideProject_command command _ lawful _ rfl]
    exact ⟨rfl, lawful⟩

/-- Only a promotion proposes a promoted lemma, and it passed every gate. -/
theorem Proposed.promotion {inquiryId : String} {command : CommandBody} {version : LemmaVersion}
    {support : LemmaSupport} {link : PromotionLink}
    (proposed : Proposed state inquiryId command (.warrant (.lemmaPromoted version support link))) :
    ∃ promotion context decision evidence verdict, command = .warrant (.promoteClaim promotion) ∧
      PromotionLawful state promotion context decision evidence verdict ⟨version, support⟩ ∧
        link = promotion.link version.id decision.id := by
  cases proposed with
  | warrant command _ active lawful =>
    cases command with
    | promoteClaim promotion =>
      obtain ⟨context, decision, evidence, verdict, warranted, passed, same⟩ := decidePromoteClaim_eq_some.mp lawful
      simp only [WarrantEvent.lemmaPromoted.injEq] at same
      obtain ⟨rfl, rfl, rfl⟩ := same
      exact ⟨promotion, context, decision, evidence, verdict, rfl, passed, rfl⟩
    | _ =>
      rcases decideWarrant_command lawful with rebuilt | ⟨_, _, _, _, promoting, -⟩
      · simp [WarrantEvent.command] at rebuilt
      · simp at promoting

section
variable {promotion : Promotion} {context : InquiryContext} {decision : WarrantDecisionRecord} {evidence : Evidence}
  {verdict : CheckerVerdictRecord} {warranted : WarrantedLemma}

theorem PromotionLawful.version_eq
    (passed : PromotionLawful state promotion context decision evidence verdict warranted) :
    warranted.version = (promotion.request context).version := by
  obtain ⟨-, -, -, same⟩ := promotionCandidate_eq_ok.mp passed.accepted.built
  rw [same]

theorem PromotionLawful.support_eq
    (passed : PromotionLawful state promotion context decision evidence verdict warranted) :
    warranted.support = (promotion.request context).support verdict state.checkerVerdicts := by
  obtain ⟨-, -, -, same⟩ := promotionCandidate_eq_ok.mp passed.accepted.built
  rw [same]
  rfl

/-- A promoted lemma has exactly the routes that its promotion proposed. -/
theorem PromotionLawful.routes_perm
    (passed : PromotionLawful state promotion context decision evidence verdict warranted) :
    warranted.support.allSupportRoutes.Perm promotion.supportRoutes := by
  rw [passed.support_eq]
  exact (splitMinimal_perm _).trans (sortedRoutes_perm _)

theorem PromotionLawful.joined
    (passed : PromotionLawful state promotion context decision evidence verdict warranted) : warranted.IsJoined :=
  (promotionCandidate_eq_ok.mp passed.accepted.built).2.2.1

end

end

end RatchetingInquiry
