import RatchetingInquiry.Core.Run

/-! One transition seen from one area: its records are new, kept, or extended by an event of the area.
An invariant over the records of one area is proved from the view of that area alone. -/

namespace RatchetingInquiry

/-- Every collection of the earlier records begins the later one. -/
structure WarrantRecords.Extends (earlier later : WarrantRecords) : Prop where
  nogoods : earlier.nogoods <+: later.nogoods
  route_changes : earlier.supportRouteStandingChanges <+: later.supportRouteStandingChanges
  nogood_changes : earlier.nogoodStandingChanges <+: later.nogoodStandingChanges
  evidence : earlier.evidenceRecords <+: later.evidenceRecords
  verdicts : earlier.checkerVerdicts <+: later.checkerVerdicts
  decisions : earlier.warrantDecisions <+: later.warrantDecisions
  versions : earlier.lemmaVersions <+: later.lemmaVersions
  supports : earlier.lemmaSupports <+: later.lemmaSupports
  links : earlier.promotionLinks <+: later.promotionLinks

theorem WarrantRecords.extends_refl (records : WarrantRecords) : records.Extends records := by
  constructor <;> exact List.prefix_rfl

theorem WarrantRecords.extends_apply (records : WarrantRecords) (event : WarrantEvent) :
    records.Extends (records.apply event) := by
  cases event <;> constructor <;> simp [WarrantRecords.apply]

section
variable [Fingerprints]

/-- The identity and the pins of an inquiry change only when it starts. -/
inductive HeaderView (state next : InquiryState) (head : EventMetadata) : Prop
  | started (unstarted : state.status = .notStarted) (manifestArtifact : ArtifactRef) (policyVersion : String)
      (context : InquiryContext) (next_is : next = startedState head manifestArtifact policyVersion context)
  | advanced (active : state.isActive head.inquiryId)
      (next_is : next.toInquiryHeader = { state.toInquiryHeader with sequence := state.sequence + 1 })

/-- The warrant records and the pins that they are judged by. -/
inductive WarrantView (state : InquiryState) (body : EventBody) (next : InquiryState) : Prop
  | started (unstarted : state.status = .notStarted) (records : next.toWarrantRecords = {})
  | kept (context : next.context = state.context) (records : next.toWarrantRecords = state.toWarrantRecords)
  | extended (event : WarrantEvent) (body_is : body = .warrant event) (lawful : decideWarrant state event.command = .ok (some event))
      (context : next.context = state.context) (claims : next.toClaimRecords = state.toClaimRecords)
      (records : next.toWarrantRecords = state.toWarrantRecords.apply event)

/-- The effect records. -/
inductive EffectView (state : InquiryState) (head : EventMetadata) (body : EventBody) (next : InquiryState) : Prop
  | started (unstarted : state.status = .notStarted) (records : next.toEffectRecords = {})
  | kept (records : next.toEffectRecords = state.toEffectRecords)
  | extended (event : EffectEvent) (body_is : body = .effect event) (lawful : EffectStep state head event next.toEffectRecords)

/-- The claim records. A field evaluation of the learning area may leave a residual. -/
inductive ClaimView (state : InquiryState) (body : EventBody) (next : InquiryState) : Prop
  | started (unstarted : state.status = .notStarted) (records : next.toClaimRecords = {})
  | kept (context : next.context = state.context) (records : next.toClaimRecords = state.toClaimRecords)
  | extended (event expected : ClaimEvent) (body_is : body = .claim event)
      (lawful : decideClaim state event.command = .ok (some expected))
      (same : expected.same event) (context : next.context = state.context)
      (warrants : next.toWarrantRecords = state.toWarrantRecords)
      (records : next.toClaimRecords = state.toClaimRecords.apply event)
  | residual (context : next.context = state.context) (warrants : next.toWarrantRecords = state.toWarrantRecords)
      (overflow : List Residual)
      (records : next.toClaimRecords =
        { state.toClaimRecords with residuals := state.residuals ++ overflow })

/-- The probe records. An admission of the learning area may bring in a probe. -/
inductive ProbeView (state : InquiryState) (body : EventBody) (next : InquiryState) : Prop
  | started (unstarted : state.status = .notStarted) (records : next.toProbeRecords = {})
  | kept (records : next.toProbeRecords = state.toProbeRecords)
  | extended (event expected : ProbeDomainEvent) (body_is : body = .probe event)
      (lawful : decideProbe state event.command = .ok (some expected))
      (same : expected.same event) (records : next.toProbeRecords = state.toProbeRecords.apply event)
  | admission (admitted : List ProbeIdentity)
      (records : next.toProbeRecords =
        { state.toProbeRecords with admittedProbes := state.admittedProbes ++ admitted })

variable {state next : InquiryState} {head : EventMetadata} {body : EventBody}

theorem Transition.headerView (transition : Transition state head body next) : HeaderView state next head := by
  cases transition with
  | started manifestArtifact policyVersion context unstarted =>
    exact .started unstarted manifestArtifact policyVersion context rfl
  | effect _ _ active => exact .advanced active rfl
  | claim _ _ active => exact .advanced active rfl
  | warrant _ active => exact .advanced active rfl
  | probe _ _ active => exact .advanced active rfl
  | memory event active => cases event <;> exact .advanced active rfl
  | learning event _ active => cases event <;> exact .advanced active rfl
  | compression _ active => exact .advanced active rfl
  | project _ active => exact .advanced active rfl

theorem Transition.warrantView (transition : Transition state head body next) : WarrantView state body next := by
  cases transition with
  | started _ _ _ unstarted => exact .started unstarted rfl
  | warrant event _ lawful => exact .extended event rfl lawful rfl rfl rfl
  | memory event => cases event <;> exact .kept rfl rfl
  | learning event => cases event <;> exact .kept rfl rfl
  | _ => exact .kept rfl rfl

theorem Transition.effectView (transition : Transition state head body next) : EffectView state head body next := by
  cases transition with
  | started _ _ _ unstarted => exact .started unstarted rfl
  | effect event records _ lawful => exact .extended event rfl lawful
  | memory event => cases event <;> exact .kept rfl
  | learning event => cases event <;> exact .kept rfl
  | _ => exact .kept rfl

theorem Transition.claimView (transition : Transition state head body next) : ClaimView state body next := by
  cases transition with
  | started _ _ _ unstarted => exact .started unstarted rfl
  | claim event expected _ lawful same => exact .extended event expected rfl lawful same rfl rfl rfl
  | memory event => cases event <;> exact .kept rfl rfl
  | learning event =>
    cases event with
    | semanticFieldEvaluationRecorded _ overflow => exact .residual rfl rfl overflow.toList rfl
    | _ => exact .kept rfl rfl
  | _ => exact .kept rfl rfl

theorem Transition.probeView (transition : Transition state head body next) : ProbeView state body next := by
  cases transition with
  | started _ _ _ unstarted => exact .started unstarted rfl
  | probe event expected _ lawful same => exact .extended event expected rfl lawful same rfl
  | memory event => cases event <;> exact .kept rfl
  | learning event =>
    cases event with
    | probeAdmissionDecisionRecorded decision =>
      exact .admission (decision.admittedProbe state.toLearningRecords).toList rfl
    | _ => exact .kept rfl
  | _ => exact .kept rfl

/-- Nothing happened before an inquiry starts. -/
theorem Replayable.unstarted_eq_initial (replayed : Replayable state) (unstarted : state.status = .notStarted) :
    state = initialState := by
  refine eventRun_induction (P := fun state => state.status = .notStarted → state = initialState) replayed
    ?_ (fun _ => rfl) unstarted
  intro before head body after _ transition _ stillUnstarted
  rcases transition.headerView with ⟨_, manifest, policy, context, rfl⟩ | ⟨active, header⟩
  · simp [startedState] at stillUnstarted
  · have kept : after.status = before.status := by
      rw [show after.status = after.toInquiryHeader.status from rfl, header]
    rw [kept, active.1] at stillUnstarted
    simp at stillUnstarted

/-- A started inquiry has its pins. -/
theorem Replayable.initial_or_pinned (replayed : Replayable state) :
    state = initialState ∨ ∃ context, state.context = some context := by
  refine eventRun_induction (P := fun state => state = initialState ∨ ∃ context, state.context = some context)
    replayed ?_ (.inl rfl)
  intro before head body after earlier transition _
  right
  rcases transition.headerView with ⟨_, manifest, policy, context, rfl⟩ | ⟨active, header⟩
  · exact ⟨context, rfl⟩
  · rcases earlier with rfl | ⟨context, pinned⟩
    · simp [InquiryState.isActive, initialState] at active
    · refine ⟨context, ?_⟩
      rw [← pinned, show after.context = after.toInquiryHeader.context from rfl, header]

theorem aggregateValid_initial : AggregateValid initialState :=
  validateAggregate_eq_ok.mp rfl

/-- The aggregate check holds in every state of every run. -/
theorem Replayable.aggregateValid (replayed : Replayable state) : AggregateValid state :=
  eventRun_induction replayed (fun _ _ _ _ _ _ valid => valid) aggregateValid_initial

end

end RatchetingInquiry
