import RatchetingInquiry.Library.Unique
import RatchetingInquiry.Invariants.GoalStability

/-! The registry of generated questions is compiled from the whole state. A project record that decides nothing still
takes part in it, by its identity: it can be the referent that a question lacked, or make a referent ambiguous. -/

namespace RatchetingInquiry

/-- The admitted questions of the active policy, in identity order. -/
def ProjectRecords.activeQuestions (project : ProjectRecords) : List QuestionContractCandidate :=
  (sortedIds ((project.questionRepertoireDecisions.filter
    QuestionRepertoireDecision.isActive).map (·.candidateId)).dedup).filterMap project.questionCandidateById

/-- The question has one active decision and a safe contract, and every referent other than `recordId` is one
record. -/
def QuestionContractCandidate.resolvesApart (project : ProjectRecords) (recordId : String)
    (question : QuestionContractCandidate) : Bool :=
  (activeDecision project question.id).isOk && (validateSafeContract question).isOk &&
    question.limitationId ∈ question.typedReferentIds &&
    question.typedReferentIds.all (fun referent => referent = recordId || (referentTypes project referent).length = 1)

/-- The questions that wait for nothing but `recordId`, or for nothing at all. -/
def QuestionContractCandidate.waitsFor (project : ProjectRecords) (recordId : String)
    (question : QuestionContractCandidate) : Bool :=
  recordId ∈ question.typedReferentIds && question.resolvesApart project recordId

def QuestionContractCandidate.resolvesWithout (project : ProjectRecords) (recordId : String)
    (question : QuestionContractCandidate) : Bool :=
  recordId ∉ question.typedReferentIds && question.resolvesApart project recordId

/-- The active questions of a kind whose contract has the key. -/
def ProjectRecords.questionsWith (project : ProjectRecords) (kind : QuestionContractCandidate → Bool) (key : String) :
    Nat :=
  labelCount project.activeQuestions kind (fun question => question.contract.key) key

/-- A further record with this identity leaves the registry alone: the identity is ambiguous already, or every
question that waits for it shares its contract key with two others, or with another that waits when no other
has it. -/
def ProjectRecords.registryKeeps (project : ProjectRecords) (recordId : String) : Bool :=
  2 ≤ (referentTypes project recordId).length ||
    project.activeQuestions.all (fun question =>
      let others := project.questionsWith (·.resolvesWithout project recordId) question.contract.key
      let waiting := project.questionsWith (·.waitsFor project recordId) question.contract.key
      !question.waitsFor project recordId || 2 ≤ others || (others = 0 && 2 ≤ waiting))

/-- The type under which a project command indexes its record. -/
def ProjectCommand.referentType : ProjectCommand → String
  | .recordProjectAnchor _ => "project_anchor"
  | .recordCapabilityLimitation _ => "capability_limitation"
  | .recordQuestionContractCandidate _ => "question_contract_candidate"
  | .decideQuestionRepertoire _ => "question_repertoire_decision"
  | .recordMethodBindingCandidate _ => "method_binding_candidate"
  | .decideMethodAdmission _ => "method_admission_decision"
  | .recordCapabilitySuccessorCandidate _ => "capability_successor_candidate"
  | .recordCapabilityFrontier _ => "capability_frontier"
  | .recordImplementationGoalCandidate _ => "implementation_goal_candidate"
  | .decideGoalAdmission _ => "goal_admission_decision"
  | .sealImplementationGoal _ => "implementation_goal"
  | .recordCandidateEnvironment _ => "candidate_environment"
  | .recordDevelopmentEvidence _ => "development_evidence"
  | .recordIndependentReview _ => "independent_review"
  | .decideProjectSuccessor _ => "project_successor_decision"
  | .recordPromotionDecision _ => "promotion_decision"
  | .recordRecursiveCycleCheckpoint _ => "recursive_cycle_checkpoint"
  | .recordRecursiveStopDisposition _ => "recursive_stop_disposition"

/-- The command repeats an owned record, or brings in an identity that the registry does not depend on. -/
def ProjectCommand.keepsRegistry (project : ProjectRecords) (command : ProjectCommand) : Bool :=
  command.referentId.all (fun recordId =>
    command.referentType ∈ referentTypes project recordId || project.registryKeeps recordId)

section
variable {project added : ProjectRecords} {question : QuestionContractCandidate} {recordId : String}

/-- The types of an identity are as many as the records that carry it. -/
theorem length_referentTypes (project : ProjectRecords) (recordId : String) :
    (referentTypes project recordId).length = project.referentIds.count recordId := by
  unfold referentTypes ProjectRecords.referentIds
  rw [List.length_flatMap, List.count_flatMap]
  congr 1
  apply List.map_congr_left
  intro entry _
  rw [List.length_map, Function.comp_apply, List.count_eq_countP, List.countP_eq_length_filter]
  rfl

theorem compileReferents_isOk : (compileReferents project question).isOk = true ↔
    question.limitationId ∈ question.typedReferentIds ∧
      ∀ referent ∈ question.typedReferentIds, (referentTypes project referent).length = 1 := by
  constructor
  · intro compiled
    cases outcome : compileReferents project question with
    | error failure => simp [outcome, Except.isOk, Except.toBool] at compiled
    | ok referents =>
      refine ⟨?_, compileReferents_resolved outcome⟩
      simp only [compileReferents, require_bind_eq_ok] at outcome
      exact outcome.1
  · intro wellNamed
    have named := wellNamed.1
    have resolved := wellNamed.2
    have compiled : ∃ sorted, compileReferents project question = .ok sorted := by
      simp only [compileReferents, require_bind_eq_ok]
      refine Exists.elim (mapM_succeeds ?_)
        (fun referents resolves => ⟨_, named, bind_eq_ok.mpr ⟨referents, resolves, rfl⟩⟩)
      intro referent member
      obtain ⟨recordType, one⟩ := List.length_eq_one_iff.mp (resolved referent member)
      exact ⟨⟨recordType, referent⟩, by rw [one]; rfl⟩
    obtain ⟨sorted, outcome⟩ := compiled
    rw [outcome]
    rfl

section
variable [Fingerprints] {context : Option InquiryContext}

/-- The registry of the active questions, each compiled by its own candidate. -/
theorem generatedQuestionRegistry_eq (context : Option InquiryContext) (project : ProjectRecords) :
    generatedQuestionRegistry context project = uniqueBy (fun item => item.contract.key)
      (project.activeQuestions.filterMap (fun question =>
        (compileAdmittedQuestion context project question.id).toOption)) := by
  have byCandidate : ∀ candidateId, (compileAdmittedQuestion context project candidateId).toOption =
      (project.questionCandidateById candidateId).bind (fun question =>
        (compileAdmittedQuestion context project question.id).toOption) := by
    intro candidateId
    cases hit : project.questionCandidateById candidateId with
    | some question =>
      have named : question.id = candidateId := by simpa using List.find?_some hit
      simp only [Option.bind_some, named]
    | none =>
      cases compiled : compileAdmittedQuestion context project candidateId with
      | error failure => rfl
      | ok item =>
        obtain ⟨candidate, -, owned, -⟩ := compileAdmittedQuestion_unique compiled
        have absent : project.questionContractCandidates.find? (fun item => item.id = candidateId) = none := hit
        simp [absent] at owned
  unfold ProjectRecords.activeQuestions
  rw [List.filterMap_filterMap, ← funext byCandidate]
  rfl

/-- What an owned question is compiled from, other than its decision and its referents, is owned. -/
structure QuestionGrounded (project : ProjectRecords) (question : QuestionContractCandidate)
    (limitation : CapabilityLimitation) (anchor : ProjectAnchor) : Prop where
  owned : project.questionContractCandidates.find? (fun item => item.id = question.id) = some question
  limited : project.capabilityLimitations.find? (fun item => item.id = question.limitationId) = some limitation
  anchored : project.projectAnchors.find? (fun item => item.id = limitation.anchorId) = some anchor

omit [Fingerprints] in
theorem QuestionGrounded.grows {limitation : CapabilityLimitation} {anchor : ProjectAnchor}
    (grounded : QuestionGrounded project question limitation anchor) (added : ProjectRecords) :
    QuestionGrounded (project.join added) question limitation anchor :=
  ⟨(List.prefix_append _ _).find?_eq_some grounded.owned, (List.prefix_append _ _).find?_eq_some grounded.limited,
    (List.prefix_append _ _).find?_eq_some grounded.anchored⟩

/-- A grounded question compiles when its decision, its contract and its referents do. -/
theorem QuestionGrounded.compiles {limitation : CapabilityLimitation} {anchor : ProjectAnchor}
    (grounded : QuestionGrounded project question limitation anchor) (pins : InquiryContext) :
    (compileAdmittedQuestion (some pins) project question.id).toOption.isSome =
      ((activeDecision project question.id).isOk && (validateSafeContract question).isOk &&
        (compileReferents project question).isOk) := by
  simp only [compileAdmittedQuestion, grounded.owned, found, bind, Except.bind, grounded.limited, grounded.anchored]
  cases activeDecision project question.id with
  | error failure => rfl
  | ok decision =>
    cases validateSafeContract question with
    | error failure => rfl
    | ok _ => cases compileReferents project question <;> rfl

theorem compiled_contract {candidateId : String} {item : CompiledQuestionContract}
    (owned : project.questionContractCandidates.find? (fun item => item.id = candidateId) = some question)
    (compiled : compileAdmittedQuestion context project candidateId = .ok item) : item.contract = question.contract := by
  simp only [compileAdmittedQuestion, found_bind_eq_ok, owned, Option.some.injEq, exists_eq_left'] at compiled
  obtain ⟨pins, -, rest⟩ := compiled
  obtain ⟨decision, -, rest⟩ := bind_eq_ok.mp rest
  simp only [found_bind_eq_ok, unit_bind_eq_ok] at rest
  obtain ⟨limitation, -, anchor, -, -, rest⟩ := rest
  obtain ⟨referents, -, built⟩ := bind_eq_ok.mp rest
  rw [← Except.ok.inj built]

/-- Records that leave the decisions and the referents of a question alone leave its compilation alone. -/
theorem QuestionGrounded.compiles_same {limitation : CapabilityLimitation} {anchor : ProjectAnchor}
    (grounded : QuestionGrounded project question limitation anchor)
    (undecided : added.questionRepertoireDecisions = [])
    (referents : ∀ referent ∈ question.typedReferentIds, referent ∉ added.referentIds) :
    compileAdmittedQuestion context (project.join added) question.id =
      compileAdmittedQuestion context project question.id := by
  have later := grounded.grows added
  have decisions : activeDecision (project.join added) question.id = activeDecision project question.id := by
    simp only [activeDecision, ProjectRecords.join, undecided, List.append_nil]
  have resolved : compileReferents (project.join added) question = compileReferents project question :=
    compileReferents_congr fun referent member => referentTypes_join_of_absent (referents referent member)
  cases context with
  | none => rfl
  | some pins =>
    simp only [compileAdmittedQuestion, found, later.owned, later.limited, later.anchored, grounded.owned,
      grounded.limited, grounded.anchored, bind, Except.bind, decisions, resolved]

/-- A grounded question compiles when it resolves, and `recordId` is one record if the question names it. -/
theorem QuestionGrounded.compiles_apart {limitation : CapabilityLimitation} {anchor : ProjectAnchor}
    (grounded : QuestionGrounded project question limitation anchor) (pins : InquiryContext) (recordId : String) :
    (compileAdmittedQuestion (some pins) project question.id).toOption.isSome = true ↔
      question.resolvesApart project recordId = true ∧
        (recordId ∈ question.typedReferentIds → (referentTypes project recordId).length = 1) := by
  rw [grounded.compiles, QuestionContractCandidate.resolvesApart]
  simp only [Bool.and_eq_true, compileReferents_isOk, decide_eq_true_eq, List.all_eq_true, Bool.or_eq_true]
  constructor
  · intro ⟨⟨decided, safe⟩, named, resolved⟩
    exact ⟨⟨⟨⟨decided, safe⟩, named⟩, fun referent member => .inr (resolved referent member)⟩, resolved recordId⟩
  · intro ⟨⟨⟨⟨decided, safe⟩, named⟩, apart⟩, single⟩
    refine ⟨⟨decided, safe⟩, named, ?_⟩
    intro referent member
    rcases apart referent member with rfl | resolved
    · exact single member
    · exact resolved

theorem QuestionGrounded.ambiguous {limitation : CapabilityLimitation} {anchor : ProjectAnchor}
    (grounded : QuestionGrounded project question limitation anchor) (pins : InquiryContext)
    (named : recordId ∈ question.typedReferentIds) (several : (referentTypes project recordId).length ≠ 1) :
    (compileAdmittedQuestion (some pins) project question.id).toOption = none := by
  rw [← Option.not_isSome_iff_eq_none, grounded.compiles_apart pins recordId]
  exact fun compiles => several (compiles.2 named)

section
variable (added : ProjectRecords)

omit [Fingerprints] in
theorem resolvesApart_join (undecided : added.questionRepertoireDecisions = [])
    (alone : added.referentIds = [recordId]) :
    question.resolvesApart (project.join added) recordId = question.resolvesApart project recordId := by
  have decisions : activeDecision (project.join added) question.id = activeDecision project question.id := by
    simp only [activeDecision, ProjectRecords.join, undecided, List.append_nil]
  unfold QuestionContractCandidate.resolvesApart
  rw [decisions]
  congr 1
  rw [Bool.eq_iff_iff]
  simp only [List.all_eq_true, Bool.or_eq_true, decide_eq_true_eq]
  refine forall₂_congr fun referent _ => ?_
  by_cases same : referent = recordId
  · simp [same]
  · rw [referentTypes_join_of_absent (by simp [alone, same])]

omit [Fingerprints] in
theorem length_referentTypes_added (alone : added.referentIds = [recordId]) :
    (referentTypes (project.join added) recordId).length = (referentTypes project recordId).length + 1 := by
  rw [length_referentTypes_join, length_referentTypes added, alone, List.count_singleton_self]

variable {added}

omit [Fingerprints] in
theorem resolvesWithout_iff : question.resolvesWithout project recordId = true ↔
    recordId ∉ question.typedReferentIds ∧ question.resolvesApart project recordId = true := by
  simp [QuestionContractCandidate.resolvesWithout]

omit [Fingerprints] in
theorem waitsFor_iff : question.waitsFor project recordId = true ↔
    recordId ∈ question.typedReferentIds ∧ question.resolvesApart project recordId = true := by
  simp [QuestionContractCandidate.waitsFor]

/-- Of two projects that differ in the records that carry `recordId`, the one in which it is a single record also
compiles the questions that wait for it. -/
theorem producesMore_of {low high : ProjectRecords} {questions : List QuestionContractCandidate} {pins : InquiryContext}
    (groundedLow : ∀ question ∈ questions, ∃ limitation anchor, QuestionGrounded low question limitation anchor)
    (groundedHigh : ∀ question ∈ questions, ∃ limitation anchor, QuestionGrounded high question limitation anchor)
    (apartLow : ∀ question : QuestionContractCandidate,
      question.resolvesApart low recordId = question.resolvesApart project recordId)
    (apartHigh : ∀ question : QuestionContractCandidate,
      question.resolvesApart high recordId = question.resolvesApart project recordId)
    (same : ∀ question ∈ questions, recordId ∉ question.typedReferentIds →
      compileAdmittedQuestion (some pins) low question.id = compileAdmittedQuestion (some pins) high question.id)
    (several : (referentTypes low recordId).length ≠ 1) (single : (referentTypes high recordId).length = 1) :
    ProducesMore questions (fun question => (compileAdmittedQuestion (some pins) low question.id).toOption)
      (fun question => (compileAdmittedQuestion (some pins) high question.id).toOption)
      (fun item => item.contract.key) (fun question => question.contract.key)
      (fun question => question.resolvesWithout project recordId)
      (fun question => question.waitsFor project recordId) := by
  constructor
  · intro question member resolves
    have unnamed := (resolvesWithout_iff.mp resolves).1
    rw [same question member unnamed]
  · intro question member unresolved
    obtain ⟨limitation, anchor, grounded⟩ := groundedLow question member
    rw [← Option.not_isSome_iff_eq_none, grounded.compiles_apart pins recordId, apartLow]
    intro ⟨apart, unique⟩
    have unnamed : recordId ∉ question.typedReferentIds := fun named => several (unique named)
    rw [resolvesWithout_iff.mpr ⟨unnamed, apart⟩] at unresolved
    exact Bool.noConfusion unresolved
  · intro question member
    obtain ⟨limitation, anchor, grounded⟩ := groundedHigh question member
    rw [Bool.eq_iff_iff, grounded.compiles_apart pins recordId, apartHigh, Bool.or_eq_true, resolvesWithout_iff,
      waitsFor_iff]
    by_cases named : recordId ∈ question.typedReferentIds
    · simp [named, single]
    · simp [named]
  · intro question member resolves
    have unnamed := (resolvesWithout_iff.mp resolves).1
    rw [Bool.eq_false_iff]
    exact fun waits => unnamed (waitsFor_iff.mp waits).1
  · intro question member item compiled
    obtain ⟨limitation, anchor, grounded⟩ := groundedHigh question member
    cases outcome : compileAdmittedQuestion (some pins) high question.id with
    | error failure => simp [outcome, Except.toOption] at compiled
    | ok built =>
      simp only [outcome, Except.toOption, Option.some.injEq] at compiled
      rw [← compiled, compiled_contract grounded.owned outcome]

/-- Records with one indexed identity leave the registry alone exactly when it keeps to that identity. -/
theorem registry_join_iff {pins : InquiryContext}
    (grounded : ∀ question ∈ project.activeQuestions, ∃ limitation anchor,
      QuestionGrounded project question limitation anchor)
    (questions : (project.join added).activeQuestions = project.activeQuestions)
    (undecided : added.questionRepertoireDecisions = []) (alone : added.referentIds = [recordId]) :
    generatedQuestionRegistry (some pins) (project.join added) = generatedQuestionRegistry (some pins) project ↔
      project.registryKeeps recordId = true := by
  have counted : (referentTypes (project.join added) recordId).length = (referentTypes project recordId).length + 1 :=
    length_referentTypes_added added alone
  have apart : ∀ question : QuestionContractCandidate,
      question.resolvesApart (project.join added) recordId = question.resolvesApart project recordId :=
    fun question => resolvesApart_join added undecided alone
  have groundedLater : ∀ question ∈ project.activeQuestions, ∃ limitation anchor,
      QuestionGrounded (project.join added) question limitation anchor := by
    intro question member
    obtain ⟨limitation, anchor, owned⟩ := grounded question member
    exact ⟨limitation, anchor, owned.grows added⟩
  have same : ∀ question ∈ project.activeQuestions, recordId ∉ question.typedReferentIds →
      compileAdmittedQuestion (some pins) (project.join added) question.id =
        compileAdmittedQuestion (some pins) project question.id := by
    intro question member unnamed
    obtain ⟨limitation, anchor, owned⟩ := grounded question member
    refine owned.compiles_same undecided ?_
    intro referent named
    rw [alone, List.mem_singleton]
    exact fun equal => unnamed (equal ▸ named)
  rw [generatedQuestionRegistry_eq, generatedQuestionRegistry_eq, questions]
  rcases Nat.lt_or_ge (referentTypes project recordId).length 2 with few | many
  · have crowd : project.registryKeeps recordId = true ↔ ∀ question ∈ project.activeQuestions,
        question.waitsFor project recordId = true →
        2 ≤ project.questionsWith (·.resolvesWithout project recordId) question.contract.key ∨
          (project.questionsWith (·.resolvesWithout project recordId) question.contract.key = 0 ∧
            2 ≤ project.questionsWith (·.waitsFor project recordId) question.contract.key) := by
      simp only [ProjectRecords.registryKeeps, Bool.or_eq_true, decide_eq_true_eq, Nat.not_le.mpr few, false_or,
        List.all_eq_true, Bool.and_eq_true]
      refine forall₂_congr fun question _ => ?_
      cases question.waitsFor project recordId <;> simp
    rw [crowd]
    by_cases absent : (referentTypes project recordId).length = 0
    · exact (producesMore_of grounded groundedLater (fun _ => rfl) apart (fun question member unnamed =>
        (same question member unnamed).symm) (by omega) (by omega)).uniqueBy_eq_iff
    · rw [eq_comm]
      exact (producesMore_of groundedLater grounded apart (fun _ => rfl) same (by omega) (by omega)).uniqueBy_eq_iff
  · have keeps : project.registryKeeps recordId = true := by simp [ProjectRecords.registryKeeps, many]
    simp only [keeps, iff_true]
    congr 1
    apply List.filterMap_congr
    intro question member
    by_cases named : recordId ∈ question.typedReferentIds
    · obtain ⟨limitation, anchor, before⟩ := grounded question member
      rw [before.ambiguous pins named (by omega), (before.grows added).ambiguous pins named (by omega)]
    · rw [same question member named]

theorem registry_unindexed {context : Option InquiryContext}
    (grounded : ∀ question ∈ project.activeQuestions, ∃ limitation anchor,
      QuestionGrounded project question limitation anchor)
    (questions : (project.join added).activeQuestions = project.activeQuestions)
    (undecided : added.questionRepertoireDecisions = []) (unindexed : added.referentIds = []) :
    generatedQuestionRegistry context (project.join added) = generatedQuestionRegistry context project := by
  rw [generatedQuestionRegistry_eq, generatedQuestionRegistry_eq, questions]
  congr 1
  apply List.filterMap_congr
  intro question member
  obtain ⟨limitation, anchor, owned⟩ := grounded question member
  rw [owned.compiles_same undecided (by simp [unindexed])]

end

/-! What a valid state and an accepted project command give. -/

section
variable {state next : InquiryState} {command : ProjectCommand} {head : EventMetadata}

theorem AggregateValid.repertoire (valid : AggregateValid state) :
    (∀ limitation ∈ state.capabilityLimitations, limitation.anchorId ∈ state.projectAnchors.map ProjectAnchor.id) ∧
      (∀ candidate ∈ state.questionContractCandidates,
        candidate.limitationId ∈ state.capabilityLimitations.map CapabilityLimitation.id) ∧
      ∀ decision ∈ state.questionRepertoireDecisions,
        decision.candidateId ∈ state.questionContractCandidates.map QuestionContractCandidate.id := by
  have checked := valid.project
  simp only [validateProject, unit_bind_eq_ok] at checked
  have repertoire := checked.2.1
  simp only [validateRepertoire, require_bind_eq_ok] at repertoire
  exact ⟨repertoire.1, repertoire.2.1, fun decision member => (repertoire.2.2.1 decision member).1⟩

omit [Fingerprints] in
theorem find_isSome_of_mem {α : Type} {key : α → String} {records : List α} {k : String} (owned : k ∈ records.map key) :
    ∃ record, records.find? (fun item => key item = k) = some record := by
  cases hit : records.find? (fun item => key item = k) with
  | some record => exact ⟨record, rfl⟩
  | none => exact absurd owned (find_eq_none_iff.mp hit)

theorem AggregateValid.questions_grounded (valid : AggregateValid state) :
    ∀ question ∈ state.activeQuestions, ∃ limitation anchor,
      QuestionGrounded state.toProjectRecords question limitation anchor := by
  obtain ⟨anchors, limitations, -⟩ := valid.repertoire
  intro question active
  obtain ⟨candidateId, -, hit⟩ := List.mem_filterMap.mp active
  have named : question.id = candidateId := by simpa using List.find?_some hit
  obtain ⟨limitation, limited⟩ := find_isSome_of_mem (limitations question (List.mem_of_find?_eq_some hit))
  obtain ⟨anchor, anchored⟩ := find_isSome_of_mem (anchors limitation (List.mem_of_find?_eq_some limited))
  exact ⟨limitation, anchor, named ▸ hit, limited, anchored⟩

theorem AggregateValid.questions_join (valid : AggregateValid state) {added : ProjectRecords}
    (undecided : added.questionRepertoireDecisions = []) :
    (state.toProjectRecords.join added).activeQuestions = state.activeQuestions := by
  obtain ⟨-, -, decided⟩ := valid.repertoire
  unfold ProjectRecords.activeQuestions
  rw [show (state.toProjectRecords.join added).questionRepertoireDecisions = state.questionRepertoireDecisions by
    simp [ProjectRecords.join, undecided]]
  apply List.filterMap_congr
  intro candidateId listed
  have active := List.mem_dedup.mp ((List.perm_insertionSort _ _).subset listed)
  obtain ⟨decision, taken, rfl⟩ := List.mem_map.mp active
  obtain ⟨candidate, owned⟩ := find_isSome_of_mem (decided decision (List.mem_of_mem_filter taken))
  exact ((List.prefix_append _ _).find?_eq_some owned).trans owned.symm

omit [Fingerprints] in
theorem recordOnce_indexed {α β : Type} [RecordEq α] {records : List α} {key : α → String} {record : α}
    {reused : String} {fresh : Except Failure β} {decided : Option β}
    (lawful : recordOnce (records.find? (fun item => key item = key record)) record reused fresh = .ok decided) :
    (∃ item ∈ records, key item = key record) ↔ decided = none := by
  rw [← List.mem_map]
  cases hit : records.find? (fun item => key item = key record) with
  | none =>
    have absent := find_eq_none_iff.mp hit
    rw [hit] at lawful
    cases fresh with
    | error failure => simp [recordOnce, Except.map] at lawful
    | ok event =>
      simp only [recordOnce, Except.map, Except.ok.injEq] at lawful
      simp [absent, ← lawful]
  | some prior =>
    have owned : key record ∈ records.map key :=
      List.mem_map.mpr ⟨prior, List.mem_of_find?_eq_some hit, by simpa using List.find?_some hit⟩
    simp only [hit, recordOnce] at lawful
    split at lawful
    next => simpa [owned] using lawful.symm
    next => simp at lawful

/-- A decided command repeats a record that is indexed under its type, or records one that is not. -/
theorem decideProject_indexed {decided : Option ProjectEvent} {recordId : String}
    (lawful : decideProject state command = .ok decided) (named : command.referentId = some recordId) :
    command.referentType ∈ referentTypes state.toProjectRecords recordId ↔ decided = none := by
  rw [mem_referentTypes]
  cases command <;> simp only [ProjectCommand.referentId, Option.some.injEq, reduceCtorEq] at named
  all_goals
    subst named
    simp [ProjectCommand.referentType, projectReferents]
    exact recordOnce_indexed lawful

theorem active_context {inquiryId : String} (reached : Reachable state) (active : state.isActive inquiryId) :
    ∃ pins, state.context = some pins := by
  rcases Replayable.initial_or_pinned reached.replayable with rfl | pinned
  · simp [InquiryState.isActive, initialState] at active
  · exact pinned

/-- An accepted project command that decides no question leaves the generated questions alone exactly when it repeats
a record or brings in an identity to which the registry keeps. -/
theorem registry_kept_iff (reached : Reachable state) (inert : command.decidedQuestion = none)
    (applied : applyCommand state ⟨head, .project command⟩ = .ok next) :
    generatedQuestionRegistry next.context next.toProjectRecords =
        generatedQuestionRegistry state.context state.toProjectRecords ↔
      command.keepsRegistry state.toProjectRecords = true := by
  have valid := reached.replayable.aggregateValid
  rcases applyCommand_eq_ok.mp applied with ⟨decided, rfl⟩ | ⟨event, decided, evolved⟩
  · obtain ⟨body, decidedBody, empty⟩ := decide_eq_ok.mp decided
    simp only [decideBody, bind_eq_ok, pure, Except.pure, Except.ok.injEq] at decidedBody
    obtain ⟨-, -, repeated, lawful, wrapped⟩ := decidedBody
    have none : repeated = none := by
      cases repeated with
      | none => rfl
      | some event => simp [← wrapped] at empty
    simp only [ProjectCommand.keepsRegistry, true_iff, Option.all_eq_true, Bool.or_eq_true, decide_eq_true_eq]
    exact fun recordId named => .inl ((decideProject_indexed lawful named).mpr none)
  · obtain ⟨sameHead, decidedBody⟩ := decide_singleton.mp decided
    obtain ⟨active, recorded, lawful, same⟩ := activeDecision_eq_some.mp decidedBody
    obtain ⟨transition, -⟩ := evolve_eq_ok.mp evolved
    obtain ⟨pins, pinned⟩ := active_context reached active
    rw [same] at transition
    cases transition with
    | project _ _ _ =>
      have rebuilt := decideProject_command command _ lawful _ rfl
      have undecided : (ProjectRecords.apply {} recorded).questionRepertoireDecisions = [] := by
        rw [← rebuilt] at inert
        cases recorded <;> simp_all [ProjectEvent.command, ProjectCommand.decidedQuestion, ProjectRecords.apply]
      have indexed : (ProjectRecords.apply {} recorded).referentIds = command.referentId.toList := by
        rw [referentIds_apply, rebuilt]
      have questions := valid.questions_join undecided
      have grounded := valid.questions_grounded
      simp only [ProjectRecords.apply_eq_join state.toProjectRecords recorded, pinned]
      cases named : command.referentId with
      | none =>
        rw [named, Option.toList_none] at indexed
        simp only [registry_unindexed grounded questions undecided indexed, ProjectCommand.keepsRegistry, named,
          Option.all_none]
      | some recordId =>
        rw [named, Option.toList_some] at indexed
        have unowned : command.referentType ∉ referentTypes state.toProjectRecords recordId := by
          rw [decideProject_indexed lawful named]
          simp
        rw [registry_join_iff grounded questions undecided indexed]
        simp [ProjectCommand.keepsRegistry, named, unowned]

end

end

end

namespace Worked

/-- An inquiry with one admitted question about its limitation. -/
def questioned : List CommandBody := start :: developed ++ [
  .project (.recordQuestionContractCandidate generatedQuestion), questionAdmission "admission"]

/-- A method candidate for the limitation, under any identity. -/
def methodCandidate (id : String) : MethodBindingCandidate where
  id := id
  limitationId := "limitation"
  relationId := "relation"
  nativeField := "field"
  methodId := "method"
  primarySourceUrls := ["source"]
  sourceArtifacts := [artifact "source"]
  assumptionIds := ["assumption"]
  applicabilityCheckIds := ["check"]
  licenseId := "license"
  adapterRequired := false

/-- The questions that are active after a method candidate was recorded, when it was accepted. -/
def activeAfter (id : String) : Option (List String) :=
  (applyCommand (reached questioned) (command (.project (.recordMethodBindingCandidate (methodCandidate id))))).toOption.map
    (fun next => (generatedQuestionRegistry next.context next.toProjectRecords).map (·.candidateId))

-- One evaluation of the run serves both results below.
theorem questioned_evaluated : activeAfter "method" = some ["question"] ∧ activeAfter "limitation" = some [] ∧
    (generatedQuestionRegistry (reached questioned).context (reached questioned).toProjectRecords).map (·.candidateId) =
      ["question"] ∧
    (ProjectCommand.recordMethodBindingCandidate (methodCandidate "method")).keepsRegistry
      (reached questioned).toProjectRecords = true := by
  decide +kernel

theorem accepted_of_activeAfter {id : String} {active : List String} (accepted : activeAfter id = some active) :
    ∃ next, applyCommand (reached questioned) (command (.project (.recordMethodBindingCandidate (methodCandidate id)))) =
      .ok next ∧ (generatedQuestionRegistry next.context next.toProjectRecords).map (·.candidateId) = active := by
  unfold activeAfter at accepted
  obtain ⟨next, hit, names⟩ := Option.map_eq_some_iff.mp accepted
  refine ⟨next, ?_, names⟩
  cases outcome : applyCommand (reached questioned)
      (command (.project (.recordMethodBindingCandidate (methodCandidate id)))) with
  | error failure => simp [outcome, Except.toOption] at hit
  | ok after => simpa [outcome, Except.toOption] using hit

theorem questioned_kept : ∃ next,
    applyCommand (reached questioned) (command (.project (.recordMethodBindingCandidate (methodCandidate "method")))) =
      .ok next ∧
    (generatedQuestionRegistry next.context next.toProjectRecords =
        generatedQuestionRegistry (reached questioned).context (reached questioned).toProjectRecords ↔
      (ProjectCommand.recordMethodBindingCandidate (methodCandidate "method")).keepsRegistry
        (reached questioned).toProjectRecords = true) := by
  obtain ⟨next, accepted, -⟩ := accepted_of_activeAfter questioned_evaluated.1
  exact ⟨next, accepted, registry_kept_iff (reachable_reached questioned) rfl accepted⟩

/-- A method candidate under the identity of the limitation takes the admitted question out of the registry. -/
theorem candidate_not_inert : ¬ ∀ state head (command : ProjectCommand) next, Reachable state →
    command.decidedQuestion = none → applyCommand state ⟨head, .project command⟩ = .ok next →
    generatedQuestionRegistry next.context next.toProjectRecords =
      generatedQuestionRegistry state.context state.toProjectRecords := by
  intro claimed
  obtain ⟨-, emptied, listed, -⟩ := questioned_evaluated
  obtain ⟨next, accepted, names⟩ := accepted_of_activeAfter emptied
  have same := claimed _ _ _ next (reachable_reached questioned) rfl accepted
  rw [same, listed] at names
  exact absurd names (by decide)

end Worked

end RatchetingInquiry
