import RatchetingInquiry.Invariants.AppendOnly
import RatchetingInquiry.Project.Derivation

/-! Compiling again after records were added. Lookups by identity answer as before; what may fail is what has
to be unique: the decision about a question, the record behind a referent, the accepted request. -/

namespace RatchetingInquiry

/-- The identities that generated questions may refer to. -/
def ProjectRecords.referentIds (records : ProjectRecords) : List String := (projectReferents records).flatMap Prod.snd

section
variable {project added : ProjectRecords}

theorem mem_referentTypes {recordId recordType : String} :
    recordType ∈ referentTypes project recordId ↔
      ∃ ids, (recordType, ids) ∈ projectReferents project ∧ recordId ∈ ids := by
  simp only [referentTypes, List.mem_flatMap, List.mem_map, List.mem_filter, decide_eq_true_eq]
  constructor
  · intro listed
    obtain ⟨⟨named, ids⟩, owned, id, ⟨member, rfl⟩, rfl⟩ := listed
    exact ⟨ids, owned, member⟩
  · intro listed
    obtain ⟨ids, owned, member⟩ := listed
    exact ⟨(recordType, ids), owned, recordId, ⟨member, rfl⟩, rfl⟩

theorem referentTypes_eq_nil_iff {recordId : String} :
    referentTypes project recordId = [] ↔ recordId ∉ project.referentIds := by
  rw [List.eq_nil_iff_forall_not_mem, ProjectRecords.referentIds, List.mem_flatMap]
  constructor
  · intro none listed
    obtain ⟨⟨recordType, ids⟩, owned, member⟩ := listed
    exact none recordType (mem_referentTypes.mpr ⟨ids, owned, member⟩)
  · intro absent recordType listed
    obtain ⟨ids, owned, member⟩ := mem_referentTypes.mp listed
    exact absent ⟨(recordType, ids), owned, member⟩

/-- Every record that carries an identity counts once more for each added one. -/
theorem length_referentTypes_join (recordId : String) :
    (referentTypes (project.join added) recordId).length =
      (referentTypes project recordId).length + (referentTypes added recordId).length := by
  simp only [referentTypes, projectReferents, ProjectRecords.join, List.flatMap_cons, List.flatMap_nil,
    List.map_append, List.filter_append, List.length_append, List.length_map, List.append_nil]
  omega

theorem referentTypes_join_of_absent {recordId : String} (absent : recordId ∉ added.referentIds) :
    referentTypes (project.join added) recordId = referentTypes project recordId := by
  have none : ∀ ids ∈ (projectReferents added).map Prod.snd, ids.filter (fun id => id = recordId) = [] := by
    intro ids listed
    obtain ⟨entry, owned, rfl⟩ := List.mem_map.mp listed
    rw [List.filter_eq_nil_iff]
    intro id member same
    obtain rfl : id = recordId := by simpa using same
    exact absent (List.mem_flatMap.mpr ⟨entry, owned, member⟩)
  simp only [projectReferents, List.map_cons, List.map_nil, List.forall_mem_cons] at none
  simp only [referentTypes, projectReferents, ProjectRecords.join, List.flatMap_cons, List.flatMap_nil,
    List.map_append, List.filter_append, none, List.append_nil]

/-- Every referent of a compiled question is exactly one record. -/
theorem compileReferents_resolved {candidate : QuestionContractCandidate} {referents : List CompiledReferent}
    (compiled : compileReferents project candidate = .ok referents) :
    ∀ recordId ∈ candidate.typedReferentIds, (referentTypes project recordId).length = 1 := by
  simp only [compileReferents, require_bind_eq_ok] at compiled
  obtain ⟨-, rest⟩ := compiled
  obtain ⟨resolved, looked, -⟩ := bind_eq_ok.mp rest
  generalize candidate.typedReferentIds = ids at looked
  induction ids generalizing resolved with
  | nil => simp
  | cons first rest ih =>
    rw [List.mapM_cons, bind_eq_ok] at looked
    obtain ⟨referent, here, later⟩ := looked
    rw [bind_eq_ok] at later
    obtain ⟨others, there, -⟩ := later
    intro recordId member
    rcases List.mem_cons.mp member with rfl | member
    · split at here
      next recordType one => rw [one]; rfl
      next => simp [throw, throwThe, MonadExceptOf.throw] at here
    · exact ih others there recordId member

theorem compileReferents_congr {later : ProjectRecords} {candidate : QuestionContractCandidate}
    (same : ∀ recordId ∈ candidate.typedReferentIds, referentTypes later recordId = referentTypes project recordId) :
    compileReferents later candidate = compileReferents project candidate := by
  simp only [compileReferents]
  congr 1
  funext _
  congr 1
  generalize candidate.typedReferentIds = ids at same
  induction ids with
  | nil => rfl
  | cons first rest ih =>
    rw [List.mapM_cons, List.mapM_cons, same first List.mem_cons_self,
      ih (fun recordId member => same recordId (List.mem_cons_of_mem _ member))]

theorem activeDecision_eq_ok {candidateId : String} {decision : QuestionRepertoireDecision} :
    activeDecision project candidateId = .ok decision ↔
      project.questionRepertoireDecisions.filter (fun item => item.candidateId = candidateId) = [decision] ∧
        decision.isActive = true := by
  unfold activeDecision
  split
  next only one =>
    rw [one]
    split
    next active =>
      simp only [Except.ok.injEq, List.cons.injEq, and_true]
      constructor
      · intro same
        exact ⟨same, same ▸ active⟩
      · exact fun same => same.1
    next inactive =>
      simp only [reduceCtorEq, List.cons.injEq, and_true, false_iff, not_and]
      intro same active
      exact inactive (same ▸ active)
  next several =>
    simp only [reduceCtorEq, false_iff, not_and]
    intro one
    exact absurd one (several decision)

section
variable [Fingerprints] {context : Option InquiryContext} {candidateId : String} {compiled : CompiledQuestionContract}

/-- A compiled question names its candidate, and the candidate's decision and referents are unique. -/
theorem compileAdmittedQuestion_unique (done : compileAdmittedQuestion context project candidateId = .ok compiled) :
    ∃ candidate decision, project.questionContractCandidates.find? (fun item => item.id = candidateId) = some candidate ∧
      compiled.candidateId = candidate.id ∧
      project.questionRepertoireDecisions.filter (fun item => item.candidateId = candidate.id) = [decision] ∧
      ∀ recordId ∈ candidate.typedReferentIds, (referentTypes project recordId).length = 1 := by
  simp only [compileAdmittedQuestion, found_bind_eq_ok] at done
  obtain ⟨pins, -, candidate, hit, rest⟩ := done
  obtain ⟨decision, decided, rest⟩ := bind_eq_ok.mp rest
  simp only [found_bind_eq_ok, unit_bind_eq_ok] at rest
  obtain ⟨limitation, -, anchor, -, -, rest⟩ := rest
  obtain ⟨referents, resolved, built⟩ := bind_eq_ok.mp rest
  refine ⟨candidate, decision, hit, ?_, (activeDecision_eq_ok.mp decided).1, compileReferents_resolved resolved⟩
  rw [← Except.ok.inj built]

/-- Added records that decide nothing about the candidate and take no identity of a referent leave the
compilation as it is. -/
theorem compileAdmittedQuestion_join {candidate : QuestionContractCandidate}
    (done : compileAdmittedQuestion context project candidateId = .ok compiled)
    (hit : project.questionContractCandidates.find? (fun item => item.id = candidateId) = some candidate)
    (undecided : ∀ decision ∈ added.questionRepertoireDecisions, decision.candidateId ≠ candidate.id)
    (unnamed : ∀ recordId ∈ candidate.typedReferentIds, recordId ∉ added.referentIds) :
    compileAdmittedQuestion context (project.join added) candidateId = .ok compiled := by
  simp only [compileAdmittedQuestion, found_bind_eq_ok] at done ⊢
  obtain ⟨pins, pinned, same, sameHit, rest⟩ := done
  obtain rfl : same = candidate := Option.some.inj (sameHit.symm.trans hit)
  refine ⟨pins, pinned, same, (List.prefix_append _ _).find?_eq_some hit, ?_⟩
  obtain ⟨decision, decided, rest⟩ := bind_eq_ok.mp rest
  simp only [found_bind_eq_ok, unit_bind_eq_ok] at rest
  obtain ⟨limitation, limited, anchor, anchored, safe, rest⟩ := rest
  rw [bind_eq_ok]
  refine ⟨decision, ?_, ?_⟩
  · obtain ⟨one, active⟩ := activeDecision_eq_ok.mp decided
    have others : added.questionRepertoireDecisions.filter (fun item => item.candidateId = same.id) = [] := by
      rw [List.filter_eq_nil_iff]
      exact fun item member => by simpa using undecided item member
    refine activeDecision_eq_ok.mpr ⟨?_, active⟩
    simp only [ProjectRecords.join, List.filter_append, one, others, List.append_nil]
  · simp only [found_bind_eq_ok, unit_bind_eq_ok]
    refine ⟨limitation, (List.prefix_append _ _).find?_eq_some limited, anchor,
      (List.prefix_append _ _).find?_eq_some anchored, safe, ?_⟩
    rw [compileReferents_congr (fun recordId member => referentTypes_join_of_absent (unnamed recordId member))]
    exact rest

/-- A second decision about the candidate, or a record with the identity of a referent, ends the compilation. -/
theorem compileAdmittedQuestion_join_unique {candidate : QuestionContractCandidate} {later : CompiledQuestionContract}
    (done : compileAdmittedQuestion context project candidateId = .ok compiled)
    (hit : project.questionContractCandidates.find? (fun item => item.id = candidateId) = some candidate)
    (again : compileAdmittedQuestion context (project.join added) candidateId = .ok later) :
    (∀ decision ∈ added.questionRepertoireDecisions, decision.candidateId ≠ candidate.id) ∧
      ∀ recordId ∈ candidate.typedReferentIds, recordId ∉ added.referentIds := by
  obtain ⟨first, decision, firstHit, -, one, resolved⟩ := compileAdmittedQuestion_unique done
  obtain ⟨second, other, secondHit, -, stillOne, stillResolved⟩ := compileAdmittedQuestion_unique again
  obtain rfl : first = candidate := Option.some.inj (firstHit.symm.trans hit)
  have kept : (project.join added).questionContractCandidates.find? (fun item => item.id = candidateId) = some first :=
    (List.prefix_append _ _).find?_eq_some hit
  obtain rfl : second = first := Option.some.inj (secondHit.symm.trans kept)
  constructor
  · intro repeated member about
    have counted := congrArg List.length stillOne
    simp only [ProjectRecords.join, List.filter_append, one, List.length_append, List.length_cons,
      List.length_nil] at counted
    have listed : repeated ∈ added.questionRepertoireDecisions.filter (fun item => item.candidateId = second.id) :=
      List.mem_filter.mpr ⟨member, by simpa using about⟩
    have positive := List.length_pos_of_mem listed
    omega
  · intro recordId member named
    have before := resolved recordId member
    have after := stillResolved recordId member
    rw [length_referentTypes_join, before] at after
    have none : referentTypes added recordId = [] := List.length_eq_zero_iff.mp (by omega)
    exact referentTypes_eq_nil_iff.mp none named

end

end

end RatchetingInquiry
