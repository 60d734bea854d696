import RatchetingInquiry.Core.Run
import Mathlib.Algebra.Order.Floor.Div
import Mathlib.Data.Finset.Sym
import Mathlib.GroupTheory.GroupAction.Ring

/-! The stratified split of probe samples. Every consequence class is split by the fingerprints of its own
samples, so the parts and all that is computed from them are the same in whatever order the samples come. -/

namespace RatchetingInquiry

/-- The candidate tells the two samples apart although the existing basis does not: they differ in their
consequences and in the candidate's value and agree in the existing basis. -/
def Separated (left right : ProbeSample) : Prop :=
  left.protectedConsequenceClassId ≠ right.protectedConsequenceClassId ∧
    left.existingBasisClassId = right.existingBasisClassId ∧ left.candidateValueId ≠ right.candidateValueId

theorem separated_symm : Std.Symm Separated :=
  ⟨fun _ _ apart => ⟨apart.1.symm, apart.2.1.symm, apart.2.2.symm⟩⟩

instance (left right : ProbeSample) : Decidable (Separated left right) := inferInstanceAs (Decidable (_ ∧ _))

/-- The unordered pairs of distinct samples that the candidate tells apart. -/
def separatedPairs : Set (Sym2 ProbeSample) := Sym2.fromRel separated_symm

instance : DecidablePred (· ∈ separatedPairs) := inferInstanceAs (DecidablePred (· ∈ Sym2.fromRel separated_symm))

/-- The gain of a part counts its separated pairs, each once. -/
theorem pairGain_eq_countP (samples : List ProbeSample) :
    pairGain samples = samples.sym2.countP (fun pair => pair ∈ separatedPairs) := by
  induction samples with
  | nil => rfl
  | cons left rest ih =>
    have own : s(left, left) ∉ separatedPairs := fun apart => apart.1 rfl
    rw [pairGain, List.sym2, List.map_cons, List.countP_append, List.countP_cons_of_neg (by simpa using own),
      List.countP_map, ih]
    congr 1
    apply List.countP_congr
    intro right _
    simp only [Bool.and_eq_true, decide_eq_true_eq, Function.comp_apply]
    exact and_assoc

theorem pairGain_eq_card {samples : List ProbeSample} (distinct : samples.Nodup) :
    pairGain samples = (samples.toFinset.sym2.filter (· ∈ separatedPairs)).card := by
  have listed : samples.toFinset = ⟨samples, distinct⟩ := List.toFinset_eq distinct |>.symm
  rw [pairGain_eq_countP, listed, List.countP_eq_length_filter]
  rfl

section
variable {samples others : List ProbeSample} {protocol : ProbeEvaluationProtocol}

/-- The samples of a consequence class. -/
def inClass (classId : String) (samples : List ProbeSample) : List ProbeSample :=
  samples.filter (fun sample => sample.protectedConsequenceClassId = classId)

def classIds (samples : List ProbeSample) : List String :=
  sortedIds (samples.map ProbeSample.protectedConsequenceClassId).dedup

def holdoutCount (protocol : ProbeEvaluationProtocol) (count : Nat) : Nat :=
  max 1 ((count + protocol.holdoutDenominator - 1) / protocol.holdoutDenominator)

/-- Two samples or more leave one for training. -/
theorem holdoutCount_spec {count : Nat} (enough : 2 ≤ count) :
    holdoutCount protocol count = count ⌈/⌉ 4 ∧ 1 ≤ holdoutCount protocol count ∧ holdoutCount protocol count < count := by
  rw [holdoutCount, ProbeEvaluationProtocol.holdoutDenominator, Nat.ceilDiv_eq_add_pred_div]
  omega

variable [Fingerprints]

/-- A class in the order of fingerprints, in which it is split. -/
def sortedClass (samples : List ProbeSample) (classId : String) : List ProbeSample :=
  (inClass classId samples).insertionSort (fun left right => left.fingerprint < right.fingerprint ∨
    (left.fingerprint = right.fingerprint ∧ left.observationId ≤ right.observationId))

theorem length_sortedClass (samples : List ProbeSample) (classId : String) :
    (sortedClass samples classId).length = (inClass classId samples).length := List.length_insertionSort _ _

theorem sortedClass_perm (samples : List ProbeSample) (classId : String) :
    (sortedClass samples classId).Perm (inClass classId samples) := List.perm_insertionSort _ _

theorem sortedClass_class {classId : String} {sample : ProbeSample} (owned : sample ∈ sortedClass samples classId) :
    sample.protectedConsequenceClassId = classId := by
  have member := (sortedClass_perm samples classId).mem_iff.mp owned
  exact of_decide_eq_true (List.mem_filter.mp member).2

/-- Distinct observations are sorted alike from every order. -/
theorem sortedClass_eq_of_perm (same : others.Perm samples) (distinct : (samples.map ProbeSample.observationId).Nodup)
    (classId : String) : sortedClass others classId = sortedClass samples classId := by
  unfold sortedClass
  have total : Std.Total (fun left right : ProbeSample => left.fingerprint < right.fingerprint ∨
      (left.fingerprint = right.fingerprint ∧ left.observationId ≤ right.observationId)) :=
    lexicographic_total ProbeSample.fingerprint ProbeSample.observationId
  have transitive : IsTrans ProbeSample (fun left right => left.fingerprint < right.fingerprint ∨
      (left.fingerprint = right.fingerprint ∧ left.observationId ≤ right.observationId)) :=
    lexicographic_trans ProbeSample.fingerprint ProbeSample.observationId
  apply insertionSort_eq_of_perm _ (same.filter _)
  intro left leftOwned right rightOwned below above
  have observation : left.observationId = right.observationId := by
    rcases below with less | ⟨equal, order⟩
    · rcases above with more | ⟨equal, -⟩
      · exact absurd more (lt_asymm less)
      · exact absurd equal.symm (ne_of_lt less)
    · rcases above with more | ⟨-, orderAbove⟩
      · exact absurd equal.symm (ne_of_lt more)
      · exact le_antisymm order orderAbove
  exact List.inj_on_of_nodup_map distinct (List.mem_of_mem_filter leftOwned) (List.mem_of_mem_filter rightOwned)
    observation

omit [Fingerprints] in
theorem mem_classIds {classId : String} :
    classId ∈ classIds samples ↔ classId ∈ samples.map ProbeSample.protectedConsequenceClassId := by
  rw [classIds, mem_sortedIds, List.mem_dedup]

omit [Fingerprints] in
theorem classIds_nodup (samples : List ProbeSample) : (classIds samples).Nodup :=
  (sortedIds_perm _).nodup_iff.mpr (List.nodup_dedup _)

omit [Fingerprints] in
theorem classIds_eq_of_perm (same : others.Perm samples) : classIds others = classIds samples :=
  sortedIds_eq_of_perm (same.map _).dedup

/-- The part of a class for training, and the part that is held out. -/
def trainingPart (protocol : ProbeEvaluationProtocol) (samples : List ProbeSample) (classId : String) :
    List ProbeSample :=
  (sortedClass samples classId).take
    ((sortedClass samples classId).length - holdoutCount protocol (sortedClass samples classId).length)

def holdoutPart (protocol : ProbeEvaluationProtocol) (samples : List ProbeSample) (classId : String) :
    List ProbeSample :=
  (sortedClass samples classId).drop
    ((sortedClass samples classId).length - holdoutCount protocol (sortedClass samples classId).length)

/-- Every class has a sample to train with and one to hold out. -/
def ClassesSplit (samples : List ProbeSample) : Prop :=
  ∀ classId ∈ samples.map ProbeSample.protectedConsequenceClassId, 2 ≤ (inClass classId samples).length

/-- What the split does with one class. -/
def splitClass (protocol : ProbeEvaluationProtocol) (samples : List ProbeSample)
    (parts : List ProbeSample × List ProbeSample) (classId : String) :
    Except Failure (List ProbeSample × List ProbeSample) := do
  require (2 ≤ (sortedClass samples classId).length)
    (.validation "each consequence class requires training and holdout samples")
  require (holdoutCount protocol (sortedClass samples classId).length < (sortedClass samples classId).length)
    (.validation "holdout split must leave a training sample in each class")
  return (parts.1 ++ trainingPart protocol samples classId, parts.2 ++ holdoutPart protocol samples classId)

theorem stratifiedProbeSplit_eq : stratifiedProbeSplit samples protocol =
    (classIds samples).foldlM (splitClass protocol samples) ([], []) := rfl

theorem splitClass_eq_ok {parts result : List ProbeSample × List ProbeSample} {classId : String} :
    splitClass protocol samples parts classId = .ok result ↔ 2 ≤ (sortedClass samples classId).length ∧
      result = (parts.1 ++ trainingPart protocol samples classId, parts.2 ++ holdoutPart protocol samples classId) := by
  rw [splitClass, require_bind_eq_ok, require_bind_eq_ok]
  simp only [pure, Except.pure, Except.ok.injEq]
  constructor
  · exact fun ⟨size, _, same⟩ => ⟨size, same.symm⟩
  · exact fun ⟨size, same⟩ => ⟨size, (holdoutCount_spec size).2.2, same.symm⟩

theorem stratifiedProbeSplit_ok (enough : ClassesSplit samples) :
    stratifiedProbeSplit samples protocol = .ok ((classIds samples).flatMap (trainingPart protocol samples),
      (classIds samples).flatMap (holdoutPart protocol samples)) := by
  have folded : ∀ (keys : List String) (training holdout : List ProbeSample), keys ⊆ classIds samples →
      keys.foldlM (splitClass protocol samples) (training, holdout) =
      .ok (training ++ keys.flatMap (trainingPart protocol samples),
        holdout ++ keys.flatMap (holdoutPart protocol samples)) := by
    intro keys
    induction keys with
    | nil =>
      intro training holdout _
      simp [pure, Except.pure]
    | cons classId rest ih =>
      intro training holdout within
      obtain ⟨here, later⟩ := List.cons_subset.mp within
      have size : 2 ≤ (sortedClass samples classId).length := by
        rw [length_sortedClass]
        exact enough classId (mem_classIds.mp here)
      rw [List.foldlM_cons, bind_eq_ok]
      refine ⟨_, splitClass_eq_ok.mpr ⟨size, rfl⟩, ?_⟩
      rw [ih _ _ later]
      simp only [List.flatMap_cons, List.append_assoc]
  have whole := folded (classIds samples) [] [] (List.Subset.refl _)
  rw [List.nil_append, List.nil_append] at whole
  exact whole

/-- A class with fewer than two samples is refused. -/
theorem stratifiedProbeSplit_enough {parts : List ProbeSample × List ProbeSample}
    (split : stratifiedProbeSplit samples protocol = .ok parts) : ClassesSplit samples := by
  rw [stratifiedProbeSplit_eq] at split
  have folded : ∀ (keys : List String) (start : List ProbeSample × List ProbeSample),
      keys.foldlM (splitClass protocol samples) start = .ok parts → ∀ classId ∈ keys, 2 ≤ (sortedClass samples classId).length := by
    intro keys
    induction keys with
    | nil => simp
    | cons first rest ih =>
      intro start succeeds classId owned
      rw [List.foldlM_cons, bind_eq_ok] at succeeds
      obtain ⟨between, here, later⟩ := succeeds
      rcases List.mem_cons.mp owned with same | deeper
      · rw [same]
        exact (splitClass_eq_ok.mp here).1
      · exact ih between later classId deeper
  intro classId owned
  rw [← length_sortedClass]
  exact folded (classIds samples) ([], []) split classId (mem_classIds.mpr owned)

theorem parts_append (protocol : ProbeEvaluationProtocol) (samples : List ProbeSample) (classId : String) :
    trainingPart protocol samples classId ++ holdoutPart protocol samples classId = sortedClass samples classId :=
  List.take_append_drop _ _

/-- The two parts partition the samples. -/
theorem split_perm (protocol : ProbeEvaluationProtocol) (samples : List ProbeSample) :
    ((classIds samples).flatMap (trainingPart protocol samples) ++
      (classIds samples).flatMap (holdoutPart protocol samples)).Perm samples := by
  refine (List.flatMap_append_perm _ _ _).trans ?_
  simp only [parts_append]
  have classes : ((classIds samples).flatMap (sortedClass samples)).Perm
      ((classIds samples).flatMap (fun classId => inClass classId samples)) := by
    apply List.Perm.flatMap_left
    exact fun classId _ => sortedClass_perm samples classId
  refine classes.trans (flatMap_filter_perm (classIds_nodup samples) ?_)
  exact fun sample owned => mem_classIds.mpr (List.mem_map_of_mem owned)

omit [Fingerprints] in
/-- What a part has of one class is what it got from that class. -/
theorem inClass_flatMap {part : String → List ProbeSample} {keys : List String} (distinct : keys.Nodup)
    (stratified : ∀ classId ∈ keys, ∀ sample ∈ part classId, sample.protectedConsequenceClassId = classId)
    {classId : String} (owned : classId ∈ keys) : inClass classId (keys.flatMap part) = part classId := by
  induction keys with
  | nil => simp at owned
  | cons first rest ih =>
    obtain ⟨fresh, others⟩ := List.nodup_cons.mp distinct
    have later : ∀ other ∈ rest, ∀ sample ∈ part other, sample.protectedConsequenceClassId = other :=
      fun other member => stratified other (List.mem_cons_of_mem _ member)
    rw [List.flatMap_cons, inClass, List.filter_append]
    by_cases same : first = classId
    · have whole : (part first).filter (fun sample => sample.protectedConsequenceClassId = classId) = part first := by
        rw [List.filter_eq_self]
        intro sample member
        rw [decide_eq_true_eq, stratified first List.mem_cons_self sample member, same]
      have none : (rest.flatMap part).filter (fun sample => sample.protectedConsequenceClassId = classId) = [] := by
        rw [List.filter_eq_nil_iff]
        intro sample member
        obtain ⟨other, inRest, inPart⟩ := List.mem_flatMap.mp member
        rw [decide_eq_true_eq, later other inRest sample inPart]
        exact fun equal => fresh (by rw [same, ← equal]; exact inRest)
      rw [whole, none, List.append_nil, same]
    · have none : (part first).filter (fun sample => sample.protectedConsequenceClassId = classId) = [] := by
        rw [List.filter_eq_nil_iff]
        intro sample member
        rw [decide_eq_true_eq, stratified first List.mem_cons_self sample member]
        exact same
      rw [none, List.nil_append]
      exact ih others later ((List.mem_cons.mp owned).resolve_left (fun equal => same equal.symm))

theorem stratifiedProbeSplit_eq_of_perm (same : others.Perm samples)
    (distinct : (samples.map ProbeSample.observationId).Nodup) :
    stratifiedProbeSplit others protocol = stratifiedProbeSplit samples protocol := by
  have groups : sortedClass others = sortedClass samples := by
    funext classId
    exact sortedClass_eq_of_perm same distinct classId
  have step : splitClass protocol others = splitClass protocol samples := by
    funext parts classId
    unfold splitClass trainingPart holdoutPart
    rw [groups]
  rw [stratifiedProbeSplit_eq, stratifiedProbeSplit_eq, step, classIds_eq_of_perm same]

/-- The whole evaluation is the same for every order of the samples. -/
theorem buildProbeEvaluation_eq_of_perm (same : others.Perm samples)
    (distinct : (samples.map ProbeSample.observationId).Nodup) (evaluationId candidateProbeId : String)
    (redundancyCheck protectedBehaviorCheck : CheckReference) :
    buildProbeEvaluation evaluationId candidateProbeId others protocol redundancyCheck protectedBehaviorCheck =
      buildProbeEvaluation evaluationId candidateProbeId samples protocol redundancyCheck protectedBehaviorCheck := by
  have index : sortedIds (others.map ProbeSample.fingerprint) = sortedIds (samples.map ProbeSample.fingerprint) :=
    sortedIds_eq_of_perm (same.map _)
  have sorted : sortedSamples others = sortedSamples samples := insertionSort_eq_of_distinct same distinct
  unfold buildProbeEvaluation
  rw [stratifiedProbeSplit_eq_of_perm same distinct, index, sorted]

section
variable {training holdout : List ProbeSample}

theorem split_parts (split : stratifiedProbeSplit samples protocol = .ok (training, holdout)) :
    training = (classIds samples).flatMap (trainingPart protocol samples) ∧
      holdout = (classIds samples).flatMap (holdoutPart protocol samples) := by
  rw [stratifiedProbeSplit_ok (stratifiedProbeSplit_enough split)] at split
  simp only [Except.ok.injEq, Prod.mk.injEq] at split
  exact ⟨split.1.symm, split.2.symm⟩

theorem split_partition (split : stratifiedProbeSplit samples protocol = .ok (training, holdout)) :
    (training ++ holdout).Perm samples := by
  obtain ⟨trained, held⟩ := split_parts split
  rw [trained, held]
  exact split_perm protocol samples

/-- A class of `n` samples gives a quarter of them, rounded up, to the holdout and keeps one for training. -/
theorem split_counts (split : stratifiedProbeSplit samples protocol = .ok (training, holdout)) {classId : String}
    (owned : classId ∈ samples.map ProbeSample.protectedConsequenceClassId) :
    (inClass classId holdout).length = (inClass classId samples).length ⌈/⌉ 4 ∧
      1 ≤ (inClass classId holdout).length ∧ 1 ≤ (inClass classId training).length := by
  obtain ⟨trained, held⟩ := split_parts split
  have size : 2 ≤ (sortedClass samples classId).length := by
    rw [length_sortedClass]
    exact stratifiedProbeSplit_enough split classId owned
  have known := mem_classIds.mpr owned
  have trainingClass : inClass classId training = trainingPart protocol samples classId := by
    rw [trained]
    apply inClass_flatMap (classIds_nodup samples) _ known
    exact fun other _ sample inPart => sortedClass_class (List.mem_of_mem_take inPart)
  have holdoutClass : inClass classId holdout = holdoutPart protocol samples classId := by
    rw [held]
    apply inClass_flatMap (classIds_nodup samples) _ known
    exact fun other _ sample inPart => sortedClass_class (List.mem_of_mem_drop inPart)
  obtain ⟨quarter, some, fewer⟩ := @holdoutCount_spec protocol _ size
  rw [trainingClass, holdoutClass, trainingPart, holdoutPart, List.length_take, List.length_drop]
  rw [length_sortedClass] at *
  omega

/-- The evaluation of a split is built: it passes its validator. -/
theorem buildProbeEvaluation_ok (given : samples ≠ []) (distinct : (samples.map ProbeSample.observationId).Nodup)
    (split : stratifiedProbeSplit samples protocol = .ok (training, holdout)) (evaluationId candidateProbeId : String)
    (redundancyCheck protectedBehaviorCheck : CheckReference) :
    ∃ evaluation, buildProbeEvaluation evaluationId candidateProbeId samples protocol redundancyCheck
        protectedBehaviorCheck = .ok evaluation ∧
      evaluation.trainingObservationIds = sortedIds (training.map ProbeSample.observationId) ∧
      evaluation.holdoutObservationIds = sortedIds (holdout.map ProbeSample.observationId) ∧
      evaluation.trainingDiscriminationGain = pairGain training ∧
      evaluation.holdoutDiscriminationGain = pairGain holdout := by
  have ids := (split_partition split).map ProbeSample.observationId
  have apart := ids.nodup_iff.mpr distinct
  rw [List.map_append] at ids apart
  obtain ⟨trainingDistinct, holdoutDistinct, disjoint⟩ := List.nodup_append.mp apart
  obtain ⟨sample, rest, here⟩ := List.exists_cons_of_ne_nil given
  have owned : sample.protectedConsequenceClassId ∈ samples.map ProbeSample.protectedConsequenceClassId := by
    rw [here]
    exact List.mem_map_of_mem List.mem_cons_self
  obtain ⟨-, heldOne, trainedOne⟩ := split_counts split owned
  have nonempty : ∀ {part : List ProbeSample} {classId : String}, 1 ≤ (inClass classId part).length →
      sortedIds (part.map ProbeSample.observationId) ≠ [] := by
    intro part classId one none
    have empty : part = [] := by
      have lengths := (sortedIds_perm (part.map ProbeSample.observationId)).length_eq
      rw [none, List.length_nil, List.length_map] at lengths
      exact List.length_eq_zero_iff.mp lengths.symm
    rw [empty] at one
    exact absurd one (by simp [inClass])
  have sortedDistinct : ((sortedSamples samples).map ProbeSample.observationId).Nodup :=
    ((List.perm_insertionSort _ samples).map _).nodup_iff.mpr distinct
  have covers : sortedIds ((sortedSamples samples).map ProbeSample.observationId) =
      sortedIds (sortedIds (training.map ProbeSample.observationId) ++
        sortedIds (holdout.map ProbeSample.observationId)) := by
    apply sortedIds_eq_of_perm
    refine ((List.perm_insertionSort _ samples).map _).trans (ids.symm.trans ?_)
    exact (sortedIds_perm _).symm.append (sortedIds_perm _).symm
  have validated : ∀ evaluation : ProbeEvaluation,
      evaluation.samples = sortedSamples samples →
      evaluation.trainingObservationIds = sortedIds (training.map ProbeSample.observationId) →
      evaluation.holdoutObservationIds = sortedIds (holdout.map ProbeSample.observationId) →
      evaluation.validateProbeEvaluation = .ok evaluation := by
    intro evaluation ordered trained held
    simp only [ProbeEvaluation.validateProbeEvaluation, require_bind_eq_ok, ordered, trained, held]
    refine ⟨sortedIds_canonical trainingDistinct, sortedIds_canonical holdoutDistinct, ?_,
      ⟨nonempty trainedOne, nonempty heldOne⟩, ⟨sortedDistinct, covers⟩, rfl⟩
    intro observationId trainedId heldId
    exact disjoint observationId (mem_sortedIds.mp trainedId) observationId (mem_sortedIds.mp heldId) rfl
  rw [buildProbeEvaluation, split]
  exact ⟨_, validated _ rfl rfl rfl, rfl, rfl, rfl, rfl⟩

end

/-- The stratified evaluation is exact and free of order: the split fails just when a class is too small, it
partitions the samples class by class, and the evaluation that is built counts the separated pairs of each
part and is the same for every order of the samples. -/
theorem stratified_evaluation_exact (samples : List ProbeSample) (given : samples ≠ [])
    (distinct : (samples.map ProbeSample.observationId).Nodup) (protocol : ProbeEvaluationProtocol) :
    ((∃ failure, stratifiedProbeSplit samples protocol = .error failure) ↔
      ∃ classId ∈ samples.map ProbeSample.protectedConsequenceClassId, (inClass classId samples).length < 2) ∧
    (∀ training holdout, stratifiedProbeSplit samples protocol = .ok (training, holdout) →
      (training ++ holdout).Perm samples ∧
      (∀ classId ∈ samples.map ProbeSample.protectedConsequenceClassId,
        (inClass classId holdout).length = (inClass classId samples).length ⌈/⌉ 4 ∧
          1 ≤ (inClass classId training).length) ∧
      ∀ evaluationId candidateProbeId redundancyCheck protectedBehaviorCheck, ∃ evaluation,
        buildProbeEvaluation evaluationId candidateProbeId samples protocol redundancyCheck protectedBehaviorCheck =
          .ok evaluation ∧
        evaluation.trainingObservationIds = sortedIds (training.map ProbeSample.observationId) ∧
        evaluation.holdoutObservationIds = sortedIds (holdout.map ProbeSample.observationId) ∧
        evaluation.trainingDiscriminationGain = (training.toFinset.sym2.filter (· ∈ separatedPairs)).card ∧
        evaluation.holdoutDiscriminationGain = (holdout.toFinset.sym2.filter (· ∈ separatedPairs)).card) ∧
    ∀ others, others.Perm samples → ∀ evaluationId candidateProbeId redundancyCheck protectedBehaviorCheck,
      buildProbeEvaluation evaluationId candidateProbeId others protocol redundancyCheck protectedBehaviorCheck =
        buildProbeEvaluation evaluationId candidateProbeId samples protocol redundancyCheck
          protectedBehaviorCheck := by
  refine ⟨?_, ?_, ?_⟩
  · constructor
    · intro ⟨failure, failed⟩
      by_contra none
      push Not at none
      rw [stratifiedProbeSplit_ok (fun classId owned => none classId owned)] at failed
      simp at failed
    · intro ⟨classId, owned, few⟩
      cases split : stratifiedProbeSplit samples protocol with
      | error failure => exact ⟨failure, rfl⟩
      | ok parts =>
        have enough := stratifiedProbeSplit_enough split classId owned
        omega
  · intro training holdout split
    have partition := split_partition split
    refine ⟨partition, fun classId owned => ⟨(split_counts split owned).1, (split_counts split owned).2.2⟩, ?_⟩
    intro evaluationId candidateProbeId redundancyCheck protectedBehaviorCheck
    obtain ⟨evaluation, built, trained, held, trainingGain, holdoutGain⟩ :=
      buildProbeEvaluation_ok given distinct split evaluationId candidateProbeId redundancyCheck protectedBehaviorCheck
    have apart := partition.nodup_iff.mpr distinct.of_map
    obtain ⟨trainingDistinct, holdoutDistinct, -⟩ := List.nodup_append.mp apart
    refine ⟨evaluation, built, trained, held, ?_, ?_⟩
    · rw [trainingGain, pairGain_eq_card trainingDistinct]
    · rw [holdoutGain, pairGain_eq_card holdoutDistinct]
  · intro others same evaluationId candidateProbeId redundancyCheck protectedBehaviorCheck
    exact buildProbeEvaluation_eq_of_perm same distinct evaluationId candidateProbeId redundancyCheck
      protectedBehaviorCheck

end

namespace Worked

/-- Two consequence classes of two samples each, which the existing basis does not tell apart. -/
def stratum : List ProbeSample :=
  [⟨"observation:0", "off", "same", "zero"⟩, ⟨"observation:1", "off", "same", "zero"⟩,
    ⟨"observation:2", "on", "same", "one"⟩, ⟨"observation:3", "on", "same", "one"⟩]

theorem stratum_evaluated : ∃ training holdout,
    stratifiedProbeSplit stratum .finiteStratifiedHoldoutV1 = .ok (training, holdout) ∧
      (training ++ holdout).Perm stratum ∧
      ∀ others, others.Perm stratum →
        buildProbeEvaluation "evaluation" "candidate" others .finiteStratifiedHoldoutV1 ⟨"evidence", "verdict"⟩
            ⟨"evidence", "verdict"⟩ =
          buildProbeEvaluation "evaluation" "candidate" stratum .finiteStratifiedHoldoutV1 ⟨"evidence", "verdict"⟩
            ⟨"evidence", "verdict"⟩ := by
  have evaluated := stratified_evaluation_exact stratum (by decide) (by decide) .finiteStratifiedHoldoutV1
  have enough : ClassesSplit stratum := by
    unfold ClassesSplit
    decide
  have split := @stratifiedProbeSplit_ok stratum .finiteStratifiedHoldoutV1 _ enough
  refine ⟨_, _, split, (evaluated.2.1 _ _ split).1, ?_⟩
  exact fun others same => evaluated.2.2 others same "evaluation" "candidate" _ _

end Worked

end RatchetingInquiry
