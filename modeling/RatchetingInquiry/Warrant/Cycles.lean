import RatchetingInquiry.Library.Acyclic
import RatchetingInquiry.Library.ComponentsExact
import RatchetingInquiry.Core.Run
import Mathlib.Data.List.Dedup

/-! Cycles of support. The gates accept the support graph and the version ancestry just when they have no
cycle, in whatever order their nodes are visited; the report lists the recursive components among the lemmas
that are not grounded. -/

namespace RatchetingInquiry

/-- One lemma requires a known lemma over one of its minimal or historical routes. -/
def RequiresKnown (lemmas : List WarrantedLemma) (lemmaId dependency : String) : Prop :=
  (∃ warranted ∈ lemmas, warranted.id = lemmaId ∧
    ∃ route ∈ warranted.support.allSupportRoutes, dependency ∈ route.requiredDependencyIds) ∧
  dependency ∈ lemmas.map WarrantedLemma.id

/-- One version is recorded as a predecessor of another. -/
def Precedes (predecessors : List (String × List String)) (versionId predecessor : String) : Prop :=
  ∃ entry ∈ predecessors, entry.1 = versionId ∧ predecessor ∈ entry.2

theorem supportSuccessors_known (lemmas : List WarrantedLemma) (node : String) :
    (supportSuccessors lemmas node).isSome ↔ node ∈ lemmas.map WarrantedLemma.id := by
  rw [supportSuccessors, Option.isSome_map, indexBy_isSome_iff]

theorem leads_supportSuccessors {lemmas : List WarrantedLemma} (unique : (lemmas.map WarrantedLemma.id).Nodup) :
    Leads (supportSuccessors lemmas) = RequiresKnown lemmas := by
  funext node dependency
  apply propext
  unfold Leads supportSuccessors RequiresKnown
  constructor
  · intro ⟨listed, given, owned⟩
    obtain ⟨warranted, hit, same⟩ := Option.map_eq_some_iff.mp given
    obtain ⟨member, named⟩ := indexBy_some hit
    rw [← same, List.mem_filter, List.mem_flatMap] at owned
    exact ⟨⟨warranted, member, named, owned.1⟩, of_decide_eq_true owned.2⟩
  · intro ⟨⟨warranted, member, named, required⟩, knownDependency⟩
    have hit : indexBy WarrantedLemma.id lemmas node = some warranted := by
      rw [← named]
      exact indexBy_of_mem unique member
    rw [hit]
    refine ⟨_, rfl, ?_⟩
    rw [List.mem_filter, List.mem_flatMap]
    exact ⟨required, decide_eq_true knownDependency⟩

theorem ancestry_known (predecessors : List (String × List String)) (node : String) :
    ((indexBy Prod.fst predecessors node).map Prod.snd).isSome ↔ node ∈ predecessors.map Prod.fst := by
  rw [Option.isSome_map, indexBy_isSome_iff]

theorem leads_ancestry {predecessors : List (String × List String)} (keyed : (predecessors.map Prod.fst).Nodup) :
    Leads (fun versionId => (indexBy Prod.fst predecessors versionId).map Prod.snd) = Precedes predecessors := by
  funext versionId predecessor
  apply propext
  unfold Leads Precedes
  constructor
  · intro ⟨listed, given, owned⟩
    obtain ⟨entry, hit, same⟩ := Option.map_eq_some_iff.mp given
    obtain ⟨member, named⟩ := indexBy_some hit
    exact ⟨entry, member, named, same ▸ owned⟩
  · intro ⟨entry, member, named, owned⟩
    have hit : indexBy Prod.fst predecessors versionId = some entry := by
      rw [← named]
      exact indexBy_of_mem keyed member
    exact ⟨entry.2, congrArg (Option.map Prod.snd) hit, owned⟩

/-- The support gate is exact: no lemma requires itself through known lemmas. -/
theorem supportGraphIsAcyclic_iff {lemmas : List WarrantedLemma}
    (unique : (lemmas.map WarrantedLemma.id).Nodup) :
    supportGraphIsAcyclic lemmas = true ↔ ∀ lemmaId, ¬ Relation.TransGen (RequiresKnown lemmas) lemmaId lemmaId := by
  rw [supportGraphIsAcyclic, searchAcyclic_iff (supportSuccessors_known lemmas), leads_supportSuccessors unique]
  exact and_iff_right (fun _ _ edge => edge.2)

/-- The ancestry gate is exact: every predecessor is a version of the map, and no version precedes itself. -/
theorem ancestryIsAcyclic_iff {predecessors : List (String × List String)}
    (keyed : (predecessors.map Prod.fst).Nodup) :
    ancestryIsAcyclic predecessors = true ↔
      (∀ entry ∈ predecessors, entry.2 ⊆ predecessors.map Prod.fst) ∧
        ∀ versionId, ¬ Relation.TransGen (Precedes predecessors) versionId versionId := by
  rw [ancestryIsAcyclic, searchAcyclic_iff (ancestry_known predecessors), leads_ancestry keyed]
  apply and_congr_left'
  constructor
  · exact fun owned entry member predecessor listed => owned entry.1 predecessor ⟨entry, member, rfl, listed⟩
  · intro owned versionId predecessor edge
    obtain ⟨entry, member, -, listed⟩ := edge
    exact owned entry member listed

/-- Both gates are exact over every list of lemmas and every predecessor map, and both searches end with the
same answer in whatever order the sets and maps are iterated. -/
theorem acyclicity_gates_exact (lemmas : List WarrantedLemma) (unique : (lemmas.map WarrantedLemma.id).Nodup)
    (predecessors : List (String × List String)) (keyed : (predecessors.map Prod.fst).Nodup) :
    (supportGraphIsAcyclic lemmas = true ↔
      ∀ lemmaId, ¬ Relation.TransGen (RequiresKnown lemmas) lemmaId lemmaId) ∧
    (ancestryIsAcyclic predecessors = true ↔
      (∀ entry ∈ predecessors, entry.2 ⊆ predecessors.map Prod.fst) ∧
        ∀ versionId, ¬ Relation.TransGen (Precedes predecessors) versionId versionId) ∧
    (∀ nodes order, SameGraph (lemmas.map WarrantedLemma.id) (supportSuccessors lemmas) nodes order →
      ∃ outcome, (∀ other, Explores order [] [] nodes other ↔ other = outcome) ∧
        outcome.isSome = supportGraphIsAcyclic lemmas) ∧
    (∀ nodes order, SameGraph (predecessors.map Prod.fst)
        (fun versionId => (indexBy Prod.fst predecessors versionId).map Prod.snd) nodes order →
      ∃ outcome, (∀ other, Explores order [] [] nodes other ↔ other = outcome) ∧
        outcome.isSome = ancestryIsAcyclic predecessors) := by
  refine ⟨supportGraphIsAcyclic_iff unique, ancestryIsAcyclic_iff keyed, ?_, ?_⟩
  · exact fun nodes order same => explores_order_free (supportSuccessors_known lemmas) same
  · exact fun nodes order same => explores_order_free (ancestry_known predecessors) same

namespace Worked

/-- A lemma with one route that needs another lemma, which is still open. -/
def leaningOn (lemmaId dependency : String) : WarrantedLemma where
  version :=
    { id := lemmaId, relationId := "relation", propositionKind := .existential, scope := scope,
      applicability := { conditionId := "always" }, sourceClaimIds := [] }
  support :=
    { lemmaVersionId := lemmaId
      policyVersion := "policy"
      supportRoutes := [{
        id := "route"
        conclusionId := lemmaId
        environment := ⟨"environment", "scope", "binding", [], none, ⟨"evidence", "verdict"⟩, by decide⟩
        requiredDependencyIds := [dependency]
        openDependencyIds := [dependency]
        certificateCheck := ⟨"evidence", "verdict"⟩
        required_canonical := by simp
        open_canonical := by simp
        open_required := by simp }]
      warrantClass := .hard
      certificateRefs := []
      provenanceRefs := [] }

/-- Two lemmas that lean on each other, and one on the pair. -/
def knot : List WarrantedLemma :=
  [leaningOn "lemma-a" "lemma-b", leaningOn "lemma-b" "lemma-a", leaningOn "lemma-c" "lemma-a"]

theorem knot_gates : supportGraphIsAcyclic knot = false ∧
    ancestryIsAcyclic [("version-b", ["version-a"]), ("version-a", [])] = true ∧
    (supportGraphIsAcyclic knot = true ↔ ∀ lemmaId, ¬ Relation.TransGen (RequiresKnown knot) lemmaId lemmaId) :=
  ⟨by decide +kernel, by decide +kernel,
    (acyclicity_gates_exact knot (by decide) [("version-b", ["version-a"]), ("version-a", [])] (by decide)).1⟩

end Worked

section
variable [Fingerprints]

/-- The known lemmas that are not grounded. -/
def unresolvedLemmaIds (lemmas : List WarrantedLemma) (currentAssumptionIds currentContextIds : List String)
    (nogoods : List Nogood) (records : CheckRecords) : List String :=
  (lemmas.map WarrantedLemma.id).dedup.filter (fun lemmaId =>
    lemmaId ∉ groundedLemmaIds lemmas currentAssumptionIds currentContextIds nogoods records)

/-- The open dependencies of an unresolved lemma, over its minimal routes, that are themselves unresolved. -/
def openSuccessors (lemmas : List WarrantedLemma) (unresolved : List String) (lemmaId : String) : List String :=
  if lemmaId ∈ unresolved then
    match indexBy WarrantedLemma.id lemmas lemmaId with
    | none => []
    | some warranted =>
      (((warranted.support.supportRoutes.flatMap SupportRoute.openDependencyIds).filter
        (fun dependency => dependency ∈ unresolved)).dedup).insertionSort (· ≤ ·)
  else []

/-- Report recursive components that have no independently grounded route. -/
def ungroundedSupportCycles (lemmas : List WarrantedLemma) (currentAssumptionIds currentContextIds : List String)
    (nogoods : List Nogood) (records : CheckRecords) : Option (List (List String)) :=
  let unresolved := unresolvedLemmaIds lemmas currentAssumptionIds currentContextIds nogoods records
  recursiveComponents (openSuccessors lemmas unresolved) unresolved

/-- One lemma has another as an open dependency over a minimal route, and neither is grounded. -/
def DependsOpenly (lemmas : List WarrantedLemma) (grounded : List String) (lemmaId dependency : String) : Prop :=
  (∃ warranted ∈ lemmas, warranted.id = lemmaId ∧
    ∃ route ∈ warranted.support.supportRoutes, dependency ∈ route.openDependencyIds) ∧
  lemmaId ∉ grounded ∧ dependency ∈ lemmas.map WarrantedLemma.id ∧ dependency ∉ grounded

section
variable {lemmas : List WarrantedLemma} {currentAssumptionIds currentContextIds : List String}
variable {nogoods : List Nogood} {records : CheckRecords}

theorem mem_unresolvedLemmaIds {lemmaId : String} :
    lemmaId ∈ unresolvedLemmaIds lemmas currentAssumptionIds currentContextIds nogoods records ↔
      lemmaId ∈ lemmas.map WarrantedLemma.id ∧
        lemmaId ∉ groundedLemmaIds lemmas currentAssumptionIds currentContextIds nogoods records := by
  rw [unresolvedLemmaIds, List.mem_filter, List.mem_dedup, decide_eq_true_eq]

theorem mem_openSuccessors {lemmaId dependency : String} (unique : (lemmas.map WarrantedLemma.id).Nodup) :
    dependency ∈ openSuccessors lemmas
        (unresolvedLemmaIds lemmas currentAssumptionIds currentContextIds nogoods records) lemmaId ↔
      DependsOpenly lemmas (groundedLemmaIds lemmas currentAssumptionIds currentContextIds nogoods records)
        lemmaId dependency := by
  unfold openSuccessors DependsOpenly
  constructor
  · intro owned
    split at owned
    next unresolved =>
      split at owned
      next => simp at owned
      next warranted hit =>
        obtain ⟨member, named⟩ := indexBy_some hit
        rw [List.mem_insertionSort, List.mem_dedup, List.mem_filter, List.mem_flatMap, decide_eq_true_eq,
          mem_unresolvedLemmaIds] at owned
        obtain ⟨routed, known, ungrounded⟩ := owned
        exact ⟨⟨warranted, member, named, routed⟩, (mem_unresolvedLemmaIds.mp unresolved).2, known, ungrounded⟩
    next => simp at owned
  · intro depends
    obtain ⟨⟨warranted, member, named, routed⟩, ungrounded, known, open'⟩ := depends
    have hit : indexBy WarrantedLemma.id lemmas lemmaId = some warranted := by
      rw [← named]
      exact indexBy_of_mem unique member
    have unresolved : lemmaId ∈
        unresolvedLemmaIds lemmas currentAssumptionIds currentContextIds nogoods records :=
      mem_unresolvedLemmaIds.mpr ⟨named ▸ List.mem_map_of_mem member, ungrounded⟩
    rw [if_pos unresolved, hit]
    dsimp only
    rw [List.mem_insertionSort, List.mem_dedup, List.mem_filter, List.mem_flatMap, decide_eq_true_eq]
    exact ⟨routed, mem_unresolvedLemmaIds.mpr ⟨known, open'⟩⟩

end

/-- The report ends, and lists in order and once each strongly connected component of the open dependencies
among the lemmas that are not grounded, when it has several lemmas or a lemma that depends on itself. -/
theorem ungroundedSupportCycles_exact (lemmas : List WarrantedLemma)
    (unique : (lemmas.map WarrantedLemma.id).Nodup) (currentAssumptionIds currentContextIds : List String)
    (nogoods : List Nogood) (records : CheckRecords) :
    ∃ cycles, ungroundedSupportCycles lemmas currentAssumptionIds currentContextIds nogoods records = some cycles ∧
      cycles.Pairwise (· < ·) ∧
      ∀ cycle, cycle ∈ cycles ↔ IsRecursiveComponent
        (DependsOpenly lemmas (groundedLemmaIds lemmas currentAssumptionIds currentContextIds nogoods records)) cycle := by
  have edges : Follows (openSuccessors lemmas
      (unresolvedLemmaIds lemmas currentAssumptionIds currentContextIds nogoods records)) =
      DependsOpenly lemmas (groundedLemmaIds lemmas currentAssumptionIds currentContextIds nogoods records) := by
    funext lemmaId dependency
    exact propext (mem_openSuccessors unique)
  rw [← edges]
  apply recursiveComponents_exact
  intro lemmaId dependency follows
  obtain ⟨⟨warranted, member, named, -⟩, ungrounded, known, open'⟩ := (mem_openSuccessors unique).mp follows
  exact ⟨mem_unresolvedLemmaIds.mpr ⟨named ▸ List.mem_map_of_mem member, ungrounded⟩,
    mem_unresolvedLemmaIds.mpr ⟨known, open'⟩⟩

end

namespace Worked

/-- The pair is reported, the lemma that leans on it is not. -/
theorem knot_reported : ∃ cycles,
    ungroundedSupportCycles knot [] [] [] ⟨[], [], []⟩ = some cycles ∧ cycles.Pairwise (· < ·) ∧
      ∀ cycle, cycle ∈ cycles ↔
        IsRecursiveComponent (DependsOpenly knot (groundedLemmaIds knot [] [] [] ⟨[], [], []⟩)) cycle :=
  ungroundedSupportCycles_exact knot (by decide) [] [] [] ⟨[], [], []⟩

example : ungroundedSupportCycles knot [] [] [] ⟨[], [], []⟩ = some [["lemma-a", "lemma-b"]] := by decide +kernel

end Worked

end RatchetingInquiry
