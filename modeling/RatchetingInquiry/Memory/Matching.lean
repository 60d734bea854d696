import Mathlib.Data.Prod.Lex
import RatchetingInquiry.Core.Run
import RatchetingInquiry.Library.Canonical

/-! Structural retrieval as a specification: which packages match a query, how they are ranked, and that the hits
are the first of them. Selectors are conjunctive for a single owned reference, whereas the rank counts matches of
the whole package. -/

namespace RatchetingInquiry

/-- The reference satisfies every reference selector of the query that is given, and the types that the policy
accepts. -/
def OwnedMemoryRef.Satisfies (reference : OwnedMemoryRef) (query : RetrievalQuery) (policy : StructuralRetrievalPolicy) :
    Prop :=
  (policy.acceptedRecordTypes ≠ [] → reference.recordType ∈ policy.acceptedRecordTypes) ∧
    (query.owners ≠ [] → reference.owner ∈ query.owners) ∧
    (query.recordTypes ≠ [] → reference.recordType ∈ query.recordTypes) ∧
    (query.referenceSelectors ≠ [] → reference ∈ query.referenceSelectors)

/-- How many references, types, owners, cues and tags of the query the package has. -/
def RetentionPackage.rankFor (package : RetentionPackage) (query : RetrievalQuery) : RetrievalRank where
  referenceMatchCount := sharedCount (package.ownedRefs.map OwnedMemoryRef.key)
    (query.referenceSelectors.map OwnedMemoryRef.key)
  recordTypeMatchCount := sharedCount (package.ownedRefs.map (·.recordType)) query.recordTypes
  ownerMatchCount := sharedCount (package.ownedRefs.map (·.owner)) query.owners
  cueMatchCount := (sharedIds package.cueIds query.cueIds).length
  tagMatchCount := (sharedIds package.tagIds query.tagIds).length

/-- The package is pinned like the query, some reference satisfies the reference selectors, a queried cue and a
queried tag are shared, and some component of the policy's rank is not zero. -/
structure RetentionPackage.Matches (package : RetentionPackage) (query : RetrievalQuery)
    (policy : StructuralRetrievalPolicy) : Prop where
  scope : package.scopeFingerprint = query.scopeFingerprint
  binding : package.bindingRevision = query.bindingRevision
  horizon : package.protectedHorizonId = query.protectedHorizonId
  reference : query.owners ≠ [] ∨ query.recordTypes ≠ [] ∨ query.referenceSelectors ≠ [] →
    ∃ reference ∈ package.ownedRefs, reference.Satisfies query policy
  cue : query.cueIds ≠ [] → ∃ cue ∈ package.cueIds, cue ∈ query.cueIds
  tag : query.tagIds ≠ [] → ∃ tag ∈ package.tagIds, tag ∈ query.tagIds
  ranked : ∃ component ∈ policy.rankComponents, (package.rankFor query).component component ≠ 0

/-- The components of the policy's rank, in its order. -/
def RetentionPackage.rankVector (package : RetentionPackage) (query : RetrievalQuery)
    (policy : StructuralRetrievalPolicy) : List Nat :=
  policy.rankComponents.map (package.rankFor query).component

/-- A higher rank comes first, and the lower identity among equal ranks. -/
def RankedAbove (query : RetrievalQuery) (policy : StructuralRetrievalPolicy) (left right : RetentionPackage) : Prop :=
  right.rankVector query policy < left.rankVector query policy ∨
    (left.rankVector query policy = right.rankVector query policy ∧ left.id < right.id)

theorem sharedIds_ne_nil_iff {left right : List String} : sharedIds left right ≠ [] ↔ ∃ value ∈ left, value ∈ right := by
  unfold sharedIds sortedIds
  constructor
  · intro shared
    obtain ⟨value, member⟩ := List.exists_mem_of_ne_nil _ shared
    rw [List.mem_insertionSort, List.mem_filter, List.mem_dedup, decide_eq_true_eq] at member
    exact ⟨value, member⟩
  · intro ⟨value, inLeft, inRight⟩
    refine List.ne_nil_of_mem (a := value) ?_
    rw [List.mem_insertionSort, List.mem_filter, List.mem_dedup, decide_eq_true_eq]
    exact ⟨inLeft, inRight⟩

section
variable {query : RetrievalQuery} {policy : StructuralRetrievalPolicy} {package : RetentionPackage}
  (told : ToldApart OwnedMemoryRef.key query.referenceSelectors)
include told

/-- A selector is found under its key. -/
theorem selector_indexed_iff {reference : OwnedMemoryRef} :
    indexBy OwnedMemoryRef.key query.referenceSelectors reference.key = some reference ↔
      reference ∈ query.referenceSelectors := by
  constructor
  · intro indexed
    exact (indexBy_some indexed).1
  · intro member
    have present : (indexBy OwnedMemoryRef.key query.referenceSelectors reference.key).isSome :=
      indexBy_isSome_iff.mpr (List.mem_map_of_mem member)
    obtain ⟨other, indexed⟩ := Option.isSome_iff_exists.mp present
    obtain ⟨otherMember, sameKey⟩ := indexBy_some indexed
    rw [indexed, told other otherMember reference member sameKey]

theorem mem_matchingReferences {reference : OwnedMemoryRef} :
    reference ∈ matchingReferences package query policy ↔
      reference ∈ package.ownedRefs ∧ reference.Satisfies query policy := by
  unfold matchingReferences OwnedMemoryRef.Satisfies
  rw [List.mem_filter]
  simp only [Bool.and_eq_true, Bool.or_eq_true, decide_eq_true_eq, selector_indexed_iff told, ne_eq, ← or_iff_not_imp_left]
  tauto

theorem matchingReferences_ne_nil_iff : matchingReferences package query policy ≠ [] ↔
    ∃ reference ∈ package.ownedRefs, reference.Satisfies query policy := by
  constructor
  · intro found
    obtain ⟨reference, member⟩ := List.exists_mem_of_ne_nil _ found
    exact ⟨reference, (mem_matchingReferences told).mp member⟩
  · intro ⟨reference, member⟩
    exact List.ne_nil_of_mem ((mem_matchingReferences told).mpr member)

end

section
variable [Fingerprints] {query : RetrievalQuery} {policy : StructuralRetrievalPolicy} {package : RetentionPackage}
  {packages : List RetentionPackage} {owned : List (OwnedRecordKey × String)}

/-- The hit of a package that matches. -/
def RetentionPackage.hitFor (package : RetentionPackage) (query : RetrievalQuery) (policy : StructuralRetrievalPolicy) :
    RetrievalHit where
  packageId := package.id
  packageContentFingerprint := package.fingerprint
  rank := package.rankFor query
  matchedRefKeys := ((matchingReferences package query policy).map OwnedMemoryRef.key).insertionSort
    (fun left right => left.text ≤ right.text)
  matchedCueIds := sharedIds package.cueIds query.cueIds
  matchedTagIds := sharedIds package.tagIds query.tagIds

theorem packageHit_eq_some (told : ToldApart OwnedMemoryRef.key query.referenceSelectors) {hit : RetrievalHit} :
    packageHit query policy package = some hit ↔
      package.Matches query policy ∧ hit = package.hitFor query policy := by
  have references := @matchingReferences_ne_nil_iff query policy package told
  have cues := @sharedIds_ne_nil_iff package.cueIds query.cueIds
  have tags := @sharedIds_ne_nil_iff package.tagIds query.tagIds
  have counted : (¬ policy.rankComponents.any (fun component => (package.rankFor query).component component ≠ 0)) ↔
      ¬ ∃ component ∈ policy.rankComponents, (package.rankFor query).component component ≠ 0 := by
    rw [List.any_eq_true]
    simp
  unfold packageHit rankPackage
  by_cases pinned : packagePinned query package = true
  · rw [if_pos pinned]
    unfold packagePinned at pinned
    simp only [Bool.and_eq_true, decide_eq_true_eq] at pinned
    obtain ⟨⟨scope, binding⟩, horizon⟩ := pinned
    dsimp only
    split
    next unmatched =>
      simp only [Option.map_none, reduceCtorEq, false_iff]
      intro ⟨satisfied, _⟩
      exact (references.mpr (satisfied.reference unmatched.1)) unmatched.2
    next matched =>
      split
      next unmatched =>
        simp only [Option.map_none, reduceCtorEq, false_iff]
        intro ⟨satisfied, _⟩
        exact (cues.mpr (satisfied.cue unmatched.1)) unmatched.2
      next cued =>
        split
        next unmatched =>
          simp only [Option.map_none, reduceCtorEq, false_iff]
          intro ⟨satisfied, _⟩
          exact (tags.mpr (satisfied.tag unmatched.1)) unmatched.2
        next tagged =>
          split
          next unranked =>
            simp only [Option.map_none, reduceCtorEq, false_iff]
            intro ⟨satisfied, _⟩
            exact counted.mp unranked satisfied.ranked
          next ranked =>
            rw [not_not] at ranked
            have given : package.Matches query policy := {
              scope := scope
              binding := binding
              horizon := horizon
              reference := fun selected => references.mp fun none => matched ⟨selected, none⟩
              cue := fun queried => cues.mp fun none => cued ⟨queried, none⟩
              tag := fun queried => tags.mp fun none => tagged ⟨queried, none⟩
              ranked := by
                by_contra unranked
                exact counted.mpr unranked ranked }
            simp only [Option.map_some, Option.some.injEq, given, true_and]
            exact eq_comm
  · rw [if_neg pinned]
    simp only [reduceCtorEq, false_iff]
    intro ⟨satisfied, _⟩
    apply pinned
    unfold packagePinned
    rw [satisfied.scope, satisfied.binding, satisfied.horizon]
    simp

/-- What the collection of packages raises for a reused identity. -/
def packageConflict (package : RetentionPackage) : Failure :=
  .validation ("retention package identity '" ++ package.id ++ "' has conflicting contents")

omit [Fingerprints] in
theorem deduplicatePackages_eq (packages : List RetentionPackage) :
    deduplicatePackages packages = canonicalList RetentionPackage.id packageConflict packages := by
  unfold deduplicatePackages canonicalList
  congr 2
  funext seen package
  unfold collect
  cases seen.find? (fun prior => prior.id = package.id) <;> rfl

omit [Fingerprints] in
/-- Current selectors are told apart by their keys, because the owned mapping has one fingerprint for a key. -/
theorem toldApart_of_current {selectors : List OwnedMemoryRef}
    (current : ∀ selector ∈ selectors,
      (indexBy Prod.fst owned selector.key).map Prod.snd = some selector.contentFingerprint) :
    ToldApart OwnedMemoryRef.key selectors := by
  intro first firstMember second secondMember same
  have sameContent : some first.contentFingerprint = some second.contentFingerprint := by
    rw [← current first firstMember, ← current second secondMember, same]
  cases first
  cases second
  simp only [OwnedMemoryRef.key, Prod.mk.injEq] at same
  obtain ⟨rfl, rfl, rfl, rfl⟩ := same
  simp only [Option.some.injEq] at sameContent
  subst sameContent
  rfl

/-- Descending rank and then ascending identity, as one key. -/
def RetentionPackage.place (package : RetentionPackage) (query : RetrievalQuery) (policy : StructuralRetrievalPolicy) :
    (List Nat)ᵒᵈ ×ₗ String :=
  toLex (OrderDual.toDual (package.rankVector query policy), package.id)

omit [Fingerprints] in
theorem place_lt_iff {left right : RetentionPackage} :
    left.place query policy < right.place query policy ↔ RankedAbove query policy left right := by
  unfold RetentionPackage.place RankedAbove
  rw [Prod.Lex.toLex_lt_toLex, OrderDual.toDual_lt_toDual, OrderDual.toDual_inj]

theorem before_iff {left right : RetentionPackage} :
    (left.hitFor query policy).before policy (right.hitFor query policy) ↔ RankedAbove query policy left right :=
  Iff.rfl

/-- Sorting the hits sorts the packages by their place. -/
theorem sorted_hits (matched : List RetentionPackage) :
    (matched.map (fun package => package.hitFor query policy)).insertionSort
        (fun left right => ¬ right.before policy left) =
      (matched.insertionSort (fun left right => left.place query policy ≤ right.place query policy)).map
        (fun package => package.hitFor query policy) := by
  symm
  apply List.map_insertionSort
  intro left _ right _
  rw [before_iff, ← place_lt_iff, not_lt]

/-- Some owned reference of the package is missing from the owned records, or was changed. -/
def RetentionPackage.Stale (package : RetentionPackage) (owned : List (OwnedRecordKey × String)) : Prop :=
  ∃ reference ∈ package.ownedRefs,
    (indexBy Prod.fst owned reference.key).map Prod.snd ≠ some reference.contentFingerprint

omit [Fingerprints] in
theorem hasStaleReference_iff : hasStaleReference package owned = true ↔ package.Stale owned := by
  unfold hasStaleReference RetentionPackage.Stale
  simp

section
variable {deduplicated : List RetentionPackage} (told : ToldApart OwnedMemoryRef.key query.referenceSelectors)
  (ascending : deduplicated.Pairwise (fun left right => left.id < right.id))
include told ascending

omit ascending in
theorem matched_iff : (packageHit query policy package).isSome = true ↔ package.Matches query policy := by
  rw [Option.isSome_iff_exists]
  simp only [packageHit_eq_some told]
  simp

/-- The hits of the current packages, sorted, are the hits of one ranking of the current packages that match. -/
theorem exists_ranking : ∃ ranked : List RetentionPackage,
    (∀ package, package ∈ ranked ↔
      package ∈ deduplicated ∧ package.Matches query policy ∧ ¬ package.Stale owned) ∧
    ranked.Pairwise (RankedAbove query policy) ∧
    (((deduplicated.filter (fun package => (packageHit query policy package).isSome)).filter
          (fun package => ¬ hasStaleReference package owned)).filterMap (packageHit query policy)).insertionSort
        (fun left right => ¬ right.before policy left) =
      ranked.map (fun package => package.hitFor query policy) := by
  have current : ∀ package, package ∈ (deduplicated.filter (fun package => (packageHit query policy package).isSome)).filter
      (fun package => ¬ hasStaleReference package owned) ↔
      package ∈ deduplicated ∧ package.Matches query policy ∧ ¬ package.Stale owned := by
    intro package
    rw [List.mem_filter, List.mem_filter, matched_iff told, decide_eq_true_eq, hasStaleReference_iff, and_assoc]
  have separate : ((deduplicated.filter (fun package => (packageHit query policy package).isSome)).filter
      (fun package => ¬ hasStaleReference package owned)).Pairwise (fun left right => left.id < right.id) :=
    (ascending.filter _).filter _
  revert current separate
  generalize (deduplicated.filter (fun package => (packageHit query policy package).isSome)).filter
    (fun package => ¬ hasStaleReference package owned) = matched
  intro current separate
  have places : (matched.map (fun package => package.place query policy)).Nodup := by
    apply List.pairwise_map.mpr
    refine separate.imp ?_
    intro left right below same
    have sameIds : left.id = right.id := congrArg (fun place => (ofLex place).2) same
    exact absurd sameIds below.ne
  have hits : matched.filterMap (packageHit query policy) = matched.map (fun package => package.hitFor query policy) := by
    rw [← List.filterMap_eq_map]
    apply List.filterMap_congr
    intro package member
    exact (packageHit_eq_some told).mpr ⟨((current package).mp member).2.1, rfl⟩
  refine ⟨matched.insertionSort (fun left right => left.place query policy ≤ right.place query policy), ?_, ?_, ?_⟩
  · intro package
    rw [List.mem_insertionSort, current]
  · exact (insertionSort_ascending places).imp place_lt_iff.mp
  · rw [hits, sorted_hits]

/-- The rejected packages are those that match and are stale, in identity order. -/
theorem rejected_stale : (sortedIds (((deduplicated.filter (fun package => (packageHit query policy package).isSome)).filter
        (fun package => hasStaleReference package owned)).map RetentionPackage.id)).Pairwise (· < ·) ∧
    ∀ id, id ∈ sortedIds (((deduplicated.filter (fun package => (packageHit query policy package).isSome)).filter
        (fun package => hasStaleReference package owned)).map RetentionPackage.id) ↔
      ∃ package ∈ deduplicated, package.id = id ∧ package.Matches query policy ∧ package.Stale owned := by
  constructor
  · have separate : (((deduplicated.filter (fun package => (packageHit query policy package).isSome)).filter
        (fun package => hasStaleReference package owned)).map RetentionPackage.id).Pairwise (· < ·) :=
      List.pairwise_map.mpr ((ascending.filter _).filter _)
    unfold sortedIds
    rw [List.Pairwise.insertionSort_eq (separate.imp le_of_lt)]
    exact separate
  · intro id
    unfold sortedIds
    rw [List.mem_insertionSort, List.mem_map]
    simp only [List.mem_filter, matched_iff told, hasStaleReference_iff]
    constructor
    · intro ⟨package, ⟨⟨member, matching⟩, stale⟩, same⟩
      exact ⟨package, member, same, matching, stale⟩
    · intro ⟨package, member, same, matching, stale⟩
      exact ⟨package, ⟨⟨member, matching⟩, stale⟩, same⟩

end

/-- The hits are the first of the packages that match and are current, by descending rank and then by identity; the
packages that match and are stale are exactly the rejected ones; and only the set of packages matters. -/
theorem retrieve_exact {resultId : String} {result : RetrievalResult}
    (retrieved : retrieve resultId query policy packages owned = .ok result) :
    (∃ ranked : List RetentionPackage,
      (∀ package, package ∈ ranked ↔
        package ∈ packages ∧ package.Matches query policy ∧ ¬ package.Stale owned) ∧
      ranked.Pairwise (RankedAbove query policy) ∧
      result.hits = (ranked.take query.limit).map (fun package => package.hitFor query policy)) ∧
    (result.rejectedStalePackageIds.Pairwise (· < ·) ∧
      ∀ id, id ∈ result.rejectedStalePackageIds ↔
        ∃ package ∈ packages, package.id = id ∧ package.Matches query policy ∧ package.Stale owned) ∧
    ∀ others : List RetentionPackage, (∀ package, package ∈ others ↔ package ∈ packages) →
      retrieve resultId query policy others owned = .ok result := by
  have run := retrieved
  unfold retrieve at run
  simp only [bind_eq_ok, require_eq_ok, exists_const] at run
  obtain ⟨_, _, _, current, deduplicated, canonical, _, _, _, finished⟩ := run
  simp only [pure, Except.pure, Except.ok.injEq] at finished
  subst finished
  have told := toldApart_of_current current
  obtain ⟨_, members, ascending⟩ := canonicalList_eq_ok.mp (deduplicatePackages_eq packages ▸ canonical)
  refine ⟨?ranking, ?stale, ?members⟩
  case ranking =>
    obtain ⟨ranked, listed, descending, hits⟩ := @exists_ranking _ query policy owned deduplicated told ascending
    refine ⟨ranked, ?_, descending, ?_⟩
    · intro package
      rw [listed, members]
    · rw [List.map_take, ← hits]
  case stale =>
    obtain ⟨separate, rejected⟩ := @rejected_stale _ query policy owned deduplicated told ascending
    refine ⟨separate, ?_⟩
    intro id
    rw [rejected]
    simp only [members]
  case members =>
    intro others sameMembers
    have sameCanonical : deduplicatePackages others = .ok deduplicated := by
      rw [deduplicatePackages_eq] at canonical ⊢
      exact canonicalList_congr sameMembers canonical
    rw [← retrieved]
    unfold retrieve
    rw [sameCanonical, canonical]

end

namespace Worked

/-- A reference to a lemma version with the given content. -/
def lemmaRef (content : String) : OwnedMemoryRef where
  owner := .semantic
  recordType := .lemmaVersion
  recordId := "lemma"
  recordSchemaVersion := 1
  contentFingerprint := content

/-- A package of one lemma version, of which "current" is the content in force. -/
def retained (id content : String) : RetentionPackage where
  id := id
  scopeFingerprint := "scope"
  bindingRevision := "binding"
  protectedHorizonId := "horizon"
  ownedRefs := [lemmaRef content]
  cueIds := ["cue"]
  provenanceRefs := ["provenance"]

def ownedLemma : List (OwnedRecordKey × String) := [((lemmaRef "current").key, "current")]

def lemmaQuery (packages : List RetentionPackage) : RetrievalQuery where
  id := "query"
  policyId := structuralExactV1.id
  policyVersion := structuralExactV1.version
  scopeFingerprint := "scope"
  bindingRevision := "binding"
  protectedHorizonId := "horizon"
  sourceSequence := 0
  sourceIndexFingerprint := (structuralIndexFingerprint packages ownedLemma).toOption.getD ""
  recordTypes := [.lemmaVersion]
  cueIds := ["cue"]
  limit := 1

def retainedPackages : List RetentionPackage :=
  [retained "package-c" "changed", retained "package-b" "current", retained "package-a" "current"]

/-- A package whose lemma changed is rejected, although it matches, and the order of the packages is immaterial. -/
theorem changed_lemma_rejected : ∃ result,
    retrieve "result" (lemmaQuery retainedPackages) structuralExactV1 retainedPackages ownedLemma = .ok result ∧
      "package-c" ∈ result.rejectedStalePackageIds ∧
      retrieve "result" (lemmaQuery retainedPackages) structuralExactV1 retainedPackages.reverse ownedLemma =
        .ok result := by
  have succeeds : (retrieve "result" (lemmaQuery retainedPackages) structuralExactV1 retainedPackages
      ownedLemma).toOption.isSome = true := by decide +kernel
  obtain ⟨result, run⟩ : ∃ result,
      retrieve "result" (lemmaQuery retainedPackages) structuralExactV1 retainedPackages ownedLemma = .ok result := by
    revert succeeds
    cases retrieve "result" (lemmaQuery retainedPackages) structuralExactV1 retainedPackages ownedLemma with
    | error failure => simp [Except.toOption]
    | ok result => simp
  obtain ⟨_, ⟨_, rejected⟩, reordered⟩ := retrieve_exact run
  refine ⟨result, run, ?_, reordered _ fun _ => List.mem_reverse⟩
  rw [rejected]
  refine ⟨retained "package-c" "changed", by decide +kernel, rfl, ?_, ?_⟩
  · exact (matched_iff (@toldApart_of_current ownedLemma _ (by decide +kernel))).mp (by decide +kernel)
  · exact hasStaleReference_iff.mp (by decide +kernel)

end Worked

end RatchetingInquiry
