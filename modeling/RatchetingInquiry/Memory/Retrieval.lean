import RatchetingInquiry.Memory.References

/-! Deterministic structural retrieval over aggregate-owned typed references. -/

namespace RatchetingInquiry

def structuralExactV1 : StructuralRetrievalPolicy where
  id := "structural-exact-v1"
  version := "1"
  maxResults := 100
  acceptedRecordTypes :=
    [.checkerVerdict, .effectRequest, .evidence, .externalReturn, .lemmaVersion, .predictionSeal, .probeEvent,
      .probeIdentity, .reacquisitionScaffold, .reconstruction, .recoveryProtocol, .retentionPackage,
      .semanticDelta, .warrantDecision]

/-- The allowlist of controller policies; an arbitrary caller policy never executes. -/
def structuralRetrievalPolicies : List StructuralRetrievalPolicy := [structuralExactV1]

def resolveStructuralRetrievalPolicy (policyId policyVersion : String) : Except Failure StructuralRetrievalPolicy :=
  found (structuralRetrievalPolicies.find? (fun policy => policy.id = policyId ∧ policy.version = policyVersion))
    (.keyError ("unsupported structural retrieval policy '" ++ policyId ++ "'@'" ++ policyVersion ++ "'"))

def sortedPackages (packages : List RetentionPackage) : List RetentionPackage :=
  packages.insertionSort (fun left right => left.id ≤ right.id)

/-- One package for each identity, in identity order. -/
def deduplicatePackages (packages : List RetentionPackage) : Except Failure (List RetentionPackage) := do
  let unique ← packages.foldlM (fun seen package =>
    match seen.find? (fun prior => prior.id = package.id) with
    | some prior =>
      if prior ≠ package then
        throw (.validation ("retention package identity '" ++ package.id ++ "' has conflicting contents"))
      else return seen
    | none => return seen ++ [package]) ([] : List RetentionPackage)
  return sortedPackages unique

section
variable [Fingerprints]

/-- Fingerprint the exact package and reference index used by retrieval. -/
def structuralIndexFingerprint (packages : List RetentionPackage) (owned : List (OwnedRecordKey × String)) :
    Except Failure String := do
  let deduplicated ← deduplicatePackages packages
  return Fingerprints.digest (.structuralIndex
    (deduplicated.map (fun package => (package.id, package.fingerprint)))
    ((owned.map (fun entry => (entry.1.text, entry.2))).insertionSort (fun left right => left.1 ≤ right.1)))

def hasStaleReference (package : RetentionPackage) (owned : List (OwnedRecordKey × String)) : Bool :=
  package.ownedRefs.any (fun reference =>
    (indexBy Prod.fst owned reference.key).map Prod.snd ≠ some reference.contentFingerprint)

end

def matchingReferences (package : RetentionPackage) (query : RetrievalQuery) (policy : StructuralRetrievalPolicy) :
    List OwnedMemoryRef :=
  package.ownedRefs.filter (fun reference =>
    (policy.acceptedRecordTypes = [] || reference.recordType ∈ policy.acceptedRecordTypes) &&
      (query.owners = [] || reference.owner ∈ query.owners) &&
      (query.recordTypes = [] || reference.recordType ∈ query.recordTypes) &&
      (query.referenceSelectors = [] ||
        indexBy OwnedMemoryRef.key query.referenceSelectors reference.key = some reference))

/-- Number of distinct values of `left` that occur in `right`. -/
def sharedCount {α : Type} [DecidableEq α] (left right : List α) : Nat :=
  (left.dedup.filter (fun value => value ∈ right)).length

def sharedIds (left right : List String) : List String :=
  sortedIds (left.dedup.filter (fun value => value ∈ right))

/-- Rank, matched reference keys, cues and tags of a package, or `none` when a given selector has no
match. -/
def rankPackage (package : RetentionPackage) (query : RetrievalQuery) (policy : StructuralRetrievalPolicy) :
    Option (RetrievalRank × List OwnedRecordKey × List String × List String) :=
  let matching := matchingReferences package query policy
  let cues := sharedIds package.cueIds query.cueIds
  let tags := sharedIds package.tagIds query.tagIds
  let rank : RetrievalRank := {
    referenceMatchCount := sharedCount (package.ownedRefs.map OwnedMemoryRef.key)
      (query.referenceSelectors.map OwnedMemoryRef.key)
    recordTypeMatchCount := sharedCount (package.ownedRefs.map (·.recordType)) query.recordTypes
    ownerMatchCount := sharedCount (package.ownedRefs.map (·.owner)) query.owners
    cueMatchCount := cues.length
    tagMatchCount := tags.length }
  if (query.owners ≠ [] ∨ query.recordTypes ≠ [] ∨ query.referenceSelectors ≠ []) ∧ matching = [] then none
  else if query.cueIds ≠ [] ∧ cues = [] then none
  else if query.tagIds ≠ [] ∧ tags = [] then none
  else if ¬ policy.rankComponents.any (fun component => rank.component component ≠ 0) then none
  else some (rank,
    (matching.map OwnedMemoryRef.key).insertionSort (fun left right => left.text ≤ right.text), cues, tags)

/-- Hits are ordered by descending rank components and then by package identity. -/
def RetrievalHit.before (policy : StructuralRetrievalPolicy) (left right : RetrievalHit) : Prop :=
  policy.rankComponents.map right.rank.component < policy.rankComponents.map left.rank.component ∨
    (policy.rankComponents.map left.rank.component = policy.rankComponents.map right.rank.component ∧
      left.packageId < right.packageId)

instance (policy : StructuralRetrievalPolicy) (left right : RetrievalHit) : Decidable (left.before policy right) :=
  inferInstanceAs (Decidable (_ ∨ _))

section
variable [Fingerprints]

/-- The pins of the package are those of the query. -/
def packagePinned (query : RetrievalQuery) (package : RetentionPackage) : Bool :=
  package.scopeFingerprint = query.scopeFingerprint && package.bindingRevision = query.bindingRevision &&
    package.protectedHorizonId = query.protectedHorizonId

/-- The hit of a pinned and ranked package. -/
def packageHit (query : RetrievalQuery) (policy : StructuralRetrievalPolicy) (package : RetentionPackage) :
    Option RetrievalHit :=
  if packagePinned query package then
    (rankPackage package query policy).map (fun (rank, references, cues, tags) => {
      packageId := package.id
      packageContentFingerprint := package.fingerprint
      rank := rank
      matchedRefKeys := references
      matchedCueIds := cues
      matchedTagIds := tags })
  else none

/-- Apply exact pins, stale checking, ranking and stable tie breaking. -/
def retrieve (resultId : String) (query : RetrievalQuery) (policy : StructuralRetrievalPolicy)
    (packages : List RetentionPackage) (owned : List (OwnedRecordKey × String)) : Except Failure RetrievalResult := do
  require (query.policyId = policy.id ∧ query.policyVersion = policy.version)
    (.validation "retrieval query and policy identity/version do not match")
  require (query.limit ≤ policy.maxResults) (.validation "retrieval query limit exceeds the policy bound")
  require (policy.acceptedRecordTypes ≠ [] → query.recordTypes ⊆ policy.acceptedRecordTypes)
    (.validation "retrieval query asks for a record type outside policy")
  require (∀ selector ∈ query.referenceSelectors,
      (indexBy Prod.fst owned selector.key).map Prod.snd = some selector.contentFingerprint)
    (.validation "retrieval query contains a stale exact reference selector")
  let deduplicated ← deduplicatePackages packages
  let actual ← structuralIndexFingerprint deduplicated owned
  require (query.sourceIndexFingerprint = actual)
    (.validation "retrieval query does not pin the current structural index")
  let matched := deduplicated.filter (fun package => (packageHit query policy package).isSome)
  let hits := (matched.filter (fun package => ¬ hasStaleReference package owned)).filterMap (packageHit query policy)
  return {
    id := resultId
    queryId := query.id
    policyId := policy.id
    policyVersion := policy.version
    sourceSequence := query.sourceSequence
    sourceIndexFingerprint := query.sourceIndexFingerprint
    hits := (hits.insertionSort (fun left right => ¬ right.before policy left)).take query.limit
    rejectedStalePackageIds :=
      sortedIds ((matched.filter (fun package => hasStaleReference package owned)).map RetentionPackage.id) }

end

end RatchetingInquiry
