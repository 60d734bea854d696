import RatchetingInquiry.Core.Fingerprints
import RatchetingInquiry.Library.Saturate
import RatchetingInquiry.Library.Search
import RatchetingInquiry.Warrant.Checks

/-! Pure support calculations without hidden discharge: which environments stand, which lemmas are
grounded, and the current theory that standing histories and nogoods leave. -/

namespace RatchetingInquiry

/-- The owned records against which a support calculation resolves its check references. -/
structure CheckRecords where
  evidenceRecords : List Evidence
  checkerVerdicts : List CheckerVerdictRecord
  authorizedCheckerIds : List String

def CheckRecords.resolve (records : CheckRecords) (reference : CheckReference) (propositionId : String)
    (propositionKind : PropositionKind) (scopeFingerprint : String) : Bool × String :=
  resolveCheckReference reference (evidenceIndex records.evidenceRecords)
    (checkerVerdictIndex records.checkerVerdicts) propositionId propositionKind scopeFingerprint
    records.authorizedCheckerIds

/-- A reference resolves when it names owned records that form a checked pair. -/
theorem CheckRecords.resolve_true_iff {records : CheckRecords} {reference : CheckReference} {propositionId : String}
    {propositionKind : PropositionKind} {scopeFingerprint : String} :
    (records.resolve reference propositionId propositionKind scopeFingerprint).1 = true ↔ ∃ evidence verdict,
      evidenceIndex records.evidenceRecords reference.evidenceId = some evidence ∧
        checkerVerdictIndex records.checkerVerdicts reference.checkerVerdictId = some verdict ∧
        CheckedPair evidence verdict propositionId propositionKind scopeFingerprint records.authorizedCheckerIds := by
  unfold CheckRecords.resolve resolveCheckReference
  cases evidenceHit : evidenceIndex records.evidenceRecords reference.evidenceId with
  | none => simp
  | some evidence =>
    cases verdictHit : checkerVerdictIndex records.checkerVerdicts reference.checkerVerdictId with
    | none => simp
    | some verdict =>
      have named : evidence.id = reference.evidenceId := (indexBy_some evidenceHit).2
      simp only [Option.some.injEq]
      rw [unless_unchecked, validateCheckedEvidence_true_iff, not_not]
      constructor
      · rintro ⟨-, checked⟩
        exact ⟨evidence, verdict, rfl, rfl, checked⟩
      · rintro ⟨_, _, rfl, rfl, checked⟩
        exact ⟨checked.evidence_named.trans named, checked⟩

/-- The nogood is checked and defeats the environment: its incompatible assumptions are all assumed. -/
def Nogood.defeats (nogood : Nogood) (environment : SupportEnvironment) (records : CheckRecords)
    (policyVersion : String) : Bool :=
  nogood.scopeFingerprint = environment.scopeFingerprint &&
    nogood.bindingRevision = environment.bindingRevision &&
    nogood.finiteUniverseHash = environment.finiteUniverseHash &&
    nogood.policyVersion = policyVersion &&
    (records.resolve nogood.check nogood.id .existential nogood.scopeFingerprint).1 &&
    nogood.incompatibleAssumptionIds ⊆ environment.assumptionIds

/-- No nogood is not enough: realizability itself must have a valid check. -/
def supportEnvironmentStands (environment : SupportEnvironment) (currentAssumptionIds : List String)
    (nogoods : List Nogood) (records : CheckRecords) (policyVersion : String) : Bool :=
  (records.resolve environment.realizabilityCheck environment.id .existential environment.scopeFingerprint).1 &&
    environment.assumptionIds ⊆ currentAssumptionIds &&
    !nogoods.any (fun nogood => nogood.defeats environment records policyVersion)

/-- The guard named by an applicability is active and so are its contextual preconditions. `always` is
the sole unconditional guard. -/
def Applicability.stands (applicability : Applicability) (currentContextIds : List String) : Bool :=
  (applicability.conditionId = "always" || applicability.conditionId ∈ currentContextIds) &&
    applicability.requiredContextIds ⊆ currentContextIds

section
variable [Fingerprints]

/-- The pins under which lemmas are used together. -/
abbrev SupportClass := String × String × Option String × String

def WarrantedLemma.supportClass (warranted : WarrantedLemma) : SupportClass :=
  (warranted.version.scope.fingerprint, warranted.version.scope.bindingRevision,
    warranted.version.scope.finiteUniverseHash, warranted.support.policyVersion)

/-- `_route_applicable`. -/
def routeApplicable (warranted : WarrantedLemma) (route : SupportRoute)
    (currentAssumptionIds currentContextIds : List String) (nogoods : List Nogood) (records : CheckRecords) : Bool :=
  route.environment.scopeFingerprint = warranted.version.scope.fingerprint &&
    route.environment.bindingRevision = warranted.version.scope.bindingRevision &&
    route.environment.finiteUniverseHash = warranted.version.scope.finiteUniverseHash &&
    (records.resolve route.certificateCheck warranted.version.relationId warranted.version.propositionKind
      warranted.version.scope.fingerprint).1 &&
    warranted.version.applicability.stands currentContextIds &&
    supportEnvironmentStands route.environment currentAssumptionIds nogoods records warranted.support.policyVersion

theorem routeApplicable_resolves {warranted : WarrantedLemma} {route : SupportRoute}
    {currentAssumptionIds currentContextIds : List String} {nogoods : List Nogood} {records : CheckRecords}
    (applicable : routeApplicable warranted route currentAssumptionIds currentContextIds nogoods records = true) :
    (records.resolve route.certificateCheck warranted.version.relationId warranted.version.propositionKind
      warranted.version.scope.fingerprint).1 = true := by
  simp only [routeApplicable, Bool.and_eq_true] at applicable
  exact applicable.1.1.2

/-- The lemma has an applicable route whose dependencies are all grounded. -/
def WarrantedLemma.groundedBy (currentAssumptionIds currentContextIds : List String) (nogoods : List Nogood)
    (records : CheckRecords) (grounded : List String) (warranted : WarrantedLemma) : Bool :=
  warranted.support.warrantClass = .hard &&
    warranted.support.supportRoutes.any (fun route =>
      routeApplicable warranted route currentAssumptionIds currentContextIds nogoods records &&
        route.requiredDependencyIds ⊆ grounded)

/-- The least fixed point; an unsupported cycle contributes no seed. -/
def groundedLemmaIds (lemmas : List WarrantedLemma) (currentAssumptionIds currentContextIds : List String)
    (nogoods : List Nogood) (records : CheckRecords) : List String :=
  saturated WarrantedLemma.id
    (fun grounded warranted =>
      warranted.groundedBy currentAssumptionIds currentContextIds nogoods records grounded) lemmas

/-- Order of routes by size of the environment, then its assumptions, then identity. -/
def SupportRoute.before (left right : SupportRoute) : Prop :=
  left.environment.assumptionIds.length < right.environment.assumptionIds.length ∨
    (left.environment.assumptionIds.length = right.environment.assumptionIds.length ∧
      (left.environment.assumptionIds < right.environment.assumptionIds ∨
        (left.environment.assumptionIds = right.environment.assumptionIds ∧ left.id < right.id)))

instance (left right : SupportRoute) : Decidable (left.before right) :=
  inferInstanceAs (Decidable (_ ∨ _))

def sortedRoutes (routes : List SupportRoute) : List SupportRoute :=
  routes.insertionSort (fun left right => ¬ right.before left)

/-- A route is minimal when no earlier minimal environment is contained in its own. -/
def placeMinimal (placed : List SupportRoute × List SupportRoute) (route : SupportRoute) :
    List SupportRoute × List SupportRoute :=
  if placed.1.any (fun current => current.environment.assumptionIds ⊆ route.environment.assumptionIds) then
    (placed.1, placed.2 ++ [route])
  else (placed.1 ++ [route], placed.2)

/-- Split ordered routes into those with minimal environments and those that an earlier one dominates. -/
def splitMinimal (routes : List SupportRoute) : List SupportRoute × List SupportRoute :=
  routes.foldl placeMinimal ([], [])

/-- The current standing of a record under its append-only history; a record without history stands. -/
def routeStands (changes : List SupportRouteStandingChange) (routeId : String) : Bool :=
  ((indexBy SupportRouteStandingChange.supportRouteId changes routeId).map (·.standing)).getD .standing = .standing

def nogoodStands (changes : List NogoodStandingChange) (nogoodId : String) : Bool :=
  ((indexBy NogoodStandingChange.nogoodId changes nogoodId).map (·.standing)).getD .standing = .standing

/-- The lemmas of the selected support class that keep a standing route, with those routes only. -/
def selectedLemmas (lemmas : List WarrantedLemma) (selector : TheorySelector)
    (routeChanges : List SupportRouteStandingChange) : List WarrantedLemma :=
  lemmas.filterMap (fun warranted =>
    if warranted.supportClass ≠
        (selector.scopeFingerprint, selector.bindingRevision, selector.finiteUniverseHash, selector.policyVersion) then
      none
    else
      let standing := warranted.support.allSupportRoutes.filter (fun route => routeStands routeChanges route.id)
      if standing = [] then none
      else some { warranted with support :=
        { warranted.support with supportRoutes := standing, historicalSupportRoutes := [] } })

/-- The nogoods of the selected support class that still stand. -/
def selectedNogoods (nogoods : List Nogood) (selector : TheorySelector)
    (nogoodChanges : List NogoodStandingChange) : List Nogood :=
  nogoods.filter (fun nogood =>
    nogood.scopeFingerprint = selector.scopeFingerprint && nogood.bindingRevision = selector.bindingRevision &&
      nogood.finiteUniverseHash = selector.finiteUniverseHash && nogood.policyVersion = selector.policyVersion &&
      nogoodStands nogoodChanges nogood.id)

/-- The routes by which a selected lemma stands over the grounded ids, minimal ones only. -/
def standingRoutes (warranted : WarrantedLemma) (selector : TheorySelector) (nogoods : List Nogood)
    (records : CheckRecords) (grounded : List String) : List SupportRoute :=
  (splitMinimal (sortedRoutes (warranted.support.supportRoutes.filter (fun route =>
    routeApplicable warranted route selector.currentAssumptionIds selector.currentContextIds nogoods records &&
      route.requiredDependencyIds ⊆ grounded)))).1

/-- The view of one grounded lemma; its first minimal route is the primary one. -/
def activeView (selector : TheorySelector) (warranted : WarrantedLemma) : List SupportRoute → Option ActiveLemmaView
  | [] => none
  | primary :: rest => some {
      lemmaVersionId := warranted.id
      relationId := warranted.version.relationId
      standingSupportRouteId := primary.id
      standingSupportRouteIds := (primary :: rest).map SupportRoute.id
      scopeFingerprint := selector.scopeFingerprint
      bindingRevision := selector.bindingRevision
      finiteUniverseHash := selector.finiteUniverseHash
      policyVersion := selector.policyVersion }

/-- Derive an exact current view without creating semantic authority. Routes and nogoods are immutable;
their standing histories only affect this view. -/
def selectActiveTheory (lemmas : List WarrantedLemma) (selector : TheorySelector) (nogoods : List Nogood)
    (routeChanges : List SupportRouteStandingChange) (nogoodChanges : List NogoodStandingChange)
    (records : CheckRecords) : List ActiveLemmaView :=
  let selected := selectedLemmas lemmas selector routeChanges
  let standing := selectedNogoods nogoods selector nogoodChanges
  let grounded := groundedLemmaIds selected selector.currentAssumptionIds selector.currentContextIds standing records
  (selected.insertionSort (fun left right => left.id ≤ right.id)).filterMap (fun warranted =>
    if warranted.id ∈ grounded then
      activeView selector warranted (standingRoutes warranted selector standing records grounded)
    else none)

/-- `ActiveLemmaView.validate_routes`, run whenever a view is built. -/
def ActiveLemmaView.validateRoutes (view : ActiveLemmaView) : Except Failure ActiveLemmaView := do
  require (view.standingSupportRouteIds ≠ [])
    (.validation "active lemma views require at least one standing minimal route")
  require (view.standingSupportRouteIds.head? = some view.standingSupportRouteId)
    (.validation "the primary standing route must be the first minimal route")
  require view.standingSupportRouteIds.Nodup
    (.validation "active minimal support route identities must be unique")
  return view

/-- `select_active_theory` with the errors that it can raise: it reads the first minimal route of a grounded
lemma by its index, and builds every view through the validator. -/
def activeTheory (lemmas : List WarrantedLemma) (selector : TheorySelector) (nogoods : List Nogood)
    (routeChanges : List SupportRouteStandingChange) (nogoodChanges : List NogoodStandingChange)
    (records : CheckRecords) : Except Failure (List ActiveLemmaView) :=
  let selected := selectedLemmas lemmas selector routeChanges
  let standing := selectedNogoods nogoods selector nogoodChanges
  let grounded := groundedLemmaIds selected selector.currentAssumptionIds selector.currentContextIds standing records
  ((selected.insertionSort (fun left right => left.id ≤ right.id)).filter (fun warranted =>
    warranted.id ∈ grounded)).mapM (fun warranted => do
      let view ← found (activeView selector warranted (standingRoutes warranted selector standing records grounded))
        (.indexError "list index out of range")
      view.validateRoutes)

end

/-- Version ancestry: every predecessor is a known version and no version precedes itself. -/
def ancestryIsAcyclic (predecessors : List (String × List String)) : Bool :=
  searchAcyclic (predecessors.map Prod.fst)
    (fun versionId => (indexBy Prod.fst predecessors versionId).map Prod.snd)

/-- The dependencies of a lemma, over minimal and historical routes, that are known lemmas. -/
def supportSuccessors (lemmas : List WarrantedLemma) (node : String) : Option (List String) :=
  (indexBy WarrantedLemma.id lemmas node).map (fun warranted =>
    (warranted.support.allSupportRoutes.flatMap SupportRoute.requiredDependencyIds).filter
      (fun dependency => dependency ∈ lemmas.map WarrantedLemma.id))

def supportGraphIsAcyclic (lemmas : List WarrantedLemma) : Bool :=
  searchAcyclic (lemmas.map WarrantedLemma.id) (supportSuccessors lemmas)

/-- The split loses no route. -/
theorem splitMinimal_perm (routes : List SupportRoute) :
    ((splitMinimal routes).1 ++ (splitMinimal routes).2).Perm routes := by
  have placed : ∀ before : List SupportRoute × List SupportRoute,
      ((routes.foldl placeMinimal before).1 ++ (routes.foldl placeMinimal before).2).Perm
        (before.1 ++ before.2 ++ routes) := by
    induction routes with
    | nil => simp
    | cons route rest ih =>
      intro before
      rw [List.foldl_cons]
      refine (ih (placeMinimal before route)).trans ?_
      unfold placeMinimal
      split
      next => simp
      next =>
        simp only [List.append_assoc, List.singleton_append]
        exact List.perm_middle.symm.append_left before.1
  simpa [splitMinimal] using placed ([], [])

theorem sortedRoutes_perm (routes : List SupportRoute) : (sortedRoutes routes).Perm routes :=
  List.perm_insertionSort _ routes

section
variable [Fingerprints]

/-- A lemma as the selection sees it: with its standing routes only. -/
def WarrantedLemma.restricted (warranted : WarrantedLemma) (routeChanges : List SupportRouteStandingChange) :
    WarrantedLemma :=
  { warranted with support := { warranted.support with
      supportRoutes := warranted.support.allSupportRoutes.filter (fun route => routeStands routeChanges route.id)
      historicalSupportRoutes := [] } }

def TheorySelector.supportClass (selector : TheorySelector) : SupportClass :=
  (selector.scopeFingerprint, selector.bindingRevision, selector.finiteUniverseHash, selector.policyVersion)

theorem mem_selectedLemmas {lemmas : List WarrantedLemma} {selector : TheorySelector}
    {routeChanges : List SupportRouteStandingChange} {selected : WarrantedLemma} :
    selected ∈ selectedLemmas lemmas selector routeChanges ↔ ∃ warranted ∈ lemmas,
      warranted.supportClass = selector.supportClass ∧ (warranted.restricted routeChanges).support.supportRoutes ≠ [] ∧
        selected = warranted.restricted routeChanges := by
  simp only [selectedLemmas, List.mem_filterMap]
  constructor
  · rintro ⟨warranted, member, chosen⟩
    split at chosen
    next => simp at chosen
    next sameClass =>
      split at chosen
      next => simp at chosen
      next standing =>
        simp only [Option.some.injEq] at chosen
        exact ⟨warranted, member, not_not.mp sameClass, standing, chosen.symm⟩
  · rintro ⟨warranted, member, sameClass, standing, rfl⟩
    exact ⟨warranted, member, (if_neg (not_not.mpr sameClass)).trans (if_neg standing)⟩

/-- The lemmas that the current theory grounds. -/
def theoryGrounded (lemmas : List WarrantedLemma) (selector : TheorySelector) (nogoods : List Nogood)
    (routeChanges : List SupportRouteStandingChange) (nogoodChanges : List NogoodStandingChange)
    (records : CheckRecords) : List String :=
  groundedLemmaIds (selectedLemmas lemmas selector routeChanges) selector.currentAssumptionIds
    selector.currentContextIds (selectedNogoods nogoods selector nogoodChanges) records

/-- What an active view says about the lemma it is a view of. -/
structure ActiveLemmaView.Shows (view : ActiveLemmaView) (warranted : WarrantedLemma) (selector : TheorySelector)
    (nogoods : List Nogood) (routeChanges : List SupportRouteStandingChange) (records : CheckRecords)
    (grounded : List String) : Prop where
  named : view.lemmaVersionId = warranted.id
  relation : view.relationId = warranted.version.relationId
  same_class : warranted.supportClass = selector.supportClass
  is_grounded : warranted.id ∈ grounded
  routes : ∀ routeId ∈ view.standingSupportRouteIds, ∃ route ∈ warranted.support.allSupportRoutes, route.id = routeId ∧
    routeStands routeChanges route.id = true ∧
      routeApplicable (warranted.restricted routeChanges) route selector.currentAssumptionIds
        selector.currentContextIds nogoods records = true ∧ route.requiredDependencyIds ⊆ grounded

omit [Fingerprints] in
theorem activeView_routes {selector : TheorySelector} {warranted : WarrantedLemma} {routes : List SupportRoute}
    {view : ActiveLemmaView} (seen : activeView selector warranted routes = some view) :
    view.lemmaVersionId = warranted.id ∧ view.relationId = warranted.version.relationId ∧
      view.standingSupportRouteIds = routes.map SupportRoute.id := by
  cases routes with
  | nil => simp [activeView] at seen
  | cons primary rest =>
    simp only [activeView, Option.some.injEq] at seen
    subst seen
    exact ⟨rfl, rfl, rfl⟩

theorem selectActiveTheory_shows {lemmas : List WarrantedLemma} {selector : TheorySelector} {nogoods : List Nogood}
    {routeChanges : List SupportRouteStandingChange} {nogoodChanges : List NogoodStandingChange}
    {records : CheckRecords} {view : ActiveLemmaView}
    (active : view ∈ selectActiveTheory lemmas selector nogoods routeChanges nogoodChanges records) :
    ∃ warranted ∈ lemmas, view.Shows warranted selector (selectedNogoods nogoods selector nogoodChanges) routeChanges
      records (theoryGrounded lemmas selector nogoods routeChanges nogoodChanges records) := by
  simp only [selectActiveTheory, List.mem_filterMap, List.mem_insertionSort] at active
  obtain ⟨selected, member, chosen⟩ := active
  obtain ⟨warranted, owned, sameClass, -, rfl⟩ := mem_selectedLemmas.mp member
  split at chosen
  next isGrounded =>
    obtain ⟨named, relation, routeIds⟩ := activeView_routes chosen
    refine ⟨warranted, owned, named, relation, sameClass, isGrounded, ?_⟩
    intro routeId listed
    rw [routeIds] at listed
    obtain ⟨route, minimal, rfl⟩ := List.mem_map.mp listed
    -- the minimal routes are among the standing and applicable ones
    have kept := (splitMinimal_perm _).mem_iff.mp (List.mem_append_left _ minimal)
    have candidate := (sortedRoutes_perm _).mem_iff.mp kept
    simp only [List.mem_filter, Bool.and_eq_true, decide_eq_true_eq, WarrantedLemma.restricted] at candidate
    obtain ⟨⟨routeOwned, stands⟩, applicable, closed⟩ := candidate
    exact ⟨route, routeOwned, rfl, stands, applicable, closed⟩
  next => simp at chosen

theorem WarrantedLemma.groundedBy_mono {currentAssumptionIds currentContextIds : List String} {nogoods : List Nogood}
    {records : CheckRecords} (small large : List String) (warranted : WarrantedLemma) (within : small ⊆ large)
    (grounded : warranted.groundedBy currentAssumptionIds currentContextIds nogoods records small = true) :
    warranted.groundedBy currentAssumptionIds currentContextIds nogoods records large = true := by
  simp only [WarrantedLemma.groundedBy, Bool.and_eq_true, List.any_eq_true, decide_eq_true_eq] at grounded ⊢
  obtain ⟨hard, route, member, applicable, closed⟩ := grounded
  exact ⟨hard, route, member, applicable, List.Subset.trans closed within⟩

/-- One grounding reaches what another reaches, as far as every route that carries a lemma with the
property in the first also carries it in the second. -/
theorem grounded_within {small large : List WarrantedLemma} {assumptions contexts : List String}
    {currentAssumptions currentContexts : List String} {nogoods currentNogoods : List Nogood}
    {records currentRecords : CheckRecords} {P : String → Prop}
    (carried : ∀ warranted ∈ small, P warranted.id → warranted.support.warrantClass = .hard →
      ∀ route ∈ warranted.support.supportRoutes,
        routeApplicable warranted route assumptions contexts nogoods records = true →
        (∀ dependency ∈ route.requiredDependencyIds, P dependency) ∧
        ∃ current ∈ large, current.id = warranted.id ∧ current.support.warrantClass = .hard ∧
          route ∈ current.support.supportRoutes ∧
          routeApplicable current route currentAssumptions currentContexts currentNogoods currentRecords = true) :
    ∀ lemmaId ∈ groundedLemmaIds small assumptions contexts nogoods records, P lemmaId →
      lemmaId ∈ groundedLemmaIds large currentAssumptions currentContexts currentNogoods currentRecords := by
  apply saturated_induction
  intro reached holds warranted member grounded needed
  simp only [WarrantedLemma.groundedBy, Bool.and_eq_true, decide_eq_true_eq, List.any_eq_true] at grounded
  obtain ⟨hard, route, routeOwned, applicable, closed⟩ := grounded
  obtain ⟨dependencies, current, currentOwned, same, stillHard, routeKept, stillApplicable⟩ :=
    carried warranted member needed hard route routeOwned applicable
  have admitted : current.groundedBy currentAssumptions currentContexts currentNogoods currentRecords
      (groundedLemmaIds large currentAssumptions currentContexts currentNogoods currentRecords) = true := by
    simp only [WarrantedLemma.groundedBy, Bool.and_eq_true, decide_eq_true_eq, List.any_eq_true]
    refine ⟨stillHard, route, routeKept, stillApplicable, ?_⟩
    intro dependency required
    exact holds dependency (closed required) (dependencies dependency required)
  rw [← same]
  exact saturated_closed currentOwned admitted

omit [Fingerprints] in
theorem splitMinimal_ne_nil {routes : List SupportRoute} (given : routes ≠ []) : (splitMinimal routes).1 ≠ [] := by
  have kept : ∀ (rest : List SupportRoute) (placed : List SupportRoute × List SupportRoute), placed.1 ≠ [] →
      (rest.foldl placeMinimal placed).1 ≠ [] := by
    intro rest
    induction rest with
    | nil => exact fun placed nonempty => nonempty
    | cons route rest ih =>
      intro placed nonempty
      apply ih
      unfold placeMinimal
      split
      next => exact nonempty
      next => simp
  cases routes with
  | nil => exact absurd rfl given
  | cons first rest => exact kept rest _ (by simp [placeMinimal])

/-- Every grounded lemma of the current theory has a view. -/
theorem grounded_active {lemmas : List WarrantedLemma} {selector : TheorySelector} {nogoods : List Nogood}
    {routeChanges : List SupportRouteStandingChange} {nogoodChanges : List NogoodStandingChange}
    {records : CheckRecords} {lemmaId : String}
    (grounded : lemmaId ∈ theoryGrounded lemmas selector nogoods routeChanges nogoodChanges records) :
    ∃ view ∈ selectActiveTheory lemmas selector nogoods routeChanges nogoodChanges records,
      view.lemmaVersionId = lemmaId := by
  obtain ⟨selected, owned, rfl, stands⟩ := saturated_admitted WarrantedLemma.groundedBy_mono grounded
  rw [WarrantedLemma.groundedBy, Bool.and_eq_true, List.any_eq_true] at stands
  obtain ⟨-, route, member, applicable⟩ := stands
  have nonempty : standingRoutes selected selector (selectedNogoods nogoods selector nogoodChanges) records
      (theoryGrounded lemmas selector nogoods routeChanges nogoodChanges records) ≠ [] := by
    apply splitMinimal_ne_nil
    refine List.ne_nil_of_mem (a := route) ?_
    exact (sortedRoutes_perm _).mem_iff.mpr (List.mem_filter.mpr ⟨member, applicable⟩)
  cases seen : activeView selector selected (standingRoutes selected selector
      (selectedNogoods nogoods selector nogoodChanges) records
      (theoryGrounded lemmas selector nogoods routeChanges nogoodChanges records)) with
  | none =>
    cases routes : standingRoutes selected selector (selectedNogoods nogoods selector nogoodChanges) records
        (theoryGrounded lemmas selector nogoods routeChanges nogoodChanges records) with
    | nil => exact absurd routes nonempty
    | cons primary rest => simp [routes, activeView] at seen
  | some view =>
    refine ⟨view, ?_, (activeView_routes seen).1⟩
    simp only [selectActiveTheory, List.mem_filterMap, List.mem_insertionSort]
    exact ⟨selected, owned, (if_pos grounded).trans seen⟩

end

end RatchetingInquiry
