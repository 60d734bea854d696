import Mathlib.Order.Bounds.Basic
import RatchetingInquiry.Invariants.Promotions

/-! The current theory as a least fixed point. What a selection is computed from is one record, so that two
selections can be compared by what they differ in. The ids of the selected views are the least set of
lemmas that is closed under standing support; every other fact about the selection follows from that and
from the canonical partition of the routes of each view. -/

namespace RatchetingInquiry

/-- Everything that a selection of the current theory reads. -/
structure TheoryInputs where
  lemmas : List WarrantedLemma
  selector : TheorySelector
  nogoods : List Nogood
  routeChanges : List SupportRouteStandingChange
  nogoodChanges : List NogoodStandingChange
  records : CheckRecords

/-- The nogood stands in the class of the selector. -/
def Nogood.StandsFor (nogood : Nogood) (selector : TheorySelector) (changes : List NogoodStandingChange) : Prop :=
  nogood.scopeFingerprint = selector.scopeFingerprint ∧ nogood.bindingRevision = selector.bindingRevision ∧
    nogood.finiteUniverseHash = selector.finiteUniverseHash ∧ nogood.policyVersion = selector.policyVersion ∧
    nogoodStands changes nogood.id = true

theorem mem_selectedNogoods {nogoods : List Nogood} {selector : TheorySelector} {changes : List NogoodStandingChange}
    {nogood : Nogood} : nogood ∈ selectedNogoods nogoods selector changes ↔
      nogood ∈ nogoods ∧ nogood.StandsFor selector changes := by
  simp only [selectedNogoods, List.mem_filter, Bool.and_eq_true, decide_eq_true_eq, Nogood.StandsFor, and_assoc]

namespace TheoryInputs

section
variable [Fingerprints] (inputs : TheoryInputs)

/-- The selection as the source runs it. -/
def run : Except Failure (List ActiveLemmaView) :=
  activeTheory inputs.lemmas inputs.selector inputs.nogoods inputs.routeChanges inputs.nogoodChanges inputs.records

/-- The views of the selection. -/
def views : List ActiveLemmaView :=
  selectActiveTheory inputs.lemmas inputs.selector inputs.nogoods inputs.routeChanges inputs.nogoodChanges
    inputs.records

def ids : List String := inputs.views.map ActiveLemmaView.lemmaVersionId

def selected : List WarrantedLemma := selectedLemmas inputs.lemmas inputs.selector inputs.routeChanges

def standingNogoods : List Nogood := selectedNogoods inputs.nogoods inputs.selector inputs.nogoodChanges

def grounded : List String :=
  theoryGrounded inputs.lemmas inputs.selector inputs.nogoods inputs.routeChanges inputs.nogoodChanges inputs.records

/-- The rule of the grounding loop. -/
def rule (reached : List String) (warranted : WarrantedLemma) : Bool :=
  warranted.groundedBy inputs.selector.currentAssumptionIds inputs.selector.currentContextIds inputs.standingNogoods
    inputs.records reached

/-- The lemmas are values of their type, with distinct ids. -/
structure WellFormed : Prop where
  versions : ∀ warranted ∈ inputs.lemmas, warranted.version.IsValid
  supports : ∀ warranted ∈ inputs.lemmas, warranted.support.IsValid
  joined : ∀ warranted ∈ inputs.lemmas, warranted.IsJoined
  distinct : (inputs.lemmas.map WarrantedLemma.id).Nodup

/-- A route stands and is applicable: it is certified and realizable, its assumptions are current, no
standing checked nogood is contained in them, and the guard of its lemma is active. -/
structure Usable (warranted : WarrantedLemma) (route : SupportRoute) : Prop where
  stands : routeStands inputs.routeChanges route.id = true
  certified : (inputs.records.resolve route.certificateCheck warranted.version.relationId
    warranted.version.propositionKind inputs.selector.scopeFingerprint).1 = true
  realizable : (inputs.records.resolve route.environment.realizabilityCheck route.environment.id .existential
    inputs.selector.scopeFingerprint).1 = true
  assumed : route.environment.assumptionIds ⊆ inputs.selector.currentAssumptionIds
  undefeated : ∀ nogood ∈ inputs.nogoods, nogood.StandsFor inputs.selector inputs.nogoodChanges →
    (inputs.records.resolve nogood.check nogood.id .existential nogood.scopeFingerprint).1 = true →
    ¬ nogood.incompatibleAssumptionIds ⊆ route.environment.assumptionIds
  guarded : warranted.version.applicability.stands inputs.selector.currentContextIds = true

/-- The lemma is hard, of the selected class, and has a usable route into the set. -/
def Supported (G : Set String) (warranted : WarrantedLemma) : Prop :=
  warranted.support.warrantClass = .hard ∧ warranted.supportClass = inputs.selector.supportClass ∧
    ∃ route ∈ warranted.support.allSupportRoutes, inputs.Usable warranted route ∧
      ∀ dependency ∈ route.requiredDependencyIds, dependency ∈ G

/-- The sets of ids that hold every lemma they support. -/
def ClosedSets : Set (Set String) :=
  {G | ∀ warranted ∈ inputs.lemmas, inputs.Supported G warranted → warranted.id ∈ G}

variable {inputs}

/-- What the applicability test of a selected lemma asks of a route, beyond that the route stands. -/
theorem WellFormed.applicable_iff (formed : inputs.WellFormed) {warranted : WarrantedLemma}
    (owned : warranted ∈ inputs.lemmas) (sameClass : warranted.supportClass = inputs.selector.supportClass)
    {route : SupportRoute} (member : route ∈ warranted.support.allSupportRoutes)
    (stands : routeStands inputs.routeChanges route.id = true) :
    routeApplicable (warranted.restricted inputs.routeChanges) route inputs.selector.currentAssumptionIds
        inputs.selector.currentContextIds inputs.standingNogoods inputs.records = true ↔
      inputs.Usable warranted route := by
  obtain ⟨inScope, inBinding, inUniverse⟩ := (formed.joined warranted owned).routes_inside route member
  simp only [WarrantedLemma.supportClass, TheorySelector.supportClass, Prod.mk.injEq] at sameClass
  obtain ⟨scope, binding, finite, policy⟩ := sameClass
  simp only [routeApplicable, supportEnvironmentStands, WarrantedLemma.restricted, Bool.and_eq_true,
    decide_eq_true_eq, inScope, inBinding, inUniverse, true_and, scope, Bool.not_eq_true', List.any_eq_false]
  constructor
  · intro applicable
    obtain ⟨⟨certified, guarded⟩, ⟨realizable, assumed⟩, clear⟩ := applicable
    refine ⟨stands, certified, realizable, assumed, ?_, guarded⟩
    intro nogood known standsFor checked contained
    apply clear nogood (mem_selectedNogoods.mpr ⟨known, standsFor⟩)
    obtain ⟨sameScope, sameBinding, sameUniverse, samePolicy, -⟩ := standsFor
    simp only [Nogood.defeats, Bool.and_eq_true, decide_eq_true_eq, inScope, inBinding, inUniverse]
    exact ⟨⟨⟨⟨⟨sameScope.trans scope.symm, sameBinding.trans binding.symm⟩, sameUniverse.trans finite.symm⟩,
      samePolicy.trans policy.symm⟩, checked⟩, contained⟩
  · intro usable
    refine ⟨⟨usable.certified, usable.guarded⟩, ⟨usable.realizable, usable.assumed⟩, ?_⟩
    intro nogood known defeats
    obtain ⟨owned, standsFor⟩ := mem_selectedNogoods.mp known
    simp only [Nogood.defeats, Bool.and_eq_true, decide_eq_true_eq] at defeats
    exact usable.undefeated nogood owned standsFor defeats.1.2 defeats.2

/-- The rule of the loop is the support of the lemma by the ids reached so far. -/
theorem WellFormed.rule_iff (formed : inputs.WellFormed) {warranted : WarrantedLemma}
    (owned : warranted ∈ inputs.lemmas) (sameClass : warranted.supportClass = inputs.selector.supportClass)
    (reached : List String) :
    inputs.rule reached (warranted.restricted inputs.routeChanges) = true ↔
      inputs.Supported {id | id ∈ reached} warranted := by
  simp only [rule, WarrantedLemma.groundedBy, Bool.and_eq_true, decide_eq_true_eq, List.any_eq_true, Supported,
    sameClass, true_and]
  constructor
  · intro ruled
    obtain ⟨hard, route, member, applicable, closed⟩ := ruled
    obtain ⟨known, stands⟩ := List.mem_filter.mp member
    exact ⟨hard, route, known, (formed.applicable_iff owned sameClass known stands).mp applicable, closed⟩
  · intro supported
    obtain ⟨hard, route, known, usable, closed⟩ := supported
    refine ⟨hard, route, List.mem_filter.mpr ⟨known, usable.stands⟩, ?_, closed⟩
    exact (formed.applicable_iff owned sameClass known usable.stands).mpr usable

/-- A lemma that some set supports is selected. -/
theorem Supported.selected {G : Set String} {warranted : WarrantedLemma} (owned : warranted ∈ inputs.lemmas)
    (supported : inputs.Supported G warranted) : warranted.restricted inputs.routeChanges ∈ inputs.selected := by
  obtain ⟨-, sameClass, route, member, usable, -⟩ := supported
  refine mem_selectedLemmas.mpr ⟨warranted, owned, sameClass, ?_, rfl⟩
  exact List.ne_nil_of_mem (List.mem_filter.mpr ⟨member, usable.stands⟩)

theorem rule_mono (small large : List String) (warranted : WarrantedLemma) (within : small ⊆ large)
    (holds : inputs.rule small warranted = true) : inputs.rule large warranted = true :=
  WarrantedLemma.groundedBy_mono small large warranted within holds

/-- The grounded ids are the least closed set. -/
theorem WellFormed.grounded_least (formed : inputs.WellFormed) :
    IsLeast inputs.ClosedSets {id | id ∈ inputs.grounded} := by
  have least : IsLeast _ {id | id ∈ saturated WarrantedLemma.id inputs.rule inputs.selected} :=
    saturated_isLeast inputs.selected rule_mono
  constructor
  · intro warranted owned supported
    have holds := (formed.rule_iff owned supported.2.1 inputs.grounded).mpr supported
    exact least.1 inputs.grounded (fun id member => member) (warranted.restricted inputs.routeChanges)
      (supported.selected owned) holds
  · intro G closed
    apply least.2
    intro reached within item member holds
    obtain ⟨warranted, owned, sameClass, -, rfl⟩ := mem_selectedLemmas.mp member
    obtain ⟨hard, same, route, known, usable, inside⟩ := (formed.rule_iff owned sameClass reached).mp holds
    exact closed warranted owned ⟨hard, same, route, known, usable, fun dependency required =>
      within dependency (inside dependency required)⟩

/-- The selected views are of the grounded lemmas. -/
theorem mem_ids {id : String} : id ∈ inputs.ids ↔ id ∈ inputs.grounded := by
  unfold ids
  rw [List.mem_map]
  constructor
  · intro ⟨view, member, named⟩
    obtain ⟨warranted, -, shows⟩ := selectActiveTheory_shows member
    rw [← named, shows.named]
    exact shows.is_grounded
  · intro member
    exact grounded_active member

/-- The routes of a selected lemma that the theory can use. -/
def usableRoutes (inputs : TheoryInputs) (warranted : WarrantedLemma) : List SupportRoute :=
  warranted.support.supportRoutes.filter (fun route =>
    routeApplicable warranted route inputs.selector.currentAssumptionIds inputs.selector.currentContextIds
      inputs.standingNogoods inputs.records && route.requiredDependencyIds ⊆ inputs.grounded)

/-- The minimal ones among them, in order. -/
def listedRoutes (inputs : TheoryInputs) (warranted : WarrantedLemma) : List SupportRoute :=
  minimalRoutes (inputs.usableRoutes warranted)

theorem views_eq : inputs.views =
    (inputs.selected.insertionSort (fun left right => left.id ≤ right.id)).filterMap (fun warranted =>
      if warranted.id ∈ inputs.grounded then
        activeView inputs.selector warranted (inputs.listedRoutes warranted)
      else none) := rfl

theorem WellFormed.mem_usableRoutes (formed : inputs.WellFormed) {warranted : WarrantedLemma}
    (owned : warranted ∈ inputs.lemmas) (sameClass : warranted.supportClass = inputs.selector.supportClass)
    {route : SupportRoute} : route ∈ inputs.usableRoutes (warranted.restricted inputs.routeChanges) ↔
      route ∈ warranted.support.allSupportRoutes ∧ inputs.Usable warranted route ∧
        ∀ dependency ∈ route.requiredDependencyIds, dependency ∈ inputs.grounded := by
  simp only [usableRoutes, WarrantedLemma.restricted, List.mem_filter, Bool.and_eq_true, decide_eq_true_eq]
  constructor
  · intro listed
    obtain ⟨⟨known, stands⟩, applicable, closed⟩ := listed
    exact ⟨known, (formed.applicable_iff owned sameClass known stands).mp applicable, closed⟩
  · intro grounds
    obtain ⟨known, usable, closed⟩ := grounds
    exact ⟨⟨known, usable.stands⟩, (formed.applicable_iff owned sameClass known usable.stands).mpr usable, closed⟩

/-- A grounded lemma of the list has a usable route: with distinct ids no other lemma can have grounded it. -/
theorem WellFormed.usable_of_grounded (formed : inputs.WellFormed) {warranted : WarrantedLemma}
    (owned : warranted ∈ inputs.lemmas) (isGrounded : warranted.id ∈ inputs.grounded) :
    inputs.usableRoutes (warranted.restricted inputs.routeChanges) ≠ [] := by
  obtain ⟨item, member, named, holds⟩ := saturated_admitted rule_mono isGrounded
  obtain ⟨other, otherOwned, sameClass, -, rfl⟩ := mem_selectedLemmas.mp member
  have same : other = warranted := List.inj_on_of_nodup_map formed.distinct otherOwned owned named
  subst same
  obtain ⟨-, -, route, known, usable, inside⟩ := (formed.rule_iff owned sameClass _).mp holds
  exact List.ne_nil_of_mem ((formed.mem_usableRoutes owned sameClass).mpr ⟨known, usable, inside⟩)

theorem WellFormed.usable_distinct (formed : inputs.WellFormed) {warranted : WarrantedLemma}
    (owned : warranted ∈ inputs.lemmas) :
    ((inputs.usableRoutes (warranted.restricted inputs.routeChanges)).map SupportRoute.id).Nodup := by
  have unique := (formed.supports warranted owned).routes_unique
  have part : (inputs.usableRoutes (warranted.restricted inputs.routeChanges)).Sublist
      warranted.support.allSupportRoutes :=
    List.filter_sublist.trans List.filter_sublist
  exact unique.sublist (part.map SupportRoute.id)

/-- The view of a grounded lemma is built and passes its validator. -/
theorem WellFormed.view_built (formed : inputs.WellFormed) {warranted : WarrantedLemma}
    (owned : warranted ∈ inputs.lemmas) (isGrounded : warranted.id ∈ inputs.grounded) :
    ∃ view, activeView inputs.selector (warranted.restricted inputs.routeChanges)
        (inputs.listedRoutes (warranted.restricted inputs.routeChanges)) = some view ∧
      view.validateRoutes = .ok view := by
  have nonempty : inputs.listedRoutes (warranted.restricted inputs.routeChanges) ≠ [] := by
    apply splitMinimal_ne_nil
    intro empty
    apply formed.usable_of_grounded owned isGrounded
    have reordered := sortedRoutes_perm (inputs.usableRoutes (warranted.restricted inputs.routeChanges))
    rw [empty] at reordered
    exact reordered.nil_eq.symm
  have distinct : ((inputs.listedRoutes (warranted.restricted inputs.routeChanges)).map SupportRoute.id).Nodup := by
    have part := (minimalSplit_sublist SupportRoute.within
      (sortedRoutes (inputs.usableRoutes (warranted.restricted inputs.routeChanges)))).map SupportRoute.id
    have sorted := (sortedRoutes_perm (inputs.usableRoutes (warranted.restricted inputs.routeChanges))).map
      SupportRoute.id
    exact (sorted.nodup_iff.mpr (formed.usable_distinct owned)).sublist part
  cases listed : inputs.listedRoutes (warranted.restricted inputs.routeChanges) with
  | nil => exact absurd listed nonempty
  | cons primary rest =>
    rw [listed] at distinct
    refine ⟨_, rfl, ?_⟩
    simp only [ActiveLemmaView.validateRoutes, require_bind_eq_ok, pure, Except.pure, and_true]
    exact ⟨by simp, rfl, distinct⟩

/-- The selection raises nothing. -/
theorem WellFormed.run_eq (formed : inputs.WellFormed) : inputs.run = .ok inputs.views := by
  rw [views_eq]
  apply mapM_filter_eq_ok
  · intro item member kept
    obtain ⟨warranted, owned, sameClass, -, rfl⟩ := mem_selectedLemmas.mp ((List.mem_insertionSort _).mp member)
    have isGrounded : warranted.id ∈ inputs.grounded := of_decide_eq_true kept
    obtain ⟨view, built, valid⟩ := formed.view_built owned isGrounded
    refine ⟨view, ?_, (if_pos isGrounded).trans built⟩
    exact found_bind_eq_ok.mpr ⟨view, built, valid⟩
  · intro item member dropped
    exact if_neg (of_decide_eq_false dropped)

/-- What the routes of a view are: usable routes of the lemma with incomparable environments, one inside
every usable route. -/
structure ListsRoutes (inputs : TheoryInputs) (view : ActiveLemmaView) (warranted : WarrantedLemma)
    (routes : List SupportRoute) : Prop where
  listed : view.standingSupportRouteIds = routes.map SupportRoute.id
  nonempty : view.standingSupportRouteIds ≠ []
  usable : ∀ route ∈ routes, route ∈ warranted.support.allSupportRoutes ∧ inputs.Usable warranted route ∧
    ∀ dependency ∈ route.requiredDependencyIds, dependency ∈ inputs.ids
  antichain : routes.Pairwise (fun left right =>
    ¬ left.environment.assumptionIds ⊆ right.environment.assumptionIds ∧
      ¬ right.environment.assumptionIds ⊆ left.environment.assumptionIds)
  covering : ∀ route ∈ warranted.support.allSupportRoutes, inputs.Usable warranted route →
    (∀ dependency ∈ route.requiredDependencyIds, dependency ∈ inputs.ids) →
    ∃ current ∈ routes, current.environment.assumptionIds ⊆ route.environment.assumptionIds

theorem WellFormed.view_lists (formed : inputs.WellFormed) {view : ActiveLemmaView} (member : view ∈ inputs.views) :
    ∃ warranted ∈ inputs.lemmas, warranted.id = view.lemmaVersionId ∧
      ∃ routes, ListsRoutes inputs view warranted routes := by
  rw [views_eq, List.mem_filterMap] at member
  obtain ⟨item, chosen, built⟩ := member
  obtain ⟨warranted, owned, sameClass, -, rfl⟩ := mem_selectedLemmas.mp ((List.mem_insertionSort _).mp chosen)
  split at built
  next isGrounded =>
    obtain ⟨named, -, routeIds⟩ := activeView_routes built
    obtain ⟨same, sameBuilt, -⟩ := formed.view_built owned isGrounded
    have usable_iff : ∀ route, route ∈ inputs.usableRoutes (warranted.restricted inputs.routeChanges) ↔ _ :=
      fun route => formed.mem_usableRoutes owned sameClass
    refine ⟨warranted, owned, named.symm, inputs.listedRoutes (warranted.restricted inputs.routeChanges), routeIds,
      ?_, ?_, ?_, ?_⟩
    · intro empty
      rw [routeIds, List.map_eq_nil_iff] at empty
      rw [empty] at built
      simp [activeView] at built
    · intro route minimal
      have kept := (minimalSplit_sublist SupportRoute.within _).subset minimal
      have candidate := (sortedRoutes_perm _).mem_iff.mp kept
      obtain ⟨known, usable, inside⟩ := (usable_iff route).mp candidate
      exact ⟨known, usable, fun dependency required => mem_ids.mpr (inside dependency required)⟩
    · refine (minimalRoutes_incomparable _).imp ?_
      intro left right apart
      simpa [SupportRoute.within] using apart
    · intro route known usable inside
      have candidate := (usable_iff route).mpr
        ⟨known, usable, fun dependency required => mem_ids.mp (inside dependency required)⟩
      obtain ⟨current, minimal, contained⟩ := minimalSplit_covers SupportRoute.within_refl
        ((sortedRoutes_perm _).mem_iff.mpr candidate)
      exact ⟨current, minimal, by simpa [SupportRoute.within] using contained⟩
  next => simp at built

/-- The ids of the selection are the least closed set. -/
theorem WellFormed.ids_least (formed : inputs.WellFormed) : IsLeast inputs.ClosedSets {id | id ∈ inputs.ids} := by
  have least := formed.grounded_least
  have same : {id | id ∈ inputs.ids} = {id | id ∈ inputs.grounded} := by
    ext id
    exact mem_ids
  rw [same]
  exact least

/-- A selection that supports no more than another one over the same lemmas selects no more. -/
theorem ids_subset {smaller larger : TheoryInputs} (formed : smaller.WellFormed) (formedLarger : larger.WellFormed)
    (same : smaller.lemmas = larger.lemmas)
    (weaker : ∀ warranted ∈ smaller.lemmas, ∀ route ∈ warranted.support.allSupportRoutes,
      smaller.Usable warranted route → larger.Usable warranted route)
    (sameClass : smaller.selector.supportClass = larger.selector.supportClass) : smaller.ids ⊆ larger.ids := by
  apply formed.ids_least.2
  intro warranted owned supported
  obtain ⟨hard, inClass, route, known, usable, inside⟩ := supported
  refine formedLarger.ids_least.1 warranted (same ▸ owned) ⟨hard, inClass.trans sameClass, route, known, ?_, inside⟩
  exact weaker warranted owned route known usable

/-- What supports a lemma does not depend on the list that the lemma comes from. -/
theorem supported_of_lemmas {others : List WarrantedLemma} {G : Set String} {warranted : WarrantedLemma} :
    { inputs with lemmas := others }.Supported G warranted ↔ inputs.Supported G warranted := by
  have usable_iff : ∀ route, { inputs with lemmas := others }.Usable warranted route ↔
      inputs.Usable warranted route := by
    intro route
    constructor
    · intro usable
      exact ⟨usable.stands, usable.certified, usable.realizable, usable.assumed, usable.undefeated, usable.guarded⟩
    · intro usable
      exact ⟨usable.stands, usable.certified, usable.realizable, usable.assumed, usable.undefeated, usable.guarded⟩
  simp only [Supported, usable_iff]

theorem WellFormed.reordered (formed : inputs.WellFormed) {others : List WarrantedLemma}
    (same : others.Perm inputs.lemmas) : { inputs with lemmas := others }.WellFormed where
  versions warranted owned := formed.versions warranted (same.mem_iff.mp owned)
  supports warranted owned := formed.supports warranted (same.mem_iff.mp owned)
  joined warranted owned := formed.joined warranted (same.mem_iff.mp owned)
  distinct := (same.map WarrantedLemma.id).nodup_iff.mpr formed.distinct

/-- The order of the lemmas does not matter. -/
theorem WellFormed.views_of_perm (formed : inputs.WellFormed) {others : List WarrantedLemma}
    (reordered : others.Perm inputs.lemmas) : { inputs with lemmas := others }.views = inputs.views := by
  have formedOthers := formed.reordered reordered
  have selectedPerm : { inputs with lemmas := others }.selected.Perm inputs.selected := reordered.filterMap _
  -- both groundings are least for one and the same family of closed sets
  have sameClosed : { inputs with lemmas := others }.ClosedSets = inputs.ClosedSets := by
    ext G
    constructor
    · intro closed warranted owned supported
      exact closed warranted (reordered.mem_iff.mpr owned) (supported_of_lemmas.mpr supported)
    · intro closed warranted owned supported
      exact closed warranted (reordered.mem_iff.mp owned) (supported_of_lemmas.mp supported)
  have sameGrounded : ∀ id, id ∈ { inputs with lemmas := others }.grounded ↔ id ∈ inputs.grounded := by
    have leastOthers := formedOthers.grounded_least
    rw [sameClosed] at leastOthers
    have equal := leastOthers.unique formed.grounded_least
    intro id
    exact Set.ext_iff.mp equal id
  have sameRoutes : ∀ warranted, { inputs with lemmas := others }.listedRoutes warranted =
      inputs.listedRoutes warranted := by
    intro warranted
    unfold listedRoutes usableRoutes
    have within_iff : ∀ route : SupportRoute,
        (route.requiredDependencyIds ⊆ { inputs with lemmas := others }.grounded) =
          (route.requiredDependencyIds ⊆ inputs.grounded) := by
      intro route
      apply propext
      simp only [List.subset_def, sameGrounded]
    simp only [within_iff]
    rfl
  have sorted : { inputs with lemmas := others }.selected.insertionSort (fun left right => left.id ≤ right.id) =
      inputs.selected.insertionSort (fun left right => left.id ≤ right.id) := by
    have total : Std.Total (fun left right : WarrantedLemma => left.id ≤ right.id) :=
      ⟨fun left right => le_total left.id right.id⟩
    have trans : IsTrans WarrantedLemma (fun left right => left.id ≤ right.id) :=
      ⟨fun first second third => le_trans⟩
    apply insertionSort_eq_of_perm _ selectedPerm
    intro left leftMember right rightMember lower upper
    obtain ⟨first, firstOwned, -, -, rfl⟩ := mem_selectedLemmas.mp leftMember
    obtain ⟨second, secondOwned, -, -, rfl⟩ := mem_selectedLemmas.mp rightMember
    have same : first = second :=
      List.inj_on_of_nodup_map formed.distinct firstOwned secondOwned (le_antisymm lower upper)
    rw [same]
  rw [views_eq, views_eq, sorted]
  simp only [sameGrounded, sameRoutes]

/-- The well-formedness of the inputs is that of their lemmas. -/
theorem WellFormed.of_lemmas (formed : inputs.WellFormed) {other : TheoryInputs} (same : other.lemmas = inputs.lemmas) :
    other.WellFormed := by
  refine ⟨?_, ?_, ?_, ?_⟩ <;> rw [same]
  · exact formed.versions
  · exact formed.supports
  · exact formed.joined
  · exact formed.distinct

omit [Fingerprints] in
/-- The last change of a route decides whether it stands. -/
theorem routeStands_append (changes : List SupportRouteStandingChange) (change : SupportRouteStandingChange)
    (routeId : String) : routeStands (changes ++ [change]) routeId =
      if change.supportRouteId = routeId then Decidable.decide (change.standing = .standing)
      else routeStands changes routeId := by
  unfold routeStands
  rw [indexBy_append_singleton]
  split
  next => rfl
  next => rfl

/-- The selection reads the history of the routes only for what stands. -/
theorem views_of_routeStands {changes : List SupportRouteStandingChange}
    (same : ∀ routeId, routeStands changes routeId = routeStands inputs.routeChanges routeId) :
    { inputs with routeChanges := changes }.views = inputs.views := by
  have sameSelected : selectedLemmas inputs.lemmas inputs.selector changes =
      selectedLemmas inputs.lemmas inputs.selector inputs.routeChanges := by
    unfold selectedLemmas
    simp only [same]
  unfold views selectActiveTheory
  rw [sameSelected]

/-- The selection of the current theory: it ends and raises nothing, its ids are the least set that is
closed under standing support, and it depends on its inputs as it should. -/
theorem active_theory_least (formed : inputs.WellFormed) :
    inputs.run = .ok inputs.views ∧
    (∀ fuel, inputs.selected.length ≤ fuel →
      saturateLoop WarrantedLemma.id inputs.rule inputs.selected fuel [] = inputs.grounded) ∧
    IsLeast inputs.ClosedSets {id | id ∈ inputs.ids} ∧
    (∀ others : List WarrantedLemma, others.Perm inputs.lemmas →
      { inputs with lemmas := others }.run = .ok inputs.views) ∧
    (∀ view ∈ inputs.views, ∃ warranted ∈ inputs.lemmas, warranted.id = view.lemmaVersionId ∧
      ∃ routes, ListsRoutes inputs view warranted routes) ∧
    (∀ more : List Nogood, inputs.nogoods ⊆ more → { inputs with nogoods := more }.ids ⊆ inputs.ids) ∧
    (∀ assumptions contexts : List String, inputs.selector.currentAssumptionIds ⊆ assumptions →
      inputs.selector.currentContextIds ⊆ contexts →
      inputs.ids ⊆ { inputs with selector := { inputs.selector with
        currentAssumptionIds := assumptions, currentContextIds := contexts } }.ids) ∧
    ∀ withdrawal : SupportRouteStandingChange, withdrawal.standing ≠ .standing →
      { inputs with routeChanges := inputs.routeChanges ++ [withdrawal] }.ids ⊆ inputs.ids ∧
      ∀ restoration : SupportRouteStandingChange, restoration.supportRouteId = withdrawal.supportRouteId →
        restoration.standing = .standing → routeStands inputs.routeChanges withdrawal.supportRouteId = true →
        { inputs with routeChanges := inputs.routeChanges ++ [withdrawal] ++ [restoration] }.views = inputs.views := by
  refine ⟨formed.run_eq, ?_, formed.ids_least, ?_, fun view member => formed.view_lists member, ?_, ?_, ?_⟩
  · intro fuel enough
    obtain ⟨more, rfl⟩ := Nat.exists_eq_add_of_le enough
    exact saturateLoop_of_stable inputs.selected _ more [] (saturated_stable inputs.selected)
  · intro others reordered
    have formedOthers : { inputs with lemmas := others }.WellFormed := formed.reordered reordered
    rw [formedOthers.run_eq, formed.views_of_perm reordered]
  · intro more within
    refine ids_subset (formed.of_lemmas rfl) formed rfl ?_ rfl
    intro warranted owned route known usable
    exact ⟨usable.stands, usable.certified, usable.realizable, usable.assumed,
      fun nogood member => usable.undefeated nogood (within member), usable.guarded⟩
  · intro assumptions contexts moreAssumptions moreContexts
    refine ids_subset formed (formed.of_lemmas rfl) rfl ?_ rfl
    intro warranted owned route known usable
    refine ⟨usable.stands, usable.certified, usable.realizable, List.Subset.trans usable.assumed moreAssumptions,
      usable.undefeated, ?_⟩
    have guarded := usable.guarded
    simp only [Applicability.stands, Bool.and_eq_true, Bool.or_eq_true, decide_eq_true_eq] at guarded ⊢
    exact ⟨guarded.1.imp_right (fun active => moreContexts active), List.Subset.trans guarded.2 moreContexts⟩
  · intro withdrawal withdrawn
    constructor
    · refine ids_subset (formed.of_lemmas rfl) formed rfl ?_ rfl
      intro warranted owned route known usable
      have stands := usable.stands
      refine ⟨?_, usable.certified, usable.realizable, usable.assumed, usable.undefeated, usable.guarded⟩
      rw [routeStands_append] at stands
      split at stands
      next => exact absurd (of_decide_eq_true stands) withdrawn
      next => exact stands
    · intro restoration sameRoute restored stood
      apply views_of_routeStands
      intro routeId
      rw [routeStands_append, routeStands_append, sameRoute, restored]
      split
      next same => rw [← same, stood]; rfl
      next => rfl

end

end TheoryInputs

namespace Worked

/-- The route of a lemma over one assumption, which may need another lemma. -/
def routeOver (name assumption : String) (dependency : Option String := none) : SupportRoute :=
  let checked := route ("route-" ++ name) ("lemma-" ++ name) ("decision-" ++ name)
    ⟨"evidence-" ++ name, "verdict-" ++ name⟩ dependency
  { checked with
    environment := { checked.environment with
      assumptionIds := [assumption]
      assumptions_canonical := canonical_singleton assumption } }

/-- A hard lemma of one route. -/
def heldBy (name assumption : String) (dependency : Option String := none) : WarrantedLemma where
  version :=
    { id := "lemma-" ++ name, relationId := name, propositionKind := .existential, scope := scope,
      applicability := ⟨"always", []⟩, sourceClaimIds := [] }
  support :=
    { lemmaVersionId := "lemma-" ++ name, policyVersion := "policy",
      supportRoutes := [routeOver name assumption dependency], warrantClass := .hard, certificateRefs := [],
      provenanceRefs := [] }

/-- The owned checks of the environment, of the nogood and of the lemmas. -/
def theoryChecks : CheckRecords where
  evidenceRecords := ["environment", "nogood", "a", "b", "c", "d", "e"].map (fun name =>
    evidence ("evidence-" ++ name) name)
  checkerVerdicts := ["environment", "nogood", "a", "b", "c", "d", "e"].map (fun name =>
    verdict ("verdict-" ++ name) (evidence ("evidence-" ++ name) name))
  authorizedCheckerIds := ["checker"]

/-- An assumption that is refuted. -/
def refuted : Nogood where
  id := "nogood"
  scopeFingerprint := scope.fingerprint
  bindingRevision := "binding"
  finiteUniverseHash := none
  policyVersion := "policy"
  incompatibleAssumptionIds := ["refuted"]
  check := ⟨"evidence-nogood", "verdict-nogood"⟩
  warrantDecisionId := "decision-nogood"
  reason := "counterexample"

/-- One lemma needs another, two need each other, and one rests on a refuted assumption. -/
def theory : TheoryInputs where
  lemmas := [heldBy "b" "assumption" (some "lemma-a"), heldBy "a" "assumption", heldBy "c" "assumption" (some "lemma-d"),
    heldBy "d" "assumption" (some "lemma-c"), heldBy "e" "refuted"]
  selector := {
    scopeFingerprint := scope.fingerprint
    bindingRevision := "binding"
    finiteUniverseHash := none
    policyVersion := "policy"
    currentAssumptionIds := ["assumption", "refuted"] }
  nogoods := [refuted]
  routeChanges := []
  nogoodChanges := []
  records := theoryChecks

def withdrawnA : SupportRouteStandingChange := ⟨"change", "route-a", .withdrawn, "defeated", none⟩

theorem theory_evaluated :
    (∀ warranted ∈ theory.lemmas, warranted.version.validateVersion = .ok warranted.version ∧
      warranted.support.validateSupport = .ok warranted.support ∧ warranted.validateJoin = .ok warranted) ∧
    (theory.lemmas.map WarrantedLemma.id).Nodup ∧
    theory.ids = ["lemma-a", "lemma-b"] ∧ { theory with nogoods := [] }.ids = ["lemma-a", "lemma-b", "lemma-e"] ∧
    { theory with routeChanges := [withdrawnA] }.ids = [] := by
  decide +kernel

theorem theory_formed : theory.WellFormed := by
  refine ⟨?_, ?_, ?_, theory_evaluated.2.1⟩
  · intro warranted owned
    exact (validateVersion_eq_ok.mp (theory_evaluated.1 warranted owned).1).1
  · intro warranted owned
    exact (validateSupport_eq_ok.mp (theory_evaluated.1 warranted owned).2.1).1
  · intro warranted owned
    exact (validateJoin_eq_ok.mp (theory_evaluated.1 warranted owned).2.2).1

/-- Neither the cycle nor the refuted lemma is selected, in any order of the lemmas. Without the nogood the refuted one
is, and without the route of the first lemma nothing is. -/
theorem theory_least :
    (theory.ids = ["lemma-a", "lemma-b"] ∧ { theory with nogoods := [] }.ids = ["lemma-a", "lemma-b", "lemma-e"] ∧
      { theory with routeChanges := [withdrawnA] }.ids = []) ∧
    theory.run = .ok theory.views ∧ IsLeast theory.ClosedSets {id | id ∈ theory.ids} ∧
    { theory with lemmas := theory.lemmas.reverse }.run = .ok theory.views ∧
    theory.ids ⊆ { theory with nogoods := [] }.ids ∧
    { theory with routeChanges := [withdrawnA] }.ids ⊆ theory.ids := by
  have unrefuted : { theory with nogoods := [] }.WellFormed := theory_formed.of_lemmas rfl
  obtain ⟨runs, -, least, reordered, -, -, -, withdraws⟩ := TheoryInputs.active_theory_least theory_formed
  obtain ⟨-, -, -, -, -, shrinks, -⟩ := TheoryInputs.active_theory_least unrefuted
  refine ⟨theory_evaluated.2.2, runs, least, reordered _ (List.reverse_perm _), ?_, ?_⟩
  · exact shrinks [refuted] (List.nil_subset _)
  · exact (withdraws withdrawnA (by decide)).1

end Worked

end RatchetingInquiry
