import RatchetingInquiry.Core.Growth

/-! No warrant laundering: every promoted lemma keeps, through any later commands, the hard decision it
was promoted under and the independently checked evidence behind that decision. -/

namespace RatchetingInquiry

/-- The link of a lemma leads to an owned hard decision about exactly that lemma, and the decision to
owned evidence and an owned verdict that settle it. -/
structure HardWarrant [Fingerprints] (warrants : WarrantRecords) (context : InquiryContext) (version : LemmaVersion)
    (link : PromotionLink) (decision : WarrantDecisionRecord) (evidence : Evidence) (verdict : CheckerVerdictRecord) :
    Prop where
  decision_owned : warrants.warrantDecisionById link.warrantDecisionId = some decision
  evidence_owned : warrants.evidenceById decision.evidenceId = some evidence
  verdict_owned : warrants.checkerVerdictById decision.checkerVerdictId = some verdict
  hard : decision.warrantClass = .hard
  relation : decision.propositionId = version.relationId
  kind : decision.propositionKind = version.propositionKind
  scope : decision.scopeFingerprint = version.scope.fingerprint
  checked : CheckedPair evidence verdict version.relationId version.propositionKind version.scope.fingerprint
    context.dischargeMechanismIds
  conclusive : evidence.isConclusive version.propositionKind version.scope

section
variable [Fingerprints] {state next : InquiryState} {version : LemmaVersion} {support : LemmaSupport}
  {link : PromotionLink}

/-- Links and lemmas name each other, and every link leads to a hard warrant of its lemma. -/
structure WarrantsHard (context : Option InquiryContext) (warrants : WarrantRecords) : Prop where
  linked : ∀ version ∈ warrants.lemmaVersions, ∃ link ∈ warrants.promotionLinks, link.lemmaVersionId = version.id
  owned : ∀ link ∈ warrants.promotionLinks, link.lemmaVersionId ∈ warrants.lemmaVersions.map LemmaVersion.id
  warranted : ∀ version ∈ warrants.lemmaVersions, ∀ link ∈ warrants.promotionLinks,
    link.lemmaVersionId = version.id → ∃ pins decision evidence verdict, context = some pins ∧
      HardWarrant warrants pins version link decision evidence verdict

theorem HardWarrant.extended {earlier later : WarrantRecords} {context : InquiryContext}
    {decision : WarrantDecisionRecord} {evidence : Evidence} {verdict : CheckerVerdictRecord}
    (warrant : HardWarrant earlier context version link decision evidence verdict) (grown : earlier.Extends later) :
    HardWarrant later context version link decision evidence verdict where
  decision_owned := grown.decisions.find?_eq_some warrant.decision_owned
  evidence_owned := grown.evidence.find?_eq_some warrant.evidence_owned
  verdict_owned := grown.verdicts.find?_eq_some warrant.verdict_owned
  hard := warrant.hard
  relation := warrant.relation
  kind := warrant.kind
  scope := warrant.scope
  checked := warrant.checked
  conclusive := warrant.conclusive

/-- A promotion event passed every gate of the promotion that it is rebuilt into. -/
theorem lemmaPromoted_lawful
    (lawful : decideWarrant state (WarrantEvent.lemmaPromoted version support link).command =
      .ok (some (.lemmaPromoted version support link))) :
    ∃ context decision evidence verdict,
      PromotionLawful state (rebuiltPromotion version support link) context decision evidence verdict
        ⟨version, support⟩ ∧ link.lemmaVersionId = version.id ∧ link.warrantDecisionId = decision.id := by
  obtain ⟨context, decision, evidence, verdict, warranted, passed, same⟩ := decidePromoteClaim_eq_some.mp lawful
  simp only [WarrantEvent.lemmaPromoted.injEq] at same
  obtain ⟨rfl, rfl, linked⟩ := same
  refine ⟨context, decision, evidence, verdict, passed, ?_, ?_⟩
  · rw [linked]
    rfl
  · rw [linked]
    rfl

theorem PromotionLawful.hardWarrant {context : InquiryContext} {decision : WarrantDecisionRecord}
    {evidence : Evidence} {verdict : CheckerVerdictRecord}
    (passed : PromotionLawful state (rebuiltPromotion version support link) context decision evidence verdict
      ⟨version, support⟩) :
    HardWarrant state.toWarrantRecords context version link decision evidence verdict := by
  obtain ⟨decisionOwned, exactly, evidenceOwned, verdictOwned, -⟩ := promotionWarrant_eq_ok.mp passed.warrant
  obtain ⟨checked, conclusive⟩ := decideEvidenceWarrant_hard_iff.mp passed.accepted.hard
  simp only [WarrantDecisionRecord.warrantsPromotion, Bool.and_eq_true, decide_eq_true_eq] at exactly
  obtain ⟨⟨⟨hard, relation⟩, kind⟩, scope⟩ := exactly
  exact ⟨decisionOwned, evidenceOwned, verdictOwned, hard, relation, kind, scope, checked, conclusive⟩

theorem warrantsHard_promoted (hard : WarrantsHard state.context state.toWarrantRecords)
    (lawful : decideWarrant state (WarrantEvent.lemmaPromoted version support link).command =
      .ok (some (.lemmaPromoted version support link))) :
    WarrantsHard state.context (state.toWarrantRecords.apply (.lemmaPromoted version support link)) := by
  obtain ⟨context, decision, evidence, verdict, passed, linkNames, -⟩ := lemmaPromoted_lawful lawful
  have grown := state.toWarrantRecords.extends_apply (.lemmaPromoted version support link)
  have fresh : version.id ∉ state.lemmaVersions.map LemmaVersion.id :=
    find_eq_none_iff.mp passed.version_fresh
  refine ⟨?_, ?_, ?_⟩
  · intro other member
    simp only [WarrantRecords.apply, List.mem_append, List.mem_singleton] at member ⊢
    rcases member with earlier | rfl
    · obtain ⟨otherLink, owned, names⟩ := hard.linked other earlier
      exact ⟨otherLink, .inl owned, names⟩
    · exact ⟨link, .inr rfl, linkNames⟩
  · intro otherLink member
    simp only [WarrantRecords.apply, List.mem_append, List.mem_singleton, List.map_append, List.map_cons,
      List.map_nil] at member ⊢
    rcases member with earlier | rfl
    · exact .inl (hard.owned otherLink earlier)
    · exact .inr linkNames
  · intro other member otherLink linkMember names
    simp only [WarrantRecords.apply, List.mem_append, List.mem_singleton] at member linkMember
    -- the new identity was not owned, so a link and a lemma of different ages never meet
    rcases member with earlier | rfl <;> rcases linkMember with linkEarlier | rfl
    · obtain ⟨pins, otherDecision, otherEvidence, otherVerdict, pinned, warrant⟩ :=
        hard.warranted other earlier otherLink linkEarlier names
      exact ⟨pins, otherDecision, otherEvidence, otherVerdict, pinned, warrant.extended grown⟩
    · exact absurd (List.mem_map.mpr ⟨other, earlier, by rw [← names, linkNames]⟩) fresh
    · exact absurd (names ▸ hard.owned otherLink linkEarlier) fresh
    · exact ⟨context, decision, evidence, verdict, passed.context_pinned, passed.hardWarrant.extended grown⟩

/-- Events other than a promotion only add records around the lemmas and links. -/
theorem WarrantsHard.grown {context : Option InquiryContext} {earlier later : WarrantRecords}
    (hard : WarrantsHard context earlier) (grown : earlier.Extends later)
    (versions : later.lemmaVersions = earlier.lemmaVersions) (links : later.promotionLinks = earlier.promotionLinks) :
    WarrantsHard context later := by
  refine ⟨?_, ?_, ?_⟩
  · rw [versions, links]
    exact hard.linked
  · rw [versions, links]
    exact hard.owned
  · rw [versions, links]
    intro version member link linkMember names
    obtain ⟨pins, decision, evidence, verdict, pinned, warrant⟩ := hard.warranted version member link linkMember names
    exact ⟨pins, decision, evidence, verdict, pinned, warrant.extended grown⟩

theorem warrantsHard_extended (hard : WarrantsHard state.context state.toWarrantRecords) (event : WarrantEvent)
    (lawful : decideWarrant state event.command = .ok (some event)) :
    WarrantsHard state.context (state.toWarrantRecords.apply event) := by
  have grown := state.toWarrantRecords.extends_apply event
  cases event with
  | lemmaPromoted version support link => exact warrantsHard_promoted hard lawful
  | _ => exact hard.grown grown rfl rfl

theorem Replayable.warrantsHard (replayed : Replayable state) : WarrantsHard state.context state.toWarrantRecords := by
  refine eventRun_induction (P := fun state => WarrantsHard state.context state.toWarrantRecords) replayed ?_ ?_
  · intro before head body after hard transition _
    rcases transition.warrantView with ⟨-, records⟩ | ⟨context, records⟩ | ⟨event, -, lawful, context, -, records⟩
    · rw [records]
      constructor <;> simp
    · rw [context, records]
      exact hard
    · rw [context, records]
      exact warrantsHard_extended hard event lawful
  · constructor <;> simp [initialState]

/-- The kinds of evidence that never settle a proposition by themselves. -/
def EvidenceKind.isProvisional (kind : EvidenceKind) : Bool :=
  kind ∈ [.modelOutput, .reification, .z3Unsat, .heuristic, .retrieval, .observation]

omit [Fingerprints] in
theorem Evidence.isConclusive.not_provisional {evidence : Evidence} {propositionKind : PropositionKind} {scope : Scope}
    (conclusive : evidence.isConclusive propositionKind scope) : evidence.kind.isProvisional = false := by
  rcases conclusive with ⟨kind, -⟩ | ⟨kind, -⟩ <;> rw [kind] <;> rfl

/-- Every lemma of a reachable state has a link, and every link of it leads to a hard warrant. -/
theorem lemma_hard_warranted (reached : Reachable state) (owned : version ∈ state.lemmaVersions) :
    (∃ link ∈ state.promotionLinks, link.lemmaVersionId = version.id) ∧
      ∀ link ∈ state.promotionLinks, link.lemmaVersionId = version.id → ∃ context decision evidence verdict,
        state.context = some context ∧
          HardWarrant state.toWarrantRecords context version link decision evidence verdict ∧
          evidence.kind.isProvisional = false := by
  have hard := reached.replayable.warrantsHard
  refine ⟨hard.linked version owned, ?_⟩
  intro link member names
  obtain ⟨context, decision, evidence, verdict, pinned, warrant⟩ := hard.warranted version owned link member names
  exact ⟨context, decision, evidence, verdict, pinned, warrant, warrant.conclusive.not_provisional⟩

end

/-! Promotions of the worked inquiry: an existential claim, a witness for it and for the realizability of
its environment, and a promotion that rests on both. -/

namespace Worked

def claim (id proposition : String) : Claim where
  id := id
  role := .observation
  boundArgs := []
  payload := .json .null
  scope := scope
  provenance := ⟨"author", "worked", none⟩
  propositionId := some proposition

/-- Evidence of a kind for an existential proposition. -/
def evidence (id proposition : String) (kind : EvidenceKind := .independentWitness) : Evidence where
  id := id
  kind := kind
  propositionId := proposition
  propositionKind := .existential
  scopeFingerprint := scope.fingerprint
  artifact := artifact id
  closed_hashed := by simp

/-- The authorized checker validates a piece of evidence. -/
def verdict (id : String) (evidence : Evidence) : CheckerVerdictRecord where
  id := id
  evidenceId := evidence.id
  evidenceArtifact := evidence.artifact
  propositionId := evidence.propositionId
  propositionKind := evidence.propositionKind
  scopeFingerprint := evidence.scopeFingerprint
  checkerId := "checker"
  checkerVersion := "1"
  verdict := .valid
  verdictArtifact := artifact id
  certificateArtifact := some (artifact (id ++ "-certificate"))
  valid_certified := by simp

def environment (check : CheckReference) : SupportEnvironment where
  id := "environment"
  scopeFingerprint := scope.fingerprint
  bindingRevision := "binding"
  assumptionIds := ["assumption"]
  finiteUniverseHash := none
  realizabilityCheck := check

/-- A route to a lemma over the worked environment, certified by the check of one piece of evidence. -/
def route (id conclusion decision : String) (certificate : CheckReference) (dependency : Option String := none) :
    SupportRoute where
  id := id
  conclusionId := conclusion
  environment := environment ⟨"evidence-environment", "verdict-environment"⟩
  requiredDependencyIds := dependency.toList
  openDependencyIds := []
  certificateCheck := certificate
  warrantRefs := [decision]
  required_canonical := by cases dependency <;> simp
  open_required := by simp

/-- Record evidence for a proposition with its valid check. -/
def check (name proposition : String) (kind : EvidenceKind := .independentWitness) : List CommandBody :=
  [.warrant (.recordEvidence (evidence ("evidence-" ++ name) proposition kind)),
    .warrant (.recordCheckerVerdict
      (verdict ("verdict-" ++ name) (evidence ("evidence-" ++ name) proposition kind)))]

def evaluate (name proposition : String) : CommandBody :=
  .warrant (.evaluateWarrant {
    decisionId := "decision-" ++ name
    evidenceId := "evidence-" ++ name
    checkerVerdictId := "verdict-" ++ name
    propositionId := proposition
    propositionKind := .existential
    scope := scope })

/-- Promote a proposition under the decision of the same name, over the given routes. -/
def promote (name proposition : String) (routes : List SupportRoute) (condition : String := "always") : CommandBody :=
  .warrant (.promoteClaim {
    promotionId := "promotion-" ++ name
    lemmaId := "lemma-" ++ name
    relationId := proposition
    propositionKind := .existential
    scope := scope
    applicability := ⟨condition, []⟩
    supportRoutes := routes
    warrantDecisionId := "decision-" ++ name
    provenanceRefs := ["provenance"]
    sourceClaimIds := ["claim-" ++ name] })

/-- Admit the claim of a proposition, check a witness of it and evaluate the warrant. -/
def warranted (name proposition : String) : List CommandBody :=
  .claim (.admitClaim (claim ("claim-" ++ name) proposition)) :: check name proposition ++ [evaluate name proposition]

/-- The inquiry after the promotion of its first lemma. -/
def promoted : List CommandBody :=
  start :: check "environment" "environment" ++ warranted "a" "a" ++
    [promote "a" "a" [route "route-a" "lemma-a" "decision-a" ⟨"evidence-a", "verdict-a"⟩]]

/-- The worked inquiry owns a lemma, so the theorem speaks about it. -/
theorem promoted_lemma_hard_warranted : ∃ version ∈ (reached promoted).lemmaVersions,
    (∃ link ∈ (reached promoted).promotionLinks, link.lemmaVersionId = version.id) ∧
      ∀ link ∈ (reached promoted).promotionLinks, link.lemmaVersionId = version.id →
        ∃ context decision evidence verdict, (reached promoted).context = some context ∧
          HardWarrant (reached promoted).toWarrantRecords context version link decision evidence verdict ∧
          evidence.kind.isProvisional = false := by
  have owned : (reached promoted).lemmaVersions ≠ [] := by decide +kernel
  obtain ⟨version, member⟩ := List.exists_mem_of_ne_nil _ owned
  exact ⟨version, member, lemma_hard_warranted (reachable_reached promoted) member⟩

end Worked

end RatchetingInquiry
