import RatchetingInquiry.Backlog.Recurrences

/-! The identity of backlog effects. It is made of the kind, the finding, the target and the evidence, while an
effect carries more of its finding; recording an effect whose identity is owned with other content is refused. -/

namespace RatchetingInquiry

section
variable [Fingerprints]

/-- The text that the identity of an effect is made of. -/
def BacklogEffect.material (effect : BacklogEffect) : String :=
  effectMaterial effect.kind effect.findingId effect.targetItemId effect.evidenceDigest

/-- The digests of the effects tell their texts apart. -/
def TextsTold (effects others : List BacklogEffect) : Prop :=
  ∀ effect ∈ effects, ∀ other ∈ others, shortDigest (Fingerprints.digest (.backlogEffect effect.material)) =
    shortDigest (Fingerprints.digest (.backlogEffect other.material)) → effect.material = other.material

/-- The item that a finding of a reconciliation is about. -/
def targetIn (closed existing : List BacklogItem) (findings : List BacklogFinding) (finding : BacklogFinding) :
    String :=
  match indexBy BacklogItem.fingerprint existing finding.fingerprint with
  | some item => item.id
  | none => (((leadingFinding findings finding.fingerprint).getD finding).opening closed).createdItemId

/-- The finding opens an item: none is open, and it leads. -/
def OpensItem (existing : List BacklogItem) (findings : List BacklogFinding) (finding : BacklogFinding) : Prop :=
  indexBy BacklogItem.fingerprint existing finding.fingerprint = none ∧
    leadingFinding findings finding.fingerprint = some finding

def createEffect (closed : List BacklogItem) (finding : BacklogFinding) (target : String) : BacklogEffect :=
  (finding.opening closed).effect .create target
    (if (indexBy BacklogItem.fingerprint closed finding.fingerprint).isSome then "linked recurrence"
      else "new exact fingerprint")

/-- The effects of a finding in a reconciliation. -/
inductive EffectOf (closed existing : List BacklogItem) (findings : List BacklogFinding) (finding : BacklogFinding) :
    BacklogEffect → Prop where
  | create (opens : OpensItem existing findings finding) : EffectOf closed existing findings finding
      (createEffect closed finding (targetIn closed existing findings finding))
  | dedupe : EffectOf closed existing findings finding
      (finding.effect .dedupe (targetIn closed existing findings finding) "exact fingerprint match")
  | rank : EffectOf closed existing findings finding
      (rankEffect finding (targetIn closed existing findings finding))
  | block : EffectOf closed existing findings finding
      (finding.effect .block (targetIn closed existing findings finding) "checked prerequisite is open")
  | close : EffectOf closed existing findings finding
      (finding.effect .close (targetIn closed existing findings finding)
        "fresh checked closure evidence; proposal-only in G1")

section
variable {closed existing : List BacklogItem} {findings rest : List BacklogFinding} {first finding : BacklogFinding}

/-- Later findings of one fingerprint are about the item of the first. -/
theorem targetIn_same (same : first.fingerprint = finding.fingerprint) :
    targetIn closed existing (first :: rest) finding = targetOf closed existing first := by
  have leads : leadingFinding (first :: rest) finding.fingerprint = some first := by
    rw [leadingFinding_cons, if_pos same]
  unfold targetIn targetOf
  rw [same]
  cases indexBy BacklogItem.fingerprint existing finding.fingerprint with
  | some item => rfl
  | none => simp only [leads, Option.getD_some]

theorem targetIn_first : targetIn closed existing (first :: rest) first = targetOf closed existing first :=
  targetIn_same rfl

theorem targetIn_rest :
    targetIn closed (recalled closed existing first) rest finding =
      targetIn closed existing (first :: rest) finding := by
  by_cases same : first.fingerprint = finding.fingerprint
  · obtain ⟨projected, hit, keyed⟩ := recalled_self closed existing first
    rw [same] at hit
    have inRest : targetIn closed (recalled closed existing first) rest finding = projected.id := by
      rw [targetIn, hit]
    rw [inRest, targetIn_same same, keyed]
  · unfold targetIn
    rw [recalled_other closed existing same, leadingFinding_cons, if_neg same]

theorem opensItem_first (unmatched : indexBy BacklogItem.fingerprint existing first.fingerprint = none) :
    OpensItem existing (first :: rest) first :=
  ⟨unmatched, by rw [leadingFinding_cons, if_pos rfl]⟩

theorem opensItem_rest (opens : OpensItem (recalled closed existing first) rest finding) :
    OpensItem existing (first :: rest) finding := by
  obtain ⟨unmatched, leads⟩ := opens
  have differs : first.fingerprint ≠ finding.fingerprint := by
    intro same
    obtain ⟨projected, hit, -⟩ := recalled_self closed existing first
    rw [same, unmatched] at hit
    cases hit
  rw [recalled_other closed existing differs] at unmatched
  exact ⟨unmatched, by rw [leadingFinding_cons, if_neg differs, leads]⟩

theorem EffectOf.of_rest {effect : BacklogEffect}
    (owned : EffectOf closed (recalled closed existing first) rest finding effect) :
    EffectOf closed existing (first :: rest) finding effect := by
  cases owned with
  | create opens =>
    rw [targetIn_rest]
    exact .create (opensItem_rest opens)
  | dedupe =>
    rw [targetIn_rest]
    exact .dedupe
  | rank =>
    rw [targetIn_rest]
    exact .rank
  | block =>
    rw [targetIn_rest]
    exact .block
  | close =>
    rw [targetIn_rest]
    exact .close

theorem findingEffects_cases {effect : BacklogEffect} (owned : effect ∈ findingEffects closed existing first) :
    EffectOf closed existing (first :: rest) first effect := by
  have target : targetIn closed existing (first :: rest) first = targetOf closed existing first := targetIn_first
  unfold findingEffects at owned
  rcases List.mem_cons.mp owned with opening | later
  · rw [opening]
    unfold openingEffect
    rw [← target]
    split
    next => exact .dedupe
    next unmatched => exact .create (opensItem_first (Option.not_isSome_iff_eq_none.mp unmatched))
  · rcases List.mem_cons.mp later with ranking | status
    · rw [ranking, ← target]
      exact .rank
    · unfold statusEffects at status
      rw [← target] at status
      split at status
      next => exact List.mem_singleton.mp status ▸ .block
      next => exact List.mem_singleton.mp status ▸ .close
      next => exact absurd status List.not_mem_nil

/-- Every effect of a reconciliation is one of a checked finding. -/
theorem traceEffects_cases {effect : BacklogEffect} (owned : effect ∈ traceEffects closed existing findings) :
    ∃ finding ∈ findings, EffectOf closed existing findings finding effect := by
  induction findings generalizing existing with
  | nil => exact absurd owned List.not_mem_nil
  | cons first rest ih =>
    rcases List.mem_append.mp owned with here | later
    · exact ⟨first, List.mem_cons_self, findingEffects_cases here⟩
    · obtain ⟨finding, listed, found⟩ := ih later
      exact ⟨finding, List.mem_cons_of_mem _ listed, found.of_rest⟩

/-- Every finding of a reconciliation ranks its item. -/
theorem rankEffect_mem (listed : finding ∈ findings) :
    rankEffect finding (targetIn closed existing findings finding) ∈ traceEffects closed existing findings := by
  induction findings generalizing existing with
  | nil => exact absurd listed List.not_mem_nil
  | cons first rest ih =>
    rcases List.mem_cons.mp listed with here | later
    · subst here
      rw [targetIn_first]
      exact List.mem_append_left _ (List.mem_cons_of_mem _ List.mem_cons_self)
    · rw [← targetIn_rest]
      exact List.mem_append_right _ (ih later)

/-- A finding that leads where no item is open creates one. -/
theorem createEffect_mem (opens : OpensItem existing findings finding) :
    createEffect closed finding (targetIn closed existing findings finding) ∈
      traceEffects closed existing findings := by
  induction findings generalizing existing with
  | nil => exact absurd (leadingFinding_some opens.2).1 List.not_mem_nil
  | cons first rest ih =>
    obtain ⟨unmatched, leads⟩ := opens
    rw [leadingFinding_cons] at leads
    split at leads
    next =>
      obtain rfl := Option.some.inj leads
      rw [targetIn_first]
      apply List.mem_append_left
      unfold findingEffects openingEffect
      rw [unmatched]
      exact List.mem_cons_self
    next differs =>
      rw [← targetIn_rest]
      refine List.mem_append_right _ (ih ⟨?_, leads⟩)
      rw [recalled_other closed existing differs, unmatched]

end

/-- What a reconciliation is made from. -/
structure BacklogRun where
  items : List BacklogItem
  findings : List BacklogFinding

def BacklogRun.closed (run : BacklogRun) : List BacklogItem := run.items.filter BacklogItem.closed

def BacklogRun.existing (run : BacklogRun) : List BacklogItem := run.items.filter (fun item => !item.closed)

def BacklogRun.target (run : BacklogRun) (finding : BacklogFinding) : String :=
  targetIn run.closed run.existing (checkedFindings run.findings) finding

/-- The finding opens an item in this run. -/
def BacklogRun.Opens (run : BacklogRun) (finding : BacklogFinding) : Prop :=
  OpensItem run.existing (checkedFindings run.findings) finding

/-- What the identities of the effects of a finding are made of beside their kinds. -/
def BacklogRun.identityText (run : BacklogRun) (finding : BacklogFinding) : String :=
  finding.id ++ "\x00" ++ run.target finding ++ "\x00" ++ finding.evidenceDigest.getD ""

/-- Two findings report the same, whatever their status. -/
structure SameReport (first second : BacklogFinding) : Prop where
  id : first.id = second.id
  title : first.title = second.title
  consequence : first.protectedConsequence = second.protectedConsequence
  source : first.source = second.source
  evidence : first.evidenceDigest = second.evidenceDigest
  workspace : first.workspaceDigest = second.workspaceDigest
  priority : first.priority = second.priority
  recurrence : first.recurrenceOf = second.recurrenceOf

/-- Two items are opened from the same item, with or without closed items of the fingerprint. -/
structure SameOpening (run other : BacklogRun) (first second : BacklogFinding) : Prop where
  recurrence : (first.opening run.closed).recurrenceOf = (second.opening other.closed).recurrenceOf
  linked : (indexBy BacklogItem.fingerprint run.closed first.fingerprint).isSome =
    (indexBy BacklogItem.fingerprint other.closed second.fingerprint).isSome

/-- Checked findings of two runs that have one identity text report the same about one item, and open it alike. -/
def BacklogRun.Tells (run other : BacklogRun) : Prop :=
  ∀ first ∈ run.findings, ∀ second ∈ other.findings, first.evidenceStatus.checked →
    second.evidenceStatus.checked → run.identityText first = other.identityText second →
    SameReport first second ∧ run.target first = other.target second ∧
      (run.Opens first → other.Opens second → SameOpening run other first second)

theorem SameReport.fingerprint {first second : BacklogFinding} (same : SameReport first second) :
    first.fingerprint = second.fingerprint := by
  unfold BacklogFinding.fingerprint
  rw [same.title, same.consequence, same.source]

theorem SameReport.effect {first second : BacklogFinding} (same : SameReport first second)
    (kind : BacklogEffectKind) (target reason : String) (rank : Option Int) :
    first.effect kind target reason rank = second.effect kind target reason rank := by
  unfold BacklogFinding.effect
  rw [same.id, same.title, same.consequence, same.source, same.evidence, same.workspace, same.recurrence,
    same.fingerprint]

omit [Fingerprints] in
theorem value_without_separator (kind : BacklogEffectKind) : '\x00' ∉ kind.value.toList := by
  cases kind <;> decide

omit [Fingerprints] in
theorem value_injective {first second : BacklogEffectKind} (same : first.value = second.value) : first = second := by
  cases first <;> cases second <;> first | rfl | exact absurd same (by decide)

omit [Fingerprints] in
/-- What stands before the first separator, and what behind. -/
theorem first_separator {separator : Char} {front other back rest : List Char} (first : separator ∉ front)
    (second : separator ∉ other) (same : front ++ separator :: back = other ++ separator :: rest) :
    front = other ∧ back = rest := by
  induction front generalizing other with
  | nil =>
    cases other with
    | nil => exact ⟨rfl, (List.cons.inj same).2⟩
    | cons head tail => exact absurd ((List.cons.inj same).1 ▸ List.mem_cons_self) second
  | cons head tail ih =>
    cases other with
    | nil => exact absurd ((List.cons.inj same).1 ▸ List.mem_cons_self) first
    | cons head' tail' =>
      obtain ⟨heads, tails⟩ := List.cons.inj same
      have later := ih (fun inside => first (List.mem_cons_of_mem _ inside))
        (fun inside => second (List.mem_cons_of_mem _ inside)) tails
      exact ⟨by rw [heads, later.1], later.2⟩

omit [Fingerprints] in
/-- The text of an identity tells the kind and the rest of the text. -/
theorem kind_of_text {first second : BacklogEffectKind} {text other : String}
    (same : first.value ++ "\x00" ++ text = second.value ++ "\x00" ++ other) : first = second ∧ text = other := by
  have spelled := congrArg String.toList same
  simp only [String.toList_append, List.append_assoc] at spelled
  obtain ⟨kinds, rest⟩ := first_separator (value_without_separator first) (value_without_separator second) spelled
  exact ⟨value_injective (String.toList_injective kinds), String.toList_injective rest⟩

section
variable {run other : BacklogRun} {effects otherEffects : List BacklogEffect} {first second : BacklogFinding}

theorem material_eq {effect : BacklogEffect} (owned : EffectOf run.closed run.existing (checkedFindings run.findings)
    first effect) : effect.material = effect.kind.value ++ "\x00" ++ run.identityText first ∧
      effect.id = "bfx_" ++ shortDigest (Fingerprints.digest (.backlogEffect effect.material)) := by
  have text (kind : BacklogEffectKind) : effectMaterial kind first.id (run.target first)
      (first.evidenceDigest.getD "") = kind.value ++ "\x00" ++ run.identityText first := by
    unfold effectMaterial BacklogRun.identityText
    simp only [String.append_assoc]
  cases owned with
  | create => exact ⟨text .create, rfl⟩
  | dedupe => exact ⟨text .dedupe, rfl⟩
  | rank => exact ⟨text .rank, rfl⟩
  | block => exact ⟨text .block, rfl⟩
  | close => exact ⟨text .close, rfl⟩

theorem reconcile_run (run : BacklogRun) : reconcile run.items run.findings =
    .ok (traceEffects run.closed run.existing (checkedFindings run.findings)) := reconcile_eq run.items run.findings

/-- Effects of findings that report the same about one item and open it alike are equal when their kinds are. -/
theorem effect_eq {effect otherEffect : BacklogEffect} (same : SameReport first second)
    (target : run.target first = other.target second)
    (opening : run.Opens first → other.Opens second → SameOpening run other first second)
    (owned : EffectOf run.closed run.existing (checkedFindings run.findings) first effect)
    (ownedToo : EffectOf other.closed other.existing (checkedFindings other.findings) second otherEffect)
    (kind : effect.kind = otherEffect.kind) : effect = otherEffect := by
  unfold BacklogRun.target at target
  cases owned with
  | create opens =>
    cases ownedToo with
    | create opensToo =>
      obtain ⟨recurrence, linked⟩ := opening opens opensToo
      have openedSame : SameReport (first.opening run.closed) (second.opening other.closed) :=
        { same with recurrence := recurrence }
      unfold createEffect
      rw [target, linked]
      exact openedSame.effect _ _ _ _
    | _ => cases kind
  | dedupe =>
    cases ownedToo with
    | dedupe =>
      rw [target]
      exact same.effect _ _ _ _
    | _ => cases kind
  | rank =>
    cases ownedToo with
    | rank =>
      unfold rankEffect
      rw [target, same.priority]
      exact same.effect _ _ _ _
    | _ => cases kind
  | block =>
    cases ownedToo with
    | block =>
      rw [target]
      exact same.effect _ _ _ _
    | _ => cases kind
  | close =>
    cases ownedToo with
    | close =>
      rw [target]
      exact same.effect _ _ _ _
    | _ => cases kind

/-- Effects of two runs that tell are equal when their identities are. -/
theorem BacklogRun.Tells.effect_unique (tells : run.Tells other)
    (done : reconcile run.items run.findings = .ok effects)
    (doneToo : reconcile other.items other.findings = .ok otherEffects) (told : TextsTold effects otherEffects) :
    ∀ effect ∈ effects, ∀ otherEffect ∈ otherEffects, effect.id = otherEffect.id → effect = otherEffect := by
  rw [reconcile_run] at done doneToo
  obtain rfl := Except.ok.inj done
  obtain rfl := Except.ok.inj doneToo
  intro effect owned otherEffect ownedToo sameId
  obtain ⟨first, listed, ofFirst⟩ := traceEffects_cases owned
  obtain ⟨second, listedToo, ofSecond⟩ := traceEffects_cases ownedToo
  obtain ⟨material, identity⟩ := material_eq ofFirst
  obtain ⟨materialToo, identityToo⟩ := material_eq ofSecond
  have digests : shortDigest (Fingerprints.digest (.backlogEffect effect.material)) =
      shortDigest (Fingerprints.digest (.backlogEffect otherEffect.material)) := by
    rw [identity, identityToo] at sameId
    exact (String.append_right_inj "bfx_").mp sameId
  have texts := told effect owned otherEffect ownedToo digests
  rw [material, materialToo] at texts
  obtain ⟨kind, text⟩ := kind_of_text texts
  obtain ⟨inFirst, checked⟩ := mem_checkedFindings.mp listed
  obtain ⟨inSecond, checkedToo⟩ := mem_checkedFindings.mp listedToo
  obtain ⟨same, target, opening⟩ := tells first inFirst second inSecond checked checkedToo text
  exact effect_eq same target opening ofFirst ofSecond kind

/-- Where identities tell the effects of two runs, the runs tell. -/
theorem tells_of_unique (done : reconcile run.items run.findings = .ok effects)
    (doneToo : reconcile other.items other.findings = .ok otherEffects)
    (unique : ∀ effect ∈ effects, ∀ otherEffect ∈ otherEffects, effect.id = otherEffect.id → effect = otherEffect) :
    run.Tells other := by
  rw [reconcile_run] at done doneToo
  obtain rfl := Except.ok.inj done
  obtain rfl := Except.ok.inj doneToo
  have equal {effect otherEffect : BacklogEffect}
      (owned : effect ∈ traceEffects run.closed run.existing (checkedFindings run.findings))
      (ownedToo : otherEffect ∈ traceEffects other.closed other.existing (checkedFindings other.findings))
      {first second : BacklogFinding}
      (ofFirst : EffectOf run.closed run.existing (checkedFindings run.findings) first effect)
      (ofSecond : EffectOf other.closed other.existing (checkedFindings other.findings) second otherEffect)
      (kind : effect.kind = otherEffect.kind) (text : run.identityText first = other.identityText second) :
      effect = otherEffect := by
    apply unique effect owned otherEffect ownedToo
    obtain ⟨material, identity⟩ := material_eq ofFirst
    obtain ⟨materialToo, identityToo⟩ := material_eq ofSecond
    rw [identity, identityToo, material, materialToo, kind, text]
  intro first inFirst second inSecond checked checkedToo text
  have listed := mem_checkedFindings.mpr ⟨inFirst, checked⟩
  have listedToo := mem_checkedFindings.mpr ⟨inSecond, checkedToo⟩
  have ranking := equal (rankEffect_mem listed) (rankEffect_mem listedToo) .rank .rank rfl text
  simp only [rankEffect, BacklogFinding.effect, BacklogEffect.mk.injEq] at ranking
  obtain ⟨-, -, id, target, -, title, consequence, source, recurrence, priority, evidence, workspace, -⟩ := ranking
  have evidenceSame : first.evidenceDigest = second.evidenceDigest := by
    obtain ⟨digest, given, -⟩ := first.evidenced checked
    obtain ⟨digestToo, givenToo, -⟩ := second.evidenced checkedToo
    rw [Option.mem_def] at given givenToo
    rw [given, givenToo] at evidence ⊢
    exact congrArg some evidence
  refine ⟨⟨id, title, consequence, source, evidenceSame, workspace, Option.some.inj priority, recurrence⟩, target, ?_⟩
  intro opens opensToo
  have creating := equal (createEffect_mem opens) (createEffect_mem opensToo) (.create opens) (.create opensToo)
    rfl text
  simp only [createEffect, BacklogFinding.effect, BacklogEffect.mk.injEq] at creating
  obtain ⟨-, -, -, -, -, -, -, -, linked, -, -, -, reason⟩ := creating
  refine ⟨linked, ?_⟩
  by_cases prior : (indexBy BacklogItem.fingerprint run.closed first.fingerprint).isSome <;>
    by_cases priorToo : (indexBy BacklogItem.fingerprint other.closed second.fingerprint).isSome <;>
    simp_all

end

/-- The backlog effects of an inquiry come from runs of a family. -/
def RecordedFrom (runs : BacklogRun → Prop) (state : InquiryState) : Prop :=
  ∀ effect ∈ state.backlogEffects, ∃ run, runs run ∧ ∃ effects,
    reconcile run.items run.findings = .ok effects ∧ effect ∈ effects

/-- An effect whose identity is owned by no other effect is refused, repeated or recorded. -/
theorem decideBacklogEffect_cases {state : InquiryState} {effect : BacklogEffect}
    (unique : ∀ prior ∈ state.backlogEffects, prior.id = effect.id → prior = effect) :
    (∃ reason, decideEffect state (.recordBacklogEffect effect) = .error (.invalidCommand reason)) ∨
      (decideEffect state (.recordBacklogEffect effect) = .ok none ∧ effect ∈ state.backlogEffects) ∨
      ∃ event, decideEffect state (.recordBacklogEffect effect) = .ok (some event) := by
  simp only [decideEffect, require]
  by_cases applicable : effect.kind.applicable
  · rw [if_pos applicable]
    cases owned : state.backlogEffectById effect.id with
    | some prior =>
      have inside := List.mem_of_find?_eq_some owned
      have keyed : prior.id = effect.id := by simpa using List.find?_some owned
      have same : prior = effect := unique prior inside keyed
      refine .inr (.inl ⟨?_, same ▸ inside⟩)
      rw [same]
      exact if_pos (RecordEq.same_refl effect)
    | none =>
      cases judged : freshBacklogEffect state.toEffectRecords effect with
      | ok event => exact .inr (.inr ⟨event, rfl⟩)
      | error failure =>
        unfold freshBacklogEffect at judged
        split at judged
        next => cases judged
        next error _ =>
          obtain rfl := Except.error.inj judged
          exact .inl ⟨_, rfl⟩
  · rw [if_neg applicable]
    exact .inl ⟨_, rfl⟩

/-- Recording an effect whose identity is owned by no other effect raises no conflict of identity, and it is taken
for a repetition only when it is recorded. -/
theorem record_told {state : InquiryState} {effect : BacklogEffect}
    (unique : ∀ prior ∈ state.backlogEffects, prior.id = effect.id → prior = effect) (head : EventMetadata) :
    (∀ reason, decide state ⟨head, .effect (.recordBacklogEffect effect)⟩ ≠ .error (.identityConflict reason)) ∧
      (decide state ⟨head, .effect (.recordBacklogEffect effect)⟩ = .ok [] → effect ∈ state.backlogEffects) := by
  have body : decideBody state head.inquiryId (.effect (.recordBacklogEffect effect)) =
      (do
        requireActive state.toInquiryHeader head.inquiryId
        return (← decideEffect state (.recordBacklogEffect effect)).map .effect) := rfl
  unfold decide
  rw [body]
  unfold requireActive require
  by_cases active : state.status = .active
  · rw [if_pos active]
    by_cases ours : state.inquiryId = some head.inquiryId
    · rw [if_pos ours]
      rcases decideBacklogEffect_cases unique with ⟨reason, refused⟩ | ⟨repeated, inside⟩ | ⟨event, accepted⟩
      · rw [refused]
        exact ⟨fun other same => (by cases same), fun same => (by cases same)⟩
      · exact ⟨fun other same => (by rw [repeated] at same; cases same), fun _ => inside⟩
      · rw [accepted]
        exact ⟨fun other same => (by cases same), fun same => (by cases same)⟩
    · rw [if_neg ours]
      exact ⟨fun other same => (by cases same), fun same => (by cases same)⟩
  · rw [if_neg active]
    exact ⟨fun other same => (by cases same), fun same => (by cases same)⟩

/-- The identities of the effects of two runs tell the effects just when the runs tell; and where all runs of a
family tell, recording the effects of a run raises no conflict of identity with those of earlier runs. -/
theorem backlog_identity_exact :
    (∀ (run other : BacklogRun) (effects otherEffects : List BacklogEffect),
      reconcile run.items run.findings = .ok effects → reconcile other.items other.findings = .ok otherEffects →
      TextsTold effects otherEffects →
      ((∀ effect ∈ effects, ∀ otherEffect ∈ otherEffects, effect.id = otherEffect.id → effect = otherEffect) ↔
        run.Tells other)) ∧
    ∀ runs : BacklogRun → Prop,
      (∀ run other effects otherEffects, runs run → runs other → reconcile run.items run.findings = .ok effects →
        reconcile other.items other.findings = .ok otherEffects →
        run.Tells other ∧ TextsTold effects otherEffects) →
      ∀ state, RecordedFrom runs state → ∀ run effects, runs run → reconcile run.items run.findings = .ok effects →
      ∀ effect ∈ authorized effects, ∀ head : EventMetadata,
        (∀ reason, decide state ⟨head, .effect (.recordBacklogEffect effect)⟩ ≠
          .error (.identityConflict reason)) ∧
        (decide state ⟨head, .effect (.recordBacklogEffect effect)⟩ = .ok [] → effect ∈ state.backlogEffects) := by
  constructor
  · intro run other effects otherEffects done doneToo told
    exact ⟨tells_of_unique done doneToo, fun tells => tells.effect_unique done doneToo told⟩
  · intro runs family state recorded run effects known done effect owned head
    apply record_told
    intro prior inside sameId
    obtain ⟨earlier, knownToo, earlierEffects, earlierDone, ownedToo⟩ := recorded prior inside
    obtain ⟨tells, told⟩ := family earlier run earlierEffects effects knownToo known earlierDone done
    exact tells.effect_unique earlierDone done told prior ownedToo effect (List.mem_filter.mp owned).1 sameId

end

namespace Worked

def openedByReplay : List BacklogItem :=
  match reconcileAndApply [] [replayFinding] with
  | .ok next => next
  | .error _ => []

def replayRun : BacklogRun := ⟨[], [replayFinding]⟩

/-- The finding again, when its item is open. -/
def replayAgain : BacklogRun := ⟨openedByReplay, [replayFinding]⟩

def replayEffects : List BacklogEffect := (reconcile [] [replayFinding]).toOption.getD []

def againEffects : List BacklogEffect := (reconcile openedByReplay [replayFinding]).toOption.getD []

/-- An inquiry that has recorded the effects of the first run. -/
def replayRecorded : InquiryState :=
  reached (start :: replayEffects.map (fun effect => .effect (.recordBacklogEffect effect)))

/-- A reconciliation that succeeds gives its effects. -/
theorem reconciled_of_isOk {result : Except Failure (List BacklogEffect)} (succeeds : result.isOk = true) :
    result = .ok (result.toOption.getD []) := by
  cases result with
  | ok effects => rfl
  | error failure => cases succeeds

/-- What the two runs report, evaluated at once. -/
theorem replay_evaluated : (reconcile [] [replayFinding]).isOk = true ∧
    (reconcile openedByReplay [replayFinding]).isOk = true ∧ replayRecorded.backlogEffects = replayEffects ∧
    replayRun.target replayFinding = replayAgain.target replayFinding ∧ ¬ replayAgain.Opens replayFinding ∧
    ∀ effects ∈ [replayEffects, againEffects], ∀ others ∈ [replayEffects, againEffects], TextsTold effects others := by
  unfold BacklogRun.Opens OpensItem TextsTold
  decide +kernel

theorem replayRun_done : reconcile replayRun.items replayRun.findings = .ok replayEffects :=
  reconciled_of_isOk replay_evaluated.1

theorem replayAgain_done : reconcile replayAgain.items replayAgain.findings = .ok againEffects :=
  reconciled_of_isOk replay_evaluated.2.1

theorem replayRecorded_from : RecordedFrom (· = replayRun) replayRecorded := by
  intro effect owned
  rw [replay_evaluated.2.2.1] at owned
  exact ⟨replayRun, rfl, replayEffects, replayRun_done, owned⟩

theorem replay_runs_tell {run other : BacklogRun} (first : run = replayRun ∨ run = replayAgain)
    (second : other = replayRun ∨ other = replayAgain) : run.Tells other := by
  obtain ⟨-, -, -, target, matched, -⟩ := replay_evaluated
  intro one listed two listedToo _ _ _
  have single : one = replayFinding ∧ two = replayFinding := by
    rcases first with rfl | rfl <;> rcases second with rfl | rfl <;>
      exact ⟨List.mem_singleton.mp listed, List.mem_singleton.mp listedToo⟩
  obtain ⟨rfl, rfl⟩ := single
  refine ⟨⟨rfl, rfl, rfl, rfl, rfl, rfl, rfl, rfl⟩, ?_, ?_⟩
  · rcases first with rfl | rfl <;> rcases second with rfl | rfl <;> simp [target]
  · intro opens opensToo
    rcases first with rfl | rfl
    · rcases second with rfl | rfl
      · exact ⟨rfl, rfl⟩
      · exact absurd opensToo matched
    · exact absurd opens matched

/-- Recording the effects of the finding again is no conflict. -/
theorem replayAgain_recorded : (∀ effect ∈ replayEffects, ∀ otherEffect ∈ againEffects,
      effect.id = otherEffect.id → effect = otherEffect) ∧
    ∀ effect ∈ authorized againEffects, ∀ reason,
      decide replayRecorded ⟨⟨"event", "inquiry", 0⟩, .effect (.recordBacklogEffect effect)⟩ ≠
        .error (.identityConflict reason) := by
  obtain ⟨-, -, -, -, -, told⟩ := replay_evaluated
  constructor
  · exact (backlog_identity_exact.1 replayRun replayAgain _ _ replayRun_done replayAgain_done
      (told _ (by simp) _ (by simp))).mpr (replay_runs_tell (.inl rfl) (.inr rfl))
  · intro effect owned
    refine (backlog_identity_exact.2 (fun run => run = replayRun ∨ run = replayAgain) ?_ replayRecorded ?_ replayAgain
      againEffects (.inr rfl) replayAgain_done effect owned _).1
    · intro run other effects otherEffects first second done doneToo
      refine ⟨replay_runs_tell first second, ?_⟩
      rcases first with rfl | rfl <;> rcases second with rfl | rfl <;>
        simp only [replayRun_done, replayAgain_done, Except.ok.injEq] at done doneToo <;>
        subst done <;> subst doneToo <;> exact told _ (by simp) _ (by simp)
    · intro prior inside
      obtain ⟨run, same, made⟩ := replayRecorded_from prior inside
      exact ⟨run, .inl same, made⟩

/-- The same report with less urgency. -/
def calmerFinding : BacklogFinding := { replayFinding with priority := 3 }

def calmerEffects : List BacklogEffect := (reconcile openedByReplay [calmerFinding]).toOption.getD []

theorem calmer_evaluated : (reconcile openedByReplay [calmerFinding]).isOk = true ∧
    TextsTold replayEffects calmerEffects ∧
    (¬ ∀ effect ∈ replayEffects, ∀ otherEffect ∈ calmerEffects,
      effect.id = otherEffect.id → effect = otherEffect) ∧
    ∃ effect ∈ authorized calmerEffects,
      decide replayRecorded ⟨⟨"event", "inquiry", 0⟩, .effect (.recordBacklogEffect effect)⟩ =
        .error (.identityConflict "backlog effect id was reused for different content") := by
  unfold TextsTold
  decide +kernel

/-- A finding whose priority changes keeps the identity of its rank effect, and recording it is refused. -/
theorem changed_rank_conflicts : (¬ ∀ (run other : BacklogRun) (effects otherEffects : List BacklogEffect),
      reconcile run.items run.findings = .ok effects → reconcile other.items other.findings = .ok otherEffects →
      TextsTold effects otherEffects →
      ∀ effect ∈ effects, ∀ otherEffect ∈ otherEffects, effect.id = otherEffect.id → effect = otherEffect) ∧
    ¬ ∀ state, Reachable state → RecordedFrom (· = replayRun) state →
      ∀ (run : BacklogRun) (effects : List BacklogEffect), reconcile run.items run.findings = .ok effects →
      TextsTold state.backlogEffects effects →
      ∀ effect ∈ authorized effects, ∀ (head : EventMetadata) (reason : String),
        decide state ⟨head, .effect (.recordBacklogEffect effect)⟩ ≠ .error (.identityConflict reason) := by
  obtain ⟨succeeds, told, differ, refused⟩ := calmer_evaluated
  have done : reconcile openedByReplay [calmerFinding] = .ok calmerEffects := reconciled_of_isOk succeeds
  constructor
  · intro claimed
    have unique := claimed replayRun ⟨openedByReplay, [calmerFinding]⟩ _ _ replayRun_done done told
    exact differ unique
  · intro claimed
    obtain ⟨effect, owned, conflict⟩ := refused
    have keptTold : TextsTold replayRecorded.backlogEffects calmerEffects := by
      rw [replay_evaluated.2.2.1]
      exact told
    exact claimed replayRecorded (reachable_reached _) replayRecorded_from ⟨openedByReplay, [calmerFinding]⟩ _ done
      keptTold effect owned _ _ conflict

end Worked

end RatchetingInquiry
