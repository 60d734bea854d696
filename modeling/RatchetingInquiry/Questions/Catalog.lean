import RatchetingInquiry.Claims.Logic

/-! Rendering of inert catalog templates, the immutable question catalogs with their profiles, and the binding of
answers. -/

namespace RatchetingInquiry

/-- A piece of a parsed format string: one literal character or one direct named field. -/
inductive TemplatePiece where
  | literal (character : Char)
  | field (name : String)
deriving DecidableEq

/-- Where the format-string parser stands. -/
inductive TemplateMode where
  | text
  | afterOpen
  | afterClose
  | name (reversed : List Char)
  | afterColon (reversed : List Char)

/-- A field ends: it has to be a direct name. A name of digits would be positional. -/
def closeField (reversed : List Char) : Except Failure TemplatePiece := do
  require (reversed ≠ []) (.validation "templates may reference only direct named fields")
  require (reversed.all (fun character => character != '.' && character != '['))
    (.validation "templates may reference only direct named fields")
  require (reversed.any (fun character => !character.isDigit))
    (.validation "Format string contains positional fields")
  return .field (String.ofList reversed.reverse)

/-- The pieces of a format string. Doubled braces are literal, a format specification has to be empty
and a conversion is refused. -/
def parseTemplate : TemplateMode → List Char → Except Failure (List TemplatePiece)
  | .text, [] => return []
  | .text, character :: rest =>
    if character = '\x7b' then parseTemplate .afterOpen rest
    else if character = '\x7d' then parseTemplate .afterClose rest
    else return .literal character :: (← parseTemplate .text rest)
  | .afterClose, [] => throw (.validation "Single close brace encountered in format string")
  | .afterClose, character :: rest =>
    if character = '\x7d' then return .literal '\x7d' :: (← parseTemplate .text rest)
    else throw (.validation "Single close brace encountered in format string")
  | .afterOpen, [] => throw (.validation "Single open brace encountered in format string")
  | .afterOpen, character :: rest =>
    if character = '\x7b' then return .literal '\x7b' :: (← parseTemplate .text rest)
    else if character = '\x7d' then throw (.validation "templates may reference only direct named fields")
    else if character = ':' then parseTemplate (.afterColon []) rest
    else if character = '!' then throw (.validation "format specifications and conversions are not allowed")
    else parseTemplate (.name [character]) rest
  | .name _, [] => throw (.validation "expected close brace before end of string")
  | .name reversed, character :: rest =>
    if character = '\x7d' then return (← closeField reversed) :: (← parseTemplate .text rest)
    else if character = '\x7b' then throw (.validation "unexpected open brace in field name")
    else if character = ':' then parseTemplate (.afterColon reversed) rest
    else if character = '!' then throw (.validation "format specifications and conversions are not allowed")
    else parseTemplate (.name (character :: reversed)) rest
  | .afterColon _, [] => throw (.validation "expected close brace before end of string")
  | .afterColon reversed, character :: rest =>
    if character = '\x7d' then return (← closeField reversed) :: (← parseTemplate .text rest)
    else throw (.validation "format specifications and conversions are not allowed")

def TemplatePiece.fieldName : TemplatePiece → Option String
  | .field name => some name
  | .literal _ => none

/-- The text of a piece under the bindings. -/
def TemplatePiece.render (bindings : List (String × String)) : TemplatePiece → String
  | .literal character => String.singleton character
  | .field name => ((indexBy Prod.fst bindings name).map Prod.snd).getD ""

/-- Render an inert catalog template with an exact set of text bindings. -/
def renderQuestion (contract : QuestionContract) (bindings : List (String × String)) : Except Failure String := do
  let pieces ← parseTemplate .text contract.renderTemplate.toList
  let fields := pieces.filterMap TemplatePiece.fieldName
  require (fields ⊆ bindings.map Prod.fst ∧ bindings.map Prod.fst ⊆ fields)
    (.validation "render bindings mismatch")
  return String.join (pieces.map (TemplatePiece.render bindings))

/-- A catalog contract: version one, over the single role `carrier`. -/
def catalogContract (contractId family : String) (role : ClaimRole) (template : String)
    (maturity : ContractMaturity) (nextRules : List String) : QuestionContract where
  id := contractId
  version := "1.0.0"
  family := family
  inputRoles := ["carrier"]
  outputClaimRole := role
  preconditionPolicyId := "carrier-present-v1"
  renderTemplate := template
  nextObligationRuleIds := nextRules
  maturity := maturity
  roles_unique := by simp
  recurrent_pinned := by simp

def coreContracts : List QuestionContract := [
  catalogContract "obligation-characterization" "present-obligation" .characterization
    "What exact relation must be established for \x7bcarrier\x7d?" .stable [],
  catalogContract "same-class-variation" "stretch-positive" .variation
    "What variation of \x7bcarrier\x7d preserves the protected consequence?" .stable [],
  catalogContract "minimal-boundary-crossing" "squeeze-positive-to-negative" .boundary
    "What smallest change to \x7bcarrier\x7d crosses the protected boundary?" .stable [],
  catalogContract "factor-proposal" "factor" .factor
    "Which factor best explains the consequential variation in \x7bcarrier\x7d?" .stable [],
  catalogContract "necessity-counterexample" "necessity" .necessity
    "Can the consequence hold without \x7bcarrier\x7d?" .stable ["retain-counterexample-or-record-unknown-v1"],
  catalogContract "sufficiency-counterexample" "sufficiency" .sufficiency
    "Can \x7bcarrier\x7d hold while the consequence fails?" .stable ["retain-counterexample-or-record-unknown-v1"],
  catalogContract "conflict-localization" "contradiction-repair" .localization
    "Where is the smallest explicit conflict involving \x7bcarrier\x7d?" .stable [],
  catalogContract "residual-characterization" "residual" .residual
    "What consequential uncertainty remains for \x7bcarrier\x7d?" .stable []]

/-- Catalog families that remain discoverable but inactive. -/
def draftFamilies : List (String × String × ClaimRole) := [
  ("binding", "binding", .characterization),
  ("consequence", "consequence", .characterization),
  ("distinction", "distinction", .boundary),
  ("equivalence", "equivalence", .generalization),
  ("second-distinction", "second-distinction-tetrad", .boundary),
  ("arrangement", "arrangement", .pattern),
  ("succession", "succession", .pattern),
  ("stretch-negative", "stretch-negative", .variation),
  ("squeeze-negative-positive", "squeeze-negative-to-positive", .boundary),
  ("extreme-reversal", "extreme-reversal", .variation),
  ("problem-reconstruction", "problem-non-problem", .characterization),
  ("abstraction", "abstraction", .generalization),
  ("description-control", "description-control", .prerequisite),
  ("actualization", "actualization", .actualization),
  ("prerequisite", "prerequisite", .prerequisite),
  ("discharge-selection", "discharge-selection", .characterization),
  ("warrant", "warrant", .characterization),
  ("success-localization", "success-localization", .localization),
  ("failure-localization", "failure-localization", .localization),
  ("generalization", "generalization", .generalization),
  ("conditional-learning", "conditional-learning", .generalization),
  ("reopening", "reopening", .residual),
  ("compression", "compression", .residual),
  ("intermediate-lawfulness", "intermediate-lawfulness", .invariant),
  ("question-selection", "question-selection", .characterization),
  ("progress", "progress", .characterization),
  ("stopping", "stopping", .characterization),
  ("recurrent-perception", "recurrent-perceptual", .pattern)]

def draftContracts : List QuestionContract :=
  draftFamilies.map (fun (contractId, family, role) =>
    catalogContract ("draft-" ++ contractId) family role
      ("What does the " ++ family ++ " relation reveal about \x7bcarrier\x7d?") .draft [])

def learnedRecurrentProbe : QuestionContract where
  id := "learned-recurrent-probe"
  version := "1.0.0"
  family := "learned-recurrent-perceptual"
  inputRoles := ["carrier"]
  outputClaimRole := .pattern
  preconditionPolicyId := "admitted-learned-probe-v1"
  renderTemplate := "What protected distinction does the admitted probe reveal for \x7bcarrier\x7d?"
  nextObligationRuleIds := ["retain-provisional-pattern-or-record-unknown-v1"]
  maturity := .stable
  recurrentProbe := true
  comparisonSemanticsId := some "candidate-bound-exact-v1"
  canonicalProbeRendering := some "learned-recurrent-probe-v1"
  applicabilityGuardId := some "always"
  historyPolicyId := some "fresh-before-history-v1"
  roles_unique := by simp
  recurrent_pinned := by simp

def coreV1 : QuestionProfile where
  id := "core-v1"
  version := "1.0.0"
  contractKeys := coreContracts.map QuestionContract.key

def catalogV03 : QuestionCatalog where
  id := "rci-question-catalog"
  version := "0.3.0"
  contracts := coreContracts ++ draftContracts
  profiles := [coreV1]
  keys_unique := by decide +kernel
  profiles_known := by decide +kernel

def catalogV04Contracts : List QuestionContract := coreContracts ++ draftContracts ++ [learnedRecurrentProbe]

def g2bCognitiveV1 : QuestionProfile where
  id := "g2b-cognitive-v1"
  version := "1.0.0"
  contractKeys := [learnedRecurrentProbe.key]

def catalogV04 : QuestionCatalog where
  id := "rci-question-catalog"
  version := "0.4.0"
  contracts := catalogV04Contracts
  profiles := [coreV1, g2bCognitiveV1]
  keys_unique := by decide +kernel
  profiles_known := by decide +kernel

def getContract (contractId : String) : Except Failure QuestionContract :=
  found (catalogV04Contracts.find? (fun contract => contract.id = contractId ∧ contract.version = "1.0.0"))
    (.keyError ("unknown question contract " ++ contractId ++ "@1.0.0"))

/-- An answer is bound only by the registered shape, schema and policy. -/
def bindAnswer [Fingerprints] (contract : QuestionContract) (answer : InertPayload) (boundArgs : List BoundArgument)
    (scope : Scope) (provenance : Provenance) : Except Failure Claim := do
  require (contract.answerShape = .opaqueL0Inert) (.validation "unregistered answer shape")
  require (contract.answerSchemaId = "rci.inert-payload.v1") (.validation "unregistered answer schema")
  require (contract.bindPolicyId = "bind-l0-v1") (.validation "unregistered bind policy")
  bindL0Answer contract.key contract.outputClaimRole answer boundArgs scope provenance

end RatchetingInquiry
