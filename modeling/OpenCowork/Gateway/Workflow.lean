import OpenCowork.Gateway.Records

/-! # Stage results

What the result of a stage makes of its task: the next stage, a retry, a block or the end.
-/

namespace OpenCowork.Foundation.Text

/-- `text.split(/[separators]+/)`; `after` tells that a separator came just before. -/
def splitRuns (isSeparator : Char → Bool) : Bool → List Char → List (List Char)
  | _, [] => [[]]
  | after, c :: rest =>
    if isSeparator c then
      if after then splitRuns isSeparator true rest else [] :: splitRuns isSeparator true rest
    else (splitRuns isSeparator false rest).modifyHead (c :: ·)

/-- `value || undefined` of an optional text. -/
def truthy (value : Option String) : Option String := value.filter fun text => text ≠ ""

/-- `text.substring(0, units)`; half of a surrogate pair is no character. -/
def takeUnits : Nat → List Char → List Char
  | _, [] => []
  | units, c :: rest =>
    if (charCodeUnits c).length ≤ units then
      c :: takeUnits (units - (charCodeUnits c).length) rest
    else []

def substringTo (units : Nat) (text : String) : String :=
  String.ofList (takeUnits units text.toList)

end OpenCowork.Foundation.Text

namespace OpenCowork.Gateway

open Foundation

inductive StageResultStatus where
  | pass | fail | blocked | unknown
  deriving DecidableEq

inductive FailureClass where
  | blocked | needsUserInput | needsCredentials | flakyTest | unsafeWork | exceededBudget
  | unclearSpec | implementationFailed | verificationFailed
  deriving DecidableEq

inductive EvidenceType where
  | diff | test | command | link | screenshot | log | decision | file | note | other
  deriving DecidableEq

/-- The word that stands for a kind of evidence. -/
def EvidenceType.text : EvidenceType → String
  | diff => "diff"
  | test => "test"
  | command => "command"
  | link => "link"
  | screenshot => "screenshot"
  | log => "log"
  | decision => "decision"
  | file => "file"
  | note => "note"
  | other => "other"

structure StageEvidence where
  type : EvidenceType
  ref : String
  summary : Option String
  deriving DecidableEq

structure StageResult where
  status : StageResultStatus
  summary : String
  feedback : Option String
  artifacts : List String
  evidence : List StageEvidence
  decisions : List String
  failureClass : Option FailureClass
  deriving DecidableEq

structure WorkflowDecision where
  taskStatus : WorkStatus
  (nextStage retryStage : Option String)
  note : String
  deriving DecidableEq

def defaultPipeline : Pipeline where
  stages := ["implement", "review", "verify"]
  nonempty := by decide
  nodup := by decide
  valid := by decide

/-- The texts of a list of a quality spec: trimmed, bounded, without repetitions, 50 at most. -/
def stringList (values : List String) : List String :=
  (((values.map fun item => Text.substringTo 500 (Text.trim item)).filter
    fun item => item ≠ "").eraseDups).take 50

def normalizeTaskQualitySpec (spec : TaskQualitySpec) : TaskQualitySpec where
  constraints := stringList spec.constraints
  acceptanceCriteria := stringList spec.acceptanceCriteria
  definitionOfDone := stringList spec.definitionOfDone
  verificationCommands := stringList spec.verificationCommands
  evidenceRequirements := stringList spec.evidenceRequirements
  requiredArtifacts := stringList spec.requiredArtifacts

def qualitySpecItemId (tag : String) (index : Nat) : String := tag ++ toString (index + 1)

/-- `/[A-Z0-9]/`. -/
def isQualityIdChar (c : Char) : Bool := ('A' ≤ c && c ≤ 'Z') || ('0' ≤ c && c ≤ '9')

section Quality

variable (toUpperCase : String → String)

def evidenceCitesQualityId (evidenceText id : String) : Bool :=
  decide ((toUpperCase id).toList ∈ Text.splitRuns (fun c => !isQualityIdChar c) false
    (toUpperCase evidenceText).toList)

/-- One loop over the items of a quality spec: what it reports for those that the evidence
does not cite. -/
def missingItems (evidenceText label tag : String) (items : List String) : List String :=
  items.zipIdx.filterMap fun (item, index) =>
    if evidenceCitesQualityId toUpperCase evidenceText (qualitySpecItemId tag index) then none
    else some (label ++ " " ++ qualitySpecItemId tag index ++ ": " ++ item)

/-- The text in which a result can cite the items of a quality spec. -/
def evidenceText (result : StageResult) : String :=
  "\n".intercalate ([result.summary, result.feedback.getD ""] ++ result.artifacts ++
    (result.evidence.flatMap fun item => [item.type.text, item.ref, item.summary.getD ""]) ++
    result.decisions)

/-- Whether a quality spec asks for anything that a result must show. -/
def TaskQualitySpec.requiresEvidence (spec : TaskQualitySpec) : Bool :=
  !(spec.acceptanceCriteria.isEmpty && spec.definitionOfDone.isEmpty &&
    spec.constraints.isEmpty && spec.verificationCommands.isEmpty &&
    spec.evidenceRequirements.isEmpty && spec.requiredArtifacts.isEmpty)

/-- What a passing result does not show: `undefined` where it is accepted, else the feedback of
the quality gate. -/
def validateStageResultQuality (pipeline : List String) (qualitySpec : Option TaskQualitySpec)
    (stage : String) (result : StageResult) : Option String :=
  if result.status ≠ .pass then none
  else
    match qualitySpec with
    | none => none
    | some spec =>
      let isFinalStage := pipeline.idxOf stage + 1 = pipeline.length
      if ¬(isFinalStage ∨ stage = "review" ∨ stage = "verify" ∨ stage = "audit") then none
      else
        let text := evidenceText result
        let withoutEvidence := if spec.requiresEvidence && result.artifacts.isEmpty &&
          result.evidence.isEmpty then ["at least one artifact or evidence entry"] else []
        let missing := if stage = "review" then withoutEvidence
          else
            missingItems toUpperCase text "acceptance criterion" "AC" spec.acceptanceCriteria ++
            missingItems toUpperCase text "definition of done" "DOD" spec.definitionOfDone ++
            missingItems toUpperCase text "constraint" "CONSTRAINT" spec.constraints ++
            missingItems toUpperCase text "verification command" "CMD"
              spec.verificationCommands ++
            missingItems toUpperCase text "evidence" "EVIDENCE" spec.evidenceRequirements ++
            missingItems toUpperCase text "artifact" "ARTIFACT" spec.requiredArtifacts ++
            withoutEvidence
        if missing.isEmpty then none
        else some ("Quality gate missing required evidence for " ++ stage ++ ": " ++
          "; ".intercalate missing)

end Quality

def retryStageFor (stage : String) (result : StageResult) : String :=
  if stage = "review" then "implement"
  else if stage = "verify" ∧ result.failureClass = some .implementationFailed then "implement"
  else stage

/-- A stage that did not pass: another try, or a block once the limit is reached. -/
def retryOrBlock (attempts : Nat) (retryLimit : Int) (retryStage note blockNote : String) :
    WorkflowDecision :=
  if retryLimit ≤ attempts then
    { taskStatus := .blocked, nextStage := none, retryStage := none, note := blockNote }
  else
    { taskStatus := .pending, nextStage := none, retryStage := some retryStage, note := note }

def decideNextTaskState (toUpperCase : String → String) (task : WorkTaskRecord) (stage : String)
    (result : StageResult) (retryLimit : Int) : WorkflowDecision :=
  let attempts := (task.attempts.get stage).getD 0
  if stage ∉ task.pipeline.stages then
    { taskStatus := .blocked, nextStage := none, retryStage := none,
      note := "Blocked invalid stage: " ++ stage }
  else if result.status = .blocked then
    { taskStatus := .blocked, nextStage := none, retryStage := none, note := result.summary }
  else if result.status = .fail ∨ result.status = .unknown then
    retryOrBlock attempts retryLimit (retryStageFor stage result)
      ((Text.truthy result.feedback).getD result.summary)
      ("Blocked after " ++ toString attempts ++ " " ++ stage ++ " attempt(s): " ++ result.summary)
  else
    match validateStageResultQuality toUpperCase task.pipeline.stages task.qualitySpec stage
      result with
    | some feedback =>
      retryOrBlock attempts retryLimit (retryStageFor stage result) feedback
        ("Blocked by quality gate after " ++ toString attempts ++ " " ++ stage ++
          " attempt(s): " ++ feedback)
    | none =>
      let next := Text.truthy task.pipeline.stages[task.pipeline.stages.idxOf stage + 1]?
      { taskStatus := if next.isSome then .pending else .done
        nextStage := next
        retryStage := none
        note := result.summary }

end OpenCowork.Gateway
