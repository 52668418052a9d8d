import OpenCowork.Foundation.JsonText
import OpenCowork.Foundation.Machine
import OpenCowork.Foundation.OrderedMap
import OpenCowork.Runtime.StoreText

/-! # The local knowledge store

Spaces, pages with their versions and blocks, and proposals, as the runtime host keeps them in
its knowledge database. A page is published by accepting a proposal or by restoring a version.
-/

namespace OpenCowork.Runtime

open OpenCowork.Foundation

variable (value : Option Json) (index : Nat) (entry : Json)

inductive KnowledgeLinkKind where
  | thread | task | artifact
deriving DecidableEq, Repr

structure KnowledgePageLink where
  kind : KnowledgeLinkKind
  label : String
  targetId : Option String
deriving DecidableEq, Repr

inductive KnowledgeTextType where
  | callout | h | p
deriving DecidableEq, Repr

inductive KnowledgePageBlock where
  | text (id : String) (type : KnowledgeTextType) (text : String)
  | list (id : String) (items : List String)
deriving DecidableEq, Repr

def knowledgeMaxTitleBytes : Nat := 240
def knowledgeMaxTextBytes : Nat := 64 * 1024
def knowledgeMaxLinks : Nat := 100
def knowledgeMaxBlocks : Nat := 300
def knowledgeMaxListItems : Nat := 100

def KnowledgeLinkKind.name : KnowledgeLinkKind → String
  | .thread => "thread"
  | .task => "task"
  | .artifact => "artifact"

def KnowledgeTextType.name : KnowledgeTextType → String
  | .callout => "callout"
  | .h => "h"
  | .p => "p"

/-! ## Reading -/

def isKnowledgeLinkKind : Option Json → Option KnowledgeLinkKind
  | some (.str "thread") => some .thread
  | some (.str "task") => some .task
  | some (.str "artifact") => some .artifact
  | _ => none

/-- `array.map(read)` with the position of each entry, ended by the first read that throws. -/
def readEach {α : Type} (read : Nat → Json → Except String α) (index : Nat) :
    List Json → Except String (List α)
  | [] => .ok []
  | entry :: rest => do
      let first ← read index entry
      let others ← readEach read (index + 1) rest
      return first :: others

def readLink : Except String KnowledgePageLink := do
  let label := "Knowledge link " ++ toString (index + 1)
  match entry with
  | .obj _ =>
    let kind ← orThrow (isKnowledgeLinkKind (entry.field? "kind")) (label ++ " kind is invalid.")
    let text ← requiredString (entry.field? "label") (label ++ " label") knowledgeMaxTitleBytes
    let targetId ← optionalString (entry.field? "targetId") (label ++ " target") 512
    return { kind, label := text, targetId }
  | _ => .error (label ++ " must be an object.")

def normalizeLinks : Except String (List KnowledgePageLink) :=
  match value with
  | none => .ok []
  | some .null => .ok []
  | some (.arr entries) => readEach readLink 0 (entries.take knowledgeMaxLinks)
  | some _ => .error "Knowledge links must be an array."

def blockId : String := "block-" ++ toString (index + 1)

def readItem (label : String) (index : Nat) (item : Json) : Except String String :=
  requiredString (some item) (label ++ " item " ++ toString (index + 1)) knowledgeMaxTextBytes

def readBlock : Except String KnowledgePageBlock := do
  let label := "Knowledge block " ++ toString (index + 1)
  match entry with
  | .obj _ =>
    let given ← optionalString (entry.field? "id") (label ++ " id") 128
    let id := orText given (blockId index)
    let text (type : KnowledgeTextType) : Except String KnowledgePageBlock := do
      let text ← requiredString (entry.field? "text") (label ++ " text") knowledgeMaxTextBytes
      return .text id type text
    match entry.field? "type" with
    | some (.str "callout") => text .callout
    | some (.str "h") => text .h
    | some (.str "p") => text .p
    | some (.str "list") =>
      match entry.field? "items" with
      | some (.arr items) => do
          let read ← readEach (readItem label) 0 (items.take knowledgeMaxListItems)
          refuseIf (read = []) (label ++ " requires at least one item.")
          return .list id read
      | _ => .error (label ++ " items must be an array.")
    | _ => .error (label ++ " type is invalid.")
  | _ => .error (label ++ " must be an object.")

def normalizeBody : Except String (List KnowledgePageBlock) :=
  match value with
  | some (.arr (entry :: entries)) =>
    readEach readBlock 0 ((entry :: entries).take knowledgeMaxBlocks)
  | _ => .error "Knowledge page body must be a non-empty array."

/-! ## Writing -/

def KnowledgePageLink.json (link : KnowledgePageLink) : String :=
  jsonObject [("kind", jsonText link.kind.name), ("label", jsonText link.label),
    ("targetId", (link.targetId.map jsonText).getD "null")]

def KnowledgePageBlock.json : KnowledgePageBlock → String
  | .text id type content =>
    jsonObject [("id", jsonText id), ("type", jsonText type.name), ("text", jsonText content)]
  | .list id items =>
    jsonObject [("id", jsonText id), ("type", jsonText "list"),
      ("items", jsonArray (items.map jsonText))]

def linksJson (links : List KnowledgePageLink) : String :=
  jsonArray (links.map KnowledgePageLink.json)

def bodyJson (body : List KnowledgePageBlock) : String :=
  jsonArray (body.map KnowledgePageBlock.json)

/-- The check of the JSON text that a row keeps. -/
def knowledgeJsonString (json label : String) : Except String Unit :=
  refuseIf (json.utf8ByteSize > knowledgeMaxTextBytes) (label ++ " is too large.")

/-- The text of which a revision is the digest. -/
def revisionSource (pageId : String) (version : Nat) (body : List KnowledgePageBlock)
    (links : List KnowledgePageLink) : String :=
  jsonObject [("pageId", jsonText pageId), ("version", toString version),
    ("body", bodyJson body), ("links", linksJson links)]

/-! ## Counting the lines of an edit -/

/-- The lines of a text that are not blank, trimmed. Trimming also takes the carriage return
that stands before a line feed. -/
def textLines (text : String) : List String :=
  ((text.toList.splitOn '\n').map fun line => Text.trim (String.ofList line)).filter (· ≠ "")

def blockLines : KnowledgePageBlock → List String
  | .text _ type text => (textLines text).map fun line => type.name ++ ":" ++ line
  | .list _ items => ((items.map Text.trim).filter (· ≠ "")).map fun item => "list:" ++ item

def blockDiffLines (blocks : List KnowledgePageBlock) : List String := blocks.flatMap blockLines

/-- One row of the table, without its first entry: `previous` is the row before it from the
same column on, `last` the entry to the left. -/
def nextRow (leftLine : String) : List String → List Nat → Nat → List Nat
  | line :: right, diagonal :: above :: previous, last =>
    let here := if leftLine = line then diagonal + 1 else max last above
    here :: nextRow leftLine right (above :: previous) here
  | _, _, _ => []

def commonLineCount (left right : List String) : Nat :=
  let row := left.foldl (fun previous leftLine => 0 :: nextRow leftLine right previous 0)
    (List.replicate (right.length + 1) 0)
  row[right.length]?.getD 0

structure KnowledgeDiff where
  (add del : Nat)
deriving DecidableEq, Repr

def calculateDiffStats (current : Option (List KnowledgePageBlock))
    (body : List KnowledgePageBlock) : KnowledgeDiff :=
  let currentLines := (current.map blockDiffLines).getD []
  let nextLines := blockDiffLines body
  let unchanged := commonLineCount currentLines nextLines
  { add := nextLines.length - unchanged, del := currentLines.length - unchanged }

variable (space : KnowledgeSpace) (page : KnowledgePage) (workspaceId : String)

inductive KnowledgeSpaceRole where
  | Reader | Contributor | Maintainer
deriving DecidableEq, Repr

inductive KnowledgeSpaceVisibility where
  | company | team | «private»
deriving DecidableEq, Repr

inductive KnowledgeProposalStatus where
  | pending | accepted | declined
deriving DecidableEq, Repr

structure KnowledgeSpace where
  (id name : String)
  (icon hue : Option String)
  visibility : KnowledgeSpaceVisibility
  role : KnowledgeSpaceRole
  workspaceId : String
deriving DecidableEq, Repr

structure KnowledgePage where
  (id spaceId title updatedBy updatedAt : String)
  version : Nat
  revision : String
  links : List KnowledgePageLink
  body : List KnowledgePageBlock
  workspaceId : String
deriving DecidableEq, Repr

structure KnowledgePageVersion where
  page : KnowledgePage
  versionId : String
  proposalId : Option String
deriving DecidableEq, Repr

structure KnowledgeProposal where
  id : String
  pageId : Option String
  (pageTitle spaceId author createdAt summary : String)
  diff : KnowledgeDiff
  status : KnowledgeProposalStatus
  (reviewedAt reviewedBy : Option String)
  links : List KnowledgePageLink
  body : List KnowledgePageBlock
  workspaceId : String
deriving DecidableEq, Repr

/-- The rows of the four tables, by their primary keys. -/
structure KnowledgeDb where
  spaces : OrderedMap String KnowledgeSpace
  pages : OrderedMap String KnowledgePage
  versions : OrderedMap String KnowledgePageVersion
  proposals : OrderedMap String KnowledgeProposal

/-- What the store takes from its surroundings: `createHash('sha256')`, as hexadecimal digits. -/
structure KnowledgePlatform where
  sha256 : String → String

/-- A database in which spaces were created and nothing was proposed yet. -/
def KnowledgeDb.ofSpaces (spaces : OrderedMap String KnowledgeSpace) : KnowledgeDb :=
  ⟨spaces, .empty, .empty, .empty⟩

namespace KnowledgePlatform

variable (platform : KnowledgePlatform)

def knowledgeRevisionFor (pageId : String) (version : Nat) (body : List KnowledgePageBlock)
    (links : List KnowledgePageLink) : String :=
  platform.sha256 (revisionSource pageId version body links)

end KnowledgePlatform

/-- `version:${pageId}:${version}`. -/
def versionIdFor (pageId : String) (version : Nat) : String :=
  "version:" ++ pageId ++ ":" ++ toString version

def KnowledgePage.versionRow (proposalId : Option String) :
    KnowledgePageVersion where
  page := page
  versionId := versionIdFor page.id page.version
  proposalId := proposalId

/-! ## The seed of a workspace -/

def seedBody : List KnowledgePageBlock :=
  [.text "scope" .callout
      "Knowledge captures accepted project decisions, task outcomes, and artifact context after human review.",
    .text "workflow-heading" .h "Review workflow",
    .text "workflow-body" .p
      "Coworkers and humans can propose updates. Maintainers review proposals before a page version is published.",
    .list "workflow-list"
      ["Capture context from a conversation", "Review the proposal diff stats",
        "Accept to publish a new audited version"]]

def seedAt : String := "2026-01-01T00:00:00.000Z"

def knowledgeDefaultSpaceId : String := "space:" ++ workspaceId ++ ":company-os"

def knowledgeDefaultPageId : String := "page:" ++ workspaceId ++ ":operating-model"

def seedSpace : KnowledgeSpace where
  id := knowledgeDefaultSpaceId workspaceId
  name := "Company OS"
  icon := some "book-open"
  hue := some "azure"
  visibility := .company
  role := .Maintainer
  workspaceId := workspaceId

def seedPage (platform : KnowledgePlatform) (workspaceId : String) : KnowledgePage where
  id := knowledgeDefaultPageId workspaceId
  spaceId := knowledgeDefaultSpaceId workspaceId
  title := "Operating model"
  updatedBy := "Open Cowork"
  updatedAt := seedAt
  version := 1
  revision := platform.knowledgeRevisionFor (knowledgeDefaultPageId workspaceId) 1 seedBody []
  links := []
  body := seedBody
  workspaceId := workspaceId

namespace KnowledgeDb

variable (db : KnowledgeDb)

def inserted {ν : Type} (table : OrderedMap String ν) (key : String) (row : ν) (name : String) :
    Except String (OrderedMap String ν) :=
  orThrow (table.insertNew key row) ("UNIQUE constraint failed: " ++ name ++ ".id")

/-- A version row is added; its key must be free. -/
def insertVersion (row : KnowledgePageVersion) : Except String KnowledgeDb := do
  let versions ← inserted db.versions row.versionId row "knowledge_page_versions"
  return { db with versions }

def ensureWorkspaceSeed (platform : KnowledgePlatform) (db : KnowledgeDb) (workspaceId : String) :
    Except String KnowledgeDb :=
  if db.spaces.values.any (·.workspaceId = workspaceId) then .ok db
  else do
    let page := seedPage platform workspaceId
    knowledgeJsonString (linksJson page.links) "Knowledge links"
    knowledgeJsonString (bodyJson page.body) "Knowledge body"
    let space := seedSpace workspaceId
    let spaces ← inserted db.spaces space.id space "knowledge_spaces"
    let pages ← inserted db.pages page.id page "knowledge_pages"
    { db with spaces, pages }.insertVersion (page.versionRow none)

/-! ## Look-ups, each in one workspace -/

def getSpace (workspaceId spaceId : String) : Option KnowledgeSpace :=
  (db.spaces.get spaceId).filter (·.workspaceId = workspaceId)

def getPage (workspaceId pageId : String) : Option KnowledgePage :=
  (db.pages.get pageId).filter (·.workspaceId = workspaceId)

/-- SQLite's `lower`: only the letters of ASCII change. -/
def lower (text : String) : String := String.ofList (text.toList.map Char.toLower)

def laterUpdated (best : Option KnowledgePage) (page : KnowledgePage) : Option KnowledgePage :=
  match best with
  | none => some page
  | some held => if held.updatedAt < page.updatedAt then some page else some held

/-- `order by updated_at desc limit 1` of the pages of a space with a title. -/
def getPageByTitle (workspaceId spaceId title : String) :
    Option KnowledgePage :=
  (db.pages.values.filter fun page =>
    page.workspaceId = workspaceId ∧ page.spaceId = spaceId ∧
      lower page.title = lower title).foldl laterUpdated none

def getProposal (proposalId workspaceId : String) : Option KnowledgeProposal :=
  (db.proposals.get proposalId).filter (·.workspaceId = workspaceId)

end KnowledgeDb

/-! ## Operations -/

structure KnowledgeProposalInput where
  workspaceId : Option String
  spaceId : Option Json
  pageId : Option String
  (pageTitle author summary links body : Option Json)

/-- The time of a write, the id its caller gives and the one that is drawn otherwise. -/
structure KnowledgeWriteOptions where
  now : String
  id : Option String
  randomUUID : String

structure KnowledgeReviewInput where
  workspaceId : Option String
  reviewedBy : Option Json
  now : String
  /-- The id that a page gets which a review creates. -/
  randomUUID : String

def assertCanPropose : Except String Unit :=
  refuseIf (space.role ≠ .Contributor ∧ space.role ≠ .Maintainer)
    "Knowledge space requires Contributor or Maintainer to propose changes."

def assertCanReview : Except String Unit :=
  refuseIf (space.role ≠ .Maintainer) "Knowledge space requires Maintainer to review proposals."

def readName (value : Option Json) (label : String) : Except String String := do
  let name ← optionalString value label knowledgeMaxTitleBytes
  return orText name "you"

namespace KnowledgeDb

variable (db : KnowledgeDb)

def proposedPage (workspaceId spaceId pageTitle : String)
    (pageId : Option String) : Option KnowledgePage :=
  if orText pageId "" = "" then db.getPageByTitle workspaceId spaceId pageTitle
  else db.getPage workspaceId (orText pageId "")

def createKnowledgeProposal (platform : KnowledgePlatform) (db : KnowledgeDb)
    (input : KnowledgeProposalInput) (options : KnowledgeWriteOptions) :
    Except String (KnowledgeProposal × KnowledgeDb) := do
  let workspaceId := readWorkspaceId input.workspaceId
  let db ← db.ensureWorkspaceSeed platform workspaceId
  let spaceId ← requiredString input.spaceId "Knowledge space id" 512
  let space ← orThrow (db.getSpace workspaceId spaceId) "Knowledge space was not found."
  assertCanPropose space
  let pageTitle ← requiredString input.pageTitle "Knowledge page title" knowledgeMaxTitleBytes
  let page := db.proposedPage workspaceId spaceId pageTitle input.pageId
  refuseIf (orText input.pageId "" ≠ "" ∧ page = none) "Knowledge page was not found."
  refuseIf (∃ found ∈ page, found.spaceId ≠ spaceId) "Knowledge page belongs to a different space."
  let body ← normalizeBody input.body
  let links ← normalizeLinks input.links
  let author ← readName input.author "Knowledge proposal author"
  let summary ← requiredString input.summary "Knowledge proposal summary" knowledgeMaxTextBytes
  knowledgeJsonString (linksJson links) "Knowledge proposal links"
  knowledgeJsonString (bodyJson body) "Knowledge proposal body"
  let proposal : KnowledgeProposal := {
    id := orText options.id ("proposal:" ++ options.randomUUID)
    pageId := page.map KnowledgePage.id
    pageTitle, spaceId, author, createdAt := options.now, summary
    diff := calculateDiffStats (page.map KnowledgePage.body) body
    status := .pending, reviewedAt := none, reviewedBy := none, links, body, workspaceId }
  let proposals ← inserted db.proposals proposal.id proposal "knowledge_proposals"
  return (proposal, { db with proposals })

/-- The proposal that a review is about, which must be pending and in a space that may be
reviewed. -/
def reviewedProposal (proposalId : Option Json) (workspaceId : String) :
    Except String KnowledgeProposal := do
  let id ← requiredString proposalId "Knowledge proposal id" 512
  let proposal ← orThrow (db.getProposal id workspaceId) "Knowledge proposal was not found."
  refuseIf (proposal.status ≠ .pending) "Knowledge proposal is not pending."
  let space ← orThrow (db.getSpace workspaceId proposal.spaceId) "Knowledge space was not found."
  assertCanReview space
  return proposal

def updateProposalStatus (proposal : KnowledgeProposal)
    (status : KnowledgeProposalStatus) (input : KnowledgeReviewInput) :
    Except String (KnowledgeProposal × KnowledgeDb) := do
  let reviewer ← readName input.reviewedBy "Knowledge reviewer"
  let updated := { proposal with
    status, reviewedAt := some input.now, reviewedBy := some reviewer }
  return (updated, { db with proposals := db.proposals.set proposal.id updated })

def replacedPage (workspaceId : String) (proposal : KnowledgeProposal) :
    Option KnowledgePage :=
  match proposal.pageId with
  | some pageId => db.getPage workspaceId pageId
  | none => db.getPageByTitle workspaceId proposal.spaceId proposal.pageTitle

end KnowledgeDb

def publishedVersion (platform : KnowledgePlatform) (existing : Option KnowledgePage)
    (proposal : KnowledgeProposal) (workspaceId : String) (input : KnowledgeReviewInput) :
    KnowledgePageVersion :=
  let pageId := (existing.map KnowledgePage.id).getD ("page:" ++ input.randomUUID)
  let version := (existing.map KnowledgePage.version).getD 0 + 1
  { page := {
      id := pageId, spaceId := proposal.spaceId, title := proposal.pageTitle
      updatedBy := proposal.author, updatedAt := input.now, version
      revision := platform.knowledgeRevisionFor pageId version proposal.body proposal.links
      links := proposal.links, body := proposal.body, workspaceId }
    versionId := versionIdFor pageId version
    proposalId := some proposal.id }

/-- The version that a restore publishes: the content of `target` over `page`. -/
def restoredVersion (platform : KnowledgePlatform) (page : KnowledgePage)
    (target : KnowledgePageVersion) (workspaceId reviewer : String)
    (input : KnowledgeReviewInput) : KnowledgePageVersion :=
  let version := page.version + 1
  { page := {
      id := page.id, spaceId := page.spaceId, title := target.page.title
      updatedBy := reviewer, updatedAt := input.now, version
      revision := platform.knowledgeRevisionFor page.id version target.page.body target.page.links
      links := target.page.links, body := target.page.body, workspaceId }
    versionId := versionIdFor page.id version
    proposalId := none }

def KnowledgePage.updateTo (row : KnowledgePageVersion) : KnowledgePage :=
  { page with
      title := row.page.title, updatedBy := row.page.updatedBy, updatedAt := row.page.updatedAt
      version := row.page.version, revision := row.page.revision, links := row.page.links
      body := row.page.body }

namespace KnowledgeDb

def writePage (db : KnowledgeDb) (existing : Option KnowledgePage) (row : KnowledgePageVersion) :
    Except String KnowledgeDb :=
  match existing with
  | some page => .ok { db with pages := db.pages.set page.id (page.updateTo row) }
  | none => do
      let pages ← inserted db.pages row.page.id row.page "knowledge_pages"
      return { db with pages }

def acceptKnowledgeProposal (platform : KnowledgePlatform) (db : KnowledgeDb)
    (proposalId : Option Json) (input : KnowledgeReviewInput) :
    Except String ((KnowledgeProposal × KnowledgePageVersion) × KnowledgeDb) := do
  let workspaceId := readWorkspaceId input.workspaceId
  let proposal ← db.reviewedProposal proposalId workspaceId
  let existing := db.replacedPage workspaceId proposal
  knowledgeJsonString (linksJson proposal.links) "Knowledge links"
  knowledgeJsonString (bodyJson proposal.body) "Knowledge body"
  let row := publishedVersion platform existing proposal workspaceId input
  let db ← db.writePage existing row
  let db ← db.insertVersion row
  let (reviewed, db) ← db.updateProposalStatus proposal .accepted input
  return ((reviewed, row), db)

def declineKnowledgeProposal (db : KnowledgeDb) (proposalId : Option Json)
    (input : KnowledgeReviewInput) : Except String (KnowledgeProposal × KnowledgeDb) := do
  let workspaceId := readWorkspaceId input.workspaceId
  let proposal ← db.reviewedProposal proposalId workspaceId
  db.updateProposalStatus proposal .declined input

def restoreKnowledgePageVersion (platform : KnowledgePlatform) (db : KnowledgeDb)
    (pageId versionId : Option Json) (input : KnowledgeReviewInput) :
    Except String (KnowledgePageVersion × KnowledgeDb) := do
  let workspaceId := readWorkspaceId input.workspaceId
  let db ← db.ensureWorkspaceSeed platform workspaceId
  let id ← requiredString pageId "Knowledge page id" 512
  let page ← orThrow (db.getPage workspaceId id) "Knowledge page was not found."
  let space ← orThrow (db.getSpace workspaceId page.spaceId) "Knowledge space was not found."
  assertCanReview space
  let targetId ← requiredString versionId "Knowledge version id" 512
  let target ← orThrow ((db.versions.get targetId).filter fun row =>
      row.page.workspaceId = workspaceId ∧ row.page.id = page.id)
    "Knowledge page version was not found."
  refuseIf (target.page.version = page.version)
    "Knowledge page version is already the current version."
  let reviewer ← readName input.reviewedBy "Knowledge reviewer"
  knowledgeJsonString (linksJson target.page.links) "Knowledge links"
  knowledgeJsonString (bodyJson target.page.body) "Knowledge body"
  let row := restoredVersion platform page target workspaceId reviewer input
  let db ← db.writePage (some page) row
  let db ← db.insertVersion row
  return (row, db)

end KnowledgeDb

/-! ## Calls -/

inductive KnowledgeCall where
  | create (input : KnowledgeProposalInput) (options : KnowledgeWriteOptions)
  | accept (proposalId : Option Json) (input : KnowledgeReviewInput)
  | decline (proposalId : Option Json) (input : KnowledgeReviewInput)
  | restore (pageId versionId : Option Json) (input : KnowledgeReviewInput)

inductive KnowledgeAnswer where
  | proposal (proposal : KnowledgeProposal)
  | accepted (proposal : KnowledgeProposal) (page : KnowledgePageVersion)
  | page (page : KnowledgePageVersion)
  | thrown (message : String)
deriving DecidableEq, Repr

namespace KnowledgeDb

variable {platform : KnowledgePlatform} {db : KnowledgeDb} {call : KnowledgeCall}

def attempt (platform : KnowledgePlatform) (db : KnowledgeDb) :
    KnowledgeCall → Except String (KnowledgeAnswer × KnowledgeDb)
  | .create input options =>
    (db.createKnowledgeProposal platform input options).map fun found =>
      (.proposal found.1, found.2)
  | .accept proposalId input =>
    (db.acceptKnowledgeProposal platform proposalId input).map fun found =>
      (.accepted found.1.1 found.1.2, found.2)
  | .decline proposalId input =>
    (db.declineKnowledgeProposal proposalId input).map fun found => (.proposal found.1, found.2)
  | .restore pageId versionId input =>
    (db.restoreKnowledgePageVersion platform pageId versionId input).map fun found =>
      (.page found.1, found.2)

/-- A call that throws is rolled back, also the seed it wrote. -/
def perform (platform : KnowledgePlatform) (db : KnowledgeDb) (call : KnowledgeCall) :
    KnowledgeAnswer × KnowledgeDb :=
  match db.attempt platform call with
  | .ok answer => answer
  | .error message => (.thrown message, db)

theorem perform_of_ok
    {answer : KnowledgeAnswer × KnowledgeDb} (h : db.attempt platform call = .ok answer) :
    db.perform platform call = answer := by
  rw [perform, h]

theorem perform_of_error {message : String} (h : db.attempt platform call = .error message) :
    db.perform platform call = (.thrown message, db) := by
  rw [perform, h]

end KnowledgeDb

def knowledgeStore (platform : KnowledgePlatform) :
    Machine KnowledgeDb KnowledgeCall KnowledgeAnswer where
  step db call := db.perform platform call

end OpenCowork.Runtime
