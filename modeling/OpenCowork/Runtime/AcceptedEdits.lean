import OpenCowork.Runtime.PageHistory

/-! # Accepted edits

What a run of the knowledge store keeps: the history of every page, the version of every
accepted proposal, and decided proposals. A proposal may be accepted over content that was
published after it was made; that content then stands in the history only.
-/

namespace OpenCowork.Runtime

open OpenCowork.Foundation

/-- The versions of every page are those from 1 to its own number, each once, and the page is
the newest of them. -/
def PagesVersioned (db : KnowledgeDb) : Prop :=
  ∀ id page, db.pages.get id = some page →
    (∀ version, (1 ≤ version ∧ version ≤ page.version) ↔
      ∃ key row, db.versions.get key = some row ∧ row.page.id = id ∧ row.page.version = version) ∧
    (∀ key key' row row', db.versions.get key = some row → db.versions.get key' = some row' →
      row.page.id = id → row'.page.id = id → row.page.version = row'.page.version → key = key') ∧
    ∃ key row, db.versions.get key = some row ∧ row.page = page

/-- An accepted proposal has exactly one version, any other has none. -/
def ProposalsProduce (db : KnowledgeDb) : Prop :=
  ∀ id proposal, db.proposals.get id = some proposal →
    (proposal.status = .accepted →
      ∃! key, ∃ row, db.versions.get key = some row ∧ row.proposalId = some id) ∧
    (proposal.status ≠ .accepted →
      ∀ key row, db.versions.get key = some row → row.proposalId ≠ some id)

/-- What a later state keeps: every version, every decided proposal, and of the pending ones
all but their review. -/
structure Later (before after : KnowledgeDb) : Prop where
  versions : ∀ key row, before.versions.get key = some row → after.versions.get key = some row
  decided : ∀ id proposal, before.proposals.get id = some proposal → proposal.status ≠ .pending →
    after.proposals.get id = some proposal
  proposals : ∀ id proposal, before.proposals.get id = some proposal → ∃ status proposal',
    after.proposals.get id = some proposal' ∧ Reviewed proposal proposal' status

variable {db : KnowledgeDb}

theorem pagesVersioned_of_kept (h : PagesKept db) : PagesVersioned db := by
  intro id page hpage
  refine ⟨fun version => ⟨?_, ?_⟩, ?_, ?_⟩
  · rintro ⟨hfirst, hlast⟩
    obtain ⟨row, hrow, hid, hversion⟩ := h.complete id page hpage version hfirst hlast
    exact ⟨_, row, hrow, hid, hversion⟩
  · rintro ⟨key, row, hrow, rfl, rfl⟩
    obtain ⟨_, hheld, hfirst, hlast⟩ := h.below key row hrow
    rw [hpage, Option.some.injEq] at hheld
    subst hheld
    exact ⟨hfirst, hlast⟩
  · intro key key' row row' hrow hrow' hid hid' hversion
    rw [h.versionKey key row hrow, h.versionKey key' row' hrow', hid, hid', hversion]
  · obtain ⟨row, hrow, heq⟩ := h.newest id page hpage
    exact ⟨_, row, hrow, heq⟩

theorem proposalsProduce_of_kept (h : ProposalsKept db) : ProposalsProduce db := by
  intro id proposal hheld
  constructor
  · intro haccepted
    obtain ⟨key, row, hrow, hid⟩ := h.accepted id proposal hheld haccepted
    refine ⟨key, ⟨row, hrow, hid⟩, ?_⟩
    rintro key' ⟨row', hrow', hid'⟩
    exact h.once key' key row' row hrow' hrow (by rw [hid']; rfl) (hid'.trans hid.symm)
  · intro hstatus key row hrow hid
    obtain ⟨_, hheld', haccepted⟩ := h.produced key row hrow id hid
    rw [hheld, Option.some.injEq] at hheld'
    subst hheld'
    exact hstatus haccepted

/-! ## One step -/

theorem Reviewed.refl (proposal : KnowledgeProposal) :
    Reviewed proposal proposal proposal.status := ⟨_, _, rfl⟩

theorem Reviewed.trans {first second third : KnowledgeProposal}
    {status status' : KnowledgeProposalStatus} (h : Reviewed first second status)
    (h' : Reviewed second third status') : Reviewed first third status' := by
  obtain ⟨_, _, rfl⟩ := h.eq
  obtain ⟨reviewedAt, reviewedBy, rfl⟩ := h'.eq
  exact ⟨reviewedAt, reviewedBy, rfl⟩

namespace Later

variable {before after : KnowledgeDb}

theorem refl (db : KnowledgeDb) : Later db db :=
  ⟨fun _ _ h => h, fun _ _ h _ => h, fun _ proposal h => ⟨_, proposal, h, .refl proposal⟩⟩

theorem trans {middle : KnowledgeDb} (h : Later before middle) (h' : Later middle after) :
    Later before after where
  versions key row hrow := h'.versions key row (h.versions key row hrow)
  decided id proposal hheld hstatus :=
    h'.decided id proposal (h.decided id proposal hheld hstatus) hstatus
  proposals id proposal hheld := by
    obtain ⟨_, second, hsecond, hreview⟩ := h.proposals id proposal hheld
    obtain ⟨status, third, hthird, hreview'⟩ := h'.proposals id second hsecond
    exact ⟨status, third, hthird, hreview.trans hreview'⟩

theorem of_same (hversions : ∀ key row, before.versions.get key = some row →
      after.versions.get key = some row)
    (hproposals : ∀ id proposal, before.proposals.get id = some proposal →
      after.proposals.get id = some proposal) : Later before after :=
  ⟨hversions, fun id proposal h _ => hproposals id proposal h,
    fun id proposal h => ⟨_, proposal, hproposals id proposal h, .refl proposal⟩⟩

theorem of_review {proposal updated : KnowledgeProposal} {status : KnowledgeProposalStatus}
    (hheld : before.proposals.get proposal.id = some proposal)
    (hpending : proposal.status = .pending) (hreviewed : Reviewed proposal updated status)
    (hversions : ∀ key row, before.versions.get key = some row →
      after.versions.get key = some row)
    (hproposals : after.proposals = before.proposals.set proposal.id updated) :
    Later before after := by
  refine ⟨hversions, ?_, ?_⟩
  · intro id other hother hstatus
    rw [hproposals, OrderedMap.get_set_of_ne _ _ ?_]
    · exact hother
    · rintro rfl
      rw [hheld, Option.some.injEq] at hother
      exact hstatus (hother ▸ hpending)
  · intro id other hother
    rw [hproposals, OrderedMap.get_set]
    split
    next hid =>
      subst hid
      rw [hheld, Option.some.injEq] at hother
      subst hother
      exact ⟨status, updated, rfl, hreviewed⟩
    · exact ⟨_, other, hother, .refl other⟩

end Later

/-- A state in which pages, versions and proposals fit together. -/
structure KnowledgeKept (db : KnowledgeDb) : Prop where
  pages : PagesKept db
  proposals : ProposalsKept db

variable {platform : KnowledgePlatform} {db after : KnowledgeDb} {proposal : KnowledgeProposal}
  {workspaceId : String} {input : KnowledgeReviewInput} {reviewed : KnowledgeProposal}
  {row : KnowledgePageVersion} {before : KnowledgeDb}

theorem KnowledgeKept.ofSpaces (spaces : OrderedMap String KnowledgeSpace) :
    KnowledgeKept (.ofSpaces spaces) := by
  constructor
  · constructor
    · intro id page hpage
      cases hpage
    · intro key row hrow
      cases hrow
    · intro key row hrow
      cases hrow
    · intro id page hpage
      cases hpage
    · intro id page hpage
      cases hpage
  · constructor
    · intro id proposal hheld
      cases hheld
    · intro id proposal hheld
      cases hheld
    · intro key row hrow
      cases hrow
    · intro id proposal hheld
      cases hheld
    · intro key _ row _ hrow
      cases hrow

variable (h : KnowledgeKept db)
include h

theorem KnowledgeKept.seeded (hseeded : db.ensureWorkspaceSeed platform workspaceId = .ok after) :
    KnowledgeKept after ∧ Later db after := by
  rcases ensureWorkspaceSeed_spec hseeded with rfl | ⟨hsame, hpublishes⟩
  · exact ⟨h, .refl _⟩
  · refine ⟨⟨h.pages.publishes hpublishes, h.proposals.published hpublishes rfl hsame⟩,
      .of_same hpublishes.stands ?_⟩
    rw [hsame]
    exact fun _ _ h => h

theorem KnowledgeKept.created {input : KnowledgeProposalInput} {options : KnowledgeWriteOptions}
    (hcreate : db.createKnowledgeProposal platform input options = .ok (proposal, after)) :
    KnowledgeKept after ∧ Later db after := by
  obtain ⟨seeded, hseeded, hproposes⟩ := createKnowledgeProposal_spec h.pages hcreate
  obtain ⟨hkept, hlater⟩ := h.seeded hseeded
  have hproposals := hkept.proposals.proposed hproposes
  obtain ⟨hfree, -, -, -, -, rfl⟩ := hproposes
  obtain ⟨hpageKey, hversionKey, hbelow, hnewest, hcomplete⟩ := hkept.pages
  refine ⟨⟨⟨hpageKey, hversionKey, hbelow, hnewest, hcomplete⟩, hproposals⟩,
    hlater.trans (.of_same (fun _ _ h => h) ?_)⟩
  intro _ _ hother
  rw [OrderedMap.get_set_of_ne _ _ ?_]
  · exact hother
  · rintro rfl
    rw [hfree] at hother
    cases hother

theorem KnowledgeKept.declined {proposalId : Option Json}
    (hdecline : db.declineKnowledgeProposal proposalId input = .ok (reviewed, after)) :
    KnowledgeKept after ∧ Later db after := by
  obtain ⟨proposal, hproposal, hupdate⟩ := bind_eq_ok hdecline
  obtain ⟨⟨id, hget⟩, -, hpending⟩ := reviewedProposal_spec hproposal
  have hheld : db.proposals.get proposal.id = some proposal := by
    rw [h.proposals.proposalKey id proposal hget]
    exact hget
  obtain ⟨hreviewed, rfl⟩ := updateProposalStatus_spec hupdate
  obtain ⟨hpageKey, hversionKey, hbelow, hnewest, hcomplete⟩ := h.pages
  exact ⟨⟨⟨hpageKey, hversionKey, hbelow, hnewest, hcomplete⟩,
    h.proposals.declined hheld hpending hreviewed⟩,
    .of_review hheld hpending hreviewed (fun _ _ h => h) rfl⟩

theorem KnowledgeKept.accepts
    (haccepts : Accepts platform db workspaceId proposal reviewed row after) :
    KnowledgeKept after ∧ Later db after :=
  ⟨⟨h.pages.publishes haccepts.publishes, h.proposals.accepts haccepts⟩,
    .of_review haccepts.held haccepts.pending haccepts.review haccepts.publishes.stands
      haccepts.proposals⟩

theorem restoreKnowledgePageVersion_spec {pageId versionId : Option Json}
    (hrestore : db.restoreKnowledgePageVersion platform pageId versionId input =
      .ok (row, after)) :
    ∃ seeded, db.ensureWorkspaceSeed platform (readWorkspaceId input.workspaceId) = .ok seeded ∧
      row.proposalId = none ∧ Publishes seeded row after ∧ after.proposals = seeded.proposals := by
  obtain ⟨seeded, hseeded, hrestore⟩ := bind_eq_ok hrestore
  obtain ⟨id, _, hrestore⟩ := bind_eq_ok hrestore
  obtain ⟨page, hpage, hrestore⟩ := bind_eq_ok hrestore
  iterate 3 obtain ⟨_, _, hrestore⟩ := bind_eq_ok hrestore
  iterate 5 obtain ⟨_, _, hrestore⟩ := bind_eq_ok hrestore
  obtain ⟨_, hwritten, hrestore⟩ := bind_eq_ok hrestore
  obtain ⟨_, hpublished, hrestore⟩ := bind_eq_ok hrestore
  cases hrestore
  obtain ⟨hget, hworkspace⟩ := getPage_eq_some (orThrow_eq_ok hpage)
  have hpageId := (h.pages.seeded hseeded).pageKey id page hget
  rw [← hpageId] at hget
  obtain ⟨-, rfl⟩ := writePage_spec hwritten fun held hheld => by
    cases hheld
    exact ⟨rfl, rfl, hworkspace⟩
  obtain ⟨hfree, rfl⟩ := insertVersion_spec hpublished
  refine ⟨seeded, hseeded, rfl, ⟨rfl, hfree, ?_, ?_, rfl, rfl⟩, rfl⟩
  · show _ = ((seeded.pages.get page.id).map KnowledgePage.version).getD 0 + 1
    rw [hget]
    rfl
  · intro held hheld
    have hheld : seeded.pages.get page.id = some held := hheld
    rw [hget, Option.some.injEq] at hheld
    subst hheld
    exact ⟨rfl, hworkspace⟩

omit h

/-- A call keeps the books of the pages and takes nothing back. -/
theorem KnowledgeKept.perform (platform : KnowledgePlatform) (h : KnowledgeKept db)
    (call : KnowledgeCall) :
    KnowledgeKept (db.perform platform call).2 ∧ Later db (db.perform platform call).2 := by
  cases hattempt : db.attempt platform call with
  | error =>
    rw [KnowledgeDb.perform_of_error hattempt]
    exact ⟨h, .refl db⟩
  | ok =>
    rw [KnowledgeDb.perform_of_ok hattempt]
    cases call with
    | create =>
      obtain ⟨found, hcreate, rfl⟩ := map_eq_ok hattempt
      exact h.created hcreate
    | accept =>
      obtain ⟨found, haccept, rfl⟩ := map_eq_ok hattempt
      obtain ⟨_, haccepts⟩ := acceptKnowledgeProposal_spec h.pages h.proposals haccept
      exact h.accepts haccepts
    | decline =>
      obtain ⟨found, hdecline, rfl⟩ := map_eq_ok hattempt
      exact h.declined hdecline
    | restore =>
      obtain ⟨found, hrestore, rfl⟩ := map_eq_ok hattempt
      obtain ⟨seeded, hseeded, hrow, hpublishes, hsame⟩ :=
        restoreKnowledgePageVersion_spec h hrestore
      obtain ⟨hkept, hlater⟩ := h.seeded hseeded
      refine ⟨⟨hkept.pages.publishes hpublishes,
        hkept.proposals.published hpublishes hrow hsame⟩,
        hlater.trans (.of_same hpublishes.stands ?_)⟩
      show ∀ id proposal, seeded.proposals.get id = some proposal →
        found.2.proposals.get id = some proposal
      rw [hsame]
      exact fun _ _ h => h

theorem KnowledgeKept.run (platform : KnowledgePlatform) (h : KnowledgeKept db)
    (calls : List KnowledgeCall) :
    KnowledgeKept ((knowledgeStore platform).run db calls) ∧
      Later db ((knowledgeStore platform).run db calls) := by
  induction calls generalizing db with
  | nil => exact ⟨h, .refl db⟩
  | cons call _ ih =>
    obtain ⟨hkept, hlater⟩ := h.perform platform call
    obtain ⟨hrest, hlaterRest⟩ := ih hkept
    exact ⟨hrest, hlater.trans hlaterRest⟩

/-! ## Acceptances -/

/-- What holds of a proposal, of the state right after it was made, of the state before it is
accepted, and of what its acceptance returns, for every proposal of a history that is made and
accepted later. -/
def OfAcceptances (platform : KnowledgePlatform) (spaces : OrderedMap String KnowledgeSpace)
    (calls : List KnowledgeCall)
    (holds : KnowledgeProposal → KnowledgeDb → KnowledgeDb → KnowledgeProposal →
      KnowledgePageVersion → Prop) : Prop :=
  ∀ first input options between proposalId review rest proposal reviewed row,
    calls = first ++ (.create input options :: between) ++ .accept proposalId review :: rest →
    (((knowledgeStore platform).run (.ofSpaces spaces) first).perform platform
      (.create input options)).1 = .proposal proposal →
    (((knowledgeStore platform).run (.ofSpaces spaces)
        (first ++ (.create input options :: between))).perform platform
      (.accept proposalId review)).1 = .accepted reviewed row →
    reviewed.id = proposal.id →
    holds proposal
      ((knowledgeStore platform).run (.ofSpaces spaces) (first ++ [.create input options]))
      ((knowledgeStore platform).run (.ofSpaces spaces)
        (first ++ (.create input options :: between))) reviewed row

def KnowledgeDb.replacedBy (db : KnowledgeDb) (proposal : KnowledgeProposal) :
    Option KnowledgePage :=
  db.replacedPage proposal.workspaceId proposal

def ReplacesNothingNewer (proposal : KnowledgeProposal) (made before : KnowledgeDb)
    (_ : KnowledgeProposal) (_ : KnowledgePageVersion) : Prop :=
  (before.replacedBy proposal).map KnowledgePage.version =
    (made.replacedBy proposal).map KnowledgePage.version

/-- The content of the proposal becomes the next version of the page. The counts of the proposal
are those between the page as it stood when the proposal was made and this version; they are
those between the page that is replaced and this version if none was published in between. -/
structure PublishesProposal (proposal : KnowledgeProposal) (made before : KnowledgeDb)
    (reviewed : KnowledgeProposal) (row : KnowledgePageVersion) : Prop where
  proposalId : row.proposalId = some proposal.id
  title : row.page.title = proposal.pageTitle
  links : row.page.links = proposal.links
  body : row.page.body = proposal.body
  next : row.page.version = ((before.replacedBy proposal).map KnowledgePage.version).getD 0 + 1
  review : reviewed.diff = proposal.diff
  diff : proposal.diff =
    calculateDiffStats ((made.replacedBy proposal).map KnowledgePage.body) row.page.body
  describes : ReplacesNothingNewer proposal made before reviewed row → proposal.diff =
    calculateDiffStats ((before.replacedBy proposal).map KnowledgePage.body) row.page.body

theorem Later.page_eq {after : KnowledgeDb} (h : Later before after)
    (hbefore : PagesKept before) (hafter : PagesKept after) {id : String}
    {page page' : KnowledgePage} (hpage : before.pages.get id = some page)
    (hpage' : after.pages.get id = some page') (hversion : page'.version = page.version) :
    page' = page := by
  obtain ⟨row, hrow, rfl⟩ := hbefore.newest id page hpage
  obtain ⟨_, hrow', rfl⟩ := hafter.newest id page' hpage'
  have hstands := h.versions _ row hrow
  rw [← hversion, hrow', Option.some.injEq] at hstands
  rw [hstands]

theorem replacedBy_eq {made seeded : KnowledgeDb}
    (hmade : KnowledgeKept made) (hbefore : KnowledgeKept before) (hlater : Later made before)
    (hproposes : Proposes seeded proposal made)
    (hversion : (before.replacedBy proposal).map KnowledgePage.version =
      (made.replacedBy proposal).map KnowledgePage.version) :
    before.replacedBy proposal = made.replacedBy proposal := by
  cases hold : made.replacedBy proposal with
  | none =>
    rw [hold] at hversion
    exact Option.map_eq_none_iff.mp hversion
  | some =>
    rw [hold] at hversion
    obtain ⟨_, hpage', heq⟩ := Option.map_eq_some_iff.mp hversion
    rw [hpage']
    cases hpageId : proposal.pageId with
    | none =>
      have hnone := hproposes.unnamed hpageId
      rw [KnowledgeDb.replacedBy, hnone] at hold
      cases hold
    | some =>
      rw [KnowledgeDb.replacedBy, KnowledgeDb.replacedPage, hpageId] at hold hpage'
      obtain ⟨hget, -⟩ := getPage_eq_some hold
      obtain ⟨hget', -⟩ := getPage_eq_some hpage'
      rw [hlater.page_eq hmade.pages hbefore.pages hget hget' heq]

theorem publishes_proposal (platform : KnowledgePlatform)
    (spaces : OrderedMap String KnowledgeSpace) (calls : List KnowledgeCall) :
    OfAcceptances platform spaces calls PublishesProposal := by
  intro first input options between proposalId review _ proposal reviewed row _ hcreate haccept
    hid
  obtain ⟨hkept, -⟩ := (KnowledgeKept.ofSpaces spaces).run platform first
  generalize hdb : (knowledgeStore platform).run (.ofSpaces spaces) first = db at *
  have hmade : (knowledgeStore platform).run (.ofSpaces spaces) (first ++ [.create input options]) =
      (db.perform platform (.create input options)).2 := by
    rw [Machine.run_append, hdb]
    rfl
  have hbefore : (knowledgeStore platform).run (.ofSpaces spaces)
        (first ++ (.create input options :: between)) =
      (knowledgeStore platform).run (db.perform platform (.create input options)).2 between := by
    rw [Machine.run_append, hdb]
    rfl
  rw [hmade, hbefore]
  rw [hbefore] at haccept
  obtain ⟨hkeptMade, -⟩ := hkept.perform platform (.create input options)
  -- the proposal was made in this call
  obtain ⟨seeded, hproposes⟩ : ∃ seeded, Proposes seeded proposal
      (db.perform platform (.create input options)).2 := by
    cases hattempt : db.attempt platform (.create input options) with
    | error =>
      rw [KnowledgeDb.perform_of_error hattempt] at hcreate
      cases hcreate
    | ok =>
      rw [KnowledgeDb.perform_of_ok hattempt] at hcreate ⊢
      obtain ⟨_, hfound, rfl⟩ := map_eq_ok hattempt
      cases hcreate
      obtain ⟨seeded, -, hproposes⟩ := createKnowledgeProposal_spec hkept.pages hfound
      exact ⟨seeded, hproposes⟩
  generalize (db.perform platform (.create input options)).2 = made at *
  obtain ⟨hkeptBefore, hlater⟩ := hkeptMade.run platform between
  generalize (knowledgeStore platform).run made between = before at *
  -- and is accepted in that one, as it was made but for its review
  obtain ⟨held, hheld⟩ : ∃ held after, Accepts platform before (readWorkspaceId review.workspaceId)
      held reviewed row after := by
    cases hattempt : before.attempt platform (.accept proposalId review) with
    | error =>
      rw [KnowledgeDb.perform_of_error hattempt] at haccept
      cases haccept
    | ok =>
      rw [KnowledgeDb.perform_of_ok hattempt] at haccept
      obtain ⟨⟨⟨_, _⟩, after⟩, hfound, rfl⟩ := map_eq_ok hattempt
      cases haccept
      obtain ⟨held, hheld⟩ :=
        acceptKnowledgeProposal_spec hkeptBefore.pages hkeptBefore.proposals hfound
      exact ⟨held, after, hheld⟩
  obtain ⟨_, haccepts⟩ := hheld
  obtain ⟨hreviewedId, -, -, -, -, hreviewedDiff⟩ := haccepts.review.keeps
  have hproposal : made.proposals.get proposal.id = some proposal := by
    rw [hproposes.result]
    exact OrderedMap.get_set_self _ _ _
  obtain ⟨_, stood, hstood, hreview⟩ := hlater.proposals proposal.id proposal hproposal
  have hsame : held = stood := by
    have hget := haccepts.held
    rw [← hreviewedId, hid, hstood] at hget
    exact (Option.some.inj hget).symm
  subst hsame
  obtain ⟨_, _, rfl⟩ := hreview.eq
  obtain ⟨_, hrow⟩ := haccepts.content
  rw [← haccepts.workspace] at hrow
  have hbody : row.page.body = proposal.body := by rw [hrow]; rfl
  constructor
  · rw [hrow]; rfl
  · rw [hrow]; rfl
  · rw [hrow]; rfl
  · exact hbody
  · rw [hrow]; rfl
  · exact hreviewedDiff
  · rw [hbody]
    exact hproposes.diff
  · intro hversion
    rw [hbody, replacedBy_eq hkeptMade hkeptBefore hlater hproposes hversion]
    exact hproposes.diff

/-- In every history the versions of each page are those from 1 to its own, the page is the
newest of them, an accepted proposal has one version and any other none; versions and decided
proposals stay as they are; and the acceptance of a proposal publishes its content as the next
version, whatever was published since the proposal was made. -/
theorem accepted_edits_published (platform : KnowledgePlatform)
    (spaces : OrderedMap String KnowledgeSpace) (calls : List KnowledgeCall) :
    (∀ first rest, calls = first ++ rest →
      PagesVersioned ((knowledgeStore platform).run (.ofSpaces spaces) first) ∧
      ProposalsProduce ((knowledgeStore platform).run (.ofSpaces spaces) first)) ∧
    (∀ first between rest, calls = first ++ (between ++ rest) →
      Later ((knowledgeStore platform).run (.ofSpaces spaces) first)
        ((knowledgeStore platform).run (.ofSpaces spaces) (first ++ between))) ∧
    OfAcceptances platform spaces calls PublishesProposal := by
  refine ⟨fun first rest _ => ?_, fun first between rest _ => ?_,
    publishes_proposal platform spaces calls⟩
  · obtain ⟨hkept, -⟩ := (KnowledgeKept.ofSpaces spaces).run platform first
    exact ⟨pagesVersioned_of_kept hkept.pages, proposalsProduce_of_kept hkept.proposals⟩
  · obtain ⟨hkept, -⟩ := (KnowledgeKept.ofSpaces spaces).run platform first
    rw [Machine.run_append]
    exact (hkept.run platform between).2

/-! ## An edit that is replaced -/

/-- A proposal for the page of the seed, as it is given and as it is kept. -/
def seedCall (id text : String) : KnowledgeCall :=
  .create ⟨none, some (.str "space:local:company-os"), some "page:local:operating-model",
    some (.str "Operating model"), none, some (.str "Change"), none,
    some (.arr [.obj [("type", .str "p"), ("text", .str text)]])⟩ ⟨seedAt, some id, ""⟩

def seedProposal (id text : String) : KnowledgeProposal where
  id := id
  pageId := some "page:local:operating-model"
  pageTitle := "Operating model"
  spaceId := "space:local:company-os"
  author := "you"
  createdAt := seedAt
  summary := "Change"
  diff := ⟨1, 6⟩
  status := .pending
  reviewedAt := none
  reviewedBy := none
  links := []
  body := [.text "block-1" .p text]
  workspaceId := "local"

def acceptCall (id : String) : KnowledgeCall := .accept (some (.str id)) ⟨none, none, seedAt, ""⟩

/-- Every text has the same digest here. -/
def emptyDigest : KnowledgePlatform := ⟨fun _ => ""⟩

def thirdVersion (id text : String) : KnowledgePageVersion where
  page := {
    id := "page:local:operating-model", spaceId := "space:local:company-os"
    title := "Operating model", updatedBy := "you", updatedAt := seedAt, version := 3
    revision := "", links := [], body := [.text "block-1" .p text], workspaceId := "local" }
  versionId := "version:page:local:operating-model:3"
  proposalId := some id

/-- Two proposals are made for one page and both are accepted: the second replaces what the
first has published. -/
theorem later_edit_replaced :
    ¬ ∀ (platform : KnowledgePlatform) spaces calls,
      OfAcceptances platform spaces calls ReplacesNothingNewer := by
  intro h
  have hreplaced := h emptyDigest .empty
    [seedCall "one" "One", seedCall "two" "Two", acceptCall "one", acceptCall "two"]
    [seedCall "one" "One"] _ _ [acceptCall "one"] _ _ [] (seedProposal "two" "Two")
    { seedProposal "two" "Two" with
      status := .accepted, reviewedAt := some seedAt, reviewedBy := some "you" }
    (thirdVersion "two" "Two") rfl (by decide +kernel) (by decide +kernel) rfl
  exact absurd hreplaced (by unfold ReplacesNothingNewer; decide +kernel)

end OpenCowork.Runtime
