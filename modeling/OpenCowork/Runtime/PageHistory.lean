import OpenCowork.Runtime.KnowledgeStore

/-! # The history of knowledge pages

Every page has the versions from 1 to its own, and is the last of them. A version that came
from a proposal belongs to that proposal alone, which is accepted.
-/

namespace OpenCowork.Runtime

open OpenCowork.Foundation OrderedMap

/-- The invariant of pages and their versions. -/
structure PagesKept (db : KnowledgeDb) : Prop where
  pageKey : ∀ id page, db.pages.get id = some page → page.id = id
  versionKey : ∀ key row, db.versions.get key = some row →
    key = versionIdFor row.page.id row.page.version
  below : ∀ key row, db.versions.get key = some row → ∃ page,
    db.pages.get row.page.id = some page ∧ 1 ≤ row.page.version ∧ row.page.version ≤ page.version
  newest : ∀ id page, db.pages.get id = some page → ∃ row,
    db.versions.get (versionIdFor id page.version) = some row ∧ row.page = page
  complete : ∀ id page, db.pages.get id = some page → ∀ version, 1 ≤ version →
    version ≤ page.version → ∃ row, db.versions.get (versionIdFor id version) = some row ∧
      row.page.id = id ∧ row.page.version = version

/-- The invariant of proposals and the versions that came from them. -/
structure ProposalsKept (db : KnowledgeDb) : Prop where
  proposalKey : ∀ id proposal, db.proposals.get id = some proposal → proposal.id = id
  target : ∀ id proposal, db.proposals.get id = some proposal → ∀ pageId,
    proposal.pageId = some pageId → ∃ page, db.pages.get pageId = some page ∧
      page.spaceId = proposal.spaceId ∧ page.workspaceId = proposal.workspaceId
  produced : ∀ key row, db.versions.get key = some row → ∀ id, row.proposalId = some id →
    ∃ proposal, db.proposals.get id = some proposal ∧ proposal.status = .accepted
  accepted : ∀ id proposal, db.proposals.get id = some proposal → proposal.status = .accepted →
    ∃ key row, db.versions.get key = some row ∧ row.proposalId = some id
  once : ∀ key key' row row', db.versions.get key = some row → db.versions.get key' = some row' →
    row.proposalId.isSome → row.proposalId = row'.proposalId → key = key'

/-! ## What a call writes -/

structure Publishes (before : KnowledgeDb) (row : KnowledgePageVersion) (after : KnowledgeDb) :
    Prop where
  key : row.versionId = versionIdFor row.page.id row.page.version
  free : before.versions.get row.versionId = none
  next : row.page.version =
    ((before.pages.get row.page.id).map KnowledgePage.version).getD 0 + 1
  stays : ∀ page, before.pages.get row.page.id = some page →
    page.spaceId = row.page.spaceId ∧ page.workspaceId = row.page.workspaceId
  pages : after.pages = before.pages.set row.page.id row.page
  versions : after.versions = before.versions.set row.versionId row

variable {platform : KnowledgePlatform} {db after : KnowledgeDb}
  {proposal updated : KnowledgeProposal} {before : KnowledgeDb} {row : KnowledgePageVersion}
  {status : KnowledgeProposalStatus} {workspaceId : String} {page : KnowledgePage} {key id : String}
  {proposalId : Option Json} {input : KnowledgeReviewInput} {reviewed : KnowledgeProposal}

theorem inserted_eq_ok {ν : Type} {table table' : OrderedMap String ν} {row : ν}
    {name : String} (h : KnowledgeDb.inserted table key row name = .ok table') :
    table.get key = none ∧ table' = table.set key row :=
  insertNew_eq_some_iff.mp (orThrow_eq_ok h)

theorem insertVersion_spec (h : db.insertVersion row = .ok after) :
    db.versions.get row.versionId = none ∧
      after = { db with versions := db.versions.set row.versionId row } := by
  obtain ⟨_, hversions, h⟩ := bind_eq_ok h
  obtain ⟨hfree, rfl⟩ := inserted_eq_ok hversions
  exact ⟨hfree, (Except.ok.inj h).symm⟩

theorem getPage_eq_some {pageId : String} (h : db.getPage workspaceId pageId = some page) :
    db.pages.get pageId = some page ∧ page.workspaceId = workspaceId := by
  obtain ⟨hget, hworkspace⟩ := Option.filter_eq_some_iff.mp h
  exact ⟨hget, of_decide_eq_true hworkspace⟩

theorem getProposal_eq_some {proposalId : String}
    (h : db.getProposal proposalId workspaceId = some proposal) :
    db.proposals.get proposalId = some proposal ∧ proposal.workspaceId = workspaceId := by
  obtain ⟨hget, hworkspace⟩ := Option.filter_eq_some_iff.mp h
  exact ⟨hget, of_decide_eq_true hworkspace⟩

theorem mem_of_foldl_laterUpdated {pages : List KnowledgePage} {best : Option KnowledgePage}
    (h : pages.foldl KnowledgeDb.laterUpdated best = some page) :
    page ∈ pages ∨ best = some page := by
  induction pages generalizing best with
  | nil => exact .inr h
  | cons _ _ ih =>
    rcases ih h with hmem | hbest
    · exact .inl (.tail _ hmem)
    · unfold KnowledgeDb.laterUpdated at hbest
      split at hbest
      · cases hbest
        exact .inl (.head _)
      · split at hbest
        · cases hbest
          exact .inl (.head _)
        · exact .inr hbest

theorem getPageByTitle_eq_some {spaceId title : String}
    (h : db.getPageByTitle workspaceId spaceId title = some page) :
    page ∈ db.pages.values ∧ page.workspaceId = workspaceId ∧ page.spaceId = spaceId := by
  rcases mem_of_foldl_laterUpdated h with hmem | hnone
  · obtain ⟨hvalue, htest⟩ := List.mem_filter.mp hmem
    have htest := of_decide_eq_true htest
    exact ⟨hvalue, htest.1, htest.2.1⟩
  · cases hnone

theorem replacedPage_spec (hpages : PagesKept db) (hproposals : ProposalsKept db)
    (hheld : db.proposals.get id = some proposal)
    (h : db.replacedPage workspaceId proposal = some page) :
    db.pages.get page.id = some page ∧ page.spaceId = proposal.spaceId ∧
      page.workspaceId = workspaceId := by
  unfold KnowledgeDb.replacedPage at h
  split at h
  next pageId hpageId =>
    obtain ⟨hget, hpageWorkspace⟩ := getPage_eq_some h
    obtain ⟨_, hheldPage, hspace, -⟩ := hproposals.target id proposal hheld pageId hpageId
    rw [hget, Option.some.injEq] at hheldPage
    subst hheldPage
    rw [hpages.pageKey pageId page hget]
    exact ⟨hget, hspace, hpageWorkspace⟩
  · obtain ⟨hmem, hpageWorkspace, hspace⟩ := getPageByTitle_eq_some h
    obtain ⟨key, hget⟩ := (mem_values_iff _ _).mp hmem
    rw [hpages.pageKey key page hget]
    exact ⟨hget, hspace, hpageWorkspace⟩

theorem updateTo_eq (hid : row.page.id = page.id) (hspace : page.spaceId = row.page.spaceId)
    (hworkspace : page.workspaceId = row.page.workspaceId) : page.updateTo row = row.page := by
  unfold KnowledgePage.updateTo
  rw [hspace, hworkspace, ← hid]

theorem ensureWorkspaceSeed_spec (h : db.ensureWorkspaceSeed platform workspaceId = .ok after) :
    after = db ∨ after.proposals = db.proposals ∧
      Publishes db ((seedPage platform workspaceId).versionRow none) after := by
  unfold KnowledgeDb.ensureWorkspaceSeed at h
  split at h
  · cases h
    exact .inl rfl
  · obtain ⟨_, _, h⟩ := bind_eq_ok h
    obtain ⟨_, _, h⟩ := bind_eq_ok h
    obtain ⟨_, _, h⟩ := bind_eq_ok h
    obtain ⟨pages, hpages, h⟩ := bind_eq_ok h
    obtain ⟨hfreePage, rfl⟩ := inserted_eq_ok hpages
    obtain ⟨hfree, rfl⟩ := insertVersion_spec h
    refine .inr ⟨rfl, ⟨rfl, hfree, ?_, ?_, rfl, rfl⟩⟩
    · show 1 = ((db.pages.get (seedPage platform workspaceId).id).map _).getD 0 + 1
      rw [hfreePage]
      rfl
    · intro page hpage
      have hpage : db.pages.get (seedPage platform workspaceId).id = some page := hpage
      rw [hfreePage] at hpage
      cases hpage

theorem reviewedProposal_spec (h : db.reviewedProposal proposalId workspaceId = .ok proposal) :
    (∃ id, db.proposals.get id = some proposal) ∧ proposal.workspaceId = workspaceId ∧
      proposal.status = .pending := by
  obtain ⟨id, _, h⟩ := bind_eq_ok h
  obtain ⟨_, hheld, h⟩ := bind_eq_ok h
  obtain ⟨_, hpending, h⟩ := bind_eq_ok h
  obtain ⟨_, _, h⟩ := bind_eq_ok h
  obtain ⟨_, _, h⟩ := bind_eq_ok h
  cases h
  obtain ⟨hget, hworkspace⟩ := getProposal_eq_some (orThrow_eq_ok hheld)
  rw [refuseIf_eq_ok, not_not] at hpending
  exact ⟨⟨id, hget⟩, hworkspace, hpending⟩

structure Reviewed (proposal updated : KnowledgeProposal) (status : KnowledgeProposalStatus) :
    Prop where
  eq : ∃ reviewedAt reviewedBy, updated = { proposal with status, reviewedAt, reviewedBy }

theorem updateProposalStatus_spec
    (h : db.updateProposalStatus proposal status input = .ok (updated, after)) :
    Reviewed proposal updated status ∧
      after = { db with proposals := db.proposals.set proposal.id updated } := by
  obtain ⟨_, _, h⟩ := bind_eq_ok h
  cases h
  exact ⟨⟨⟨_, _, rfl⟩⟩, rfl⟩

/-- An acceptance publishes the content of its proposal as the next version of the page that it
replaces, or as the first version of a new page. -/
structure Accepts (platform : KnowledgePlatform) (before : KnowledgeDb) (workspaceId : String)
    (proposal reviewed : KnowledgeProposal) (row : KnowledgePageVersion) (after : KnowledgeDb) :
    Prop where
  held : before.proposals.get proposal.id = some proposal
  workspace : proposal.workspaceId = workspaceId
  pending : proposal.status = .pending
  review : Reviewed proposal reviewed .accepted
  content : ∃ input, row = publishedVersion platform (before.replacedPage workspaceId proposal)
    proposal workspaceId input
  publishes : Publishes before row after
  proposals : after.proposals = before.proposals.set proposal.id reviewed

theorem writePage_spec {existing : Option KnowledgePage} (h : db.writePage existing row = .ok after)
    (hid : ∀ page ∈ existing, row.page.id = page.id ∧ page.spaceId = row.page.spaceId ∧
      page.workspaceId = row.page.workspaceId) :
    (existing = none → db.pages.get row.page.id = none) ∧
      after = { db with pages := db.pages.set row.page.id row.page } := by
  unfold KnowledgeDb.writePage at h
  split at h
  next page =>
    obtain ⟨hpageId, hspace, hworkspace⟩ := hid page rfl
    cases h
    refine ⟨fun h => absurd h (by simp), ?_⟩
    rw [updateTo_eq hpageId hspace hworkspace, hpageId]
  · obtain ⟨_, hpages, h⟩ := bind_eq_ok h
    obtain ⟨hfree, rfl⟩ := inserted_eq_ok hpages
    exact ⟨fun _ => hfree, (Except.ok.inj h).symm⟩

theorem acceptKnowledgeProposal_spec (hpages : PagesKept db) (hproposals : ProposalsKept db)
    (h : db.acceptKnowledgeProposal platform proposalId input = .ok ((reviewed, row), after)) :
    ∃ proposal, Accepts platform db (readWorkspaceId input.workspaceId) proposal reviewed row
      after := by
  obtain ⟨proposal, hproposal, h⟩ := bind_eq_ok h
  obtain ⟨_, _, h⟩ := bind_eq_ok h
  obtain ⟨_, _, h⟩ := bind_eq_ok h
  obtain ⟨_, hwritten, h⟩ := bind_eq_ok h
  obtain ⟨_, hpublished, h⟩ := bind_eq_ok h
  obtain ⟨⟨_, _⟩, hupdated, h⟩ := bind_eq_ok h
  cases h
  obtain ⟨⟨id, hget⟩, hworkspace, hpending⟩ := reviewedProposal_spec hproposal
  have hheld : db.proposals.get proposal.id = some proposal := by
    rw [hproposals.proposalKey id proposal hget]
    exact hget
  -- the page that is replaced, if there is one, stands under the id of the version
  have hold : ∀ page ∈ db.replacedPage (readWorkspaceId input.workspaceId) proposal,
      db.pages.get page.id = some page ∧ page.spaceId = proposal.spaceId ∧
        page.workspaceId = readWorkspaceId input.workspaceId :=
    fun page hpage => replacedPage_spec hpages hproposals hheld hpage
  obtain ⟨hfreePage, rfl⟩ := writePage_spec hwritten fun page hpage => by
    obtain ⟨-, hspace, hpageWorkspace⟩ := hold page hpage
    rw [Option.mem_def] at hpage
    rw [hpage]
    exact ⟨rfl, hspace, hpageWorkspace⟩
  obtain ⟨hfree, rfl⟩ := insertVersion_spec hpublished
  obtain ⟨hreviewed, rfl⟩ := updateProposalStatus_spec hupdated
  refine ⟨proposal, hheld, hworkspace, hpending, hreviewed, ⟨input, rfl⟩,
    ⟨rfl, hfree, ?_, ?_, rfl, rfl⟩, rfl⟩
  · cases hreplaced : db.replacedPage (readWorkspaceId input.workspaceId) proposal with
    | none =>
      have hnone := hfreePage hreplaced
      rw [hreplaced] at hnone
      rw [hnone]
      rfl
    | some page =>
      show _ = ((db.pages.get page.id).map KnowledgePage.version).getD 0 + 1
      rw [(hold page hreplaced).1]
      rfl
  · intro page hpage
    cases hreplaced : db.replacedPage (readWorkspaceId input.workspaceId) proposal with
    | none =>
      have hnone := hfreePage hreplaced
      rw [hreplaced] at hnone hpage
      rw [hnone] at hpage
      cases hpage
    | some old =>
      rw [hreplaced] at hpage
      obtain ⟨hold, hspace, hworkspace⟩ := hold old hreplaced
      have hpage : db.pages.get old.id = some page := hpage
      rw [hold, Option.some.injEq] at hpage
      subst hpage
      exact ⟨hspace, hworkspace⟩

theorem Publishes.stands
    (h : Publishes before row after) (key : String) (old : KnowledgePageVersion)
    (hold : before.versions.get key = some old) : after.versions.get key = some old := by
  rw [h.versions, get_set_of_ne _ _ ?_]
  · exact hold
  · rintro rfl
    rw [h.free] at hold
    cases hold

theorem Publishes.page_stays (h : Publishes before row after) (id : String) (page : KnowledgePage)
    (hpage : before.pages.get id = some page) :
    ∃ page', after.pages.get id = some page' ∧ page'.spaceId = page.spaceId ∧
      page'.workspaceId = page.workspaceId := by
  rw [h.pages, get_set]
  split
  next hid =>
    subst hid
    obtain ⟨hspace, hworkspace⟩ := h.stays page hpage
    exact ⟨row.page, rfl, hspace.symm, hworkspace.symm⟩
  · exact ⟨page, hpage, rfl, rfl⟩

theorem PagesKept.publishes (h : PagesKept before)
    (hnext : Publishes before row after) : PagesKept after := by
  have hstands := hnext.stands
  obtain ⟨hkey, _, hversion, -, hpages, hversions⟩ := hnext
  have hcurrent : ∀ page, before.pages.get row.page.id = some page →
      row.page.version = page.version + 1 := by
    intro page hpage
    rw [hversion, hpage]
    rfl
  constructor
  · intro id page hpage
    rw [hpages, get_set] at hpage
    split at hpage
    next hid =>
      cases hpage
      exact hid
    · exact h.pageKey id page hpage
  · intro key other hother
    rw [hversions, get_set] at hother
    split at hother
    next hsame =>
      cases hother
      exact hsame.symm.trans hkey
    · exact h.versionKey key other hother
  · intro key other hother
    rw [hversions, get_set] at hother
    rw [hpages]
    split at hother
    · cases hother
      refine ⟨row.page, get_set_self _ _ _, ?_, le_refl _⟩
      omega
    · obtain ⟨page, hpage, hfirst, hlast⟩ := h.below key other hother
      by_cases hid : row.page.id = other.page.id
      · rw [← hid] at hpage ⊢
        have hnewer := hcurrent page hpage
        exact ⟨row.page, get_set_self _ _ _, hfirst, by omega⟩
      · exact ⟨page, (get_set_of_ne _ _ hid).trans hpage, hfirst, hlast⟩
  · intro id page hpage
    rw [hpages, get_set] at hpage
    split at hpage
    next hid =>
      cases hpage
      refine ⟨row, ?_, rfl⟩
      rw [← hid, ← hkey, hversions]
      exact get_set_self _ _ _
    · obtain ⟨other, hother, heq⟩ := h.newest id page hpage
      exact ⟨other, hstands _ _ hother, heq⟩
  · intro id page hpage version hfirst hlast
    rw [hpages, get_set] at hpage
    split at hpage
    next hid =>
      cases hpage
      subst hid
      by_cases hnew : version = row.page.version
      · subst hnew
        refine ⟨row, ?_, rfl, rfl⟩
        rw [← hkey, hversions]
        exact get_set_self _ _ _
      · cases hold : before.pages.get row.page.id with
        | none =>
          rw [hold] at hversion
          have hversion : row.page.version = 1 := hversion
          omega
        | some old =>
          have hnewer := hcurrent old hold
          obtain ⟨other, hother, heq⟩ := h.complete row.page.id old hold version hfirst (by omega)
          exact ⟨other, hstands _ _ hother, heq⟩
    · obtain ⟨other, hother, heq⟩ := h.complete id page hpage version hfirst hlast
      exact ⟨other, hstands _ _ hother, heq⟩

theorem PagesKept.seeded (h : PagesKept db)
    (hseeded : db.ensureWorkspaceSeed platform workspaceId = .ok after) : PagesKept after := by
  rcases ensureWorkspaceSeed_spec hseeded with rfl | ⟨-, hpublishes⟩
  · exact h
  · exact h.publishes hpublishes

/-- A new proposal is pending, and its counts are those against the page that an acceptance
would replace at once. -/
structure Proposes (before : KnowledgeDb) (proposal : KnowledgeProposal) (after : KnowledgeDb) :
    Prop where
  free : before.proposals.get proposal.id = none
  pending : proposal.status = .pending
  target : ∀ pageId, proposal.pageId = some pageId → ∃ page, after.pages.get pageId = some page ∧
    page.spaceId = proposal.spaceId ∧ page.workspaceId = proposal.workspaceId
  diff : proposal.diff = calculateDiffStats
    ((after.replacedPage proposal.workspaceId proposal).map KnowledgePage.body) proposal.body
  unnamed : proposal.pageId = none → after.replacedPage proposal.workspaceId proposal = none
  result : after = { before with proposals := before.proposals.set proposal.id proposal }

theorem createKnowledgeProposal_spec (hkept : PagesKept db) {input : KnowledgeProposalInput}
    {options : KnowledgeWriteOptions}
    (h : db.createKnowledgeProposal platform input options = .ok (proposal, after)) :
    ∃ seeded, db.ensureWorkspaceSeed platform (readWorkspaceId input.workspaceId) = .ok seeded ∧
      Proposes seeded proposal after := by
  obtain ⟨seeded, hseeded, h⟩ := bind_eq_ok h
  obtain ⟨spaceId, _, h⟩ := bind_eq_ok h
  obtain ⟨space, _, h⟩ := bind_eq_ok h
  obtain ⟨_, _, h⟩ := bind_eq_ok h
  obtain ⟨pageTitle, _, h⟩ := bind_eq_ok h
  obtain ⟨_, hmissing, h⟩ := bind_eq_ok h
  obtain ⟨_, hspace, h⟩ := bind_eq_ok h
  iterate 6 obtain ⟨_, _, h⟩ := bind_eq_ok h
  obtain ⟨_, hproposals, h⟩ := bind_eq_ok h
  obtain ⟨hfree, rfl⟩ := inserted_eq_ok hproposals
  cases h
  have hkeptSeeded := hkept.seeded hseeded
  rw [refuseIf_eq_ok] at hmissing hspace
  -- the page that was found stands under its id, in the space and workspace of the proposal
  have hfound : ∀ page,
      seeded.proposedPage (readWorkspaceId input.workspaceId) spaceId pageTitle input.pageId =
        some page →
      seeded.pages.get page.id = some page ∧ page.spaceId = spaceId ∧
        page.workspaceId = readWorkspaceId input.workspaceId := by
    intro page hpage
    have hpageSpace : page.spaceId = spaceId := by
      by_contra hne
      exact hspace ⟨page, hpage, hne⟩
    unfold KnowledgeDb.proposedPage at hpage
    split at hpage
    · obtain ⟨hmem, hworkspace, -⟩ := getPageByTitle_eq_some hpage
      obtain ⟨key, hget⟩ := (mem_values_iff _ _).mp hmem
      rw [hkeptSeeded.pageKey key page hget]
      exact ⟨hget, hpageSpace, hworkspace⟩
    · obtain ⟨hget, hworkspace⟩ := getPage_eq_some hpage
      rw [hkeptSeeded.pageKey _ page hget]
      exact ⟨hget, hpageSpace, hworkspace⟩
  -- without one, the title names none either
  have hunnamed :
      seeded.proposedPage (readWorkspaceId input.workspaceId) spaceId pageTitle input.pageId =
        none →
      seeded.getPageByTitle (readWorkspaceId input.workspaceId) spaceId pageTitle = none := by
    intro hpage
    have hempty : orText input.pageId "" = "" := by
      by_contra hne
      exact hmissing ⟨hne, hpage⟩
    unfold KnowledgeDb.proposedPage at hpage
    rwa [if_pos hempty] at hpage
  refine ⟨seeded, hseeded, hfree, rfl, ?_, ?_, ?_, rfl⟩
  · intro _ hpageId
    obtain ⟨page, hpage, rfl⟩ := Option.map_eq_some_iff.mp hpageId
    obtain ⟨hget, hpageSpace, hworkspace⟩ := hfound page hpage
    exact ⟨page, hget, hpageSpace, hworkspace⟩
  · cases hpage : seeded.proposedPage (readWorkspaceId input.workspaceId) spaceId pageTitle
        input.pageId with
    | none =>
      unfold KnowledgeDb.replacedPage
      rw [Option.map_none]
      show _ = calculateDiffStats ((seeded.getPageByTitle _ spaceId pageTitle).map _) _
      rw [hunnamed hpage]
    | some page =>
      obtain ⟨hget, -, hworkspace⟩ := hfound page hpage
      unfold KnowledgeDb.replacedPage
      rw [Option.map_some]
      show _ = calculateDiffStats ((seeded.getPage _ page.id).map _) _
      rw [KnowledgeDb.getPage, hget, Option.filter_some, if_pos (decide_eq_true hworkspace)]
  · intro hpageId
    have hpage := Option.map_eq_none_iff.mp hpageId
    unfold KnowledgeDb.replacedPage
    rw [hpageId]
    exact hunnamed hpage

/-! ## What is kept of the proposals -/

variable (h : ProposalsKept before)
include h

theorem ProposalsKept.published (hpublishes : Publishes before row after)
    (hrow : row.proposalId = none) (hsame : after.proposals = before.proposals) :
    ProposalsKept after := by
  constructor
  · rw [hsame]
    exact h.proposalKey
  · intro id proposal hheld pageId hpageId
    rw [hsame] at hheld
    obtain ⟨page, hpage, hspace, hworkspace⟩ := h.target id proposal hheld pageId hpageId
    obtain ⟨page', hpage', hspace', hworkspace'⟩ := hpublishes.page_stays pageId page hpage
    exact ⟨page', hpage', hspace'.trans hspace, hworkspace'.trans hworkspace⟩
  · intro key other hother id hid
    rw [hpublishes.versions, get_set] at hother
    rw [hsame]
    split at hother
    · cases hother
      rw [hrow] at hid
      cases hid
    · exact h.produced key other hother id hid
  · intro id proposal hheld haccepted
    rw [hsame] at hheld
    obtain ⟨key, other, hother, hid⟩ := h.accepted id proposal hheld haccepted
    exact ⟨key, other, hpublishes.stands key other hother, hid⟩
  · intro key key' first second hfirst hsecond hsome heq
    rw [hpublishes.versions, get_set] at hfirst hsecond
    split at hfirst
    · cases hfirst
      rw [hrow] at hsome
      cases hsome
    · split at hsecond
      · cases hsecond
        rw [heq, hrow] at hsome
        cases hsome
      · exact h.once key key' first second hfirst hsecond hsome heq

/-- A proposal that is not accepted is new, or takes the place of one that was not either. -/
theorem ProposalsKept.put (hopen : proposal.status ≠ .accepted)
    (hbefore : ∀ held, before.proposals.get proposal.id = some held → held.status ≠ .accepted)
    (htarget : ∀ pageId, proposal.pageId = some pageId →
      ∃ page, before.pages.get pageId = some page ∧ page.spaceId = proposal.spaceId ∧
        page.workspaceId = proposal.workspaceId) :
    ProposalsKept { before with proposals := before.proposals.set proposal.id proposal } := by
  constructor
  · intro id other hother
    rw [get_set] at hother
    split at hother
    next hid =>
      cases hother
      exact hid
    · exact h.proposalKey id other hother
  · intro id other hother pageId hpageId
    rw [get_set] at hother
    split at hother
    · cases hother
      exact htarget pageId hpageId
    · exact h.target id other hother pageId hpageId
  · intro key row hrow id hid
    obtain ⟨held, hheld, haccepted⟩ := h.produced key row hrow id hid
    have hne : proposal.id ≠ id := by
      rintro rfl
      exact hbefore held hheld haccepted
    exact ⟨held, (get_set_of_ne _ _ hne).trans hheld, haccepted⟩
  · intro id other hother haccepted
    rw [get_set] at hother
    split at hother
    · cases hother
      exact absurd haccepted hopen
    · exact h.accepted id other hother haccepted
  · exact h.once

theorem ProposalsKept.proposed
    (hproposes : Proposes before proposal after) : ProposalsKept after := by
  obtain ⟨hfree, hpending, htarget, -, -, rfl⟩ := hproposes
  refine h.put (by simp [hpending]) (fun _ hheld => ?_) htarget
  rw [hfree] at hheld
  cases hheld

omit h

theorem Reviewed.keeps (h : Reviewed proposal updated status) :
    updated.id = proposal.id ∧ updated.status = status ∧ updated.pageId = proposal.pageId ∧
      updated.spaceId = proposal.spaceId ∧ updated.workspaceId = proposal.workspaceId ∧
      updated.diff = proposal.diff := by
  obtain ⟨_, _, rfl⟩ := h.eq
  exact ⟨rfl, rfl, rfl, rfl, rfl, rfl⟩

variable (h : ProposalsKept before)
include h

theorem ProposalsKept.no_version (hheld : before.proposals.get id = some proposal)
    (hpending : proposal.status = .pending)
    (hrow : before.versions.get key = some row) : row.proposalId ≠ some id := by
  intro hid
  obtain ⟨_, hheld', haccepted⟩ := h.produced key row hrow id hid
  rw [hheld, Option.some.injEq] at hheld'
  subst hheld'
  rw [hpending] at haccepted
  cases haccepted

theorem ProposalsKept.declined {updated : KnowledgeProposal}
    (hheld : before.proposals.get proposal.id = some proposal)
    (hpending : proposal.status = .pending) (hreviewed : Reviewed proposal updated .declined) :
    ProposalsKept { before with proposals := before.proposals.set proposal.id updated } := by
  obtain ⟨hid, hstatus, hpageId, hspace, hworkspace, -⟩ := hreviewed.keeps
  rw [← hid] at hheld ⊢
  refine h.put (by simp [hstatus]) (fun _ hget => ?_) fun pageId htarget => ?_
  · rw [← Option.mem_unique hheld hget, hpending]
    decide
  · rw [hspace, hworkspace]
    exact h.target updated.id proposal hheld pageId (hpageId.symm.trans htarget)

theorem ProposalsKept.accepts
    (haccepts : Accepts platform before workspaceId proposal reviewed row after) :
    ProposalsKept after := by
  obtain ⟨hheld, -, hpending, hreviewed, ⟨_, hrow⟩, hpublishes, hproposals⟩ := haccepts
  have hrowId : row.proposalId = some proposal.id := by rw [hrow]; rfl
  obtain ⟨hid, hstatus, hpageId, hspace, hworkspace, -⟩ := hreviewed.keeps
  constructor
  · intro id other hother
    rw [hproposals, get_set] at hother
    split at hother
    next heq =>
      cases hother
      exact hid.trans heq
    · exact h.proposalKey id other hother
  · intro id other hother pageId htarget
    -- the page that the proposal, or another one, was made against stays where it is
    have hbefore : ∃ page, before.pages.get pageId = some page ∧ page.spaceId = other.spaceId ∧
        page.workspaceId = other.workspaceId := by
      rw [hproposals, get_set] at hother
      split at hother
      · cases hother
        rw [hspace, hworkspace]
        exact h.target proposal.id proposal hheld pageId (hpageId.symm.trans htarget)
      · exact h.target id other hother pageId htarget
    obtain ⟨page, hpage, hpageSpace, hpageWorkspace⟩ := hbefore
    obtain ⟨page', hpage', hspace', hworkspace'⟩ := hpublishes.page_stays pageId page hpage
    exact ⟨page', hpage', hspace'.trans hpageSpace, hworkspace'.trans hpageWorkspace⟩
  · intro key other hother id hotherId
    rw [hpublishes.versions, get_set] at hother
    rw [hproposals, get_set]
    split at hother
    · cases hother
      rw [hrowId, Option.some.injEq] at hotherId
      rw [if_pos hotherId]
      exact ⟨reviewed, rfl, hstatus⟩
    · have hne : proposal.id ≠ id := by
        rintro rfl
        exact h.no_version hheld hpending hother hotherId
      rw [if_neg hne]
      exact h.produced key other hother id hotherId
  · intro id other hother haccepted
    rw [hproposals, get_set] at hother
    split at hother
    next heq =>
      refine ⟨row.versionId, row, ?_, hrowId.trans (congrArg some heq)⟩
      rw [hpublishes.versions]
      exact get_set_self _ _ _
    · obtain ⟨key, held, hkey, hheldId⟩ := h.accepted id other hother haccepted
      exact ⟨key, held, hpublishes.stands key held hkey, hheldId⟩
  · intro key key' first second hfirst hsecond hsome heq
    rw [hpublishes.versions, get_set] at hfirst hsecond
    -- an older version does not come from the proposal, which was pending
    split at hfirst
    next hkey =>
      cases hfirst
      split at hsecond
      next hkey' => exact hkey.symm.trans hkey'
      · exact absurd (heq.symm.trans hrowId) (h.no_version hheld hpending hsecond)
    · split at hsecond
      · cases hsecond
        exact absurd (heq.trans hrowId) (h.no_version hheld hpending hfirst)
      · exact h.once key key' first second hfirst hsecond hsome heq

end OpenCowork.Runtime
