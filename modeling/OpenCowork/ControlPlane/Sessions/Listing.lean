import OpenCowork.ControlPlane.ProjectSource
import OpenCowork.ControlPlane.SessionFrames
import OpenCowork.Foundation.Paging

/-! # Listing sessions page by page

A page is sorted by the collation of the platform, latest update first and then by id; the
cursor of the next page skips rows by code units. Following the cursors lists every
selected session once and in order exactly when the two orders agree at the page ends.
-/

namespace OpenCowork.ControlPlane

open Foundation

structure ListedSession where
  record : SessionRecord
  projectSource : Option CloudProjectSourceSummary
  deriving DecidableEq

/-- Behaviour of the platform that only listings rely on. The digest is taken of the text
of a JSON value. -/
structure ListingEnvironment where
  toLowerCase : String → String
  sha256 : Json → String

/-- The text of a cursor, by the JSON value that its base64url bytes spell. -/
inductive SessionPageCursor where
  | malformed
  | spelled (parsed : Json)
  deriving DecidableEq

/-- `limit` is absent where the number is not finite, `cursor` where its text is empty. -/
structure ListSessionsPageInput where
  (tenantId userId : String)
  limit : Option ℚ
  cursor : Option SessionPageCursor
  status : Option SessionStatus
  (profileName query : Option String)

structure ListSessionsPageRecord where
  items : List ListedSession
  nextCursor : Option SessionPageCursor
  totalEstimate : Nat

/-- The row after which a page starts. -/
structure SessionPagePosition where
  (updatedAt sessionId : String)
  deriving DecidableEq

def SessionStatus.text : SessionStatus → String
  | .idle => "idle"
  | .running => "running"
  | .closed => "closed"
  | .errored => "errored"

def normalizeListLimit (value : Option ℚ) (fallback limit : Int) : Nat :=
  match value with
  | none => fallback.toNat
  | some value => (max 1 (min limit (if value = 0 then fallback else value.floor))).toNat

/-- `value || null` on optional text. -/
def textOrNull (value : Option String) : Option String := value.filter (· ≠ "")

namespace ListingEnvironment

variable (listing : ListingEnvironment) (position : SessionPagePosition)
  (scope : ListSessionsPageInput)

def normalizedQuery (query : Option String) : Option String :=
  textOrNull (query.map fun text => listing.toLowerCase (Text.trim text))

def jsonOrNull : Option String → Json
  | none => .null
  | some text => .str text

def normalizedSessionPageCursorScope : Json :=
  .obj
    [("tenantId", .str scope.tenantId),
      ("userId", .str scope.userId),
      ("status", jsonOrNull (scope.status.map SessionStatus.text)),
      ("profileName", jsonOrNull (textOrNull scope.profileName)),
      ("query", jsonOrNull (listing.normalizedQuery scope.query))]

def sessionPageCursorScopeHash : String :=
  listing.sha256 (listing.normalizedSessionPageCursorScope scope)

def encodeSessionPageCursor :
    SessionPageCursor :=
  .spelled
    (.obj
      [("v", .num 1),
        ("updatedAt", .str position.updatedAt),
        ("sessionId", .str position.sessionId),
        ("scopeHash", .str (listing.sessionPageCursorScopeHash scope))])

def invalidSessionPageCursor : StoreError := .error "Session list cursor is invalid."

def mismatchedSessionPageCursor : StoreError :=
  .error "Session list cursor does not match the requested scope."

def decodeSessionPageCursor (cursor : Option SessionPageCursor)
    (expectedScope : ListSessionsPageInput) : Except StoreError (Option SessionPagePosition) :=
  match cursor with
  | none => .ok none
  | some .malformed => .error invalidSessionPageCursor
  | some (.spelled parsed) =>
    match parsed.field? "updatedAt", parsed.field? "sessionId" with
    | some (.str updatedAt), some (.str sessionId) =>
      if parsed.field? "scopeHash" =
          some (.str (listing.sessionPageCursorScopeHash expectedScope)) then
        .ok (some ⟨updatedAt, sessionId⟩)
      else .error mismatchedSessionPageCursor
    | _, _ => .error invalidSessionPageCursor

@[simp] theorem decode_encode :
    listing.decodeSessionPageCursor (some (listing.encodeSessionPageCursor position scope)) scope =
      .ok (some position) := by
  simp [decodeSessionPageCursor, encodeSessionPageCursor, Json.field?, Json.findField]

def selects (input : ListSessionsPageInput) (record : SessionRecord) : Bool :=
  record.tenantId == input.tenantId && record.userId == input.userId &&
    (input.status.isNone || input.status == some record.status) &&
    ((textOrNull input.profileName).isNone || input.profileName == some record.profileName) &&
    match listing.normalizedQuery input.query with
    | none => true
    | some query =>
      [record.title.getD "", record.sessionId, record.opencodeSessionId,
        record.profileName].any fun field => Text.includes (listing.toLowerCase field) query

end ListingEnvironment

namespace SessionPagePosition

/-- The row lies behind the position: updated earlier, or then with a greater id. -/
def precedes (position row : SessionPagePosition) : Bool :=
  Text.unitsBefore row.updatedAt position.updatedAt ||
    (row.updatedAt == position.updatedAt && Text.unitsBefore position.sessionId row.sessionId)

theorem precedes_trans {first second third : SessionPagePosition}
    (hfirst : first.precedes second = true) (hsecond : second.precedes third = true) :
    first.precedes third = true := by
  simp only [precedes, Bool.or_eq_true, Bool.and_eq_true, beq_iff_eq] at hfirst hsecond ⊢
  rcases hfirst with hfirst | ⟨hsame, hfirst⟩
  · rcases hsecond with hsecond | ⟨hsame', -⟩
    · exact .inl (Text.unitsBefore_trans hsecond hfirst)
    · exact .inl (hsame'.symm ▸ hfirst)
  · rcases hsecond with hsecond | ⟨hsame', hsecond⟩
    · exact .inl (hsame ▸ hsecond)
    · exact .inr ⟨hsame'.trans hsame, Text.unitsBefore_trans hfirst hsecond⟩

end SessionPagePosition

namespace ControlPlaneStore

variable {σ : Type} (context : StoreContext σ) (listing : ListingEnvironment)
  (store : ControlPlaneStore σ) (left right : SessionRecord) (record : SessionRecord)
  (input : ListSessionsPageInput) (cursor : Option SessionPageCursor) (item : ListedSession)

/-- The texts of the update times, latest first, and then the ids. -/
def compareListed : Ordering :=
  (context.env.localeCompare (context.texts.isoString right.updatedAt)
    (context.texts.isoString left.updatedAt)).then
      (context.env.localeCompare left.sessionId right.sessionId)

def listedBefore : Prop := compareListed context left right ≠ .gt

instance : DecidableRel (listedBefore context) := fun left right =>
  inferInstanceAs (Decidable (compareListed context left right ≠ .gt))

def position : SessionPagePosition := ⟨context.texts.isoString record.updatedAt, record.sessionId⟩

def sessionRecordWithProjectSource : ListedSession where
  record := record
  projectSource :=
    (((store.sessions.get (key record.tenantId record.sessionId)).bind
      SessionState.projection).bind fun projection =>
        (projection.view.field? "projectSource").bind
          CloudProjectSource.normalizeCloudProjectSource).map
            CloudProjectSource.summarizeCloudProjectSource

def selectedSessions : List SessionRecord :=
  ((store.sessions.values.map SessionState.record).filter (listing.selects input)).insertionSort
    (listedBefore context)

def listSessionsPage : Except StoreError ListSessionsPageRecord :=
  match context.host.requireTenantUser store.neighbours input.tenantId input.userId with
  | .error thrown => .error thrown
  | .ok () =>
    let limit := normalizeListLimit input.limit 100 500
    match listing.decodeSessionPageCursor input.cursor input with
    | .error thrown => .error thrown
    | .ok cursor =>
      let filtered := (store.selectedSessions context listing input).filter fun record =>
        match cursor with
        | none => true
        | some cursor => cursor.precedes (position context record)
      let page := filtered.take limit
      let hasMore := decide (limit < filtered.length)
      .ok
        { items := page.map store.sessionRecordWithProjectSource
          nextCursor :=
            if hasMore then
              page.getLast?.map fun record =>
                listing.encodeSessionPageCursor (position context record) input
            else none
          totalEstimate := if hasMore then limit + 1 else filtered.length }

/-- What the pages of a listing hand out in all: every selected session in its order. -/
def unpagedListing : List ListedSession :=
  (store.selectedSessions context listing input).map store.sessionRecordWithProjectSource

def sessionPage :
    Except StoreError (Page ListedSession SessionPageCursor) :=
  (store.listSessionsPage context listing { input with cursor := cursor }).map fun page =>
    ⟨page.items, page.nextCursor⟩

/-- At the end of every page that is followed by another, the selected sessions that the
listing still has to come are the ones that the cursor does not skip. -/
def PageEndsAgree : Prop :=
  BoundariesAgree (position context) (fun last record => last.precedes (position context record))
    (normalizeListLimit input.limit 100 500) (store.selectedSessions context listing input)

theorem normalizeListLimit_pos (value : Option ℚ) : 0 < normalizeListLimit value 100 500 := by
  cases value with
  | none => decide
  | some value =>
    rw [normalizeListLimit]
    have hone := le_max_left 1 (min 500 (if value = 0 then 100 else value.floor))
    omega

/-- The key of a listed session within a scope. -/
def cursorOf : SessionPageCursor :=
  listing.encodeSessionPageCursor (position context item.record) input

def beyondCursor (cursor : SessionPageCursor)
    (item : ListedSession) : Bool :=
  match listing.decodeSessionPageCursor (some cursor) input with
  | .ok (some last) => last.precedes (position context item.record)
  | _ => false

theorem beyondCursor_cursorOf (last item : ListedSession) :
    beyondCursor context listing input (cursorOf context listing input last) item =
      (position context last.record).precedes (position context item.record) := by
  rw [beyondCursor, cursorOf, ListingEnvironment.decode_encode]

theorem beyondCursor_trans (first : SessionPageCursor) (second third : ListedSession)
    (hfirst : beyondCursor context listing input first second = true)
    (hsecond : beyondCursor context listing input (cursorOf context listing input second) third =
      true) : beyondCursor context listing input first third = true := by
  rw [beyondCursor_cursorOf] at hsecond
  unfold beyondCursor at hfirst ⊢
  split at hfirst
  · exact SessionPagePosition.precedes_trans hfirst hsecond
  · simp at hfirst

theorem keysetPage_rows (limit : Nat) (rows : List SessionRecord)
    (hrows : afterCursor (beyondCursor context listing input)
      (store.unpagedListing context listing input) cursor =
        rows.map store.sessionRecordWithProjectSource) :
    keysetPage (cursorOf context listing input) (beyondCursor context listing input) limit
        (store.unpagedListing context listing input) cursor =
      ⟨(rows.take limit).map store.sessionRecordWithProjectSource,
        if limit < rows.length then
          (rows.take limit).getLast?.map fun record =>
            listing.encodeSessionPageCursor (position context record) input
        else none⟩ := by
  rw [keysetPage, hrows, ← List.map_take, List.getLast?_map, Option.map_map, List.length_map]
  rfl

theorem sessionPage_eq
    (huser : context.host.requireTenantUser store.neighbours input.tenantId input.userId = .ok ())
    (hread : ∀ token, cursor = some token → ∃ last,
      listing.decodeSessionPageCursor (some token) input = .ok (some last)) :
    store.sessionPage context listing input cursor =
      .ok (keysetPage (cursorOf context listing input) (beyondCursor context listing input)
        (normalizeListLimit input.limit 100 500) (store.unpagedListing context listing input)
          cursor) := by
  have hdecode : ∀ token, listing.decodeSessionPageCursor token
      { input with cursor := cursor } = listing.decodeSessionPageCursor token input := fun _ => rfl
  cases cursor with
  | none =>
    rw [keysetPage_rows context listing store input none _
      (store.selectedSessions context listing input) rfl]
    unfold sessionPage listSessionsPage
    rw [huser]
    dsimp only [ListingEnvironment.decodeSessionPageCursor]
    rw [List.filter_true]
    simp only [decide_eq_true_eq]
    rfl
  | some token =>
    obtain ⟨last, hlast⟩ := hread token rfl
    rw [keysetPage_rows context listing store input (some token) _
      ((store.selectedSessions context listing input).filter fun record =>
        last.precedes (position context record))]
    · unfold sessionPage listSessionsPage
      rw [huser]
      rw [hdecode, hlast]
      simp only [decide_eq_true_eq]
      rfl
    · rw [afterCursor, unpagedListing, List.filter_map]
      congr 2
      ext record
      dsimp only [Function.comp_apply, beyondCursor]
      rw [hlast]
      rfl

theorem unpagedListing_nodup (hkeyed : SessionsKeyed store.sessions)
    (input : ListSessionsPageInput) : (store.unpagedListing context listing input).Nodup := by
  have hentries : (store.sessions.entries.map fun entry => entry.2.record).Nodup := by
    apply List.Nodup.of_map fun record : SessionRecord => key record.tenantId record.sessionId
    rw [List.map_map]
    have hkeys : store.sessions.entries.map ((fun record : SessionRecord =>
        key record.tenantId record.sessionId) ∘ fun entry => entry.2.record) =
          store.sessions.entries.map Prod.fst := by
      apply List.map_congr_left
      intro entry hentry
      exact (hkeyed entry.1 entry.2 ((store.sessions.get_eq_some_iff _ _).mpr hentry)).symm
    rw [hkeys]
    exact store.sessions.nodupKeys
  have hrecords : (store.sessions.values.map SessionState.record).Nodup := by
    rw [OrderedMap.values, List.map_map]
    exact hentries
  have hselected : (store.selectedSessions context listing input).Nodup :=
    (List.perm_insertionSort _ _).nodup_iff.mpr (hrecords.filter _)
  apply hselected.map
  intro _ _ hsame
  exact congrArg ListedSession.record hsame

theorem mem_unpagedListing :
    item ∈ store.unpagedListing context listing input ↔
      ∃ session ∈ store.sessions.values, listing.selects input session.record = true ∧
        store.sessionRecordWithProjectSource session.record = item := by
  simp only [unpagedListing, selectedSessions, List.mem_map, List.mem_insertionSort,
    List.mem_filter]
  constructor
  · rintro ⟨_, ⟨⟨session, hsession, rfl⟩, hselected⟩, hitem⟩
    exact ⟨session, hsession, hselected, hitem⟩
  · rintro ⟨session, hsession, hselected, hitem⟩
    exact ⟨session.record, ⟨⟨session, hsession, rfl⟩, hselected⟩, hitem⟩

/-- Following the cursors from the first page hands out every selected session, once, in
the order of the unpaged listing. -/
structure PagesComplete (input : ListSessionsPageInput) : Prop where
  listed : Enumerates (store.sessionPage context listing input) none
    (store.unpagedListing context listing input)
  once : (store.unpagedListing context listing input).Nodup
  every : ∀ item, item ∈ store.unpagedListing context listing input ↔
    ∃ session ∈ store.sessions.values, listing.selects input session.record = true ∧
      store.sessionRecordWithProjectSource session.record = item

theorem enumerates_unpagedListing_iff (hkeyed : SessionsKeyed store.sessions)
    (input : ListSessionsPageInput)
    (huser : context.host.requireTenantUser store.neighbours input.tenantId input.userId = .ok ()) :
    Enumerates (store.sessionPage context listing input) none
        (store.unpagedListing context listing input) ↔
      store.PageEndsAgree context listing input := by
  have hnext : ∀ item ∈ store.unpagedListing context listing input,
      store.sessionPage context listing input (some (cursorOf context listing input item)) =
        .ok (keysetPage (cursorOf context listing input) (beyondCursor context listing input)
          (normalizeListLimit input.limit 100 500) (store.unpagedListing context listing input)
            (some (cursorOf context listing input item))) := by
    intro item _
    apply sessionPage_eq context listing store input _ huser
    intro _ htoken
    obtain rfl := Option.some.inj htoken
    exact ⟨_, listing.decode_encode _ input⟩
  rw [enumerates_iff_boundariesAgree (normalizeListLimit_pos input.limit)
    (store.unpagedListing_nodup context listing hkeyed input)
    (beyondCursor_trans context listing input)
    (store.sessionPage_eq context listing input none huser (by simp)) hnext]
  have hread : ∀ record, (store.sessionRecordWithProjectSource record).record = record :=
    fun _ => rfl
  exact boundariesAgree_map hread (fun _ _ => beyondCursor_cursorOf context listing input _ _) _ _

theorem pageEndsAgree_of_sorted
    (hsorted : (store.selectedSessions context listing input).Pairwise fun earlier later =>
      (position context earlier).precedes (position context later) = true ∧
        (position context later).precedes (position context earlier) = false) :
    store.PageEndsAgree context listing input :=
  boundariesAgree_of_pairwise hsorted
    (fun record => by simp [SessionPagePosition.precedes, Text.unitsBefore_irrefl]) _

end ControlPlaneStore

/-- In every reachable store, for every filter and page size, the pages of a session
listing are complete if and only if, at the end of every page that is followed by another,
the collation and the code units agree on which selected sessions are still to come. -/
theorem session_pages_complete_iff {σ : Type} (context : StoreContext σ)
    (listing : ListingEnvironment) (neighbours : σ) (requests : List StoreRequest)
    (input : ListSessionsPageInput)
    (huser : context.host.requireTenantUser
      ((ControlPlaneStore.machine context).run (.initial neighbours) requests).neighbours
        input.tenantId input.userId = .ok ()) :
    let store := (ControlPlaneStore.machine context).run (.initial neighbours) requests
    store.PagesComplete context listing input ↔ store.PageEndsAgree context listing input := by
  intro store
  have hkeyed : SessionsKeyed store.sessions :=
    ControlPlaneStore.run_keyed context neighbours requests
  rw [← store.enumerates_unpagedListing_iff context listing hkeyed input huser]
  constructor
  · exact ControlPlaneStore.PagesComplete.listed
  · intro hlisted
    exact ⟨hlisted, store.unpagedListing_nodup context listing hkeyed input,
      store.mem_unpagedListing context listing input⟩

/-- A collation that puts small and capital letters next to each other. -/
def dictionaryEnvironment : Environment where
  localeCompare := fun left right =>
    (compareOfLessAndEq left.toLower right.toLower).then (compareOfLessAndEq left right)
  scrubOperationalText := plainEnvironment.scrubOperationalText

def dictionaryContext : StoreContext Neighbours :=
  { plainContext with env := dictionaryEnvironment }

/-- Digests that spell out the scope's tenant. -/
def plainListing : ListingEnvironment where
  toLowerCase := String.toLower
  sha256 := fun scope =>
    match scope.field? "tenantId" with
    | some (.str tenantId) => tenantId
    | _ => ""

/-- Two sessions that were last updated at the same time. -/
def twoSessions (first second : String) : List StoreRequest :=
  [⟨5, "", .session (openSession "t" "u" first)⟩, ⟨5, "", .session (openSession "t" "u" second)⟩]

def onePerPage : ListSessionsPageInput := ⟨"t", "u", some 1, none, none, none, none⟩

def storeOfTwo (context : StoreContext Neighbours) (first second : String) :
    ControlPlaneStore Neighbours :=
  (ControlPlaneStore.machine context).run (.initial (.single "t" "u")) (twoSessions first second)

/-- The two sessions "a" and "B" share their update time. The collation lists "a" first,
the code units put "B" first, so the page after "a" is empty and "B" is never listed. -/
theorem capital_session_lost :
    (storeOfTwo dictionaryContext "a" "B").sessionPage dictionaryContext plainListing onePerPage
        (some (plainListing.encodeSessionPageCursor ⟨"5", "a"⟩ onePerPage)) = .ok ⟨[], none⟩ ∧
      ¬ (storeOfTwo dictionaryContext "a" "B").PagesComplete dictionaryContext plainListing
        onePerPage := by
  have hsecond : (storeOfTwo dictionaryContext "a" "B").sessionPage dictionaryContext plainListing
      onePerPage (some (plainListing.encodeSessionPageCursor ⟨"5", "a"⟩ onePerPage)) =
        .ok ⟨[], none⟩ := by decide +kernel
  refine ⟨hsecond, fun hcomplete => ?_⟩
  have hfirst : (storeOfTwo dictionaryContext "a" "B").sessionPage dictionaryContext plainListing
      onePerPage none = .ok
        ⟨((storeOfTwo dictionaryContext "a" "B").unpagedListing dictionaryContext plainListing
          onePerPage).take 1,
          some (plainListing.encodeSessionPageCursor ⟨"5", "a"⟩ onePerPage)⟩ := by decide +kernel
  have hshort := hcomplete.listed.unique (.more hfirst rfl (.last hsecond rfl))
  exact absurd hshort (by decide +kernel)

/-- Ids that the collation and the code units order alike are listed in full. -/
theorem small_sessions_listed :
    (storeOfTwo dictionaryContext "a" "b").PagesComplete dictionaryContext plainListing
      onePerPage := by
  apply (session_pages_complete_iff dictionaryContext plainListing (.single "t" "u")
    (twoSessions "a" "b") onePerPage (by decide +kernel)).mpr
  apply ControlPlaneStore.pageEndsAgree_of_sorted
  decide +kernel

end OpenCowork.ControlPlane
