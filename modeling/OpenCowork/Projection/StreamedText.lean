import Mathlib.Algebra.GroupWithZero.Nat
import OpenCowork.Projection.Reduce

/-! # Streamed text

Text of the assistant arrives in deltas. The session view merges each into the text so far by
their overlap, the projection appends it.
-/

namespace OpenCowork.Projection

open Foundation

/-! ## Texts -/

/-- The greatest overlap of at most `n` characters. -/
def overlapUpTo (existing incoming : List Char) : Nat → Nat
  | 0 => 0
  | n + 1 =>
    if existing.drop (existing.length - (n + 1)) = incoming.take (n + 1) then n + 1
    else overlapUpTo existing incoming n

def mergeStreamingText (existing incoming : String) : String :=
  if existing = "" then incoming
  else if incoming = "" then existing
  else if incoming = existing then existing
  else if existing.toList.isPrefixOf incoming.toList then incoming
  else if incoming.toList.isSuffixOf existing.toList then existing
  else
    let maxOverlap := min existing.toList.length incoming.toList.length
    let overlap := overlapUpTo existing.toList incoming.toList maxOverlap
    existing ++ String.ofList (incoming.toList.drop overlap)

def preferNewerStreamingText (snapshotContent existingContent : String) : String :=
  if existingContent = "" then snapshotContent
  else if snapshotContent = "" then existingContent
  else if existingContent.toList.isPrefixOf snapshotContent.toList then snapshotContent
  else existingContent

/-- The end of the text so far is the beginning of the delta. -/
def Overlaps (existing incoming : List Char) : Prop :=
  ∃ shared ≠ [], shared <:+ existing ∧ shared <+: incoming

section Texts

variable (existing incoming : List Char)

theorem overlapUpTo_eq_zero_iff {n : Nat} (hexisting : n ≤ existing.length)
    (hincoming : n ≤ incoming.length) :
    overlapUpTo existing incoming n = 0 ↔
      ∀ shared ≠ [], shared.length ≤ n → shared <:+ existing → ¬ shared <+: incoming := by
  induction n with
  | zero => simp +contextual [overlapUpTo]
  | succ n ih =>
    rw [overlapUpTo]
    split
    next hsame =>
      refine iff_of_false (Nat.succ_ne_zero n) fun h => ?_
      refine h (incoming.take (n + 1)) ?_ (List.length_take_le _ _)
        (hsame ▸ List.drop_suffix _ _) (List.take_prefix _ _)
      intro hempty
      have := congrArg List.length hempty
      rw [List.length_take, Nat.min_eq_left hincoming] at this
      cases this
    next hdiffers =>
      rw [ih (by omega) (by omega)]
      refine ⟨fun h shared hne _ hend hstart => ?_,
        fun h shared hne _ => h shared hne (by omega)⟩
      rcases Nat.lt_or_ge n shared.length with _ | hge
      · have hlength : shared.length = n + 1 := by omega
        rw [← hlength, ← List.suffix_iff_eq_drop.mp hend,
          ← List.prefix_iff_eq_take.mp hstart] at hdiffers
        exact hdiffers rfl
      · exact h shared hne hge hend hstart

theorem overlapUpTo_le (n : Nat) : overlapUpTo existing incoming n ≤ n := by
  induction n with
  | zero => exact le_rfl
  | succ n ih =>
    rw [overlapUpTo]
    split
    · exact le_rfl
    · exact ih.trans (Nat.le_succ n)

/-- Merging is appending, unless the delta overlaps: then text is lost. -/
theorem mergeStreamingText_cases (text delta : String) :
    (¬ Overlaps text.toList delta.toList ∧ mergeStreamingText text delta = text ++ delta) ∨
      Overlaps text.toList delta.toList ∧
        (mergeStreamingText text delta).length < text.length + delta.length := by
  have hpos : ∀ {some : String}, some ≠ "" → 0 < some.length := fun hne =>
    Nat.pos_of_ne_zero fun h => hne (String.length_eq_zero_iff.mp h)
  have hlist : ∀ {some : String}, some ≠ "" → some.toList ≠ [] := fun hne h =>
    hne (String.toList_eq_nil_iff.mp h)
  unfold mergeStreamingText
  split
  next hempty =>
    refine .inl ⟨?_, by simp [hempty]⟩
    rintro ⟨shared, hne, hend, -⟩
    rw [hempty] at hend
    exact hne (List.suffix_nil.mp hend)
  split
  next hempty =>
    refine .inl ⟨?_, by simp [hempty]⟩
    rintro ⟨shared, hne, -, hstart⟩
    rw [hempty] at hstart
    exact hne (List.prefix_nil.mp hstart)
  next htext hdelta =>
  have htextPos := hpos htext
  have hdeltaPos := hpos hdelta
  split
  next hsame =>
    subst hsame
    exact .inr ⟨⟨_, hlist htext, List.suffix_rfl, List.prefix_rfl⟩, by omega⟩
  split
  next hstarts =>
    exact .inr ⟨⟨_, hlist htext, List.suffix_rfl, List.isPrefixOf_iff_prefix.mp hstarts⟩, by omega⟩
  split
  next hends =>
    exact .inr ⟨⟨_, hlist hdelta, List.isSuffixOf_iff_suffix.mp hends, List.prefix_rfl⟩, by omega⟩
  have hle := overlapUpTo_le text.toList delta.toList (min text.toList.length delta.toList.length)
  have hzero := overlapUpTo_eq_zero_iff text.toList delta.toList
    (Nat.min_le_left _ _) (Nat.min_le_right _ _)
  by_cases hnone : overlapUpTo text.toList delta.toList
      (min text.toList.length delta.toList.length) = 0
  · refine .inl ⟨?_, by simp [hnone]⟩
    rintro ⟨shared, hne, hend, hstart⟩
    exact hzero.mp hnone shared hne (Nat.le_min.mpr ⟨hend.length_le, hstart.length_le⟩) hend hstart
  · refine .inr ⟨?_, ?_⟩
    · by_contra hoverlaps
      exact hnone (hzero.mpr fun shared hne _ hend hstart => hoverlaps ⟨shared, hne, hend, hstart⟩)
    · simp only [String.length_append, String.length_ofList, List.length_drop,
        String.length_toList]
      simp only [String.length_toList] at hle hnone
      omega

end Texts
/-! ## The session view -/

structure MessageEntity where
  id : String
  role : MessageRole
  segmentIds : List String
  order : Nat

structure MessagePartEntity where
  content : String
  order : Nat

structure MessageStateShape where
  messageIds : List String
  messageById : OrderedMap String MessageEntity
  messagePartsById : OrderedMap String MessagePartEntity

def createEmptyMessageState : MessageStateShape := ⟨[], .empty, .empty⟩

/-- What `withMessageText` is given for a delta, which replaces nothing. -/
structure MessageText where
  messageId : String
  role : MessageRole
  (content segmentId : String)
  splitAfterOrder : Option Nat

structure SessionViewTiming where
  (order segmentOrder : Nat)

def scopeMessageSegmentId (messageId segmentId : String) : String :=
  let scope := messageId ++ "::"
  if messageId = "" ∨ segmentId = "" ∨ Text.startsWith segmentId scope then segmentId
  else scope ++ segmentId

def splitSegmentPrefix (segmentId : String) : String := segmentId ++ ":after:"

def orderedParts (messagePartsById : OrderedMap String MessagePartEntity)
    (segmentIds : List String) : List MessagePartEntity :=
  (segmentIds.filterMap messagePartsById.get).insertionSort fun left right =>
    left.order ≤ right.order

def buildMessageSegments (message : MessageEntity)
    (messagePartsById : OrderedMap String MessagePartEntity) : List MessagePartEntity :=
  orderedParts messagePartsById message.segmentIds

def renderMessageSegments (segments : List MessagePartEntity) : String :=
  String.join (segments.map MessagePartEntity.content)

def latestSplitSegmentId (messagePartsById : OrderedMap String MessagePartEntity)
    (segmentIds : List String) (segmentId : String) : Option String :=
  let latest := segmentIds.foldl (fun latest candidateId =>
    if Text.startsWith candidateId (splitSegmentPrefix segmentId) then
      match messagePartsById.get candidateId, latest with
      | none, latest => latest
      | some candidate, none => some (candidateId, candidate.order)
      | some candidate, some (id, order) =>
        if order < candidate.order then some (candidateId, candidate.order) else some (id, order)
    else latest) none
  latest.map Prod.fst

def isLivePlaceholderMessageId (messageId : String) (role : MessageRole) : Bool :=
  let suffix := if role = .assistant then ":assistant:live" else ":user:live"
  suffix.toList.isSuffixOf messageId.toList

section Reconciling

variable (state : MessageStateShape) (input : MessageText)

/-- A placeholder of the assistant stands for its latest message. -/
def resolveIncomingLiveMessageId : String :=
  if input.role = .assistant ∧ isLivePlaceholderMessageId input.messageId .assistant then
    match state.messageIds.getLast?.bind state.messageById.get with
    | some latestMessage =>
      if latestMessage.role = .assistant ∧ ¬ isLivePlaceholderMessageId latestMessage.id .assistant
      then latestMessage.id
      else input.messageId
    | none => input.messageId
  else input.messageId

def liveMessageIds : List String :=
  state.messageIds.filter fun messageId =>
    (state.messageById.get messageId).any fun message =>
      message.role = input.role ∧ isLivePlaceholderMessageId message.id input.role ∧
        message.id ≠ input.messageId

/-- A prompt takes the place of the placeholder that shows it, anything else of the first. -/
def liveMessageId : Option String :=
  let showing := (liveMessageIds state input).find? fun messageId =>
    (state.messageById.get messageId).any fun message =>
      renderMessageSegments (buildMessageSegments message state.messagePartsById) = input.content
  if input.role = .user ∧ ¬ Text.isBlank input.content then
    showing.or (liveMessageIds state input).head?
  else (liveMessageIds state input).head?

/-- The text of a placeholder under the id of the part that it turned out to be. -/
def joinedPart (parts : List MessagePartEntity) (earliestOrder : Nat) : MessagePartEntity :=
  let joined := renderMessageSegments parts
  match state.messagePartsById.get input.segmentId with
  | some target =>
    { target with
      order := min target.order earliestOrder
      content := preferNewerStreamingText target.content joined }
  | none => ⟨joined, earliestOrder⟩

/-- `moveLivePlaceholderStateToMessage` for the placeholder that there is. -/
def replaceLiveMessage (liveMessageId : String) (liveMessage : MessageEntity) :
    MessageStateShape :=
  let liveParts := orderedParts state.messagePartsById liveMessage.segmentIds
  let parts := match liveParts with
    | [] => state.messagePartsById
    | first :: _ =>
      (liveMessage.segmentIds.filter (· ≠ input.segmentId)).foldl OrderedMap.erase
        (state.messagePartsById.set input.segmentId (joinedPart state input liveParts first.order))
  let liveSegmentIds := if liveParts = [] then liveMessage.segmentIds else [input.segmentId]
  let message := match state.messageById.get input.messageId with
    | some target =>
      { target with
        segmentIds := (liveSegmentIds.filter fun id => (parts.get id).isSome).foldl
          (fun ids id => if id ∈ ids then ids else ids ++ [id]) target.segmentIds
        order := min target.order liveMessage.order }
    | none => { liveMessage with id := input.messageId, segmentIds := liveSegmentIds }
  { messageIds := (state.messageIds.map fun messageId =>
      if messageId = liveMessageId then input.messageId else messageId).eraseDups
    messageById := (state.messageById.set input.messageId message).erase liveMessageId
    messagePartsById := parts }

def moveLivePlaceholderStateToMessage : MessageStateShape :=
  if isLivePlaceholderMessageId input.messageId input.role then state
  else
    match liveMessageId state input with
    | some liveMessageId =>
      match state.messageById.get liveMessageId with
      | some liveMessage => replaceLiveMessage state input liveMessageId liveMessage
      | none => state
    | none => state

end Reconciling

def orderAfterSplitBoundary (fallbackOrder : Nat) (splitAfterOrder : Option Nat) : Nat :=
  match splitAfterOrder with
  | some boundaryOrder => max fallbackOrder (boundaryOrder + 1)
  | none => fallbackOrder

/-- `withMessageText` for a delta. The first text makes the message, later text goes to its part
or, behind an interruption, to a new one. -/
def withMessageText (state : MessageStateShape) (given : MessageText) (timing : SessionViewTiming) :
    MessageStateShape :=
  let messageId := resolveIncomingLiveMessageId state given
  let input :=
    { given with messageId, segmentId := scopeMessageSegmentId messageId given.segmentId }
  let reconciled := moveLivePlaceholderStateToMessage state input
  let parts := reconciled.messagePartsById
  match reconciled.messageById.get messageId with
  | none =>
    { messageIds := reconciled.messageIds ++ [messageId]
      messageById := reconciled.messageById.set messageId
        { id := messageId
          role := input.role
          segmentIds := if input.content = "" then [] else [input.segmentId]
          order := timing.order }
      messagePartsById := if input.content = "" then parts else
        parts.set input.segmentId ⟨input.content, timing.segmentOrder⟩ }
  | some existingMessage =>
    let splitAfterOrder := input.splitAfterOrder.filter fun order =>
      (parts.get input.segmentId).any fun segment => segment.order ≤ order
    let targetSegmentId := match splitAfterOrder with
      | some order => splitSegmentPrefix input.segmentId ++ order.repr
      | none => (latestSplitSegmentId parts existingMessage.segmentIds input.segmentId).getD
          input.segmentId
    let existingSegment := parts.get targetSegmentId
    let starts := existingSegment.isNone && decide (input.content ≠ "")
    { reconciled with
      messageById := reconciled.messageById.set messageId
        { existingMessage with
          role := input.role
          segmentIds := if starts ∧ targetSegmentId ∉ existingMessage.segmentIds then
              existingMessage.segmentIds ++ [targetSegmentId]
            else existingMessage.segmentIds }
      messagePartsById := match existingSegment with
        | some segment => parts.set targetSegmentId
            { segment with content := mergeStreamingText segment.content input.content }
        | none =>
          if input.content = "" then parts else parts.set targetSegmentId
            ⟨input.content, orderAfterSplitBoundary timing.segmentOrder splitAfterOrder⟩ }

/-- The texts of `buildMessages` under a message's id. -/
def MessageStateShape.shown (state : MessageStateShape) (messageId : String) : String :=
  String.join ((state.messageIds.filter (· = messageId)).filterMap fun messageId =>
    (state.messageById.get messageId).map fun message =>
      renderMessageSegments (buildMessageSegments message state.messagePartsById))

/-- The state has one message of the assistant, with one part that has the text so far. -/
structure Streams (messageId segmentId text : String) (state : MessageStateShape) : Prop where
  ids : state.messageIds = [messageId]
  message : ∃ message ∈ state.messageById.get messageId,
    message.id = messageId ∧ message.role = .assistant ∧
      message.segmentIds = [scopeMessageSegmentId messageId segmentId]
  part : ∃ part ∈ state.messagePartsById.get (scopeMessageSegmentId messageId segmentId),
    part.content = text

section Streaming

variable {messageId segmentId text content : String} {state : MessageStateShape}

theorem Streams.shown (h : Streams messageId segmentId text state) :
    state.shown messageId = text := by
  obtain ⟨message, hmessage, -, -, hids⟩ := h.message
  obtain ⟨part, hpart, rfl⟩ := h.part
  simp [MessageStateShape.shown, renderMessageSegments, buildMessageSegments, orderedParts, h.ids,
    Option.mem_def.mp hmessage, hids, Option.mem_def.mp hpart]

theorem latestSplitSegmentId_self (parts : OrderedMap String MessagePartEntity)
    (segmentId : String) : latestSplitSegmentId parts [segmentId] segmentId = none := by
  have hlonger : Text.startsWith segmentId (splitSegmentPrefix segmentId) = false := by
    rw [Text.startsWith, Bool.eq_false_iff]
    intro h
    have := (List.isPrefixOf_iff_prefix.mp h).length_le
    rw [splitSegmentPrefix, String.toList_append, List.length_append] at this
    exact absurd this (by simp)
  simp [latestSplitSegmentId, hlonger]

def assistantText (messageId segmentId content : String) : MessageText :=
  ⟨messageId, .assistant, content, segmentId, none⟩

/-- Where the message is the only one, there is no placeholder that it could stand for. -/
theorem moveLivePlaceholderStateToMessage_eq (segmentId content : String)
    (hids : state.messageIds = [] ∨ state.messageIds = [messageId])
    (hid : ∀ message ∈ state.messageById.get messageId, message.id = messageId) :
    moveLivePlaceholderStateToMessage state (assistantText messageId segmentId content) =
      state := by
  have hnone : liveMessageIds state (assistantText messageId segmentId content) = [] := by
    rw [liveMessageIds, List.filter_eq_nil_iff]
    intro other hother
    rcases hids with hids | hids
    · rw [hids] at hother
      cases hother
    · rw [hids, List.mem_singleton] at hother
      subst hother
      cases hmessage : state.messageById.get other with
      | none => simp
      | some message => simp [assistantText, hid message hmessage]
  simp [moveLivePlaceholderStateToMessage, liveMessageId, hnone]

theorem resolveIncomingLiveMessageId_eq (segmentId content : String)
    (hids : state.messageIds = [] ∨ state.messageIds = [messageId])
    (hid : ∀ message ∈ state.messageById.get messageId, message.id = messageId) :
    resolveIncomingLiveMessageId state (assistantText messageId segmentId content) =
      messageId := by
  unfold resolveIncomingLiveMessageId
  rcases hids with hids | hids
  · simp [hids, assistantText]
  · cases hmessage : state.messageById.get messageId with
    | none => simp [hids, assistantText, hmessage]
    | some message => simp [hids, assistantText, hmessage, hid message hmessage]

theorem streams_first (timing : SessionViewTiming) (hcontent : content ≠ "") :
    Streams messageId segmentId content
      (withMessageText createEmptyMessageState (assistantText messageId segmentId content)
        timing) := by
  have hempty : ∀ message ∈ createEmptyMessageState.messageById.get messageId,
      message.id = messageId := by simp [createEmptyMessageState]
  have hmoved := moveLivePlaceholderStateToMessage_eq
    (scopeMessageSegmentId messageId segmentId) content (.inl rfl) hempty
  have hresolved := resolveIncomingLiveMessageId_eq segmentId content (.inl rfl) hempty
  simp only [assistantText] at hmoved hresolved ⊢
  simp only [withMessageText, hresolved, hmoved]
  constructor <;> simp [createEmptyMessageState, hcontent]

theorem Streams.next (h : Streams messageId segmentId text state) (timing : SessionViewTiming) :
    Streams messageId segmentId (mergeStreamingText text content)
      (withMessageText state (assistantText messageId segmentId content) timing) := by
  obtain ⟨message, hmessage, hid, _, hids⟩ := h.message
  obtain ⟨part, hpart, rfl⟩ := h.part
  rw [Option.mem_def] at hmessage hpart
  have hheld : ∀ message ∈ state.messageById.get messageId, message.id = messageId := by
    simp [hmessage, hid]
  have hmoved := moveLivePlaceholderStateToMessage_eq
    (scopeMessageSegmentId messageId segmentId) content (.inr h.ids) hheld
  have hresolved := resolveIncomingLiveMessageId_eq segmentId content (.inr h.ids) hheld
  simp only [assistantText] at hmoved hresolved ⊢
  simp only [withMessageText, hresolved, hmoved, hmessage, hids, Option.filter_none,
    latestSplitSegmentId_self, Option.getD_none, hpart]
  constructor <;> simp [h.ids, hid]

end Streaming

/-! ## Both machines -/

/-- A delta as both machines receive it. -/
structure TextDelta where
  content : String
  nonempty : content ≠ ""
  timing : SessionViewTiming
  sequence : Nat
  createdAt : NonBlank

def TextDelta.event (messageId : NonBlank) (delta : TextDelta) : CloudProjectionEventRecord where
  sequence := delta.sequence
  type := "assistant.message"
  payload := .obj
    [("messageId", .str messageId.val), ("mode", .str "append"), ("content", .str delta.content)]
  createdAt := delta.createdAt

def streamedState (messageId segmentId : String) (deltas : List TextDelta) : MessageStateShape :=
  deltas.foldl (fun state delta =>
    withMessageText state (assistantText messageId segmentId delta.content) delta.timing)
    createEmptyMessageState

def streamedView (env : ProjectionEnvironment) (session : CloudProjectionSessionRecord)
    (messageId : NonBlank) (deltas : List TextDelta) : CloudSessionProjectionView :=
  deltas.foldl (fun view delta =>
    reduceCloudSessionProjectionEvent env session view (delta.event messageId))
    (createCloudSessionProjectionView session)

def CloudSessionProjectionView.shown (view : CloudSessionProjectionView) (messageId : NonBlank) :
    String :=
  ((view.messages.find? fun message => message.id = messageId).map
    CloudSessionMessage.content).getD ""

def concatenation (deltas : List TextDelta) : String :=
  (deltas.map TextDelta.content).foldl (· ++ ·) ""

/-- No delta begins with an end of the text before it. -/
def OverlapFree (text : String) : List String → Prop
  | [] => True
  | delta :: rest => ¬ Overlaps text.toList delta.toList ∧ OverlapFree (text ++ delta) rest

theorem length_foldl_append (text : String) (deltas : List String) :
    (deltas.foldl (· ++ ·) text).length = text.length + (deltas.map String.length).sum := by
  induction deltas generalizing text with
  | nil => simp
  | cons _ _ ih =>
    rw [List.foldl_cons, ih, String.length_append, List.map_cons, List.sum_cons]
    omega

theorem length_foldl_mergeStreamingText (text : String) (deltas : List String) :
    (deltas.foldl mergeStreamingText text).length ≤
      text.length + (deltas.map String.length).sum := by
  induction deltas generalizing text with
  | nil => simp
  | cons delta _ ih =>
    have hrest := ih (mergeStreamingText text delta)
    rw [List.foldl_cons, List.map_cons, List.sum_cons]
    rcases mergeStreamingText_cases text delta with ⟨-, heq⟩ | ⟨-, _⟩
    · rw [heq, String.length_append] at hrest
      rw [heq]
      omega
    · omega

/-- A text that was shortened once does not become whole again. -/
theorem foldl_mergeStreamingText_eq_iff (text : String) (deltas : List String) :
    deltas.foldl mergeStreamingText text = deltas.foldl (· ++ ·) text ↔
      OverlapFree text deltas := by
  induction deltas generalizing text with
  | nil => simp [OverlapFree]
  | cons delta rest ih =>
    rw [List.foldl_cons, List.foldl_cons, OverlapFree]
    rcases mergeStreamingText_cases text delta with ⟨hfree, heq⟩ | ⟨hoverlaps, _⟩
    · rw [heq, ih]
      exact (and_iff_right hfree).symm
    · refine iff_of_false (fun h => ?_) fun h => h.1 hoverlaps
      have hshort := length_foldl_mergeStreamingText (mergeStreamingText text delta) rest
      rw [h, length_foldl_append, String.length_append] at hshort
      omega

section Machines

variable (messageId : NonBlank) (segmentId : String) (deltas : List TextDelta)

theorem streams_streamedState (first : TextDelta) :
    Streams messageId.val segmentId
      ((deltas.map TextDelta.content).foldl mergeStreamingText first.content)
      (streamedState messageId.val segmentId (first :: deltas)) := by
  induction deltas using List.reverseRecOn with
  | nil => exact streams_first first.timing first.nonempty
  | append_singleton _ delta ih =>
    rw [List.map_append, List.foldl_append, streamedState, ← List.cons_append, List.foldl_append]
    exact ih.next delta.timing

theorem shown_streamedState :
    (streamedState messageId.val segmentId deltas).shown messageId.val =
      (deltas.map TextDelta.content).foldl mergeStreamingText "" := by
  cases deltas with
  | nil => rfl
  | cons first rest =>
    simpa [mergeStreamingText] using (streams_streamedState messageId segmentId rest first).shown

theorem assistantMessage_event (session : CloudProjectionSessionRecord)
    (view : CloudSessionProjectionView) (delta : TextDelta) :
    let message := assistantMessage session view
      (Json.asRecord (some (delta.event messageId).payload)) (delta.event messageId)
    message.id = messageId ∧ message.content = view.shown messageId ++ delta.content := by
  have hid : readString (Json.findField "messageId"
      (Json.asRecord (some (delta.event messageId).payload)))
      (generatedMessageId session .assistant (delta.event messageId)) = messageId := by
    rw [readString]
    exact congrArg (Option.getD · _) (Json.readText_str messageId)
  refine ⟨hid, ?_⟩
  simp only [assistantMessage, hid]
  simp [TextDelta.event, Json.findField, Json.readRaw, resolveAssistantMessageContent,
    CloudSessionProjectionView.shown]

theorem shown_reduce (env : ProjectionEnvironment) (session : CloudProjectionSessionRecord)
    (view : CloudSessionProjectionView) (delta : TextDelta) :
    (reduceCloudSessionProjectionEvent env session view (delta.event messageId)).shown messageId =
      view.shown messageId ++ delta.content := by
  have hmessage := assistantMessage_event messageId session view delta
  have hreduce : (reduceCloudSessionProjectionEvent env session view
      (delta.event messageId)).messages =
      upsertById CloudSessionMessage.id CloudSessionMessage.merge view.messages
        (assistantMessage session view
          (Json.asRecord (some (delta.event messageId).payload)) (delta.event messageId)) := rfl
  unfold CloudSessionProjectionView.shown
  rw [hreduce, upsertById, hmessage.1]
  cases hfound : view.messages.find? fun message => message.id = messageId with
  | none =>
    rw [find?_upsertFirst_of_none hfound (decide_eq_true hmessage.1), Option.map_some, hmessage.2]
    simp [CloudSessionProjectionView.shown, hfound]
  | some =>
    rw [find?_upsertFirst hfound (decide_eq_true hmessage.1), Option.map_some,
      CloudSessionMessage.merge, hmessage.2]
    simp [CloudSessionProjectionView.shown, hfound]

theorem shown_streamedView (env : ProjectionEnvironment) (session : CloudProjectionSessionRecord) :
    (streamedView env session messageId deltas).shown messageId = concatenation deltas := by
  induction deltas using List.reverseRecOn with
  | nil => rfl
  | append_singleton _ delta ih =>
    rw [streamedView, List.foldl_append, concatenation, List.map_append, List.foldl_append]
    exact (shown_reduce messageId env session _ delta).trans (congrArg (· ++ delta.content) ih)

/-- Both machines show the concatenation of the deltas exactly if none overlaps. -/
theorem streamed_text_concatenates_iff (env : ProjectionEnvironment)
    (session : CloudProjectionSessionRecord) :
    let shown := (streamedState messageId.val segmentId deltas).shown messageId.val
    let projected := (streamedView env session messageId deltas).shown messageId
    shown = concatenation deltas ∧ projected = concatenation deltas ∧ shown = projected ↔
      OverlapFree "" (deltas.map TextDelta.content) := by
  intro shown projected
  have hprojected : projected = concatenation deltas :=
    shown_streamedView messageId deltas env session
  rw [hprojected, ← foldl_mergeStreamingText_eq_iff]
  simp [shown, shown_streamedState, concatenation]

end Machines

/-- The second `l` of `hello` begins the second delta and is lost. -/
theorem doubled_letter_is_lost :
    let now : NonBlank := ⟨"now", by decide⟩
    let messageId : NonBlank := ⟨"message", by decide⟩
    let deltas : List TextDelta :=
      [⟨"hel", by decide, ⟨1, 2⟩, 1, now⟩, ⟨"lo", by decide, ⟨3, 4⟩, 2, now⟩]
    (streamedState messageId.val "text-0" deltas).shown messageId.val = "helo" ∧
      concatenation deltas = "hello" := by
  decide +kernel

end OpenCowork.Projection
