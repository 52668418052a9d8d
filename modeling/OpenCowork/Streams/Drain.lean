import OpenCowork.Streams.Delivery

/-! # Draining the replay hub

A subscription that no step ends keeps its start and what it received. Once a
timer fires and the reads that follow are answered, the topic comes to rest, and
then each of its subscribers has received the whole log above its start.
-/

namespace OpenCowork.Streams

open Foundation OrderedMap

variable {log : List Nat} {topic : Topic} {subscriber : Subscriber}

/-- A subscription that started at `start` and has received at least `received`. -/
def Topic.Carries (topic : Topic) (id start : Nat) (received : List Nat) : Prop :=
  ∃ subscriber ∈ topic.subscribers,
    subscriber.id = id ∧ subscriber.start = start ∧ received <+: subscriber.received

def Hub.Carries (hub : Hub) (topicKey : String) (id start : Nat) (received : List Nat) : Prop :=
  ∃ topic, hub.topics.get topicKey = some topic ∧ topic.Carries id start received

/-- The inputs that do not end a subscription: the others close the hub, unsubscribe
it, or let a listener drop it. -/
def HubInput.Keeps (topicKey : String) (id : Nat) : HubInput → Prop
  | .unsubscribe other dropped => other = topicKey → dropped ≠ id
  | .resolve other react => other = topicKey → ∀ listener event, id ∉ react listener event
  | .close => False
  | _ => True

namespace Topic

variable {topic next : Topic} {id start : Nat} {received : List Nat} {react : Nat → Nat → List Nat}
  (hcarries : topic.Carries id start received)
include hcarries

theorem Carries.of_subset
    (hsubset : ∀ subscriber ∈ topic.subscribers, subscriber.id = id →
      subscriber ∈ next.subscribers) : next.Carries id start received := by
  obtain ⟨subscriber, hmem, hid, hrest⟩ := hcarries
  exact ⟨subscriber, hsubset subscriber hmem hid, hid, hrest⟩

theorem Carries.of_eq
    (hsubscribers : next.subscribers = topic.subscribers) : next.Carries id start received :=
  hcarries.of_subset fun _ hmem _ => hsubscribers ▸ hmem

theorem Carries.ne_nil : topic.subscribers ≠ [] := by
  obtain ⟨_, hmem, -⟩ := hcarries
  exact List.ne_nil_of_mem hmem

theorem Carries.deliverTo {dropped : List Nat} (hkept : id ∉ dropped) (event heard : Nat) :
    (topic.deliverTo event heard dropped).Carries id start received := by
  obtain ⟨subscriber, hmem, hid, hstart, hstarts⟩ := hcarries
  by_cases hheard : subscriber.id = heard
  · refine ⟨hear subscriber event, ?_, hid, hstart, hstarts.trans (List.prefix_append _ _)⟩
    refine List.mem_filter.mpr ⟨List.mem_map.mpr ⟨subscriber, hmem, if_pos hheard⟩, ?_⟩
    simpa [hear, hid] using hkept
  · refine ⟨subscriber, ?_, hid, hstart, hstarts⟩
    refine List.mem_filter.mpr ⟨List.mem_map.mpr ⟨subscriber, hmem, if_neg hheard⟩, ?_⟩
    simpa [hid] using hkept

variable (hkept : ∀ listener event, id ∉ react listener event)
include hkept

theorem Carries.deliverEvent (afterSequence event : Nat) (ids : List Nat) :
    (Topic.deliverEvent afterSequence event react ids topic).Carries id start received := by
  induction ids generalizing topic with
  | nil => exact hcarries
  | cons other _ ih =>
    rw [Topic.deliverEvent]
    split
    · exact ih hcarries
    · split
      · exact ih (hcarries.of_eq rfl)
      · split
        · exact ih hcarries
        · exact ih (hcarries.deliverTo (hkept other event) event other)

theorem Carries.deliverEvents (afterSequence : Nat) (events : List Nat) :
    (Topic.deliverEvents afterSequence react events topic).Carries id start received := by
  induction events generalizing topic with
  | nil => exact hcarries
  | cons _ _ ih =>
    rw [Topic.deliverEvents]
    split
    · exact ih hcarries
    · apply ih
      apply Carries.deliverEvent _ hkept
      exact hcarries.of_eq rfl

theorem Carries.resolvePoll (afterSequence : Nat) (read : ReadResult) :
    (topic.resolvePoll afterSequence read react).Carries id start received := by
  apply Carries.deliverEvents _ hkept
  exact hcarries.of_eq rfl

end Topic

namespace Hub

variable {hub : Hub} {topicKey : String} {id start : Nat} {received : List Nat}

theorem updateTopic_get (hub : Hub) (topicKey other : String) (update : Topic → Topic) :
    (hub.updateTopic topicKey update).topics.get other =
      if topicKey = other then (hub.topics.get other).map update else hub.topics.get other := by
  unfold updateTopic
  split
  next hget =>
    split
    next h => rw [← h, hget, Option.map_none]
    · rfl
  next hget =>
    rw [get_set]
    split
    next h => rw [← h, hget, Option.map_some]
    · rfl

theorem settleTopic_get (hub : Hub) (topicKey other : String) (topic : Topic) :
    (hub.settleTopic topicKey topic).topics.get other =
      if topicKey = other then if topic.subscribers = [] then none else some topic
      else hub.topics.get other := by
  unfold settleTopic
  by_cases hnone : topic.subscribers = []
  · rw [if_pos hnone, if_pos hnone]
    change (hub.topics.erase topicKey).get other = _
    split
    next h => rw [h, get_erase_self]
    next h => rw [get_erase_of_ne _ h]
  · rw [if_neg hnone, if_neg hnone]
    change (hub.topics.set topicKey topic).get other = _
    rw [get_set]

variable (hcarries : hub.Carries topicKey id start received)
include hcarries

variable (other : String)
include other

theorem Carries.updateTopic (update : Topic → Topic)
    (hupdate : ∀ topic, (update topic).subscribers = topic.subscribers) :
    (hub.updateTopic other update).Carries topicKey id start received := by
  obtain ⟨topic, hget, htopic⟩ := hcarries
  unfold Carries
  rw [updateTopic_get, hget]
  split
  · exact ⟨update topic, rfl, htopic.of_eq (hupdate topic)⟩
  · exact ⟨topic, rfl, htopic⟩

theorem Carries.requestPoll : (hub.requestPoll other).Carries topicKey id start received := by
  unfold Hub.requestPoll
  split
  · exact hcarries
  · exact hcarries.updateTopic other _ HubInvariant.requestPoll_subscribers

theorem Carries.subscribe (afterSequence batchSize : Nat) (wakeKey : Option String) :
    (hub.subscribe other afterSequence batchSize wakeKey).Carries topicKey id start received := by
  obtain ⟨topic, hget, htopic⟩ := hcarries
  unfold Hub.subscribe
  split
  · exact ⟨topic, hget, htopic⟩
  · apply Carries.requestPoll
    -- A registered topic keeps its subscribers; a new one is another topic.
    split
    next hfound =>
      by_cases h : other = topicKey
      · subst h
        obtain rfl := Option.mem_unique hget hfound
        refine ⟨_, get_set_self _ _ _, htopic.of_subset fun _ hmem _ => ?_⟩
        exact List.mem_append_left _ hmem
      · exact ⟨topic, (get_set_of_ne _ _ h).trans hget, htopic⟩
    next hfound =>
      have h : other ≠ topicKey := by
        rintro rfl
        exact absurd (hfound.symm.trans hget) (by simp)
      exact ⟨topic, (get_set_of_ne _ _ h).trans hget, htopic⟩

theorem Carries.settleTopic (next : Topic)
    (hnext : other = topicKey → next.Carries id start received) :
    (hub.settleTopic other next).Carries topicKey id start received := by
  unfold Carries
  rw [settleTopic_get]
  split
  next h =>
    rw [if_neg (hnext h).ne_nil]
    exact ⟨next, rfl, hnext h⟩
  · exact hcarries

omit other

/-- A step that does not end a subscription extends what it received. -/
theorem Carries.perform {input : HubInput} (hkeeps : input.Keeps topicKey id) :
    (hub.perform input).Carries topicKey id start received := by
  cases input with
  | append =>
    simp only [Hub.perform, Hub.append]
    split <;> exact hcarries
  | subscribe =>
    exact hcarries.subscribe _ _ _ _
  | unsubscribe =>
    simp only [Hub.perform, Hub.unsubscribe]
    split
    · exact hcarries
    next hfound =>
      apply hcarries.settleTopic
      intro h
      obtain ⟨topic, hget, htopic⟩ := hcarries
      subst h
      obtain rfl := Option.mem_unique hget hfound
      apply htopic.of_subset
      intro _ hmem hid
      refine List.mem_filter.mpr ⟨hmem, ?_⟩
      simpa [hid] using (hkeeps rfl).symm
  | timer other => exact hcarries.requestPoll other
  | wake wakeKey =>
    simp only [Hub.perform, Hub.wake]
    split
    · exact hcarries
    next hopen =>
      clear hopen
      generalize (hub.wakeIndex.get wakeKey).getD [] = keys
      induction keys generalizing hub with
      | nil => exact hcarries
      | cons other _ ih => exact ih (hcarries.requestPoll other)
  | load =>
    apply hcarries.updateTopic
    intro topic
    split <;> rfl
  | resolve =>
    simp only [Hub.perform, Hub.resolve]
    split
    · exact hcarries
    next hfound =>
      split
      next afterSequence read _ =>
        apply hcarries.settleTopic
        intro h
        obtain ⟨topic, hget, htopic⟩ := hcarries
        subst h
        obtain rfl := Option.mem_unique hget hfound
        have hdelivered := htopic.resolvePoll (hkeeps rfl) afterSequence read
        rw [if_neg hdelivered.ne_nil]
        exact hdelivered.of_eq (HubInvariant.finishPoll_subscribers _)
      · exact hcarries
  | fail =>
    apply hcarries.updateTopic
    intro topic
    split
    · exact HubInvariant.finishPoll_subscribers _
    · rfl
  | close => exact hkeeps.elim

theorem Carries.run (inputs : List HubInput) (hkeeps : ∀ input ∈ inputs, input.Keeps topicKey id) :
    (Hub.machine.run hub inputs).Carries topicKey id start received := by
  induction inputs generalizing hub with
  | nil => exact hcarries
  | cons input _ ih =>
    apply ih (hcarries.perform (hkeeps input (.head _)))
    exact fun later hmem => hkeeps later (.tail _ hmem)

end Hub

/-! ## Progress -/

namespace Topic

variable {topic : Topic} {afterSequence event : Nat} {log : List Nat}

structure Starting (topic : Topic) : Prop where
  poll : topic.poll = some ⟨topic.replayAfterSequence, none⟩
  quiet : topic.pollRequested = false

theorem startPoll_starting (topic : Topic) : topic.startPoll.Starting := ⟨rfl, rfl⟩

theorem finishPoll_starting (hrequested : topic.pollRequested = true)
    (hsubscribers : topic.subscribers ≠ []) : topic.finishPoll.Starting := by
  have hagain : (topic.pollRequested && !topic.subscribers.isEmpty) = true := by
    simpa [hrequested] using hsubscribers
  unfold finishPoll
  rw [if_pos hagain]
  exact startPoll_starting _

/-- The listeners drop nothing. -/
def keepAll : Nat → Nat → List Nat := fun _ _ => []

/-- How much of the log the next poll still has before it. -/
def remaining (log : List Nat) (topic : Topic) : Nat :=
  (log.filter fun sequence => decide (topic.replayAfterSequence < sequence)).length

theorem le_replayAfterSequence {bound : Nat} (htopic : bound ≤ topic.lastSequence)
    (hsubscribers : ∀ subscriber ∈ topic.subscribers, bound ≤ subscriber.lastSequence) :
    bound ≤ topic.replayAfterSequence := by
  unfold replayAfterSequence
  generalize topic.lastSequence = sequence at htopic
  generalize topic.subscribers = subscribers at hsubscribers
  induction subscribers generalizing sequence with
  | nil => exact htopic
  | cons first _ ih =>
    apply ih
    · exact Nat.le_min.mpr ⟨htopic, hsubscribers first (.head _)⟩
    · exact fun subscriber hmem => hsubscribers subscriber (.tail _ hmem)

theorem deliverEvent_lastSequence (afterSequence event : Nat) (react : Nat → Nat → List Nat)
    (ids : List Nat) (topic : Topic) :
    (deliverEvent afterSequence event react ids topic).lastSequence = topic.lastSequence := by
  induction ids generalizing topic with
  | nil => rfl
  | cons _ _ ih =>
    rw [deliverEvent]
    split
    · exact ih topic
    · split
      · exact ih _
      · split
        · exact ih topic
        · exact ih _

theorem deliverEvents_lastSequence (afterSequence : Nat) (react : Nat → Nat → List Nat)
    (events : List Nat) (topic : Topic) :
    topic.lastSequence ≤ (deliverEvents afterSequence react events topic).lastSequence ∧
      ∀ event ∈ events, afterSequence < event →
        event ≤ (deliverEvents afterSequence react events topic).lastSequence := by
  induction events generalizing topic with
  | nil => exact ⟨Nat.le_refl _, by simp⟩
  | cons event _ ih =>
    rw [deliverEvents]
    split
    next _ =>
      obtain ⟨hle, hrest⟩ := ih topic
      refine ⟨hle, fun other hother hafter => ?_⟩
      rcases List.mem_cons.mp hother with rfl | hother
      · omega
      · exact hrest other hother hafter
    · obtain ⟨hle, hrest⟩ := ih (deliverEvent afterSequence event react
        (topic.subscribers.map Subscriber.id)
        { topic with lastSequence := max topic.lastSequence event })
      rw [deliverEvent_lastSequence] at hle
      simp only at hle
      refine ⟨by omega, fun other hother hafter => ?_⟩
      rcases List.mem_cons.mp hother with rfl | hother
      · omega
      · exact hrest other hother hafter

theorem deliverEvent_quiet (hevent : afterSequence < event)
    (react : Nat → Nat → List Nat) (ids : List Nat) (topic : Topic)
    (hahead : ∀ subscriber ∈ topic.subscribers, afterSequence ≤ subscriber.lastSequence) :
    (deliverEvent afterSequence event react ids topic).pollRequested = topic.pollRequested ∧
      ∀ subscriber ∈ (deliverEvent afterSequence event react ids topic).subscribers,
        afterSequence ≤ subscriber.lastSequence := by
  induction ids generalizing topic with
  | nil => exact ⟨rfl, hahead⟩
  | cons _ _ ih =>
    rw [deliverEvent]
    split
    · exact ih topic hahead
    next found hfound =>
      have := hahead found (List.mem_of_find?_eq_some hfound)
      rw [if_neg (Nat.not_lt.mpr this)]
      split
      · exact ih topic hahead
      · apply ih
        intro _ hmem
        obtain ⟨old, hold, rfl⟩ := List.mem_map.mp (List.mem_of_mem_filter hmem)
        split
        · exact Nat.le_of_lt hevent
        · exact hahead old hold

theorem deliverEvents_quiet (react : Nat → Nat → List Nat) (events : List Nat) (topic : Topic)
    (hahead : ∀ subscriber ∈ topic.subscribers, afterSequence ≤ subscriber.lastSequence) :
    (deliverEvents afterSequence react events topic).pollRequested = topic.pollRequested ∧
      ∀ subscriber ∈ (deliverEvents afterSequence react events topic).subscribers,
        afterSequence ≤ subscriber.lastSequence := by
  induction events generalizing topic with
  | nil => exact ⟨rfl, hahead⟩
  | cons event _ ih =>
    rw [deliverEvents]
    split
    · exact ih topic hahead
    next hnew =>
      have hlt : afterSequence < event := Nat.lt_of_not_le hnew
      obtain ⟨hquiet, hnext⟩ := deliverEvent_quiet hlt react
        (topic.subscribers.map Subscriber.id)
        { topic with lastSequence := max topic.lastSequence event } hahead
      obtain ⟨hrest, hfinal⟩ := ih _ hnext
      exact ⟨hrest.trans hquiet, hfinal⟩

theorem filter_length_lt {low high : Nat} (hevent : event ∈ log)
    (hlow : low < event) (hhigh : event ≤ high) :
    (log.filter fun sequence => decide (high < sequence)).length <
      (log.filter fun sequence => decide (low < sequence)).length := by
  have hsplit : log.filter (fun sequence => decide (high < sequence)) =
      (log.filter fun sequence => decide (low < sequence)).filter fun sequence =>
        decide (high < sequence) := by
    rw [List.filter_filter]
    apply List.filter_congr
    intro sequence _
    by_cases h : high < sequence
    · simp [h, Nat.lt_trans (Nat.lt_of_lt_of_le hlow hhigh) h]
    · simp [h]
  rw [hsplit, List.length_filter_lt_length_iff_exists]
  exact ⟨event, by simpa using ⟨hevent, hlow⟩, by simpa using hhigh⟩

def loaded (log : List Nat) (topic : Topic) : Topic :=
  { topic with
    poll := some ⟨topic.replayAfterSequence,
      some ⟨loadEvents topic.batchSize log topic.replayAfterSequence, log⟩⟩ }

def answered (log : List Nat) (topic : Topic) : Topic :=
  ((topic.loaded log).resolvePoll topic.replayAfterSequence
    ⟨loadEvents topic.batchSize log topic.replayAfterSequence, log⟩ keepAll).finishPoll

/-- An answered poll either leaves less to read to the next one, or the topic rests
with everything reached. -/
theorem answered_progress (hlog : log.Pairwise (· < ·))
    (hinvariant : TopicInvariant log topic) (hstarting : topic.Starting) :
    ((topic.answered log).Starting ∧
        (topic.answered log).remaining log < topic.remaining log) ∨
      ((topic.answered log).poll = none ∧ (topic.answered log).failed = false ∧
        (topic.answered log).reached = log) := by
  let after := topic.replayAfterSequence
  let events := loadEvents topic.batchSize log after
  let full := decide (0 < topic.batchSize) && decide (topic.batchSize ≤ events.length)
  let opened : Topic :=
    { topic.loaded log with
      pollRequested := topic.pollRequested || full
      reached := log
      failed := false }
  let delivered := deliverEvents after keepAll events opened
  have hloaded : TopicInvariant log (topic.loaded log) := hinvariant.load hstarting.poll
  have hdelivering : Delivering log after events delivered := hloaded.delivering hlog rfl keepAll
  have hframe : DeliveryFrame opened delivered := deliverEvents_frame after keepAll events opened
  obtain ⟨hquiet, hahead⟩ : delivered.pollRequested = opened.pollRequested ∧
      ∀ subscriber ∈ delivered.subscribers, after ≤ subscriber.lastSequence :=
    deliverEvents_quiet keepAll events opened topic.replayAfterSequence_le
  have hanswered : topic.answered log = delivered.finishPoll := rfl
  rw [hanswered]
  unfold finishPoll
  split
  next hagain =>
    left
    refine ⟨startPoll_starting _, ?_⟩
    have hfull : full = true := by
      rw [Bool.and_eq_true, hquiet] at hagain
      simpa [opened, hstarting.quiet] using hagain.1
    -- A full batch has an event above the cursor, and the next poll starts past it.
    simp only [full, Bool.and_eq_true, decide_eq_true_eq] at hfull
    obtain ⟨event, hevent⟩ := List.exists_mem_of_length_pos (Nat.lt_of_lt_of_le hfull.1 hfull.2)
    have hread : event ∈ log ∧ after < event := by
      have hstarts := (hloaded.read _ _ rfl rfl).1
      simpa using hstarts.subset hevent
    have hpast : event ≤ delivered.replayAfterSequence := by
      apply le_replayAfterSequence
      · exact (deliverEvents_lastSequence after keepAll events opened).2 event hevent hread.2
      · intro subscriber hmem
        exact hdelivering.caughtUp subscriber hmem (hahead subscriber hmem) event hevent
    exact filter_length_lt hread.1 hread.2 hpast
  · right
    exact ⟨rfl, hframe.failed, hframe.reached⟩

end Topic

namespace Hub

variable {hub : Hub} {topicKey : String} {id start : Nat} {received : List Nat} {topic : Topic}

def answers (topicKey : String) : Nat → List HubInput
  | 0 => []
  | rounds + 1 => .load topicKey :: .resolve topicKey Topic.keepAll :: answers topicKey rounds

theorem answers_keep (rounds : Nat) :
    ∀ input ∈ answers topicKey rounds, input.Keeps topicKey id := by
  induction rounds with
  | zero => simp [answers]
  | succ _ ih =>
    intro input hmem
    simp only [answers, List.mem_cons] at hmem
    rcases hmem with rfl | rfl | hmem
    · trivial
    · exact fun _ _ _ => by simp [Topic.keepAll]
    · exact ih input hmem

theorem updateTopic_logs (hub : Hub) (topicKey : String) (update : Topic → Topic) :
    (hub.updateTopic topicKey update).logs = hub.logs := by
  unfold updateTopic
  split <;> rfl

theorem settleTopic_logs (hub : Hub) (topicKey : String) (topic : Topic) :
    (hub.settleTopic topicKey topic).logs = hub.logs := by
  unfold settleTopic
  split <;> rfl

theorem resolve_logs (hub : Hub) (topicKey : String) (react : Nat → Nat → List Nat) :
    (hub.resolve topicKey react).logs = hub.logs := by
  unfold resolve
  split
  · rfl
  · split
    · exact settleTopic_logs _ _ _
    · rfl

theorem requestPoll_logs (hub : Hub) (topicKey : String) :
    (hub.requestPoll topicKey).logs = hub.logs := by
  unfold requestPoll
  split
  · rfl
  · exact updateTopic_logs _ _ _

theorem answers_logs (rounds : Nat) :
    (Hub.machine.run hub (answers topicKey rounds)).logs = hub.logs := by
  induction rounds generalizing hub with
  | zero => rfl
  | succ rounds ih =>
    calc (Hub.machine.run hub (answers topicKey (rounds + 1))).logs
        = ((hub.load topicKey).resolve topicKey Topic.keepAll).logs := ih
      _ = (hub.load topicKey).logs := resolve_logs _ _ _
      _ = hub.logs := updateTopic_logs _ _ _

theorem answered_get (hcarries : hub.Carries topicKey id start received)
    (hget : hub.topics.get topicKey = some topic) {poll : Poll} (hpoll : topic.poll = some poll) :
    ∃ read next, ((hub.load topicKey).resolve topicKey Topic.keepAll).topics.get topicKey =
        some next.finishPoll ∧
      next = { topic with poll := some ⟨poll.afterSequence, some read⟩ }.resolvePoll
        poll.afterSequence read Topic.keepAll ∧
      (poll.read = none →
        read = ⟨Topic.loadEvents topic.batchSize (hub.logs topicKey) poll.afterSequence,
          hub.logs topicKey⟩) := by
  obtain ⟨afterSequence, read⟩ := poll
  have hloaded : ∃ read', (hub.load topicKey).topics.get topicKey =
      some { topic with poll := some ⟨afterSequence, some read'⟩ } ∧
      (read = none → read' = ⟨Topic.loadEvents topic.batchSize (hub.logs topicKey) afterSequence,
        hub.logs topicKey⟩) := by
    unfold load
    rw [updateTopic_get, if_pos rfl, hget, Option.map_some, hpoll]
    cases read with
    | none => exact ⟨_, rfl, fun _ => rfl⟩
    | some read =>
      have hsame : { topic with poll := some ⟨afterSequence, some read⟩ } = topic := by
        rw [← hpoll]
      exact ⟨read, by rw [hsame], by simp⟩
  obtain ⟨read', hload, hread⟩ := hloaded
  obtain ⟨_, hfound, htopic⟩ := hcarries
  obtain rfl := Option.mem_unique hget hfound
  have hkept : ∀ listener event, id ∉ Topic.keepAll listener event := by simp [Topic.keepAll]
  have hread' : Topic.Carries { topic with poll := some ⟨afterSequence, some read'⟩ } id start
      received := htopic.of_eq rfl
  have hnext := hread'.resolvePoll hkept afterSequence read'
  refine ⟨read', _, ?_, rfl, hread⟩
  unfold resolve
  rw [hload]
  simp only [if_neg hnext.ne_nil]
  rw [settleTopic_get, if_pos rfl, HubInvariant.finishPoll_subscribers, if_neg hnext.ne_nil]

theorem Carries.round (hcarries : hub.Carries topicKey id start received) :
    ((hub.load topicKey).resolve topicKey Topic.keepAll).Carries topicKey id start received :=
  hcarries.run (answers topicKey 1) (answers_keep 1)

theorem round_logs (hub : Hub) (topicKey : String) :
    ((hub.load topicKey).resolve topicKey Topic.keepAll).logs = hub.logs :=
  (resolve_logs _ _ _).trans (updateTopic_logs _ _ _)

theorem exists_rest (hinvariant : HubInvariant hub)
    (hcarries : hub.Carries topicKey id start received)
    (hget : hub.topics.get topicKey = some topic) (hstarting : topic.Starting) :
    ∃ rounds rested, (Hub.machine.run hub (answers topicKey rounds)).topics.get topicKey =
        some rested ∧
      rested.poll = none ∧ rested.failed = false ∧ rested.reached = hub.logs topicKey := by
  induction hremaining : topic.remaining (hub.logs topicKey) using Nat.strongRecOn
    generalizing hub topic with
  | _ remaining ih =>
    obtain ⟨_, _, hround, rfl, hread⟩ := answered_get hcarries hget hstarting.poll
    obtain rfl := hread rfl
    rcases Topic.answered_progress (hinvariant.logs topicKey)
      (hinvariant.topics topicKey topic hget) hstarting with ⟨hagain, hless⟩ | hrest
    · have hlogs := round_logs hub topicKey
      have hsmaller : (topic.answered (hub.logs topicKey)).remaining
          (((hub.load topicKey).resolve topicKey Topic.keepAll).logs topicKey) < remaining := by
        rw [hlogs, ← hremaining]
        exact hless
      obtain ⟨rounds, rested, hrested, hdone⟩ := ih _ hsmaller
        ((hinvariant.load topicKey).resolve topicKey Topic.keepAll) hcarries.round hround
        hagain rfl
      rw [hlogs] at hdone
      exact ⟨rounds + 1, rested, hrested, hdone⟩
    · exact ⟨1, _, hround, hrest⟩

theorem updateTopic_closed (hub : Hub) (topicKey : String) (update : Topic → Topic) :
    (hub.updateTopic topicKey update).closed = hub.closed := by
  unfold updateTopic
  split <;> rfl

theorem settleTopic_closed (hub : Hub) (topicKey : String) (topic : Topic) :
    (hub.settleTopic topicKey topic).closed = hub.closed := by
  unfold settleTopic
  split <;> rfl

theorem requestPoll_closed (hub : Hub) (topicKey : String) :
    (hub.requestPoll topicKey).closed = hub.closed := by
  unfold requestPoll
  split
  · rfl
  · exact updateTopic_closed _ _ _

theorem wake_closed (hub : Hub) (wakeKey : String) : (hub.wake wakeKey).closed = hub.closed := by
  unfold wake
  split
  · rfl
  next hopen =>
    clear hopen
    generalize (hub.wakeIndex.get wakeKey).getD [] = keys
    induction keys generalizing hub with
    | nil => rfl
    | cons _ _ ih => exact (ih _).trans (requestPoll_closed _ _)

theorem perform_closed (hub : Hub) (input : HubInput) (hinput : input ≠ .close) :
    (hub.perform input).closed = hub.closed := by
  cases input with
  | append =>
    simp only [perform, append]
    split <;> rfl
  | subscribe =>
    simp only [perform, subscribe]
    split
    · rfl
    · rw [requestPoll_closed]
      split <;> rfl
  | unsubscribe =>
    simp only [perform, unsubscribe]
    split
    · rfl
    · exact settleTopic_closed _ _ _
  | timer => exact requestPoll_closed _ _
  | wake => exact wake_closed _ _
  | load | fail => exact updateTopic_closed _ _ _
  | resolve =>
    simp only [perform, resolve]
    split
    · rfl
    · split
      · exact settleTopic_closed _ _ _
      · rfl
  | close => exact absurd rfl hinput

theorem perform_of_closed (hub : Hub) (input : HubInput) (hclosed : hub.closed = true)
    (htopics : hub.topics = OrderedMap.empty) : (hub.perform input).topics = OrderedMap.empty := by
  cases input with
  | append =>
    simp only [perform, append]
    split <;> exact htopics
  | close => rfl
  | _ =>
    simp [perform, subscribe, unsubscribe, requestPoll, wake, load, resolve, fail,
      updateTopic, hclosed, htopics]

theorem run_closed (inputs : List HubInput) :
    (Hub.machine.run Hub.initial inputs).closed = true →
      (Hub.machine.run Hub.initial inputs).topics = OrderedMap.empty := by
  refine Hub.machine.run_invariant (fun hub => hub.closed = true → hub.topics = OrderedMap.empty)
    ?_ Hub.initial (by simp [initial]) inputs
  intro hub input htopics hclosed
  by_cases hinput : input = .close
  · subst hinput
    rfl
  · have hbefore : hub.closed = true := (perform_closed hub input hinput).symm.trans hclosed
    exact perform_of_closed hub input hbefore (htopics hbefore)

theorem exists_rest_after_timer (hinvariant : HubInvariant hub) (hopen : hub.closed = false)
    (hcarries : hub.Carries topicKey id start received) :
    ∃ rounds rested,
      (Hub.machine.run hub (.timer topicKey :: answers topicKey rounds)).topics.get topicKey =
        some rested ∧
      rested.poll = none ∧ rested.failed = false ∧ rested.reached = hub.logs topicKey := by
  obtain ⟨topic, hget, htopic⟩ := hcarries
  have hrequested : (hub.requestPoll topicKey).topics.get topicKey = some topic.requestPoll := by
    rw [requestPoll, hopen, if_neg Bool.false_ne_true, updateTopic_get, if_pos rfl, hget,
      Option.map_some]
  have hlogs : (hub.requestPoll topicKey).logs = hub.logs := requestPoll_logs hub topicKey
  have hstep := hinvariant.requestPoll topicKey
  have hcarried : (hub.requestPoll topicKey).Carries topicKey id start received :=
    Carries.requestPoll ⟨topic, hget, htopic⟩ topicKey
  rw [← hlogs]
  cases hpoll : topic.poll with
  | none =>
    have hstarting : topic.requestPoll.Starting := by
      rw [Topic.requestPoll, hpoll]
      exact topic.startPoll_starting
    exact exists_rest hstep hcarried hrequested hstarting
  | some poll =>
    -- The poll in flight may have read before the last append; the next one has not.
    have hagain : topic.requestPoll = { topic with pollRequested := true } := by
      rw [Topic.requestPoll, hpoll]
    rw [hagain] at hrequested
    obtain ⟨read, next, hround, hnext, -⟩ := answered_get hcarried hrequested hpoll
    have hstarting : next.finishPoll.Starting := by
      obtain ⟨_, hfound, hnonempty⟩ := hcarried.round
      obtain rfl := Option.mem_unique hround hfound
      have hframe := Topic.deliverEvents_frame poll.afterSequence Topic.keepAll read.events
      apply Topic.finishPoll_starting
      · rw [hnext]
        exact (hframe _).requested rfl
      · rw [← HubInvariant.finishPoll_subscribers]
        exact hnonempty.ne_nil
    obtain ⟨rounds, rested, hrested, hdone⟩ := exists_rest
      ((hstep.load topicKey).resolve topicKey Topic.keepAll) hcarried.round hround hstarting
    rw [round_logs] at hdone
    exact ⟨rounds + 1, rested, hrested, hdone⟩

theorem subscribe_carries (hub : Hub) (hopen : hub.closed = false) (topicKey : String)
    (afterSequence batchSize : Nat) (wakeKey : Option String) :
    (hub.subscribe topicKey afterSequence batchSize wakeKey).Carries topicKey
      hub.nextSubscriber afterSequence [] := by
  have hadded : ∀ topic : Topic, (addSubscriber topic hub.nextSubscriber afterSequence).Carries
      hub.nextSubscriber afterSequence [] := by
    intro topic
    refine ⟨⟨hub.nextSubscriber, afterSequence, afterSequence, []⟩, ?_, rfl, rfl, List.nil_prefix⟩
    exact List.mem_append_right _ (List.mem_singleton_self _)
  unfold subscribe
  rw [hopen, if_neg Bool.false_ne_true]
  apply Carries.requestPoll
  split
  · exact ⟨_, get_set_self _ _ _, hadded _⟩
  · exact ⟨_, get_set_self _ _ _, hadded _⟩

end Hub

/-- What the hub owes a subscriber between any two turns: each event of the log
between its cursors once and in order, and at rest all that was reached. -/
structure Served (log : List Nat) (topic : Topic) (subscriber : Subscriber) : Prop where
  increasing : subscriber.received.Pairwise (· < ·)
  contiguous : subscriber.received = window log subscriber.start subscriber.lastSequence
  reached : ∀ event ∈ subscriber.received, event ∈ topic.reached
  complete : topic.poll = none → topic.failed = false →
    ∀ event ∈ topic.reached, subscriber.start < event → event ∈ subscriber.received

theorem TopicInvariant.served (hlog : log.Pairwise (· < ·)) (hinvariant : TopicInvariant log topic)
    (hmem : subscriber ∈ topic.subscribers) : Served log topic subscriber where
  increasing := hinvariant.received subscriber hmem ▸ window_increasing hlog _ _
  contiguous := hinvariant.received subscriber hmem
  reached := hinvariant.heard subscriber hmem
  complete := by
    intro hpoll hfailed event hevent hstart
    rw [hinvariant.received subscriber hmem, mem_window]
    exact ⟨hinvariant.reached event hevent, hstart,
      hinvariant.rest hpoll hfailed subscriber hmem event hevent⟩

theorem TopicInvariant.rested (hinvariant : TopicInvariant log topic) (hpoll : topic.poll = none)
    (hfailed : topic.failed = false) (hreached : topic.reached = log)
    (hmem : subscriber ∈ topic.subscribers) :
    subscriber.received = log.filter fun event => decide (subscriber.start < event) := by
  rw [hinvariant.received subscriber hmem]
  apply List.filter_congr
  intro event hevent
  have hle := hinvariant.rest hpoll hfailed subscriber hmem event (hreached ▸ hevent)
  simp [hle]

namespace Hub

/-- A subscriber that stays is served in every state of the run, and answering the
reads that follow the next timer brings it everything logged above its cursor. -/
theorem run_serves (earlier later : List HubInput) (topicKey : String)
    (afterSequence batchSize : Nat) (wakeKey : Option String)
    (hopen : (Hub.machine.run Hub.initial earlier).closed = false)
    (hstays : ∀ input ∈ later,
      input.Keeps topicKey (Hub.machine.run Hub.initial earlier).nextSubscriber) :
    let hub := Hub.machine.run Hub.initial
      (earlier ++ .subscribe topicKey afterSequence batchSize wakeKey :: later)
    (∃ topic, hub.topics.get topicKey = some topic ∧ ∃ subscriber ∈ topic.subscribers,
      subscriber.id = (Hub.machine.run Hub.initial earlier).nextSubscriber ∧
      subscriber.start = afterSequence ∧ Served (hub.logs topicKey) topic subscriber) ∧
    ∃ rounds topic,
      (Hub.machine.run hub (.timer topicKey :: answers topicKey rounds)).topics.get topicKey =
        some topic ∧
      ∃ subscriber ∈ topic.subscribers,
        subscriber.id = (Hub.machine.run Hub.initial earlier).nextSubscriber ∧
        subscriber.received =
          (hub.logs topicKey).filter fun event => decide (afterSequence < event) := by
  intro hub
  have hinvariant : HubInvariant hub := HubInvariant.run _
  have hcarries : hub.Carries topicKey (Hub.machine.run Hub.initial earlier).nextSubscriber
      afterSequence [] := by
    have hsubscribed := subscribe_carries _ hopen topicKey afterSequence batchSize wakeKey
    have hrun : hub = Hub.machine.run
        ((Hub.machine.run Hub.initial earlier).subscribe topicKey afterSequence batchSize wakeKey)
        later := Hub.machine.run_append _ _ _
    exact hrun ▸ hsubscribed.run later hstays
  have hstillOpen : hub.closed = false := by
    cases hclosed : hub.closed with
    | false => rfl
    | true =>
      obtain ⟨topic, hget, -⟩ := hcarries
      have hnone : hub.topics = OrderedMap.empty := run_closed _ hclosed
      rw [hnone] at hget
      simp at hget
  constructor
  · obtain ⟨topic, hget, subscriber, hmem, hid, hstart, -⟩ := hcarries
    exact ⟨topic, hget, subscriber, hmem, hid, hstart,
      (hinvariant.topics topicKey topic hget).served (hinvariant.logs topicKey) hmem⟩
  · obtain ⟨rounds, topic, hget, hpoll, hfailed, hreached⟩ :=
      exists_rest_after_timer hinvariant hstillOpen hcarries
    have hdrained := hcarries.run (.timer topicKey :: answers topicKey rounds) (by
      intro input hmem
      rcases List.mem_cons.mp hmem with rfl | hmem
      · trivial
      · exact answers_keep rounds input hmem)
    obtain ⟨_, hfound, subscriber, hmem, hid, hstart, -⟩ := hdrained
    obtain rfl := Option.mem_unique hget hfound
    have htopic : TopicInvariant (hub.logs topicKey) topic := by
      have hlogs : (Hub.machine.run hub (.timer topicKey :: answers topicKey rounds)).logs =
          hub.logs := (answers_logs rounds).trans (requestPoll_logs hub topicKey)
      exact hlogs ▸ (hinvariant.run_of _).topics topicKey topic hget
    refine ⟨rounds, topic, hget, subscriber, hmem, hid, ?_⟩
    rw [← hstart]
    exact htopic.rested hpoll hfailed hreached hmem

/-- Three logged events, of which a first subscriber has polled a batch of two. -/
def halfPolled : List HubInput :=
  [.append "session" 1, .append "session" 2, .append "session" 3,
    .subscribe "session" 0 2 none, .load "session", .resolve "session" Topic.keepAll]

theorem late_subscriber_served :
    ∃ rounds topic,
      (Hub.machine.run
        (Hub.machine.run Hub.initial (halfPolled ++ .subscribe "session" 1 2 none ::
          [.append "session" 4, .load "session", .unsubscribe "session" 0]))
        (.timer "session" :: answers "session" rounds)).topics.get "session" = some topic ∧
      ∃ subscriber ∈ topic.subscribers, subscriber.id = 1 ∧ subscriber.received = [2, 3, 4] :=
  (run_serves halfPolled [.append "session" 4, .load "session", .unsubscribe "session" 0]
    "session" 1 2 none (by decide) (by
      intro input hmem
      simp only [List.mem_cons, List.not_mem_nil, or_false] at hmem
      rcases hmem with rfl | rfl | rfl
      · trivial
      · trivial
      · exact fun _ => by decide)).2

end Hub

end OpenCowork.Streams
