import OpenCowork.Foundation.Machine
import OpenCowork.Foundation.OrderedMap
import OpenCowork.Foundation.Window

/-! # The replay hub

Subscribers of a topic share one poll loop over the topic's event log. A poll is
three turns of the event loop: it starts with the lowest cursor of its
subscribers, its read sees the log at some later point, and its result is
delivered in one turn. Everything else (subscriptions, appends, wake-ups, timers)
may happen between these turns.
-/

namespace OpenCowork.Streams

open Foundation

/-- A subscriber, with the cursor it started at and what its listener received. -/
structure Subscriber where
  (id start lastSequence : Nat)
  received : List Nat

/-- The answer of a bounded read, and the log that it saw. -/
structure ReadResult where
  (events seen : List Nat)

structure Poll where
  afterSequence : Nat
  read : Option ReadResult

/-- A topic polls while `poll` is present. The log as the last completed read saw
it and whether the last poll failed are kept for the statements. -/
structure Topic where
  subscribers : List Subscriber
  lastSequence : Nat
  poll : Option Poll
  pollRequested : Bool
  batchSize : Nat
  wakeKey : Option String
  reached : List Nat
  failed : Bool

structure Hub where
  topics : OrderedMap String Topic
  wakeIndex : OrderedMap String (List String)
  closed : Bool
  nextSubscriber : Nat
  logs : String → List Nat

namespace Topic

/-- The lowest cursor among the topic and its subscribers. -/
def replayAfterSequence (topic : Topic) : Nat :=
  topic.subscribers.foldl (fun sequence subscriber => min sequence subscriber.lastSequence)
    topic.lastSequence

/-- The first turn of `poll`. -/
def startPoll (topic : Topic) : Topic :=
  { topic with poll := some ⟨topic.replayAfterSequence, none⟩, pollRequested := false }

/-- A poll in flight is asked to run again; otherwise one starts. -/
def requestPoll (topic : Topic) : Topic :=
  match topic.poll with
  | some _ => { topic with pollRequested := true }
  | none => topic.startPoll

/-- The read of a topic: the first events after the cursor, at most `batchSize` of
them unless that is zero. -/
def loadEvents (batchSize : Nat) (log : List Nat) (afterSequence : Nat) : List Nat :=
  let events := log.filter fun sequence => decide (afterSequence < sequence)
  if batchSize = 0 then events else events.take batchSize

def hear (subscriber : Subscriber) (event : Nat) : Subscriber :=
  { subscriber with
    lastSequence := event
    received := subscriber.received ++ [event] }

/-- Call one listener, which may drop subscriptions while it runs. -/
def deliverTo (topic : Topic) (event id : Nat) (dropped : List Nat) : Topic :=
  { topic with
    subscribers := (topic.subscribers.map fun subscriber =>
      if subscriber.id = id then hear subscriber event else subscriber).filter fun subscriber =>
        decide (subscriber.id ∉ dropped) }

/-- The inner loop of the delivery: each subscriber that is still there. -/
def deliverEvent (afterSequence event : Nat) (react : Nat → Nat → List Nat) :
    List Nat → Topic → Topic
  | [], topic => topic
  | id :: rest, topic =>
    match topic.subscribers.find? (fun subscriber => decide (subscriber.id = id)) with
    | none => deliverEvent afterSequence event react rest topic
    | some subscriber =>
      if subscriber.lastSequence < afterSequence then
        deliverEvent afterSequence event react rest { topic with pollRequested := true }
      else if event ≤ subscriber.lastSequence then
        deliverEvent afterSequence event react rest topic
      else
        deliverEvent afterSequence event react rest
          (topic.deliverTo event id (react id event))

/-- The outer loop of the delivery. -/
def deliverEvents (afterSequence : Nat) (react : Nat → Nat → List Nat) :
    List Nat → Topic → Topic
  | [], topic => topic
  | event :: rest, topic =>
    if event ≤ afterSequence then deliverEvents afterSequence react rest topic
    else
      deliverEvents afterSequence react rest
        (deliverEvent afterSequence event react (topic.subscribers.map Subscriber.id)
          { topic with lastSequence := max topic.lastSequence event })

/-- The `finally` block of a poll on a topic that is still registered. -/
def finishPoll (topic : Topic) : Topic :=
  if topic.pollRequested && !topic.subscribers.isEmpty then
    { topic with poll := none, pollRequested := false }.requestPoll
  else { topic with poll := none }

/-- The delivery turn of a poll whose read answered. -/
def resolvePoll (topic : Topic) (afterSequence : Nat) (read : ReadResult)
    (react : Nat → Nat → List Nat) : Topic :=
  deliverEvents afterSequence react read.events
    { topic with
      pollRequested := topic.pollRequested ||
        (decide (0 < topic.batchSize) && decide (topic.batchSize ≤ read.events.length))
      reached := read.seen
      failed := false }

end Topic

namespace Hub

/-- Apply a function to a registered topic. -/
def updateTopic (hub : Hub) (topicKey : String) (update : Topic → Topic) : Hub :=
  match hub.topics.get topicKey with
  | none => hub
  | some topic => { hub with topics := hub.topics.set topicKey (update topic) }

def requestPoll (hub : Hub) (topicKey : String) : Hub :=
  if hub.closed then hub else hub.updateTopic topicKey Topic.requestPoll

def indexWakeKey (index : OrderedMap String (List String)) (wakeKey : Option String)
    (topicKey : String) : OrderedMap String (List String) :=
  match wakeKey with
  | none => index
  | some wakeKey =>
    let bucket := (index.get wakeKey).getD []
    index.set wakeKey (if topicKey ∈ bucket then bucket else bucket ++ [topicKey])

def unindexWakeKey (index : OrderedMap String (List String)) (wakeKey : Option String)
    (topicKey : String) : OrderedMap String (List String) :=
  match wakeKey with
  | none => index
  | some wakeKey =>
    match index.get wakeKey with
    | none => index
    | some bucket =>
      let rest := bucket.filter fun entry => decide (entry ≠ topicKey)
      if rest = [] then index.erase wakeKey else index.set wakeKey rest

def newTopic (afterSequence batchSize : Nat) (wakeKey : Option String) : Topic where
  subscribers := []
  lastSequence := afterSequence
  poll := none
  pollRequested := false
  batchSize := batchSize
  wakeKey := wakeKey
  reached := []
  failed := false

def addSubscriber (topic : Topic) (id afterSequence : Nat) : Topic :=
  { topic with
    subscribers := topic.subscribers ++ [⟨id, afterSequence, afterSequence, []⟩] }

def subscribe (hub : Hub) (topicKey : String) (afterSequence batchSize : Nat)
    (wakeKey : Option String) : Hub :=
  if hub.closed then hub
  else
    let subscribed : Hub :=
      match hub.topics.get topicKey with
      | some topic =>
        { hub with
          topics := hub.topics.set topicKey (addSubscriber topic hub.nextSubscriber afterSequence)
          nextSubscriber := hub.nextSubscriber + 1 }
      | none =>
        { hub with
          topics := hub.topics.set topicKey
            (addSubscriber (newTopic afterSequence batchSize wakeKey) hub.nextSubscriber
              afterSequence)
          wakeIndex := indexWakeKey hub.wakeIndex wakeKey topicKey
          nextSubscriber := hub.nextSubscriber + 1 }
    subscribed.requestPoll topicKey

/-- A topic without subscribers is forgotten. -/
def settleTopic (hub : Hub) (topicKey : String) (topic : Topic) : Hub :=
  if topic.subscribers = [] then
    { hub with
      topics := hub.topics.erase topicKey
      wakeIndex := unindexWakeKey hub.wakeIndex topic.wakeKey topicKey }
  else { hub with topics := hub.topics.set topicKey topic }

/-- The unsubscribe function that `subscribe` answered. -/
def unsubscribe (hub : Hub) (topicKey : String) (id : Nat) : Hub :=
  match hub.topics.get topicKey with
  | none => hub
  | some topic =>
    hub.settleTopic topicKey
      { topic with
        subscribers := topic.subscribers.filter fun subscriber => decide (subscriber.id ≠ id) }

def wake (hub : Hub) (wakeKey : String) : Hub :=
  if hub.closed then hub
  else ((hub.wakeIndex.get wakeKey).getD []).foldl requestPoll hub

/-- The read of a poll in flight sees the log as it is now. -/
def load (hub : Hub) (topicKey : String) : Hub :=
  hub.updateTopic topicKey fun topic =>
    match topic.poll with
    | some ⟨afterSequence, none⟩ =>
      { topic with
        poll := some ⟨afterSequence, some
          ⟨Topic.loadEvents topic.batchSize (hub.logs topicKey) afterSequence,
            hub.logs topicKey⟩⟩ }
    | _ => topic

/-- The read answered: deliver, then finish the poll unless the listeners dropped
the last subscription. -/
def resolve (hub : Hub) (topicKey : String) (react : Nat → Nat → List Nat) : Hub :=
  match hub.topics.get topicKey with
  | none => hub
  | some topic =>
    match topic.poll with
    | some ⟨afterSequence, some read⟩ =>
      let delivered := topic.resolvePoll afterSequence read react
      hub.settleTopic topicKey
        (if delivered.subscribers = [] then delivered else delivered.finishPoll)
    | _ => hub

def fail (hub : Hub) (topicKey : String) : Hub :=
  hub.updateTopic topicKey fun topic =>
    match topic.poll with
    | some _ => { topic with failed := true }.finishPoll
    | none => topic

def close (hub : Hub) : Hub :=
  { hub with closed := true, topics := OrderedMap.empty, wakeIndex := OrderedMap.empty }

def append (hub : Hub) (topicKey : String) (sequence : Nat) : Hub :=
  if (hub.logs topicKey).all fun earlier => decide (earlier < sequence) then
    { hub with
      logs := fun other =>
        if other = topicKey then hub.logs topicKey ++ [sequence] else hub.logs other }
  else hub

def initial : Hub where
  topics := OrderedMap.empty
  wakeIndex := OrderedMap.empty
  closed := false
  nextSubscriber := 0
  logs := fun _ => []

end Hub

/-- One turn of the event loop. Listeners answer a delivery with the subscriptions
they drop. -/
inductive HubInput where
  | append (topicKey : String) (sequence : Nat)
  | subscribe (topicKey : String) (afterSequence batchSize : Nat) (wakeKey : Option String)
  | unsubscribe (topicKey : String) (id : Nat)
  | timer (topicKey : String)
  | wake (wakeKey : String)
  | load (topicKey : String)
  | resolve (topicKey : String) (react : Nat → Nat → List Nat)
  | fail (topicKey : String)
  | close

namespace Hub

def perform (hub : Hub) : HubInput → Hub
  | .append topicKey sequence => hub.append topicKey sequence
  | .subscribe topicKey afterSequence batchSize wakeKey =>
    hub.subscribe topicKey afterSequence batchSize wakeKey
  | .unsubscribe topicKey id => hub.unsubscribe topicKey id
  | .timer topicKey => hub.requestPoll topicKey
  | .wake wakeKey => hub.wake wakeKey
  | .load topicKey => hub.load topicKey
  | .resolve topicKey react => hub.resolve topicKey react
  | .fail topicKey => hub.fail topicKey
  | .close => hub.close

def machine : Machine Hub HubInput Unit where
  step hub input := ((), hub.perform input)

end Hub

end OpenCowork.Streams
