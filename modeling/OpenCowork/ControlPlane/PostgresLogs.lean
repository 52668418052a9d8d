import OpenCowork.ControlPlane.Postgres
import OpenCowork.Foundation.Sorting

/-! # Session events in Postgres

What an insert makes of the log of a session, and how far an append gets.
-/

namespace OpenCowork.ControlPlane

open Foundation

namespace PostgresStore

variable {σ : Type} {context : StoreContext σ} {store : PostgresStore σ}
  {event : SessionEventRecord} {tenantId sessionId : String}

/-- Session events are found under their own primary keys. -/
def Keyed (store : PostgresStore σ) : Prop :=
  ∀ primaryKey event, store.sessionEvents.get primaryKey = some event →
    primaryKey = (event.tenantId, event.sessionId, event.eventId)

theorem mem_sessionLog (hkeyed : store.Keyed) :
    event ∈ store.sessionLog tenantId sessionId ↔
      store.sessionEvents.get (tenantId, sessionId, event.eventId) = some event := by
  rw [sessionLog, List.mem_insertionSort, List.mem_filter, OrderedMap.mem_values_iff]
  simp only [Bool.and_eq_true, decide_eq_true_eq]
  constructor
  · rintro ⟨⟨primaryKey, hget⟩, rfl, rfl⟩
    rwa [hkeyed primaryKey event hget] at hget
  · intro hget
    have hkey := hkeyed _ event hget
    simp only [Prod.mk.injEq] at hkey
    exact ⟨⟨_, hget⟩, hkey.1.symm, hkey.2.1.symm⟩

def withEvent (store : PostgresStore σ) (event : SessionEventRecord) : PostgresStore σ :=
  { store with
    sessionEvents := store.sessionEvents.set (event.tenantId, event.sessionId, event.eventId)
      event }

theorem withEvent_keyed (hkeyed : store.Keyed) (event : SessionEventRecord) :
    (store.withEvent event).Keyed := by
  intro primaryKey found hget
  rw [withEvent, OrderedMap.get_set] at hget
  split at hget
  next heq =>
    obtain rfl := Option.some.inj hget
    exact heq.symm
  · exact hkeyed primaryKey found hget

variable (hfree : store.sessionEvents.get (event.tenantId, event.sessionId, event.eventId) = none)
include hfree

theorem sessionLog_withEvent_other (hother : (event.tenantId, event.sessionId) ≠
      (tenantId, sessionId)) :
    (store.withEvent event).sessionLog tenantId sessionId =
      store.sessionLog tenantId sessionId := by
  have hfilter : (decide (event.tenantId = tenantId) && decide (event.sessionId = sessionId)) =
      false := by
    simpa [Prod.ext_iff] using hother
  rw [sessionLog, withEvent, OrderedMap.values_set_of_free event hfree, List.filter_append,
    List.filter_singleton, hfilter]
  simp [sessionLog]

theorem sessionLog_withEvent (hlast : ∀ earlier ∈ store.sessionLog event.tenantId event.sessionId,
      earlier.sequence ≤ event.sequence) :
    (store.withEvent event).sessionLog event.tenantId event.sessionId =
      store.sessionLog event.tenantId event.sessionId ++ [event] := by
  rw [sessionLog, withEvent, OrderedMap.values_set_of_free event hfree, List.filter_append,
    List.filter_singleton]
  simp only [decide_true, Bool.and_self]
  refine insertionSort_append_last _ fun earlier hmem => hlast earlier ?_
  rw [sessionLog, List.mem_insertionSort]
  exact hmem

omit hfree

theorem insertSessionEvent_taken {held : SessionEventRecord}
    (htaken : store.sessionEvents.get (event.tenantId, event.sessionId, event.eventId) =
      some held) :
    store.insertSessionEvent event = .error (duplicateKey "cloud_session_events_pkey") := by
  rw [insertSessionEvent, OrderedMap.insertNew_of_taken _ htaken]

theorem insertSessionEvent_free
    (hfree : store.sessionEvents.get (event.tenantId, event.sessionId, event.eventId) = none)
    (hlast : ∀ earlier ∈ store.sessionLog event.tenantId event.sessionId,
      earlier.sequence < event.sequence) :
    store.insertSessionEvent event = .ok (store.withEvent event) := by
  rw [insertSessionEvent, OrderedMap.insertNew_of_free _ hfree]
  dsimp only
  rw [if_neg]
  · rfl
  · intro hmem
    obtain ⟨earlier, hearlier, hsequence⟩ := List.mem_map.mp hmem
    exact absurd hsequence (Nat.ne_of_lt (hlast earlier hearlier))

inductive Recording (context : StoreContext σ) (store : PostgresStore σ) (row : SessionRow)
    (input : AppendEventInput) (now : Instant) :
    Transaction σ (SessionEventRecord × Bool) → Prop where
  | replayed {held : SessionEventRecord}
      (hname : presentText input.eventId = some held.eventId)
      (hget : store.sessionEvents.get (input.tenantId, input.sessionId, held.eventId) = some held)
      (htype : held.type = input.type)
      (hpayload : context.env.stableJson held.payload =
        context.env.stableJson (input.payload.getD Json.emptyObject)) :
      Recording context store row input now (.ok ((held, false), store))
  | reused {held : SessionEventRecord}
      (hname : presentText input.eventId = some held.eventId)
      (hget : store.sessionEvents.get (input.tenantId, input.sessionId, held.eventId) = some held)
      (hother : held.type ≠ input.type ∨ context.env.stableJson held.payload ≠
        context.env.stableJson (input.payload.getD Json.emptyObject)) :
      Recording context store row input now (.error (SessionState.eventReused held.eventId))
  | duplicate {held : SessionEventRecord} (hname : presentText input.eventId = none)
      (hget : store.sessionEvents.get (input.tenantId, input.sessionId,
        (row.eventOf input now).eventId) = some held) :
      Recording context store row input now
        (.error (duplicateKey "cloud_session_events_pkey"))
  | inserted
      (hfree : store.sessionEvents.get (input.tenantId, input.sessionId,
        (row.eventOf input now).eventId) = none) :
      Recording context store row input now
        (.ok ((row.eventOf input now, true),
          (store.incrementEventSequence input.tenantId input.sessionId
            (row.eventOf input now).createdAt).withEvent (row.eventOf input now)))

variable (context) in
/-- With a counter that no sequence has passed, an append inserts unless its id is taken. -/
theorem recordSessionEvent_recording (hkeyed : store.Keyed) (row : SessionRow)
    (input : AppendEventInput) (now : Instant)
    (hcounter : ∀ event ∈ store.sessionLog input.tenantId input.sessionId,
      event.sequence ≤ row.nextEventSequence) :
    Recording context store row input now (store.recordSessionEvent context row input now) := by
  unfold recordSessionEvent
  cases hheld : (presentText input.eventId).bind fun eventId =>
    store.sessionEvents.get (input.tenantId, input.sessionId, eventId) with
  | some held =>
    obtain ⟨eventId, hname, hget⟩ := Option.bind_eq_some_iff.mp hheld
    have hid : eventId = held.eventId := congrArg (·.2.2) (hkeyed _ held hget)
    subst hid
    dsimp only
    split
    next hother => exact .reused hname hget hother
    next hsame =>
      obtain ⟨htype, hpayload⟩ := not_or.mp hsame
      exact .replayed hname hget (not_not.mp htype) (not_not.mp hpayload)
  | none =>
    dsimp only
    cases htaken : store.sessionEvents.get (input.tenantId, input.sessionId,
      (row.eventOf input now).eventId) with
    | some held =>
      have hname : presentText input.eventId = none := by
        cases hpresent : presentText input.eventId with
        | none => rfl
        | some =>
          rw [hpresent, Option.bind_some] at hheld
          rw [SessionRow.eventOf, hpresent, Option.getD_some, hheld] at htaken
          simp at htaken
      have hinsert : (store.incrementEventSequence input.tenantId input.sessionId
          (row.eventOf input now).createdAt).insertSessionEvent (row.eventOf input now) =
            .error (duplicateKey "cloud_session_events_pkey") :=
        insertSessionEvent_taken htaken
      rw [hinsert]
      exact .duplicate hname htaken
    | none =>
      have hinsert : (store.incrementEventSequence input.tenantId input.sessionId
          (row.eventOf input now).createdAt).insertSessionEvent (row.eventOf input now) =
            .ok ((store.incrementEventSequence input.tenantId input.sessionId
              (row.eventOf input now).createdAt).withEvent (row.eventOf input now)) :=
        insertSessionEvent_free htaken fun earlier hearlier =>
          Nat.lt_succ_of_le (hcounter earlier hearlier)
      rw [hinsert]
      exact .inserted htaken

end PostgresStore

end OpenCowork.ControlPlane
