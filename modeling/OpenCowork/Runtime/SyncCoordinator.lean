import OpenCowork.Foundation.JsObject
import OpenCowork.Foundation.Json
import OpenCowork.Foundation.Machine

/-! # The session sync coordinator

Calls for one session share a loop that syncs until no forced call has come in meanwhile. A turn
is one step of a promise: a sync settles, the loop goes on behind its `await`, the callback of
`finally` removes the loop's entry.
-/

namespace OpenCowork.Runtime

open OpenCowork.Foundation OrderedMap

structure SyncOptions where
  force : Bool
  /-- The other fields. -/
  fields : JsObject Json

structure Sync where
  sessionId : String
  started : Nat
  force : Bool
  fields : JsObject Json

structure SyncCall where
  time : Nat
  sessionId : String
  force : Bool
  running : Option Sync

/-- Where the loop stands: its sync runs, is settled, or the loop has ended with its result and
the callback of `finally` is still to come. -/
inductive SyncPhase where
  | running (sync : Sync)
  | settled (sync : Sync) (success : Bool)
  | returned (sync : Sync) (success : Bool)

namespace SyncPhase

def sync : SyncPhase → Sync
  | running sync => sync
  | settled sync _ => sync
  | returned sync _ => sync

def runningSync : SyncPhase → Option Sync
  | running sync => some sync
  | settled _ _ => none
  | returned _ _ => none

def ended : SyncPhase → Bool
  | running _ => false
  | settled _ _ => false
  | returned _ _ => true

end SyncPhase

/-- The pending object of a loop with the calls that hold its promise. -/
structure SyncLoop where
  sessionId : String
  queuedForce : Bool
  lastFields : Option (JsObject Json)
  phase : SyncPhase
  callers : List SyncCall

/-- `{ ...left, ...right }`. -/
def spread (left : Option (JsObject Json)) (right : JsObject Json) : JsObject Json :=
  (left.getD .empty).setAll right.ownEntries

def SyncLoop.joined (found : SyncLoop) (call : SyncCall) (options : Option SyncOptions) :
    SyncLoop :=
  { found with
    queuedForce := found.queuedForce || call.force
    lastFields := match options with
      | some options => some (spread found.lastFields options.fields)
      | none => found.lastFields
    callers := found.callers ++ [call] }

structure SyncAnswer where
  call : SyncCall
  sync : Sync
  success : Bool

structure SyncCoordinator where
  time : Nat
  inflight : OrderedMap String Nat
  loops : OrderedMap Nat SyncLoop
  calls : List SyncCall
  answers : List SyncAnswer

namespace SyncCoordinator

def empty : SyncCoordinator := ⟨0, .empty, .empty, [], []⟩

variable (coordinator : SyncCoordinator) (sessionId : String) (loopId : Nat) (found : SyncLoop)
  (options : Option SyncOptions)

/-- The loop that a call would share. -/
def existing : Option (Nat × SyncLoop) :=
  (coordinator.inflight.get sessionId).bind fun loopId =>
    (coordinator.loops.get loopId).map fun found => (loopId, found)

def join : SyncCoordinator :=
  let force := (options.map SyncOptions.force).getD false
  let call : SyncCall :=
    ⟨coordinator.time, found.sessionId, force, found.phase.runningSync⟩
  { coordinator with
    calls := coordinator.calls ++ [call]
    loops := coordinator.loops.set loopId (found.joined call options) }

def start : SyncCoordinator :=
  let force := (options.map SyncOptions.force).getD false
  let call : SyncCall := ⟨coordinator.time, sessionId, force, none⟩
  let fields := options.map SyncOptions.fields
  { coordinator with
    calls := coordinator.calls ++ [call]
    inflight := coordinator.inflight.set sessionId coordinator.time
    loops := coordinator.loops.set coordinator.time {
      sessionId
      queuedForce := false
      lastFields := fields
      phase := .running ⟨sessionId, coordinator.time, force, fields.getD .empty⟩
      callers := [call] } }

/-- A call of the coordinator's function. -/
def run : SyncCoordinator :=
  match coordinator.existing sessionId with
  | some (loopId, found) => coordinator.join loopId found options
  | none => coordinator.start sessionId options

def setPhase (phase : SyncPhase) : SyncCoordinator :=
  { coordinator with loops := coordinator.loops.set loopId { found with phase } }

def settle (success : Bool) : SyncCoordinator :=
  match coordinator.loops.get loopId with
  | some found =>
    match found.phase with
    | .running sync => coordinator.setPhase loopId found (.settled sync success)
    | _ => coordinator
  | none => coordinator

/-- The loop goes on behind `await sync(…)`. -/
def resume : SyncCoordinator :=
  match coordinator.loops.get loopId with
  | some found =>
    match found.phase with
    | .settled sync success =>
      if success && found.queuedForce then
        coordinator.setPhase loopId { found with queuedForce := false }
          (.running ⟨found.sessionId, coordinator.time, true, found.lastFields.getD .empty⟩)
      else coordinator.setPhase loopId found (.returned sync success)
    | _ => coordinator
  | none => coordinator

/-- The callback of `finally`, with which the promise of the calls settles. -/
def finish : SyncCoordinator :=
  match coordinator.loops.get loopId with
  | some found =>
    match found.phase with
    | .returned sync success => { coordinator with
        inflight := coordinator.inflight.erase found.sessionId
        loops := coordinator.loops.erase loopId
        answers := coordinator.answers ++ found.callers.map fun call => ⟨call, sync, success⟩ }
    | _ => coordinator
  | none => coordinator

end SyncCoordinator

inductive SyncTurn where
  | call (sessionId : String) (options : Option SyncOptions)
  | settle (loopId : Nat) (success : Bool)
  | resume (loopId : Nat)
  | finish (loopId : Nat)

def SyncTurn.isStep : SyncTurn → Bool
  | .call _ _ => false
  | _ => true

def SyncTurn.apply (coordinator : SyncCoordinator) : SyncTurn → SyncCoordinator
  | .call sessionId options => coordinator.run sessionId options
  | .settle loopId success => coordinator.settle loopId success
  | .resume loopId => coordinator.resume loopId
  | .finish loopId => coordinator.finish loopId

def syncCoordinator : Machine SyncCoordinator SyncTurn Unit where
  step coordinator turn := ((), { turn.apply coordinator with time := coordinator.time + 1 })

/-! ## What the calls are promised -/

/-- A forced call is answered by a forced sync that started no earlier, or by the failure of a sync
that was running when it came. -/
def SyncAnswer.Fair (answer : SyncAnswer) : Prop :=
  answer.call.force = true →
    (answer.sync.force = true ∧ answer.call.time ≤ answer.sync.started) ∨
      (answer.success = false ∧ answer.call.running = some answer.sync)

namespace SyncCoordinator

variable (coordinator : SyncCoordinator)

/-- The call waits in a loop, or has its answer. -/
def Holds (call : SyncCall) : Prop :=
  (∃ loopId found, coordinator.loops.get loopId = some found ∧ call ∈ found.callers) ∨
    ∃ answer ∈ coordinator.answers, answer.call = call

/-- Every answer is fair, no call is forgotten, the steps of the loops alone answer all that wait,
and at most one sync of a session runs. -/
structure Serves : Prop where
  fair : ∀ answer ∈ coordinator.answers, answer.Fair
  held : ∀ call ∈ coordinator.calls, coordinator.Holds call
  ends : ∀ loopId found, coordinator.loops.get loopId = some found →
    ∃ turns : List SyncTurn, (∀ turn ∈ turns, turn.isStep = true) ∧ ∀ call ∈ found.callers,
      ∃ answer ∈ (syncCoordinator.run coordinator turns).answers, answer.call = call
  single : ∀ first second firstLoop secondLoop,
    coordinator.loops.get first = some firstLoop → coordinator.loops.get second = some secondLoop →
    firstLoop.phase.runningSync.isSome → secondLoop.phase.runningSync.isSome →
    firstLoop.sessionId = secondLoop.sessionId → first = second

/-- A forced call joins a loop that will not look for forced calls again: its sync has failed, or
it has ended. -/
def ComesTooLate (sessionId : String) (options : Option SyncOptions) : Prop :=
  (options.map SyncOptions.force).getD false = true ∧
    ∃ loopId found, coordinator.existing sessionId = some (loopId, found) ∧
      ((∃ sync, found.phase = .settled sync false) ∨
        ∃ sync success, found.phase = .returned sync success)

end SyncCoordinator

def SyncTurn.TooLate (turn : SyncTurn) (coordinator : SyncCoordinator) : Prop :=
  ∃ sessionId options, turn = .call sessionId options ∧
    coordinator.ComesTooLate sessionId options

/-! ## The invariant -/

def SyncPhase.Promises (phase : SyncPhase) (queuedForce : Bool) (call : SyncCall) : Prop :=
  (phase.sync.force = true ∧ call.time ≤ phase.sync.started) ∨
    match phase with
    | .running sync => queuedForce = true ∧ call.running = some sync
    | .settled _ true => queuedForce = true
    | .settled sync false => call.running = some sync
    | .returned _ true => False
    | .returned sync false => call.running = some sync

namespace SyncCoordinator

variable (coordinator : SyncCoordinator)

structure Consistent : Prop where
  registered : ∀ loopId found, coordinator.loops.get loopId = some found →
    coordinator.inflight.get found.sessionId = some loopId
  alive : ∀ sessionId loopId, coordinator.inflight.get sessionId = some loopId →
    ∃ found, coordinator.loops.get loopId = some found ∧ found.sessionId = sessionId
  past : ∀ loopId found, coordinator.loops.get loopId = some found → loopId < coordinator.time
  callsPast : ∀ loopId found, coordinator.loops.get loopId = some found →
    ∀ call ∈ found.callers, call.time < coordinator.time
  promises : ∀ loopId found, coordinator.loops.get loopId = some found →
    ∀ call ∈ found.callers, call.force = true → found.phase.Promises found.queuedForce call
  fair : ∀ answer ∈ coordinator.answers, answer.Fair
  held : ∀ call ∈ coordinator.calls, coordinator.Holds call

variable {coordinator}
variable {loopId : Nat} {callers : List SyncCall} {found : SyncLoop}

theorem consistent_empty : empty.Consistent := by
  constructor <;> intros <;> simp_all [empty]

theorem Consistent.existing_eq_some (h : coordinator.Consistent) {sessionId : String}
    :
    coordinator.existing sessionId = some (loopId, found) ↔
      coordinator.loops.get loopId = some found ∧ found.sessionId = sessionId := by
  rw [existing, Option.bind_eq_some_iff]
  constructor
  · rintro ⟨held, hinflight, hloop⟩
    obtain ⟨_, hother, heq⟩ := Option.map_eq_some_iff.mp hloop
    obtain ⟨rfl, rfl⟩ := Prod.mk.inj heq
    obtain ⟨alive, halive, hsession⟩ := h.alive sessionId held hinflight
    rw [hother, Option.some_inj] at halive
    exact ⟨hother, halive ▸ hsession⟩
  · rintro ⟨hloop, rfl⟩
    exact ⟨loopId, h.registered loopId found hloop, by rw [hloop]; rfl⟩

/-- The loop is replaced by one of the same session; the rest of the state stays, but for the
calls. -/
theorem Consistent.update (h : coordinator.Consistent) {other : SyncCoordinator}
    {changed : SyncLoop} (hloops : other.loops = coordinator.loops.set loopId changed)
    (hfound : coordinator.loops.get loopId = some found)
    (hsession : changed.sessionId = found.sessionId)
    (hinflight : other.inflight = coordinator.inflight)
    (hanswers : other.answers = coordinator.answers) (htime : other.time = coordinator.time + 1)
    (hcallers : ∀ call ∈ changed.callers, call.time < other.time)
    (hkept : ∀ call ∈ found.callers, call ∈ changed.callers)
    (hpromises : ∀ call ∈ changed.callers, call.force = true →
      changed.phase.Promises changed.queuedForce call)
    (hcalls : ∀ call ∈ other.calls, call ∈ coordinator.calls ∨ call ∈ changed.callers) :
    other.Consistent := by
  have hget (other' : Nat) : other.loops.get other' =
      if loopId = other' then some changed else coordinator.loops.get other' := by
    rw [hloops, get_set]
  have hcases {held : Nat} {heldLoop : SyncLoop} (hheld : other.loops.get held = some heldLoop) :
      (held = loopId ∧ heldLoop = changed) ∨ coordinator.loops.get held = some heldLoop := by
    rw [hget] at hheld
    split at hheld
    next heq => exact .inl ⟨heq.symm, (Option.some_inj.mp hheld).symm⟩
    · exact .inr hheld
  refine ⟨?_, ?_, ?_, ?_, ?_, hanswers ▸ h.fair, ?_⟩
  · intro held heldLoop hheld
    rw [hinflight]
    rcases hcases hheld with ⟨rfl, rfl⟩ | hheld
    · exact hsession ▸ h.registered _ _ hfound
    · exact h.registered _ _ hheld
  · intro sessionId held hheld
    rw [hinflight] at hheld
    obtain ⟨heldLoop, hheldLoop, hsame⟩ := h.alive sessionId held hheld
    rw [hget]
    split
    next heq =>
      rw [← heq, hfound, Option.some_inj] at hheldLoop
      exact ⟨changed, rfl, hsession.trans (hheldLoop ▸ hsame)⟩
    · exact ⟨heldLoop, hheldLoop, hsame⟩
  · intro held heldLoop hheld
    rw [htime]
    rcases hcases hheld with ⟨rfl, -⟩ | hheld
    · exact Nat.lt_succ_of_lt (h.past _ _ hfound)
    · exact Nat.lt_succ_of_lt (h.past _ _ hheld)
  · intro held heldLoop hheld
    rcases hcases hheld with ⟨-, rfl⟩ | hheld
    · exact hcallers
    · intro call hcall
      rw [htime]
      exact Nat.lt_succ_of_lt (h.callsPast _ _ hheld call hcall)
  · intro held heldLoop hheld
    rcases hcases hheld with ⟨-, rfl⟩ | hheld
    · exact hpromises
    · exact h.promises _ _ hheld
  · intro call hcall
    rcases hcalls call hcall with hcall | hcall
    · rcases h.held call hcall with ⟨held, heldLoop, hheld, hmem⟩ | hanswer
      · by_cases heq : loopId = held
        · subst heq
          rw [hfound, Option.some_inj] at hheld
          subst hheld
          exact .inl ⟨loopId, changed, by rw [hget, if_pos rfl], hkept call hmem⟩
        · exact .inl ⟨held, heldLoop, by rw [hget, if_neg heq]; exact hheld, hmem⟩
      · exact .inr (hanswers ▸ hanswer)
    · exact .inl ⟨loopId, changed, by rw [hget, if_pos rfl], hcall⟩

/-! ## Turns keep it -/

def after (coordinator : SyncCoordinator) (turn : SyncTurn) : SyncCoordinator :=
  { turn.apply coordinator with time := coordinator.time + 1 }

section

variable (h : coordinator.Consistent) {loopId : Nat}
include h

theorem Consistent.wait :
    ({ coordinator with time := coordinator.time + 1 } : SyncCoordinator).Consistent :=
  { h with
    past := fun loopId found hfound => Nat.lt_succ_of_lt (h.past loopId found hfound)
    callsPast := fun loopId found hfound call hcall =>
      Nat.lt_succ_of_lt (h.callsPast loopId found hfound call hcall) }

theorem Consistent.join {found : SyncLoop} {options : Option SyncOptions}
    (hfound : coordinator.loops.get loopId = some found)
    (hintime : ¬ coordinator.ComesTooLate found.sessionId options) :
    ({ coordinator.join loopId found options with time := coordinator.time + 1 } :
      SyncCoordinator).Consistent := by
  have hloops : (coordinator.join loopId found options).loops = coordinator.loops.set loopId
      (found.joined ⟨coordinator.time, found.sessionId, (options.map SyncOptions.force).getD false,
        found.phase.runningSync⟩ options) := rfl
  refine h.update hloops hfound rfl rfl rfl rfl ?_ (fun _ hcall => List.mem_append_left _ hcall)
    ?_ ?_
  · intro call hcall
    rcases List.mem_append.mp hcall with hcall | hcall
    · exact Nat.lt_succ_of_lt (h.callsPast loopId found hfound call hcall)
    · rw [List.mem_singleton.mp hcall]
      exact Nat.lt_succ_self _
  · intro call hcall hforce
    rcases List.mem_append.mp hcall with hcall | hcall
    · refine (h.promises loopId found hfound call hcall hforce).imp id fun hpromise => ?_
      -- the flag is only ever set
      dsimp only [SyncLoop.joined]
      cases hphase : found.phase with
      | running =>
        rw [hphase] at hpromise
        exact ⟨by rw [hpromise.1]; rfl, hpromise.2⟩
      | settled _ success =>
        rw [hphase] at hpromise
        cases success with
        | true =>
          dsimp only at hpromise ⊢
          rw [hpromise]
          rfl
        | false => exact hpromise
      | returned _ success =>
        rw [hphase] at hpromise
        cases success <;> exact hpromise
    · have hexisting : coordinator.existing found.sessionId = some (loopId, found) :=
        h.existing_eq_some.mpr ⟨hfound, rfl⟩
      rw [List.mem_singleton.mp hcall] at hforce ⊢
      dsimp only [SyncLoop.joined] at hforce ⊢
      right
      cases hphase : found.phase with
      | running =>
        refine ⟨?_, rfl⟩
        rw [hforce, Bool.or_true]
      | settled sync success =>
        cases success with
        | true => rw [hforce, Bool.or_true]
        | false => exact absurd ⟨hforce, loopId, found, hexisting, .inl ⟨sync, hphase⟩⟩ hintime
      | returned sync success =>
        exact absurd ⟨hforce, loopId, found, hexisting, .inr ⟨sync, success, hphase⟩⟩ hintime
  · intro call hcall
    rcases List.mem_append.mp hcall with hcall | hcall
    · exact .inl hcall
    · exact .inr (List.mem_append_right _ hcall)

theorem Consistent.start {sessionId : String}
    (options : Option SyncOptions) (hnone : coordinator.existing sessionId = none) :
    ({ coordinator.start sessionId options with time := coordinator.time + 1 } :
      SyncCoordinator).Consistent := by
  have hunused : coordinator.inflight.get sessionId = none := by
    rw [Option.eq_none_iff_forall_ne_some]
    intro loopId hinflight
    obtain ⟨found, hfound, hsession⟩ := h.alive sessionId loopId hinflight
    rw [h.existing_eq_some.mpr ⟨hfound, hsession⟩] at hnone
    cases hnone
  have hfresh {loopId : Nat} {found : SyncLoop}
      (hfound : coordinator.loops.get loopId = some found) :
      coordinator.time ≠ loopId ∧ sessionId ≠ found.sessionId := by
    refine ⟨(Nat.ne_of_gt (h.past loopId found hfound)), ?_⟩
    rintro rfl
    rw [h.registered loopId found hfound] at hunused
    cases hunused
  have hcases {loopId : Nat} {found : SyncLoop}
      (hfound : (coordinator.start sessionId options).loops.get loopId = some found) :
      (loopId = coordinator.time ∧ found.sessionId = sessionId ∧
        found.phase = .running ⟨sessionId, coordinator.time,
          (options.map SyncOptions.force).getD false,
          (options.map SyncOptions.fields).getD .empty⟩ ∧
        found.callers = [⟨coordinator.time, sessionId,
          (options.map SyncOptions.force).getD false, none⟩]) ∨
      coordinator.loops.get loopId = some found := by
    rw [SyncCoordinator.start, get_set] at hfound
    split at hfound
    next heq =>
      rw [← Option.some_inj.mp hfound]
      exact .inl ⟨heq.symm, rfl, rfl, rfl⟩
    · exact .inr hfound
  refine ⟨?_, ?_, ?_, ?_, ?_, h.fair, ?_⟩
  · intro loopId found hfound
    show ((coordinator.inflight.set sessionId coordinator.time).get found.sessionId) = _
    rcases hcases hfound with ⟨rfl, rfl, -, -⟩ | hfound
    · exact get_set_self _ _ _
    · rw [get_set_of_ne _ _ (hfresh hfound).2]
      exact h.registered loopId found hfound
  · intro other loopId hinflight
    show ∃ found, ((coordinator.loops.set coordinator.time _).get loopId) = some found ∧ _
    replace hinflight : (coordinator.inflight.set sessionId coordinator.time).get other =
      some loopId := hinflight
    rw [get_set] at hinflight
    split at hinflight
    next heq =>
      obtain rfl := Option.some_inj.mp hinflight
      exact ⟨_, get_set_self _ _ _, heq⟩
    · obtain ⟨found, hfound, hsession⟩ := h.alive other loopId hinflight
      exact ⟨found, by rw [get_set_of_ne _ _ (hfresh hfound).1]; exact hfound, hsession⟩
  · intro loopId found hfound
    rcases hcases hfound with ⟨rfl, -⟩ | hfound
    · exact Nat.lt_succ_self _
    · exact Nat.lt_succ_of_lt (h.past loopId found hfound)
  · intro loopId found hfound call hcall
    rcases hcases hfound with ⟨-, -, -, hcallers⟩ | hfound
    · rw [hcallers, List.mem_singleton] at hcall
      rw [hcall]
      exact Nat.lt_succ_self _
    · exact Nat.lt_succ_of_lt (h.callsPast loopId found hfound call hcall)
  · intro loopId found hfound call hcall hforce
    rcases hcases hfound with ⟨-, -, hphase, hcallers⟩ | hfound
    · rw [hcallers, List.mem_singleton] at hcall
      rw [hcall] at hforce ⊢
      rw [hphase]
      exact .inl ⟨hforce, le_rfl⟩
    · exact h.promises loopId found hfound call hcall hforce
  · intro call hcall
    rcases List.mem_append.mp hcall with hcall | hcall
    · refine (h.held call hcall).imp ?_ id
      rintro ⟨loopId, found, hfound, hmem⟩
      refine ⟨loopId, found, ?_, hmem⟩
      show (coordinator.loops.set coordinator.time _).get loopId = _
      rw [get_set_of_ne _ _ (hfresh hfound).1]
      exact hfound
    · exact .inl ⟨coordinator.time, _, get_set_self _ _ _, hcall⟩

theorem Consistent.setPhase {found changed : SyncLoop} {phase : SyncPhase}
    (hfound : coordinator.loops.get loopId = some found)
    (hsession : changed.sessionId = found.sessionId) (hcallers : changed.callers = found.callers)
    (hpromises : ∀ call ∈ found.callers, call.force = true →
      phase.Promises changed.queuedForce call) :
    ({ coordinator.setPhase loopId changed phase with time := coordinator.time + 1 } :
      SyncCoordinator).Consistent := by
  have hloops : (coordinator.setPhase loopId changed phase).loops =
      coordinator.loops.set loopId { changed with phase } := rfl
  refine h.update hloops hfound hsession rfl rfl rfl ?_ (fun call hcall => hcallers ▸ hcall) ?_
    (fun _ => .inl)
  · intro call hcall
    exact Nat.lt_succ_of_lt (h.callsPast loopId found hfound call (hcallers ▸ hcall))
  · intro call hcall
    exact hpromises call (hcallers ▸ hcall)

theorem Consistent.settle (loopId : Nat) (success : Bool) :
    (coordinator.after (.settle loopId success)).Consistent := by
  rw [after, SyncTurn.apply, SyncCoordinator.settle]
  split
  next found hfound =>
    split
    next hphase =>
      refine h.setPhase hfound rfl rfl fun call hcall hforce => ?_
      have hpromise := h.promises loopId found hfound call hcall hforce
      rw [hphase] at hpromise
      refine hpromise.imp id fun hqueued => ?_
      cases success with
      | true => exact hqueued.1
      | false => exact hqueued.2
    · exact h.wait
  · exact h.wait

theorem Consistent.resume (loopId : Nat) : (coordinator.after (.resume loopId)).Consistent := by
  rw [after, SyncTurn.apply, SyncCoordinator.resume]
  split
  next found hfound =>
    split
    next sync success hphase =>
      split
      · -- the next sync is forced and starts after every call that waits
        refine h.setPhase hfound rfl rfl fun call hcall _ => .inl ⟨rfl, ?_⟩
        exact Nat.le_of_lt (h.callsPast loopId found hfound call hcall)
      next hends =>
        refine h.setPhase hfound rfl rfl fun call hcall hforce => ?_
        have hpromise := h.promises loopId found hfound call hcall hforce
        rw [hphase] at hpromise
        refine hpromise.imp id fun hqueued => ?_
        cases success with
        | true => exact hends hqueued
        | false => exact hqueued
    · exact h.wait
  · exact h.wait

theorem Consistent.finish (loopId : Nat) : (coordinator.after (.finish loopId)).Consistent := by
  rw [after, SyncTurn.apply, SyncCoordinator.finish]
  split
  next found hfound =>
    split
    next sync success hphase =>
      have hothers {other : Nat} {otherLoop : SyncLoop}
          (hother : (coordinator.loops.erase loopId).get other = some otherLoop) :
          coordinator.loops.get other = some otherLoop ∧ loopId ≠ other := by
        have hne : loopId ≠ other := by
          rintro rfl
          rw [get_erase_self] at hother
          cases hother
        rw [get_erase_of_ne _ hne] at hother
        exact ⟨hother, hne⟩
      refine ⟨?_, ?_, ?_, ?_, ?_, ?_, ?_⟩
      · intro other otherLoop hother
        obtain ⟨hother, hne⟩ := hothers hother
        have hregistered := h.registered other otherLoop hother
        show (coordinator.inflight.erase found.sessionId).get _ = _
        rw [get_erase_of_ne, hregistered]
        intro hsame
        rw [← hsame, h.registered loopId found hfound, Option.some_inj] at hregistered
        exact hne hregistered
      · intro sessionId other hinflight
        replace hinflight : (coordinator.inflight.erase found.sessionId).get sessionId =
          some other := hinflight
        have hne : found.sessionId ≠ sessionId := by
          rintro rfl
          rw [get_erase_self] at hinflight
          cases hinflight
        rw [get_erase_of_ne _ hne] at hinflight
        obtain ⟨otherLoop, hother, hsession⟩ := h.alive sessionId other hinflight
        refine ⟨otherLoop, ?_, hsession⟩
        show (coordinator.loops.erase loopId).get other = _
        rw [get_erase_of_ne, hother]
        rintro rfl
        rw [hfound, Option.some_inj] at hother
        exact hne (hother ▸ hsession)
      · exact fun other otherLoop hother =>
          Nat.lt_succ_of_lt (h.past other otherLoop (hothers hother).1)
      · exact fun other otherLoop hother call hcall =>
          Nat.lt_succ_of_lt (h.callsPast other otherLoop (hothers hother).1 call hcall)
      · exact fun other otherLoop hother => h.promises other otherLoop (hothers hother).1
      · intro answer hanswer
        rcases List.mem_append.mp hanswer with hanswer | hanswer
        · exact h.fair answer hanswer
        · obtain ⟨call, hcall, rfl⟩ := List.mem_map.mp hanswer
          intro hforce
          have hpromise := h.promises loopId found hfound call hcall hforce
          rw [hphase] at hpromise
          refine hpromise.imp id fun hlate => ?_
          cases success with
          | true => exact hlate.elim
          | false => exact ⟨rfl, hlate⟩
      · intro call hcall
        rcases h.held call hcall with ⟨other, otherLoop, hother, hmem⟩ | ⟨answer, hmem, heq⟩
        · by_cases hsame : loopId = other
          · subst hsame
            rw [hfound, Option.some_inj] at hother
            subst hother
            exact .inr ⟨⟨call, sync, success⟩,
              List.mem_append_right _ (List.mem_map_of_mem hmem), rfl⟩
          · refine .inl ⟨other, otherLoop, ?_, hmem⟩
            show (coordinator.loops.erase loopId).get other = _
            rw [get_erase_of_ne _ hsame, hother]
        · exact .inr ⟨answer, List.mem_append_left _ hmem, heq⟩
    · exact h.wait
  · exact h.wait

theorem Consistent.turn {turn : SyncTurn}
    (hintime : ¬ turn.TooLate coordinator) : (coordinator.after turn).Consistent := by
  cases turn with
  | call _ options =>
    rw [after, SyncTurn.apply, run]
    split
    next hexisting =>
      obtain ⟨hfound, rfl⟩ := h.existing_eq_some.mp hexisting
      exact h.join hfound fun hlate => hintime ⟨_, _, rfl, hlate⟩
    next hnone => exact h.start options hnone
  | settle => exact h.settle _ _
  | resume loopId => exact h.resume loopId
  | finish loopId => exact h.finish loopId

end

/-! ## The loops end by themselves -/

def stepsToEnd (loopId : Nat) : List SyncTurn :=
  [.settle loopId true, .resume loopId, .settle loopId true, .resume loopId, .finish loopId]

def Stands (coordinator : SyncCoordinator) (loopId : Nat) (callers : List SyncCall)
    (found : SyncLoop) : Prop :=
  coordinator.loops.get loopId = some found ∧ found.callers = callers

variable (h : coordinator.Stands loopId callers found)
include h

theorem stands_settle :
    ∃ later, (coordinator.after (.settle loopId true)).Stands loopId callers later ∧
      later.queuedForce = found.queuedForce ∧ later.phase.runningSync = none ∧
      (found.phase.ended = true → later.phase.ended = true) := by
  obtain ⟨hfound, rfl⟩ := h
  have hafter : coordinator.after (.settle loopId true) =
      { coordinator.settle loopId true with time := coordinator.time + 1 } := rfl
  rw [hafter, SyncCoordinator.settle, hfound]
  dsimp only
  cases hphase : found.phase with
  | running sync =>
    exact ⟨{ found with phase := .settled sync true }, ⟨get_set_self _ _ _, rfl⟩, rfl,
      rfl, Bool.noConfusion⟩
  | settled =>
    exact ⟨found, ⟨hfound, rfl⟩, rfl, congrArg SyncPhase.runningSync hphase, Bool.noConfusion⟩
  | returned =>
    exact ⟨found, ⟨hfound, rfl⟩, rfl, congrArg SyncPhase.runningSync hphase,
      fun _ => congrArg SyncPhase.ended hphase⟩

theorem stands_resume (hphase : found.phase.runningSync = none) :
    ∃ later, (coordinator.after (.resume loopId)).Stands loopId callers later ∧
      (later.phase.ended = true ∨
        found.queuedForce = true ∧ later.queuedForce = false ∧ found.phase.ended = false) := by
  obtain ⟨hfound, rfl⟩ := h
  have hafter : coordinator.after (.resume loopId) =
      { coordinator.resume loopId with time := coordinator.time + 1 } := rfl
  rw [hafter, SyncCoordinator.resume, hfound]
  dsimp only
  cases hcase : found.phase with
  | running =>
    rw [hcase] at hphase
    cases hphase
  | settled =>
    dsimp only
    split
    next hagain =>
      exact ⟨_, ⟨get_set_self _ _ _, rfl⟩, .inr ⟨(Bool.and_eq_true_iff.mp hagain).2, rfl, rfl⟩⟩
    · exact ⟨_, ⟨get_set_self _ _ _, rfl⟩, .inl rfl⟩
  | returned => exact ⟨found, ⟨hfound, rfl⟩, .inl (congrArg SyncPhase.ended hcase)⟩

theorem answered_finish (hphase : found.phase.ended = true) (call : SyncCall)
    (hcall : call ∈ callers) :
    ∃ answer ∈ (coordinator.after (.finish loopId)).answers, answer.call = call := by
  obtain ⟨hfound, rfl⟩ := h
  have hafter : coordinator.after (.finish loopId) =
      { coordinator.finish loopId with time := coordinator.time + 1 } := rfl
  rw [hafter, SyncCoordinator.finish, hfound]
  dsimp only
  cases hcase : found.phase with
  | running | settled =>
    rw [hcase] at hphase
    cases hphase
  | returned sync success =>
    exact ⟨⟨call, sync, success⟩, List.mem_append_right _ (List.mem_map_of_mem hcall), rfl⟩

omit h

theorem answered_stepsToEnd (hfound : coordinator.loops.get loopId = some found) (call : SyncCall)
    (hcall : call ∈ found.callers) :
    ∃ answer ∈ (syncCoordinator.run coordinator (stepsToEnd loopId)).answers,
      answer.call = call := by
  obtain ⟨first, hfirst, -, hstill, -⟩ := stands_settle ⟨hfound, rfl⟩
  obtain ⟨_, hsecond, hround⟩ := stands_resume hfirst hstill
  obtain ⟨_, hthird, hflag, hstill, hended⟩ := stands_settle hsecond
  obtain ⟨_, hlast, hlastRound⟩ := stands_resume hthird hstill
  refine answered_finish hlast ?_ call hcall
  -- after the first round the loop has ended, or its flag is cleared
  rcases hlastRound with hlastEnded | ⟨hagain, -, hopen⟩
  · exact hlastEnded
  · rcases hround with hsecondEnded | ⟨-, hcleared, -⟩
    · rw [hended hsecondEnded] at hopen
      cases hopen
    · rw [hflag, hcleared] at hagain
      cases hagain

theorem Consistent.serves (h : coordinator.Consistent) : coordinator.Serves where
  fair := h.fair
  held := h.held
  ends loopId found hfound := by
    refine ⟨stepsToEnd loopId, ?_, fun call hcall => answered_stepsToEnd hfound call hcall⟩
    intro _ hturn
    simp only [stepsToEnd, List.mem_cons, List.not_mem_nil, or_false] at hturn
    rcases hturn with rfl | rfl | rfl | rfl | rfl <;> rfl
  single first second firstLoop secondLoop hfirst hsecond _ _ hsame := by
    have hregistered := h.registered first firstLoop hfirst
    rw [hsame, h.registered second secondLoop hsecond, Option.some_inj] at hregistered
    exact hregistered.symm

end SyncCoordinator

theorem serves_run (turns : List SyncTurn)
    (hintime : ∀ moment ∈ syncCoordinator.history .empty turns,
      ¬ moment.input.TooLate moment.before) :
    (syncCoordinator.run .empty turns).Serves :=
  (syncCoordinator.history_invariant_of (fun moment => ¬ moment.input.TooLate moment.before)
    (fun _ coordinator => coordinator.Consistent)
    (fun _ _ _ h hintime => h.turn hintime) .empty SyncCoordinator.consistent_empty turns
    hintime).serves

/-! ## A forced call between two steps -/

/-- A sync succeeds, its loop ends, and a forced call comes before the callback of `finally`. -/
def lateCall : List SyncTurn :=
  [.call "session" none, .settle 0 true, .resume 0, .call "session" (some ⟨true, .empty⟩),
    .finish 0]

theorem lateCall_answered :
    (syncCoordinator.run .empty lateCall).answers.map (fun answer =>
      (answer.call.time, answer.call.force, answer.sync.started, answer.sync.force,
        answer.success)) = [(0, false, 0, false, true), (3, true, 0, false, true)] := by
  decide +kernel

end OpenCowork.Runtime
