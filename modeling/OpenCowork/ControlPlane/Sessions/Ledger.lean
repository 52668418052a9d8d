import OpenCowork.ControlPlane.Sessions.Steps

/-! # The ledger of a session

Over a run of the sessions domain, the ledger of a session collects the tokens
issued for it, the checkpoint versions recorded for it and the ids of the
commands handed out from it, oldest first. An invariant that relates a ledger to
its session only has to survive the listed steps.
-/

namespace OpenCowork.ControlPlane

open Foundation

/-- One operation of a run, with the stores around it. -/
abbrev SessionMoment (σ : Type) := Moment (SessionsDomain σ) SessionRequest SessionAnswer

namespace SessionEffects

/-- Earlier effects followed by later ones. -/
def append (first rest : SessionEffects) : SessionEffects where
  issued := first.issued ++ rest.issued
  recorded := first.recorded ++ rest.recorded
  handed := first.handed ++ rest.handed

@[simp] theorem append_empty (effects : SessionEffects) : effects.append {} = effects := by
  simp [append]

end SessionEffects

namespace SessionMoment

variable {σ : Type}

def effectsAt (moment : SessionMoment σ) (sessionKey : String) : SessionEffects :=
  moment.input.operation.effectsAt sessionKey moment.output

end SessionMoment

def ledger {σ : Type} (sessionKey : String) (history : List (SessionMoment σ)) : SessionEffects :=
  history.foldl (fun effects moment => effects.append (SessionMoment.effectsAt moment sessionKey))
    {}

theorem ledger_snoc {σ : Type} (sessionKey : String) (history : List (SessionMoment σ))
    (moment : SessionMoment σ) :
    ledger sessionKey (history ++ [moment]) =
      (ledger sessionKey history).append (SessionMoment.effectsAt moment sessionKey) := by
  rw [ledger, List.foldl_append]
  rfl

namespace SessionsDomain

variable {σ : Type} (env : Environment) (host : SessionsHost σ) (sessionKey : String)
  (invariant : SessionEffects → SessionState → Prop)

/-- The ledger of a missing session is empty; that of a present one satisfies the
invariant. -/
def LedgerHolds (effects : SessionEffects) :
    Option SessionState → Prop
  | none => effects = {}
  | some session => invariant effects session

/-- A relation between a session and its ledger that holds of a new session and
survives every step holds after every run whose moments satisfy the guard. -/
theorem ledger_invariant_of (guard : SessionMoment σ → Prop)
    (invariant : SessionEffects → SessionState → Prop)
    (hnew : ∀ input createdAt, invariant {} (newSession input createdAt))
    (hstep : ∀ (effects : SessionEffects) (domain : SessionsDomain σ) (request : SessionRequest)
      (change : SessionChange) (before after : SessionState),
      invariant effects before → guard ((machine env host).moment domain request) →
      domain.sessions.get sessionKey = some before →
      (domain.perform env host request).2.sessions.get sessionKey = some after →
      request.operation.Causes change →
      (change = .unchanged ∨ ∀ other ∈ request.operation.sessionKey, other = sessionKey) →
      SessionStep sessionKey request.now change before after →
      invariant (effects.append change.effects) after)
    (neighbours : σ) (requests : List SessionRequest)
    (hguard : ∀ moment ∈ (machine env host).history (initial neighbours) requests, guard moment) :
    LedgerHolds invariant
      (ledger sessionKey ((machine env host).history (initial neighbours) requests))
      (((machine env host).run (initial neighbours) requests).sessions.get sessionKey) := by
  apply Machine.history_invariant_of (machine env host) guard
    (fun past domain => LedgerHolds invariant (ledger sessionKey past)
      (domain.sessions.get sessionKey)) ?_ (initial neighbours) rfl requests hguard
  intro past domain request hpast hmoment
  have hexplained := domain.perform_explained env host request sessionKey
  rw [ledger_snoc]
  change LedgerHolds invariant ((ledger sessionKey past).append
    (request.operation.effectsAt sessionKey (domain.perform env host request).1))
    ((domain.perform env host request).2.sessions.get sessionKey)
  generalize hbefore : domain.sessions.get sessionKey = before at hexplained hpast
  generalize hafter : (domain.perform env host request).2.sessions.get sessionKey = after
    at hexplained ⊢
  cases hexplained with
  | absent heffects =>
    rw [heffects, SessionEffects.append_empty]
    exact hpast
  | created input createdAt _ heffects =>
    rw [heffects, SessionEffects.append_empty]
    change invariant _ _
    rw [show ledger sessionKey past = {} from hpast]
    exact hnew input createdAt
  | changed change before after hchange hcauses heffects haddressed =>
    rw [heffects]
    exact hstep _ domain request change before after hpast hmoment hbefore hafter hcauses
      haddressed hchange

theorem ledger_invariant (hnew : ∀ input createdAt, invariant {} (newSession input createdAt))
    (hstep : ∀ (effects : SessionEffects) (now : Instant) (change : SessionChange)
      (before after : SessionState), invariant effects before →
      SessionStep sessionKey now change before after →
      invariant (effects.append change.effects) after)
    (neighbours : σ) (requests : List SessionRequest) :
    LedgerHolds invariant
      (ledger sessionKey ((machine env host).history (initial neighbours) requests))
      (((machine env host).run (initial neighbours) requests).sessions.get sessionKey) :=
  ledger_invariant_of env host sessionKey (fun _ => True) invariant hnew
    (fun effects _ request change before after hinvariant _ _ _ _ _ hchange =>
      hstep effects request.now change before after hinvariant hchange)
    neighbours requests (fun _ _ => trivial)

end SessionsDomain

end OpenCowork.ControlPlane
