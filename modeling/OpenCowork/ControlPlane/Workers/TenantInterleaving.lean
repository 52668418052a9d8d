import Mathlib.Data.List.Induction
import Mathlib.Data.List.Perm.Subperm
import OpenCowork.Foundation.OrderedMap

/-! # Interleaving tenants

A worker takes the sessions of a batch in turns, one of each tenant in every round.
-/

namespace OpenCowork.ControlPlane

open Foundation

variable {Session : Type} (tenantId : Session → String)

def ofTenant (tenant : String) (sessions : List Session) : List Session :=
  sessions.filter fun session => tenantId session = tenant

/-- The sessions of each tenant, the tenants in the order in which they come. -/
def tenantQueues (sessions : List Session) : OrderedMap String (List Session) :=
  sessions.foldl (fun queues session =>
    match queues.get (tenantId session) with
    | some queue => queues.set (tenantId session) (queue ++ [session])
    | none => queues.set (tenantId session) [session]) .empty

/-- One pass over the queues. -/
def interleaveRound (lists : List (List Session)) (index : Nat) : List Session :=
  lists.filterMap fun queue => queue[index]?

/-- The outer loop from the index on, at most so many rounds of it. -/
def interleaveFrom (total : Nat) (lists : List (List Session)) :
    Nat → Nat → List Session → Option (List Session)
  | 0, _, result => if result.length < total then none else some result
  | fuel + 1, index, result =>
    if result.length < total then
      interleaveFrom total lists fuel (index + 1) (result ++ interleaveRound lists index)
    else some result

def interleaveByTenant (sessions : List Session) : Option (List Session) :=
  interleaveFrom sessions.length (tenantQueues tenantId sessions).values sessions.length 0 []

/-- Whoever still waits has had as many turns as the others who wait, or one less. -/
def TurnsEven (result : List Session) : Prop :=
  ∀ served waiting, served ++ waiting = result → ∀ tenant other,
    ofTenant tenantId tenant waiting ≠ [] → ofTenant tenantId other waiting ≠ [] →
      (ofTenant tenantId tenant served).length ≤ (ofTenant tenantId other served).length + 1

section Lists

variable {tenantId} {sessions result : List Session}

theorem subperm_of_tenants (h : ∀ tenant, (ofTenant tenantId tenant result).Sublist
    (ofTenant tenantId tenant sessions)) : result.Subperm sessions := by
  classical
  rw [List.subperm_ext_iff]
  intro session _
  have hcount (list : List Session) :
      (ofTenant tenantId (tenantId session) list).count session = list.count session :=
    List.count_filter (decide_eq_true rfl)
  have hle := (h (tenantId session)).count_le session
  rwa [hcount, hcount] at hle

theorem getD_tenantQueues (tenant : String) :
    ((tenantQueues tenantId sessions).get tenant).getD [] = ofTenant tenantId tenant sessions := by
  induction sessions using List.reverseRecOn with
  | nil => rfl
  | append_singleton sessions session ih =>
    have hpushed : (tenantQueues tenantId (sessions ++ [session])).get tenant =
        if tenantId session = tenant then
          some (((tenantQueues tenantId sessions).get tenant).getD [] ++ [session])
        else (tenantQueues tenantId sessions).get tenant := by
      rw [tenantQueues, List.foldl_append, List.foldl_cons, List.foldl_nil, ← tenantQueues]
      cases hqueue : (tenantQueues tenantId sessions).get (tenantId session) <;>
        rw [OrderedMap.get_set] <;> split
      all_goals simp_all
    rw [hpushed, ofTenant, List.filter_append, ← ofTenant]
    by_cases htenant : tenantId session = tenant
    · simp [htenant, ih]
    · simp [htenant, ih]

theorem interleaveRound_cons (queue : List Session) (lists : List (List Session)) (index : Nat) :
    interleaveRound (queue :: lists) index = queue[index]?.toList ++ interleaveRound lists index := by
  cases h : queue[index]? <;> simp [interleaveRound, h]

theorem ofTenant_interleaveRound {queues : List (String × List Session)}
    (hnodup : (queues.map Prod.fst).Nodup)
    (hown : ∀ queue ∈ queues, ofTenant tenantId queue.1 queue.2 = queue.2)
    (tenant : String) (index : Nat) :
    ofTenant tenantId tenant (interleaveRound (queues.map Prod.snd) index) =
      ((OrderedMap.lookup tenant queues).getD [])[index]?.toList := by
  induction queues with
  | nil => rfl
  | cons queue rest ih =>
    obtain ⟨owner, queue⟩ := queue
    rw [List.map_cons, List.nodup_cons] at hnodup
    rw [List.forall_mem_cons] at hown
    have hnext : ∀ session ∈ queue[index]?.toList, tenantId session = owner := by
      intro session hsession
      have hmem := List.mem_of_getElem? (Option.mem_toList.mp hsession)
      have hmine : session ∈ ofTenant tenantId owner queue := by rwa [hown.1]
      exact of_decide_eq_true (List.mem_filter.mp hmine).2
    rw [List.map_cons, interleaveRound_cons, ofTenant, List.filter_append, ← ofTenant, ← ofTenant,
      ih hnodup.2 hown.2, OrderedMap.lookup]
    by_cases howner : owner = tenant
    · subst howner
      have hnone : OrderedMap.lookup owner rest = none := Option.eq_none_iff_forall_ne_some.mpr
        fun value hvalue =>
          hnodup.1 (List.mem_map.mpr ⟨_, OrderedMap.mem_of_lookup _ value _ hvalue, rfl⟩)
      rw [hnone, if_pos rfl, ofTenant, List.filter_eq_self.mpr fun session hsession =>
        decide_eq_true (hnext session hsession)]
      exact List.append_nil _
    · rw [if_neg howner, ofTenant, List.filter_eq_nil_iff.mpr fun session hsession => ?_,
        List.nil_append]
      rw [hnext session hsession]
      simpa using howner

end Lists

/-! ## The rounds -/

section Rounds

variable (sessions : List Session)

/-- What the first rounds give. -/
def interleaved (rounds : Nat) : List Session :=
  (List.range rounds).flatMap (interleaveRound (tenantQueues tenantId sessions).values)

theorem interleaved_succ (rounds : Nat) : interleaved tenantId sessions (rounds + 1) =
    interleaved tenantId sessions rounds ++
      interleaveRound (tenantQueues tenantId sessions).values rounds := by
  simp [interleaved, List.range_succ]

theorem ofTenant_interleaved (tenant : String) (rounds : Nat) :
    ofTenant tenantId tenant (interleaved tenantId sessions rounds) =
      (ofTenant tenantId tenant sessions).take rounds := by
  induction rounds with
  | zero => rfl
  | succ rounds ih =>
    rw [interleaved_succ, ofTenant, List.filter_append, ← ofTenant, ← ofTenant, ih,
      List.take_add_one]
    congr 1
    rw [OrderedMap.values, ofTenant_interleaveRound (tenantQueues tenantId sessions).nodupKeys]
    · exact congrArg (·[rounds]?.toList) (getD_tenantQueues tenant)
    · intro queue hqueue
      have hmine : _ = ofTenant tenantId queue.1 sessions := getD_tenantQueues queue.1
      rw [((tenantQueues tenantId sessions).get_eq_some_iff queue.1 queue.2).mpr hqueue,
        Option.getD_some] at hmine
      rw [hmine, ofTenant, ofTenant, List.filter_filter]
      simp

variable {tenantId sessions} {rounds : Nat}

theorem interleaved_perm (hall : sessions.length ≤ (interleaved tenantId sessions rounds).length) :
    (interleaved tenantId sessions rounds).Perm sessions := by
  have hpart (tenant : String) : (ofTenant tenantId tenant
      (interleaved tenantId sessions rounds)).Sublist (ofTenant tenantId tenant sessions) := by
    rw [ofTenant_interleaved]
    exact List.take_sublist _ _
  exact (subperm_of_tenants hpart).perm_of_length_le hall

theorem length_interleaved (hrounds : sessions.length ≤ rounds) :
    sessions.length ≤ (interleaved tenantId sessions rounds).length := by
  have hwhole (tenant : String) : (ofTenant tenantId tenant sessions).Sublist
      (ofTenant tenantId tenant (interleaved tenantId sessions rounds)) := by
    have hle : (ofTenant tenantId tenant sessions).length ≤ rounds :=
      Nat.le_trans (List.length_filter_le _ _) hrounds
    rw [ofTenant_interleaved, List.take_of_length_le hle]
  exact (subperm_of_tenants hwhole).length_le

variable (tenantId) in
theorem exists_rounds_of_interleaveFrom {fuel index : Nat}
    (hfuel : sessions.length ≤ index + fuel) :
    ∃ rounds, sessions.length ≤ (interleaved tenantId sessions rounds).length ∧
      interleaveFrom sessions.length (tenantQueues tenantId sessions).values fuel index
        (interleaved tenantId sessions index) = some (interleaved tenantId sessions rounds) := by
  induction fuel generalizing index with
  | zero =>
    have hall : sessions.length ≤ (interleaved tenantId sessions index).length :=
      length_interleaved hfuel
    exact ⟨index, hall, if_neg (Nat.not_lt.mpr hall)⟩
  | succ fuel ih =>
    rw [interleaveFrom]
    split
    · rw [← interleaved_succ]
      exact ih (by omega)
    next hall => exact ⟨index, Nat.not_lt.mp hall, rfl⟩

theorem exists_round_of_prefix {served : List Session}
    (h : served <+: interleaved tenantId sessions rounds) :
    ∃ round, interleaved tenantId sessions round <+: served ∧
      served <+: interleaved tenantId sessions (round + 1) := by
  induction rounds with
  | zero =>
    rw [List.prefix_nil.mp h]
    exact ⟨0, List.prefix_rfl, List.nil_prefix⟩
  | succ rounds ih =>
    have hearlier : interleaved tenantId sessions rounds <+:
        interleaved tenantId sessions (rounds + 1) := by
      rw [interleaved_succ]
      exact List.prefix_append _ _
    rcases List.prefix_or_prefix_of_prefix h hearlier with hserved | hserved
    · exact ih hserved
    · exact ⟨rounds, hserved, h⟩

theorem turns_of_waiting {served waiting : List Session} {round : Nat} {tenant : String}
    (hperm : (served ++ waiting).Perm sessions)
    (hfrom : interleaved tenantId sessions round <+: served)
    (hto : served <+: interleaved tenantId sessions (round + 1))
    (hwaiting : ofTenant tenantId tenant waiting ≠ []) :
    (ofTenant tenantId tenant served).length = round ∨
      (ofTenant tenantId tenant served).length = round + 1 := by
  have hleast := (hfrom.sublist.filter fun session => tenantId session = tenant).length_le
  have hmost := (hto.sublist.filter fun session => tenantId session = tenant).length_le
  have htotal := (hperm.filter fun session => tenantId session = tenant).length_eq
  rw [← ofTenant, ← ofTenant, ofTenant_interleaved, List.length_take] at hleast hmost
  rw [List.filter_append, List.length_append, ← ofTenant, ← ofTenant, ← ofTenant] at htotal
  have hpos := List.length_pos_iff.mpr hwaiting
  omega

end Rounds

/-- Interleaving ends with the sessions of the batch, each tenant's in their order, and at no
point is a tenant that waits more than one turn behind another. -/
theorem interleaveByTenant_fair (sessions : List Session) : ∃ result,
    interleaveByTenant tenantId sessions = some result ∧ result.Perm sessions ∧
      (∀ tenant, ofTenant tenantId tenant result = ofTenant tenantId tenant sessions) ∧
      TurnsEven tenantId result := by
  obtain ⟨rounds, hall, hresult⟩ := exists_rounds_of_interleaveFrom tenantId
    (Nat.le_add_left sessions.length 0)
  have hperm := interleaved_perm hall
  refine ⟨_, hresult, hperm, fun tenant => ?_, ?_⟩
  · have hlength : (ofTenant tenantId tenant (interleaved tenantId sessions rounds)).length = _ :=
      (hperm.filter fun session => tenantId session = tenant).length_eq
    rw [ofTenant_interleaved] at hlength ⊢
    exact (List.take_sublist _ _).eq_of_length hlength
  · intro served waiting hsplit tenant other htenant hother
    obtain ⟨round, hfrom, hto⟩ := exists_round_of_prefix (hsplit ▸ List.prefix_append _ _)
    have hwhole := hsplit ▸ hperm
    have hturns := turns_of_waiting hwhole hfrom hto htenant
    have hothers := turns_of_waiting hwhole hfrom hto hother
    omega

end OpenCowork.ControlPlane
