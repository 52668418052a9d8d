import OpenCowork.Gateway.Writes

/-! # What the shared functions leave alone

Each function that operations share writes some tables; the others stay as they were.
-/

namespace OpenCowork.Gateway

open Foundation

section Frames

variable {state : WorkState} (roadmapId : String) (taskId : String) (now : Int)

theorem recompute_frame (state : WorkState) : ∃ roadmaps,
    recomputeRoadmapStatusInState roadmapId state = { state with roadmaps } := by
  unfold recomputeRoadmapStatusInState
  split
  · exact ⟨_, rfl⟩
  · split
    · exact ⟨_, rfl⟩
    · exact ⟨_, rfl⟩

@[simp] theorem recompute_dependencies (state : WorkState) :
    (recomputeRoadmapStatusInState roadmapId state).dependencies = state.dependencies := by
  obtain ⟨_, h⟩ := recompute_frame roadmapId state
  rw [h]

@[simp] theorem recompute_gates (state : WorkState) :
    (recomputeRoadmapStatusInState roadmapId state).gates = state.gates := by
  obtain ⟨_, h⟩ := recompute_frame roadmapId state
  rw [h]

@[simp] theorem recompute_drawn (state : WorkState) :
    (recomputeRoadmapStatusInState roadmapId state).drawn = state.drawn := by
  obtain ⟨_, h⟩ := recompute_frame roadmapId state
  rw [h]

theorem abort_frame (state : WorkState) : ∃ tasks runs,
    (abortActiveRunInState taskId now state).2 = { state with tasks, runs } := by
  unfold abortActiveRunInState
  split
  · exact ⟨_, _, rfl⟩
  · exact ⟨_, _, rfl⟩

theorem ensureInbox_frame (state : WorkState) : ∃ roadmaps,
    ensureInboxRoadmap state = { state with roadmaps } := by
  unfold ensureInboxRoadmap
  split
  · exact ⟨_, rfl⟩
  · exact ⟨_, rfl⟩

end Frames

end OpenCowork.Gateway
