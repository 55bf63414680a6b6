import Talko.Service.ThreadPoolProperties

/-!
# Resizing the thread pool

A pool that grows keeps everything it has. A pool that shrinks joins its first threads and
destroys its last ones, one of which has never been joined.
-/

set_option autoImplicit false

namespace Talko.Service

open Talko.Library

namespace ResizedPool

variable {Task : Type}

/-- What `resize` should keep: no thread is destroyed that has not been joined, no task is
dropped, and behind the call there are as many workers as asked for, none of them at its end
and the pool ready to run every task. -/
structure ResizesWell (numThreads : Nat) (s : ResizedPool Task) : Prop where
  joined : s.place ≠ .terminated
  kept : s.pool.popped ++ s.pool.tasks = s.pool.accepted
  resized : s.place = .returned →
    s.pool.workers.length = numThreads ∧
      (∀ worker ∈ s.pool.workers, worker.place ≠ .exited) ∧ s.pool.stop = false ∧ s.pool.Sound

/-!
## Growing
-/

/-- The part of the vector that is there while the pool grows. -/
def Emplaced (s : ResizedPool Task) : Prop :=
  match s.place with
  | .called => s.pool.workers.length ≤ s.numThreads
  | .emplacing next => s.pool.workers.length = next ∧ next ≤ s.numThreads
  | .returned => s.pool.workers.length = s.numThreads
  | _ => False

structure Growing (s : ResizedPool Task) : Prop where
  present : s.pool.workers ≠ []
  sound : s.pool.Sound
  going : s.pool.stop = false
  emplaced : s.Emplaced

theorem Growing.resizesWell {s : ResizedPool Task} (growing : s.Growing) :
    ResizesWell s.numThreads s := by
  refine ⟨fun terminated => ?_, growing.sound.order, fun returned => ?_⟩
  · have emplaced := growing.emplaced
    rw [Emplaced, terminated] at emplaced
    exact emplaced
  · have emplaced := growing.emplaced
    rw [Emplaced, returned] at emplaced
    refine ⟨emplaced, fun worker member exited => ?_, growing.going, growing.sound⟩
    have stopped := (growing.sound.exits worker member exited).1
    rw [growing.going] at stopped
    cases stopped

theorem sound_emplaced {pool : ThreadPool Task} (sound : pool.Sound) :
    ({ pool with workers := pool.workers ++ [.start] } : ThreadPool Task).Sound := by
  obtain ⟨order, once, exits, served⟩ := sound
  refine ⟨order, ?_, ?_, fun _ => .inl ⟨.start, List.mem_append_right _ List.mem_cons_self,
    nofun, nofun⟩⟩
  · have same : ({ pool with workers := pool.workers ++ [.start] } : ThreadPool Task).running =
        pool.running := by
      simp [ThreadPool.running, Worker.start, Worker.task?]
    rw [same]
    exact once
  · intro worker member exited
    rcases List.mem_append.mp member with old | new
    · exact exits worker old exited
    · rw [List.mem_singleton.mp new] at exited
      cases exited

theorem advance_growing {s : ResizedPool Task} (growing : s.Growing) : s.advance.Growing := by
  obtain ⟨pool, numThreads, place⟩ := s
  obtain ⟨present, sound, going, emplaced⟩ := growing
  cases place with
  | called =>
      have notLess : ¬ numThreads < pool.workers.length := Nat.not_lt.mpr emplaced
      unfold advance
      dsimp only
      rw [if_neg notLess]
      split
      · next more => exact ⟨present, sound, going, rfl, Nat.le_of_lt more⟩
      · next enough =>
          exact ⟨present, sound, going, Nat.le_antisymm emplaced (Nat.not_lt.mp enough)⟩
  | emplacing next =>
      obtain ⟨length, within⟩ := emplaced
      unfold advance
      dsimp only
      split
      · next more =>
          refine ⟨by simp, sound_emplaced sound, going, ?_, more⟩
          change (pool.workers ++ [_]).length = next + 1
          rw [List.length_append, length]
          rfl
      · next enough =>
          exact ⟨present, sound, going, length.trans (Nat.le_antisymm within (Nat.not_lt.mp enough))⟩
  | returned => exact ⟨present, sound, going, emplaced⟩
  | stopped => cases emplaced
  | joining next => cases emplaced
  | resuming => cases emplaced
  | terminated => cases emplaced

theorem step_growing (s : ResizedPool Task) (action : OwnerStep Task) (growing : s.Growing) :
    (s.step action).Growing := by
  cases action with
  | advance => exact advance_growing growing
  | pool action =>
      change (if s.place = .terminated then s else _).Growing
      split
      · exact growing
      · obtain ⟨present, sound, going, emplaced⟩ := growing
        have transition := s.pool.step_transition action
        refine ⟨transition.workers_ne_nil present, transition.sound present sound,
          transition.stop.trans going, ?_⟩
        unfold Emplaced at emplaced ⊢
        dsimp only
        rw [transition.length]
        exact emplaced

theorem advance_numThreads (s : ResizedPool Task) : s.advance.numThreads = s.numThreads := by
  obtain ⟨pool, numThreads, place⟩ := s
  cases place with
  | called =>
      unfold advance
      dsimp only
      split
      · rfl
      · split <;> rfl
  | joining next =>
      unfold advance
      dsimp only
      split
      · split <;> rfl
      · unfold truncate
        split <;> rfl
  | emplacing next =>
      unfold advance
      dsimp only
      split <;> rfl
  | stopped => rfl
  | resuming => rfl
  | returned => rfl
  | terminated => rfl

theorem step_numThreads (s : ResizedPool Task) (action : OwnerStep Task) :
    (s.step action).numThreads = s.numThreads := by
  cases action with
  | advance => exact advance_numThreads s
  | pool action =>
      change (if s.place = .terminated then s else _).numThreads = _
      split <;> rfl

theorem run_numThreads (s : ResizedPool Task) (schedule : List (OwnerStep Task)) :
    (run step s schedule).numThreads = s.numThreads :=
  run_invariant_always (·.numThreads = s.numThreads)
    (fun state action same => (step_numThreads state action).trans same) rfl schedule

/-!
## Shrinking
-/

theorem truncate_terminates {pool : ThreadPool Task} {numThreads : Nat} (place : ResizePlace)
    (present : 1 ≤ numThreads) (shrinks : numThreads < pool.workers.length)
    (unjoined : ∀ flag ∈ pool.joinables.drop (pool.workers.length - numThreads), flag = true) :
    (truncate ⟨pool, numThreads, place⟩).place = .terminated := by
  -- the last thread of the vector
  obtain ⟨worker, last⟩ : ∃ worker, pool.workers[pool.workers.length - 1]? = some worker :=
    ⟨_, List.getElem?_eq_getElem (by omega)⟩
  have destroyed : worker ∈ pool.workers.drop numThreads := by
    apply List.mem_of_getElem? (i := pool.workers.length - 1 - numThreads)
    rw [List.getElem?_drop, ← last]
    congr 1
    omega
  have flagged : worker.joinable ∈
      pool.joinables.drop (pool.workers.length - numThreads) := by
    apply List.mem_of_getElem? (i := numThreads - 1)
    rw [List.getElem?_drop, ThreadPool.joinables, List.getElem?_map]
    have same : pool.workers.length - numThreads + (numThreads - 1) =
        pool.workers.length - 1 := by omega
    rw [same, last]
    rfl
  unfold truncate
  dsimp only
  rw [if_pos (List.any_eq_true.mpr ⟨worker, destroyed, unjoined _ flagged⟩)]
  rfl

/-- The joins of a shrinking pool whose workers have all exited lead to a thread that has not
been joined. -/
theorem joins_terminate {pool : ThreadPool Task} {numThreads : Nat} (next : Nat)
    (present : 1 ≤ numThreads) (shrinks : numThreads < pool.workers.length)
    (within : next ≤ pool.workers.length - numThreads)
    (idle : ∀ worker ∈ pool.workers, worker.place = .exited)
    (unjoined : ∀ flag ∈ pool.joinables.drop next, flag = true) :
    ∃ more, (run step ⟨pool, numThreads, .joining next⟩ more).place = .terminated := by
  induction left : pool.workers.length - numThreads - next using Nat.strongRecOn
    generalizing pool next with
  | ind _ ih =>
      by_cases further : next < pool.workers.length - numThreads
      · have inside : next < pool.workers.length := by omega
        obtain ⟨joined, done, length, idle', flags⟩ := ThreadPool.join_of_idle idle inside
        have unjoined' : ∀ flag ∈ joined.joinables.drop (next + 1), flag = true := by
          rw [flags]
          intro flag member
          refine unjoined flag ?_
          rw [← List.drop_drop] at member
          exact List.mem_of_mem_drop member
        obtain ⟨more, terminated⟩ :=
          ih (joined.workers.length - numThreads - (next + 1)) (by omega) (next + 1) (by omega)
            (by omega) idle' unjoined' rfl
        refine ⟨.advance :: more, ?_⟩
        have moved : step ⟨pool, numThreads, .joining next⟩ .advance =
            ⟨joined, numThreads, .joining (next + 1)⟩ := by
          change advance ⟨pool, numThreads, .joining next⟩ = _
          unfold advance
          dsimp only
          rw [if_pos further, done]
        rw [run_cons, moved]
        exact terminated
      · refine ⟨[.advance], ?_⟩
        change (advance ⟨pool, numThreads, .joining next⟩).place = .terminated
        unfold advance
        dsimp only
        rw [if_neg further]
        have all : next = pool.workers.length - numThreads := by omega
        rw [all] at unjoined
        exact truncate_terminates _ present shrinks unjoined

theorem shrinking_terminates {pool : ThreadPool Task} {numThreads : Nat}
    (present : 1 ≤ numThreads) (shrinks : numThreads < pool.workers.length)
    (unjoined : ∀ flag ∈ pool.joinables, flag = true) :
    ∃ schedule, (run step (call pool numThreads) schedule).place = .terminated := by
  have stopped : (pool.setStop true).notifyAll.stop = true := rfl
  obtain ⟨actions, drained⟩ := ThreadPool.exists_drained stopped (ThreadPool.notifyAll_roused _)
  have flags : (run ThreadPool.step (pool.setStop true).notifyAll actions).joinables =
      pool.joinables :=
    (ThreadPool.run_joinables _ actions).trans (ThreadPool.notifyAll_joinables _)
  have length : (run ThreadPool.step (pool.setStop true).notifyAll actions).workers.length =
      pool.workers.length := by
    simpa [ThreadPool.joinables] using congrArg List.length flags
  obtain ⟨more, terminated⟩ := joins_terminate 0 present (by rw [length]; exact shrinks)
    (Nat.zero_le _) drained (by rw [flags]; exact unjoined)
  refine ⟨.advance :: .advance :: (actions.map .pool ++ more), ?_⟩
  have called : step (step (call pool numThreads) .advance) .advance =
      ⟨(pool.setStop true).notifyAll, numThreads, .joining 0⟩ := by
    have first : step (call pool numThreads) .advance =
        ⟨pool.setStop true, numThreads, .stopped⟩ := if_pos shrinks
    rw [first]
    rfl
  rw [run_cons, run_cons, called, run_append]
  have wound : run step ⟨(pool.setStop true).notifyAll, numThreads, .joining 0⟩
      (actions.map .pool) =
        ⟨run ThreadPool.step (pool.setStop true).notifyAll actions, numThreads, .joining 0⟩ :=
    run_map (ResizedPool.mk · numThreads (.joining 0)) OwnerStep.pool (fun _ _ => rfl) _ actions
  rw [wound]
  exact terminated

/-- `resize` keeps the pool working in every interleaving exactly when it does not shrink it. -/
theorem resizesWell_iff {workers numThreads : Nat} (atLeastOne : 1 ≤ workers)
    (present : 1 ≤ numThreads) (history : List (PoolStep Task)) :
    (∀ schedule, ResizesWell numThreads
      (run step (call (run ThreadPool.step (.new workers) history) numThreads) schedule)) ↔
        workers ≤ numThreads := by
  obtain ⟨nonempty, sound, going⟩ := ThreadPool.run_alive atLeastOne history
  have flags : (run ThreadPool.step (.new workers) history).joinables =
      List.replicate workers true := by
    rw [ThreadPool.run_joinables]
    simp [ThreadPool.joinables, ThreadPool.new, Worker.start]
  generalize run ThreadPool.step (.new workers) history = pool at nonempty sound going flags ⊢
  have length : pool.workers.length = workers := by
    simpa [ThreadPool.joinables] using congrArg List.length flags
  constructor
  · intro well
    by_contra less
    have unjoined : ∀ flag ∈ pool.joinables, flag = true := by
      rw [flags]
      exact fun flag => List.eq_of_mem_replicate
    obtain ⟨schedule, terminated⟩ :=
      shrinking_terminates present (by rw [length]; exact Nat.not_le.mp less) unjoined
    exact (well schedule).joined terminated
  · intro grows schedule
    have start : (call pool numThreads).Growing :=
      ⟨nonempty, sound, going, le_of_eq_of_le length grows⟩
    have well := (run_invariant_always Growing step_growing start schedule).resizesWell
    rw [run_numThreads] at well
    exact well

theorem pool_of_one_grows :
    1 ≤ 2 ∧ ∀ schedule, ResizesWell 2 (run step (call (run ThreadPool.step
      (.new 1 : ThreadPool Nat) [.enqueue 7]) 2) schedule) :=
  ⟨by decide, (resizesWell_iff (Nat.le_refl 1) (by decide) [.enqueue 7]).mpr (by decide)⟩

/-- A pool of two that is to shrink to one joins its first thread and destroys its second. -/
theorem pool_of_two_terminates :
    ¬ ResizesWell 1 (run step (call (.new 2 : ThreadPool Nat) 1)
      [.advance, .advance, .pool (.worker 0), .advance, .advance]) :=
  fun well => well.joined (by decide)

end ResizedPool

end Talko.Service
