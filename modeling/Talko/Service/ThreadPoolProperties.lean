import Mathlib.Algebra.GroupWithZero.Nat
import Mathlib.Data.List.Perm.Basic
import Talko.Service.ThreadPool

/-!
# What the thread pool keeps

No task is lost or run twice, no worker leaves a task behind, and a task in the queue has a
worker or a notification on its way. A pool that is destroyed runs everything that it has
accepted.
-/

set_option autoImplicit false

namespace Talko.Service

open Talko.Library

/-- An element of a list and what a change of it leaves alone. -/
theorem modify_around {α : Type} {list : List α} {index : Nat} {element : α}
    (found : list[index]? = some element) :
    ∃ before behind, list = before ++ element :: behind ∧ before.length = index ∧
      ∀ change : α → α, list.modify index change = before ++ change element :: behind := by
  induction list generalizing index with
  | nil => cases found
  | cons head tail ih =>
      cases index with
      | zero =>
          cases found
          exact ⟨[], tail, rfl, rfl, fun _ => rfl⟩
      | succ index =>
          obtain ⟨before, behind, shape, place, changed⟩ := ih found
          refine ⟨head :: before, behind, by rw [shape]; rfl, by rw [← place]; rfl,
            fun change => ?_⟩
          rw [List.modify_succ_cons, changed change]
          rfl

theorem Worker.isWaiting_iff {Task : Type} (worker : Worker Task) :
    worker.isWaiting = true ↔ worker.place = .waiting := by
  unfold Worker.isWaiting
  cases worker.place with
  | waiting => simp
  | locking => simp
  | running task => simp
  | exited => simp

def Worker.load {Task : Type} (worker : Worker Task) : Nat :=
  match worker.place with
  | .locking => 1
  | .waiting => 1
  | .running _ => 2
  | .exited => 0

namespace ThreadPool

variable {Task : Type}

/-!
## What a step of the pool can do
-/

inductive Transition : ThreadPool Task → ThreadPool Task → Prop
  | none (pool : ThreadPool Task) : Transition pool pool
  | pop {pool : ThreadPool Task} {before behind : List (Worker Task)} {worker : Worker Task}
      {task : Task} {rest : List Task} :
      pool.workers = before ++ worker :: behind → worker.place = .locking →
      pool.tasks = task :: rest →
      Transition pool { pool with
        workers := before ++ worker.moveTo (.running task) :: behind
        tasks := rest
        popped := pool.popped ++ [task] }
  | finish {pool : ThreadPool Task} {before behind : List (Worker Task)} {worker : Worker Task}
      {task : Task} :
      pool.workers = before ++ worker :: behind → worker.place = .running task →
      Transition pool { pool with
        workers := before ++ worker.moveTo .locking :: behind
        finished := pool.finished ++ [task] }
  | wait {pool : ThreadPool Task} {before behind : List (Worker Task)} {worker : Worker Task} :
      pool.workers = before ++ worker :: behind → worker.place = .locking →
      pool.tasks = [] → pool.stop = false →
      Transition pool { pool with workers := before ++ worker.moveTo .waiting :: behind }
  | exit {pool : ThreadPool Task} {before behind : List (Worker Task)} {worker : Worker Task} :
      pool.workers = before ++ worker :: behind → worker.place = .locking →
      pool.tasks = [] → pool.stop = true →
      Transition pool { pool with workers := before ++ worker.moveTo .exited :: behind }
  | wake {pool : ThreadPool Task} {before behind : List (Worker Task)} {worker : Worker Task}
      (notifying : Nat) :
      pool.workers = before ++ worker :: behind → worker.place = .waiting →
      Transition pool { pool with
        workers := before ++ worker.moveTo .locking :: behind
        notifying := notifying }
  | push {pool : ThreadPool Task} (task : Task) :
      pool.stop = false →
      Transition pool { pool with
        tasks := pool.tasks ++ [task]
        accepted := pool.accepted ++ [task]
        notifying := pool.notifying + 1 }
  | unheard {pool : ThreadPool Task} :
      (∀ worker ∈ pool.workers, worker.place ≠ .waiting) →
      Transition pool { pool with notifying := pool.notifying - 1 }

/-- A worker of the pool and what a change of it leaves alone. -/
theorem changeWorker_around {pool : ThreadPool Task} {index : Nat} {worker : Worker Task}
    (found : pool.workers[index]? = some worker) :
    ∃ before behind, pool.workers = before ++ worker :: behind ∧ before.length = index ∧
      ∀ change, pool.changeWorker index change =
        { pool with workers := before ++ change worker :: behind } := by
  obtain ⟨before, behind, shape, place, changed⟩ := modify_around found
  refine ⟨before, behind, shape, place, fun change => ?_⟩
  unfold changeWorker
  rw [changed change]

theorem lockedPart_of_nil {pool : ThreadPool Task} (empty : pool.tasks = []) (index : Nat) :
    pool.lockedPart index =
      pool.moveWorker index (if pool.stop then .exited else .waiting) := by
  unfold lockedPart
  cases stop : pool.stop with
  | true => simp [empty]
  | false => simp [empty]

theorem lockedPart_of_cons {pool : ThreadPool Task} {task : Task} {rest : List Task}
    (queued : pool.tasks = task :: rest) (index : Nat) :
    pool.lockedPart index =
      { pool.moveWorker index (.running task) with
        tasks := rest
        popped := pool.popped ++ [task] } := by
  unfold lockedPart
  simp [queued]

theorem workerStep_accepted (pool : ThreadPool Task) (index : Nat) :
    (pool.workerStep index).accepted = pool.accepted := by
  unfold workerStep
  cases pool.workers[index]? with
  | none => rfl
  | some worker =>
      dsimp only
      cases worker.place with
      | locking =>
          change (pool.lockedPart index).accepted = pool.accepted
          cases tasks : pool.tasks with
          | nil =>
              rw [lockedPart_of_nil tasks]
              rfl
          | cons task rest =>
              rw [lockedPart_of_cons tasks]
              rfl
      | _ => rfl

theorem workerStep_transition (pool : ThreadPool Task) (index : Nat) :
    Transition pool (pool.workerStep index) := by
  unfold workerStep
  cases found : pool.workers[index]? with
  | none => exact .none pool
  | some worker =>
      obtain ⟨before, behind, shape, -, changed⟩ := changeWorker_around found
      dsimp only
      cases place : worker.place with
      | waiting => exact .none pool
      | exited => exact .none pool
      | running task =>
          dsimp only
          unfold moveWorker
          rw [changed]
          exact .finish shape place
      | locking =>
          dsimp only
          cases tasks : pool.tasks with
          | nil =>
              rw [lockedPart_of_nil tasks]
              unfold moveWorker
              rw [changed]
              by_cases stop : pool.stop = true
              · rw [if_pos stop]
                exact .exit shape place tasks stop
              · rw [if_neg stop]
                exact .wait shape place tasks (Bool.eq_false_iff.mpr stop)
          | cons task rest =>
              rw [lockedPart_of_cons tasks]
              unfold moveWorker
              rw [changed]
              exact .pop shape place tasks

theorem wake_of_waiting {pool : ThreadPool Task} {index : Nat} {worker : Worker Task}
    (found : pool.workers[index]? = some worker) (waits : worker.place = .waiting) :
    ∃ before behind, pool.workers = before ++ worker :: behind ∧
      pool.wake index = { pool with workers := before ++ worker.moveTo .locking :: behind } := by
  obtain ⟨before, behind, shape, -, changed⟩ := changeWorker_around found
  refine ⟨before, behind, shape, ?_⟩
  unfold wake
  rw [changed, Worker.notified, if_pos (worker.isWaiting_iff.mpr waits)]

theorem wake_of_not_waiting {pool : ThreadPool Task} {index : Nat}
    (busy : ∀ worker, pool.workers[index]? = some worker → worker.place ≠ .waiting) :
    pool.wake index = pool := by
  unfold wake
  cases found : pool.workers[index]? with
  | none =>
      unfold changeWorker
      rw [List.modify_eq_self (List.getElem?_eq_none_iff.mp found)]
  | some worker =>
      obtain ⟨before, behind, shape, -, changed⟩ := changeWorker_around found
      have awake := fun waits => busy worker found (worker.isWaiting_iff.mp waits)
      rw [changed, Worker.notified, if_neg awake, ← shape]

/-- `notify_one` finds a worker that waits if there is one. -/
theorem chosen_spec (pool : ThreadPool Task) (choice : Nat) :
    (∃ worker, pool.workers[pool.chosen choice]? = some worker ∧ worker.place = .waiting) ∨
      ∀ worker ∈ pool.workers, worker.place ≠ .waiting := by
  by_cases waits : ∃ worker ∈ pool.workers, worker.isWaiting = true
  · left
    unfold chosen
    split
    · next picked =>
        cases found : pool.workers[choice]? with
        | none => simp [found] at picked
        | some worker =>
            simp only [found, Option.map_some, Option.getD_some] at picked
            exact ⟨worker, rfl, worker.isWaiting_iff.mp picked⟩
    · have within := List.findIdx_lt_length_of_exists waits
      have picked := List.findIdx_getElem (w := within)
      exact ⟨_, List.getElem?_eq_getElem within, (Worker.isWaiting_iff _).mp picked⟩
  · right
    intro worker member waiting
    exact waits ⟨worker, member, worker.isWaiting_iff.mpr waiting⟩

theorem notifyOne_transition (pool : ThreadPool Task) (choice : Nat) :
    Transition pool (pool.notifyOne choice) := by
  unfold notifyOne
  split
  · exact .none pool
  · rcases pool.chosen_spec choice with ⟨worker, found, waits⟩ | busy
    · obtain ⟨before, behind, shape, woken⟩ := wake_of_waiting found waits
      rw [woken]
      exact .wake (pool.notifying - 1) shape waits
    · rw [wake_of_not_waiting fun worker found => busy worker (List.mem_of_getElem? found)]
      exact .unheard busy

theorem step_transition (pool : ThreadPool Task) (action : PoolStep Task) :
    Transition pool (pool.step action) := by
  cases action with
  | worker index => exact workerStep_transition pool index
  | spuriousWakeup index =>
      change Transition pool (pool.wake index)
      by_cases waits : ∃ worker, pool.workers[index]? = some worker ∧ worker.place = .waiting
      · obtain ⟨worker, found, waits⟩ := waits
        obtain ⟨before, behind, shape, woken⟩ := wake_of_waiting found waits
        rw [woken]
        exact .wake pool.notifying shape waits
      · rw [wake_of_not_waiting fun worker found waiting => waits ⟨worker, found, waiting⟩]
        exact .none pool
  | enqueue task =>
      change Transition pool (pool.push task)
      unfold push
      split
      · exact .none pool
      · next going => exact .push task (Bool.eq_false_iff.mpr going)
  | notifyOne choice => exact notifyOne_transition pool choice

/-!
## The invariant
-/

/-- The tasks that workers are at. -/
def running (pool : ThreadPool Task) : List Task :=
  pool.workers.filterMap Worker.task?

/-- Tasks leave the queue in the order of their acceptance, each is run once, a worker exits
only from a stopped pool without tasks, and a task in the queue has a worker that comes for
it or a notification on its way. -/
structure Sound (pool : ThreadPool Task) : Prop where
  order : pool.popped ++ pool.tasks = pool.accepted
  once : (pool.finished ++ pool.running).Perm pool.popped
  exits : ∀ worker ∈ pool.workers, worker.place = .exited → pool.stop = true ∧ pool.tasks = []
  served : pool.tasks ≠ [] →
    (∃ worker ∈ pool.workers, worker.place ≠ .waiting ∧ worker.place ≠ .exited) ∨
      0 < pool.notifying

theorem new_sound (numThreads : Nat) : (new numThreads : ThreadPool Task).Sound where
  order := rfl
  once := by
    have idle : (new numThreads : ThreadPool Task).running = [] := by
      simp [running, new, Worker.start, Worker.task?]
    rw [idle]
    exact .nil
  exits worker member exited := by
    rw [List.eq_of_mem_replicate member] at exited
    cases exited
  served queued := absurd rfl queued

theorem running_of_idle {pool : ThreadPool Task}
    (idle : ∀ worker ∈ pool.workers, worker.place = .exited) : pool.running = [] := by
  unfold running
  refine List.filterMap_eq_nil_iff.mpr fun worker member => ?_
  unfold Worker.task?
  rw [idle worker member]

/-- When all workers have exited, every task that was accepted has been run. -/
theorem Sound.finished_all {pool : ThreadPool Task} (sound : pool.Sound)
    (present : pool.workers ≠ []) (idle : ∀ worker ∈ pool.workers, worker.place = .exited) :
    pool.finished.Perm pool.accepted := by
  obtain ⟨worker, member⟩ := List.exists_mem_of_ne_nil pool.workers present
  have empty := (sound.exits worker member (idle worker member)).2
  have once := sound.once
  rw [running_of_idle idle, List.append_nil] at once
  rw [← sound.order, empty, List.append_nil]
  exact once

theorem running_around {pool : ThreadPool Task} {before behind : List (Worker Task)}
    {worker : Worker Task} (shape : pool.workers = before ++ worker :: behind) :
    pool.running =
      before.filterMap Worker.task? ++ worker.task?.toList ++ behind.filterMap Worker.task? := by
  unfold running
  rw [shape, List.filterMap_append, List.filterMap_cons]
  cases worker.task? with
  | none => simp
  | some task => simp

theorem task?_of_place {worker : Worker Task} {place : WorkerPlace Task}
    (same : worker.place = place) : worker.task? = (Worker.mk place true).task? := by
  unfold Worker.task?
  rw [same]

theorem forall_moved {before behind : List (Worker Task)} {worker moved : Worker Task}
    {property : Worker Task → Prop} (holds : ∀ w ∈ before ++ worker :: behind, property w)
    (new : property moved) : ∀ w ∈ before ++ moved :: behind, property w := by
  intro w member
  rcases List.mem_append.mp member with early | late
  · exact holds w (List.mem_append_left _ early)
  · rcases List.mem_cons.mp late with rfl | late
    · exact new
    · exact holds w (List.mem_append_right _ (List.mem_cons_of_mem worker late))

theorem mem_moved (before behind : List (Worker Task)) (worker : Worker Task) :
    worker ∈ before ++ worker :: behind :=
  List.mem_append_right before List.mem_cons_self

theorem perm_running (finished early late : List Task) (task : Task) :
    (finished ++ (early ++ [task] ++ late)).Perm (finished ++ (early ++ [] ++ late) ++ [task]) := by
  have inside : (finished ++ early ++ task :: late).Perm (task :: (finished ++ early ++ late)) :=
    List.perm_middle
  have outside := (List.perm_append_singleton task (finished ++ early ++ late)).symm
  simpa [List.append_assoc] using inside.trans outside

theorem perm_finished (finished early late : List Task) (task : Task) :
    (finished ++ [task] ++ (early ++ [] ++ late)).Perm
      (finished ++ (early ++ [task] ++ late)) := by
  have moved : (early ++ task :: late).Perm (task :: (early ++ late)) := List.perm_middle
  simpa [List.append_assoc] using (moved.symm.append_left finished)

theorem Transition.sound {pool after : ThreadPool Task} (transition : Transition pool after)
    (present : pool.workers ≠ []) (sound : pool.Sound) : after.Sound := by
  obtain ⟨order, once, exits, served⟩ := sound
  cases transition with
  | none => exact ⟨order, once, exits, served⟩
  | @pop before behind worker task rest shape place queued =>
      rw [running_around shape, task?_of_place place] at once
      rw [shape] at exits
      refine ⟨?_, ?_, ?_, fun _ => .inl ⟨_, mem_moved before behind _, nofun, nofun⟩⟩
      · rw [← order, queued, List.append_assoc]
        rfl
      · rw [running_around rfl]
        exact (perm_running pool.finished _ _ task).trans (once.append_right [task])
      · have unfinished : ∀ w ∈ before ++ worker :: behind, w.place ≠ .exited := by
          intro w member exited
          have empty := (exits w member exited).2
          rw [queued] at empty
          cases empty
        exact forall_moved (fun w member exited => absurd exited (unfinished w member)) nofun
  | @finish before behind worker task shape place =>
      rw [running_around shape, task?_of_place place] at once
      rw [shape] at exits
      refine ⟨order, ?_, forall_moved exits nofun,
        fun _ => .inl ⟨_, mem_moved before behind _, nofun, nofun⟩⟩
      rw [running_around rfl]
      exact (perm_finished pool.finished _ _ task).trans once
  | @wait before behind worker shape place empty going =>
      rw [running_around shape, task?_of_place place] at once
      rw [shape] at exits
      refine ⟨order, ?_, forall_moved exits nofun, fun queued => absurd empty queued⟩
      rw [running_around rfl]
      exact once
  | @exit before behind worker shape place empty stopped =>
      rw [running_around shape, task?_of_place place] at once
      rw [shape] at exits
      refine ⟨order, ?_, forall_moved exits fun _ => ⟨stopped, empty⟩,
        fun queued => absurd empty queued⟩
      rw [running_around rfl]
      exact once
  | @wake before behind worker notifying shape place =>
      rw [running_around shape, task?_of_place place] at once
      rw [shape] at exits
      refine ⟨order, ?_, forall_moved exits nofun,
        fun _ => .inl ⟨_, mem_moved before behind _, nofun, nofun⟩⟩
      rw [running_around rfl]
      exact once
  | push task going =>
      refine ⟨?_, once, fun worker member exited => ?_, fun _ => .inr (Nat.succ_pos _)⟩
      · rw [← order, List.append_assoc]
      · have stopped := (exits worker member exited).1
        rw [going] at stopped
        cases stopped
  | unheard busy =>
      refine ⟨order, once, exits, fun queued => .inl ?_⟩
      obtain ⟨worker, member⟩ := List.exists_mem_of_ne_nil pool.workers present
      exact ⟨worker, member, busy worker member, fun exited =>
        queued (exits worker member exited).2⟩

/-- A thread that has been joined has ended. -/
def JoinedEnded (pool : ThreadPool Task) : Prop :=
  ∀ worker ∈ pool.workers, worker.joinable = false → worker.place = .exited

theorem new_joinedEnded (numThreads : Nat) : (new numThreads : ThreadPool Task).JoinedEnded := by
  intro worker member unjoined
  rw [List.eq_of_mem_replicate member] at unjoined
  cases unjoined

/-- No worker is blocked in `wait`. -/
def Roused (pool : ThreadPool Task) : Prop :=
  ∀ worker ∈ pool.workers, worker.place ≠ .waiting

def joinables (pool : ThreadPool Task) : List Bool :=
  pool.workers.map (·.joinable)

theorem Transition.stop {pool after : ThreadPool Task} (transition : Transition pool after) :
    after.stop = pool.stop := by
  cases transition <;> rfl

/-- A step moves at most one worker, never one that has exited, and none to `wait` once the
pool has stopped. -/
theorem Transition.moves {pool after : ThreadPool Task} (transition : Transition pool after) :
    after.workers = pool.workers ∨
      ∃ before behind worker place, pool.workers = before ++ worker :: behind ∧
        after.workers = before ++ worker.moveTo place :: behind ∧ worker.place ≠ .exited ∧
          (place = .waiting → pool.stop = false) := by
  cases transition with
  | none => exact .inl rfl
  | push task going => exact .inl rfl
  | unheard busy => exact .inl rfl
  | pop shape place queued => exact .inr ⟨_, _, _, _, shape, rfl, by rw [place]; nofun, nofun⟩
  | finish shape place => exact .inr ⟨_, _, _, _, shape, rfl, by rw [place]; nofun, nofun⟩
  | wait shape place empty going =>
      exact .inr ⟨_, _, _, _, shape, rfl, by rw [place]; nofun, fun _ => going⟩
  | exit shape place empty stopped =>
      exact .inr ⟨_, _, _, _, shape, rfl, by rw [place]; nofun, nofun⟩
  | wake notifying shape place =>
      exact .inr ⟨_, _, _, _, shape, rfl, by rw [place]; nofun, nofun⟩

theorem Transition.joinables {pool after : ThreadPool Task} (transition : Transition pool after) :
    after.joinables = pool.joinables := by
  unfold ThreadPool.joinables
  obtain same | ⟨before, behind, worker, place, shape, moved, -, -⟩ := transition.moves
  · rw [same]
  · simp [shape, moved, Worker.moveTo]

theorem Transition.length {pool after : ThreadPool Task} (transition : Transition pool after) :
    after.workers.length = pool.workers.length := by
  simpa [ThreadPool.joinables] using congrArg List.length transition.joinables

theorem workers_ne_nil {pool after : ThreadPool Task}
    (length : after.workers.length = pool.workers.length) (present : pool.workers ≠ []) :
    after.workers ≠ [] := by
  rw [← List.length_pos_iff] at present ⊢
  rw [length]
  exact present

theorem Transition.workers_ne_nil {pool after : ThreadPool Task}
    (transition : Transition pool after) (present : pool.workers ≠ []) : after.workers ≠ [] :=
  ThreadPool.workers_ne_nil transition.length present

theorem Transition.joinedEnded {pool after : ThreadPool Task} (transition : Transition pool after)
    (ended : pool.JoinedEnded) : after.JoinedEnded := by
  unfold JoinedEnded at ended ⊢
  obtain same | ⟨before, behind, worker, place, shape, moved, alive, -⟩ := transition.moves
  · rw [same]
    exact ended
  · rw [shape] at ended
    rw [moved]
    exact forall_moved ended fun unjoined =>
      absurd (ended worker (mem_moved before behind worker) unjoined) alive

/-- In a stopped pool no worker goes to sleep again. -/
theorem Transition.roused {pool after : ThreadPool Task} (transition : Transition pool after)
    (stopped : pool.stop = true) (roused : pool.Roused) : after.Roused := by
  unfold Roused at roused ⊢
  obtain same | ⟨before, behind, worker, place, shape, moved, -, sleeps⟩ := transition.moves
  · rw [same]
    exact roused
  · rw [shape] at roused
    rw [moved]
    refine forall_moved roused fun waits => ?_
    rw [sleeps waits] at stopped
    cases stopped

theorem run_joinables (pool : ThreadPool Task) (actions : List (PoolStep Task)) :
    (run step pool actions).joinables = pool.joinables := by
  refine run_invariant_always (fun state : ThreadPool Task => state.joinables = pool.joinables)
    ?_ rfl actions
  intro state action same
  exact (state.step_transition action).joinables.trans same

/-- What a pool keeps as long as it is neither resized nor destroyed. -/
structure Alive (pool : ThreadPool Task) : Prop where
  present : pool.workers ≠ []
  sound : pool.Sound
  going : pool.stop = false

theorem run_alive {numThreads : Nat} (atLeastOne : 1 ≤ numThreads)
    (actions : List (PoolStep Task)) :
    (run step (new numThreads) actions : ThreadPool Task).Alive := by
  refine run_invariant_always Alive ?_ ?_ actions
  · intro pool action alive
    have transition := pool.step_transition action
    exact ⟨transition.workers_ne_nil alive.present, transition.sound alive.present alive.sound,
      transition.stop.trans alive.going⟩
  · refine ⟨?_, new_sound numThreads, rfl⟩
    simp only [new, ne_eq, List.replicate_eq_nil_iff]
    omega

/-!
## The steps of the owner
-/

theorem Sound.stopped {pool : ThreadPool Task} (sound : pool.Sound) :
    (pool.setStop true).Sound :=
  ⟨sound.order, sound.once, fun worker member exited => ⟨rfl, (sound.exits worker member exited).2⟩,
    sound.served⟩

theorem notified_task? (worker : Worker Task) : worker.notified.task? = worker.task? := by
  unfold Worker.notified
  split
  · next waits =>
      have place := worker.isWaiting_iff.mp waits
      simp [Worker.task?, Worker.moveTo, place]
  · rfl

theorem notified_place_ne_waiting (worker : Worker Task) : worker.notified.place ≠ .waiting := by
  unfold Worker.notified
  split
  · nofun
  · next busy => exact fun waits => busy (worker.isWaiting_iff.mpr waits)

theorem notified_exited_iff (worker : Worker Task) :
    worker.notified.place = .exited ↔ worker.place = .exited := by
  unfold Worker.notified
  split
  · next waits =>
      have place := worker.isWaiting_iff.mp waits
      simp [Worker.moveTo, place]
  · rfl

theorem notified_joinable (worker : Worker Task) :
    worker.notified.joinable = worker.joinable := by
  unfold Worker.notified
  split <;> rfl

theorem notifyAll_roused (pool : ThreadPool Task) : pool.notifyAll.Roused := by
  intro worker member
  obtain ⟨before, -, rfl⟩ := List.mem_map.mp member
  exact notified_place_ne_waiting before

theorem notifyAll_joinables (pool : ThreadPool Task) : pool.notifyAll.joinables = pool.joinables := by
  simp [joinables, notifyAll, notified_joinable]

theorem JoinedEnded.notifyAll {pool : ThreadPool Task} (ended : pool.JoinedEnded) :
    pool.notifyAll.JoinedEnded := by
  intro worker member unjoined
  obtain ⟨before, present, rfl⟩ := List.mem_map.mp member
  rw [notified_joinable] at unjoined
  exact (notified_exited_iff before).mpr (ended before present unjoined)

theorem Sound.notifyAll {pool : ThreadPool Task} (sound : pool.Sound) : pool.notifyAll.Sound := by
  have running : pool.notifyAll.running = pool.running := by
    unfold ThreadPool.running ThreadPool.notifyAll
    simp [List.filterMap_map, notified_task?]
  refine ⟨sound.order, ?_, ?_, ?_⟩
  · rw [running]
    exact sound.once
  · intro worker member exited
    obtain ⟨before, present, rfl⟩ := List.mem_map.mp member
    exact sound.exits before present ((notified_exited_iff before).mp exited)
  · intro queued
    rcases sound.served queued with ⟨worker, member, -, alive⟩ | coming
    · exact .inl ⟨worker.notified, List.mem_map_of_mem member, notified_place_ne_waiting worker,
        fun exited => alive ((notified_exited_iff worker).mp exited)⟩
    · exact .inr coming

/-- `join` on a thread that has ended goes on, and leaves the thread where it is. -/
theorem join_of_exited {pool : ThreadPool Task} {index : Nat} {worker : Worker Task}
    (found : pool.workers[index]? = some worker) (exited : worker.place = .exited) :
    ∃ before behind, pool.workers = before ++ worker :: behind ∧ before.length = index ∧
      pool.join index =
        some { pool with workers := before ++ { worker with joinable := false } :: behind } := by
  obtain ⟨before, behind, shape, place, changed⟩ := changeWorker_around found
  refine ⟨before, behind, shape, place, ?_⟩
  unfold join
  rw [found]
  dsimp only
  split
  · rw [if_pos (by simp [Worker.isExited, exited]), changed]
  · next joined =>
      have same : { worker with joinable := false } = worker := by
        cases worker
        simp_all
      rw [same, ← shape]

theorem join_accepted {pool joined : ThreadPool Task} {index : Nat}
    (done : pool.join index = some joined) : joined.accepted = pool.accepted := by
  unfold join at done
  cases found : pool.workers[index]? with
  | none =>
      rw [found] at done
      cases done
      rfl
  | some worker =>
      rw [found] at done
      dsimp only at done
      split at done
      · split at done
        · cases done
          rfl
        · cases done
      · cases done
        rfl

theorem join_exited {pool joined : ThreadPool Task} (ended : pool.JoinedEnded) {index : Nat}
    {worker : Worker Task} (found : pool.workers[index]? = some worker)
    (done : pool.join index = some joined) : worker.place = .exited := by
  unfold join at done
  rw [found] at done
  dsimp only at done
  split at done
  · split at done
    · next exited =>
        unfold Worker.isExited at exited
        split at exited
        · assumption
        · cases exited
    · cases done
  · next flag =>
      exact ended worker (List.mem_of_getElem? found) (Bool.eq_false_iff.mpr flag)

theorem join_of_idle {pool : ThreadPool Task}
    (idle : ∀ worker ∈ pool.workers, worker.place = .exited) {index : Nat}
    (within : index < pool.workers.length) :
    ∃ joined, pool.join index = some joined ∧
      joined.workers.length = pool.workers.length ∧
      (∀ worker ∈ joined.workers, worker.place = .exited) ∧
        joined.joinables.drop (index + 1) = pool.joinables.drop (index + 1) := by
  obtain ⟨worker, found⟩ : ∃ worker, pool.workers[index]? = some worker :=
    ⟨_, List.getElem?_eq_getElem within⟩
  have exited := idle worker (List.mem_of_getElem? found)
  obtain ⟨before, behind, shape, place, joins⟩ := join_of_exited found exited
  refine ⟨_, joins, by simp [shape], ?_, ?_⟩
  · rw [shape] at idle
    exact forall_moved idle exited
  · simp [joinables, shape, ← place, List.drop_append]

/-- What a successful `join` leaves behind. -/
structure Joins (pool joined : ThreadPool Task) (index : Nat) : Prop where
  stop : joined.stop = pool.stop
  length : joined.workers.length = pool.workers.length
  sound : pool.Sound → joined.Sound
  ended : joined.JoinedEnded
  roused : pool.Roused → joined.Roused
  front : (∀ flag ∈ pool.joinables.take index, flag = false) →
    ∀ flag ∈ joined.joinables.take (index + 1), flag = false

theorem join_joins {pool joined : ThreadPool Task} (ended : pool.JoinedEnded) {index : Nat}
    (within : index < pool.workers.length) (done : pool.join index = some joined) :
    pool.Joins joined index := by
  obtain ⟨worker, found⟩ : ∃ worker, pool.workers[index]? = some worker :=
    ⟨_, List.getElem?_eq_getElem within⟩
  have exited := join_exited ended found done
  obtain ⟨before, behind, shape, place, joins⟩ := join_of_exited found exited
  have result := Option.some.inj (done.symm.trans joins)
  subst result
  refine ⟨rfl, by simp [shape], fun sound => ?_, ?_, fun roused => ?_, fun front => ?_⟩
  · obtain ⟨order, once, exits, served⟩ := sound
    rw [running_around shape] at once
    rw [shape] at exits served
    refine ⟨order, ?_, forall_moved exits (exits worker (mem_moved before behind worker)), ?_⟩
    · rw [running_around rfl]
      exact once
    · intro queued
      have empty := (exits worker (mem_moved before behind worker) exited).2
      exact absurd empty queued
  · unfold JoinedEnded at ended ⊢
    rw [shape] at ended
    exact forall_moved ended fun _ => exited
  · unfold Roused at roused ⊢
    rw [shape] at roused
    exact forall_moved roused (roused worker (mem_moved before behind worker))
  · unfold joinables at front ⊢
    rw [shape, List.map_append, List.take_left' (by simpa using place)] at front
    have taken : ((before ++ { worker with joinable := false } :: behind).map
        (·.joinable)).take (index + 1) = before.map (·.joinable) ++ [false] := by
      rw [List.map_append, List.map_cons, ← place, List.take_append,
        List.take_of_length_le (by simp)]
      simp
    intro flag member
    rw [taken] at member
    rcases List.mem_append.mp member with early | last
    · exact front flag early
    · exact List.mem_singleton.mp last

/-!
## Draining
-/

/-- A bound for the steps that the workers of a stopped pool still make. -/
def load (pool : ThreadPool Task) : Nat :=
  2 * pool.tasks.length + (pool.workers.map Worker.load).sum

theorem workerStep_load {pool : ThreadPool Task} {index : Nat} {worker : Worker Task}
    (found : pool.workers[index]? = some worker) (stopped : pool.stop = true)
    (roused : worker.place ≠ .waiting) (alive : worker.place ≠ .exited) :
    (pool.workerStep index).load < pool.load := by
  obtain ⟨before, behind, shape, -, changed⟩ := changeWorker_around found
  unfold workerStep
  rw [found]
  dsimp only
  cases place : worker.place with
  | waiting => exact absurd place roused
  | exited => exact absurd place alive
  | running task =>
      dsimp only
      unfold moveWorker
      rw [changed]
      simp [load, shape, Worker.load, Worker.moveTo, place]
  | locking =>
      dsimp only
      cases tasks : pool.tasks with
      | nil =>
          rw [lockedPart_of_nil tasks, if_pos stopped]
          unfold moveWorker
          rw [changed]
          simp [load, shape, Worker.load, Worker.moveTo, place]
      | cons task rest =>
          rw [lockedPart_of_cons tasks]
          unfold moveWorker
          rw [changed]
          simp [load, shape, tasks, Worker.load, Worker.moveTo, place]
          omega

/-- Left to its workers, a stopped pool without sleepers empties. -/
theorem exists_drained {pool : ThreadPool Task} (stopped : pool.stop = true)
    (roused : pool.Roused) :
    ∃ actions : List (PoolStep Task),
      ∀ worker ∈ (run step pool actions).workers, worker.place = .exited := by
  induction bound : pool.load using Nat.strongRecOn generalizing pool with
  | ind _ ih =>
      by_cases idle : ∀ worker ∈ pool.workers, worker.place = .exited
      · exact ⟨[], idle⟩
      · obtain ⟨worker, member, alive⟩ : ∃ worker ∈ pool.workers, worker.place ≠ .exited := by
          simpa using idle
        obtain ⟨index, found⟩ := List.mem_iff_getElem?.mp member
        have transition := workerStep_transition pool index
        have less := workerStep_load found stopped (roused worker member) alive
        obtain ⟨actions, drained⟩ := ih _ (bound ▸ less) (transition.stop.trans stopped)
          (transition.roused stopped roused) rfl
        exact ⟨.worker index :: actions, drained⟩

end ThreadPool

/-!
## The destructor
-/

namespace DestroyedPool

variable {Task : Type}

/-- The destructor has called `notify_all`. -/
def Notified (s : DestroyedPool Task) : Prop :=
  (∃ next, s.place = .joining next) ∨ s.place = .returned

theorem Notified.inside {s : DestroyedPool Task} (notified : s.Notified) :
    s.place ≠ .outside := by
  rcases notified with ⟨next, place⟩ | place
  · rw [place]
    nofun
  · rw [place]
    nofun

structure Winding (s : DestroyedPool Task) : Prop where
  present : s.pool.workers ≠ []
  sound : s.pool.Sound
  ended : s.pool.JoinedEnded
  stopped : s.place ≠ .outside → s.pool.stop = true
  roused : s.Notified → s.pool.Roused
  front : ∀ next, s.place = .joining next → ∀ flag ∈ s.pool.joinables.take next, flag = false
  back : s.place = .returned → ∀ flag ∈ s.pool.joinables, flag = false

theorem new_winding {numThreads : Nat} (atLeastOne : 1 ≤ numThreads) :
    (new numThreads : DestroyedPool Task).Winding where
  present := by
    change List.replicate numThreads _ ≠ []
    simp only [ne_eq, List.replicate_eq_nil_iff]
    omega
  sound := ThreadPool.new_sound numThreads
  ended := ThreadPool.new_joinedEnded numThreads
  stopped same := absurd rfl same
  roused notified := absurd rfl notified.inside
  front := nofun
  back := nofun

theorem pool_winding {s : DestroyedPool Task} (winding : s.Winding) (action : PoolStep Task) :
    (s.step (.pool action)).Winding := by
  have transition := s.pool.step_transition action
  refine
    { present := transition.workers_ne_nil winding.present
      sound := transition.sound winding.present winding.sound
      ended := transition.joinedEnded winding.ended
      stopped := fun inside => transition.stop.trans (winding.stopped inside)
      roused := fun notified =>
        transition.roused (winding.stopped (Notified.inside notified)) (winding.roused notified)
      front := fun next place => ?_
      back := fun returned => ?_ }
  · change ∀ flag ∈ (s.pool.step action).joinables.take next, flag = false
    rw [transition.joinables]
    exact winding.front next place
  · change ∀ flag ∈ (s.pool.step action).joinables, flag = false
    rw [transition.joinables]
    exact winding.back returned

theorem advance_winding {s : DestroyedPool Task} (winding : s.Winding) : s.advance.Winding := by
  obtain ⟨pool, place⟩ := s
  cases place with
  | outside =>
      exact
        { present := winding.present
          sound := winding.sound.stopped
          ended := winding.ended
          stopped := fun _ => rfl
          roused := fun notified => by rcases notified with ⟨next, place⟩ | place <;> cases place
          front := nofun
          back := nofun }
  | stopped =>
      exact
        { present := ThreadPool.workers_ne_nil (by simp [advance, ThreadPool.notifyAll])
            winding.present
          sound := winding.sound.notifyAll
          ended := winding.ended.notifyAll
          stopped := fun _ => winding.stopped nofun
          roused := fun _ => pool.notifyAll_roused
          front := fun next place flag member => by
            cases place
            cases member
          back := nofun }
  | returned => exact winding
  | joining next =>
      unfold advance
      dsimp only
      split
      · next within =>
          cases done : pool.join next with
          | none => exact winding
          | some joined =>
              have joins := ThreadPool.join_joins winding.ended within done
              exact
                { present := ThreadPool.workers_ne_nil joins.length winding.present
                  sound := joins.sound winding.sound
                  ended := joins.ended
                  stopped := fun _ => joins.stop.trans (winding.stopped nofun)
                  roused := fun _ => joins.roused (winding.roused (.inl ⟨next, rfl⟩))
                  front := fun after place => by
                    cases place
                    exact joins.front (winding.front next rfl)
                  back := nofun }
      · next past =>
          have all : pool.joinables.take next = pool.joinables :=
            List.take_of_length_le (by simpa [ThreadPool.joinables] using past)
          exact
            { present := winding.present
              sound := winding.sound
              ended := winding.ended
              stopped := fun _ => winding.stopped nofun
              roused := fun _ => winding.roused (.inl ⟨next, rfl⟩)
              front := nofun
              back := fun _ => all ▸ winding.front next rfl }

theorem step_winding (s : DestroyedPool Task) (action : OwnerStep Task) (winding : s.Winding) :
    (s.step action).Winding := by
  cases action with
  | pool action => exact pool_winding winding action
  | advance => exact advance_winding winding

/-!
The destructor can always be brought to its end.
-/

/-- The joins of threads that have all ended. -/
theorem joins_return {pool : ThreadPool Task} (next : Nat)
    (idle : ∀ worker ∈ pool.workers, worker.place = .exited) :
    ∃ more, (run step ⟨pool, .joining next⟩ more).place = .returned := by
  induction left : pool.workers.length - next using Nat.strongRecOn generalizing pool next with
  | ind _ ih =>
      by_cases within : next < pool.workers.length
      · obtain ⟨joined, done, length, idle', -⟩ := ThreadPool.join_of_idle idle within
        obtain ⟨more, returned⟩ :=
          ih (joined.workers.length - (next + 1)) (by omega) (next + 1) idle' rfl
        refine ⟨.advance :: more, ?_⟩
        have moved : step ⟨pool, .joining next⟩ .advance = ⟨joined, .joining (next + 1)⟩ := by
          change advance ⟨pool, .joining next⟩ = _
          unfold advance
          dsimp only
          rw [if_pos within, done]
        rw [run_cons, moved]
        exact returned
      · refine ⟨[.advance], ?_⟩
        change (advance ⟨pool, .joining next⟩).place = .returned
        unfold advance
        dsimp only
        rw [if_neg within]

theorem joining_returns {s : DestroyedPool Task} (winding : s.Winding) {next : Nat}
    (place : s.place = .joining next) : ∃ more, (run step s more).place = .returned := by
  obtain ⟨pool, place'⟩ := s
  cases place
  obtain ⟨actions, drained⟩ := ThreadPool.exists_drained (winding.stopped nofun)
    (winding.roused (.inl ⟨next, rfl⟩))
  obtain ⟨more, returned⟩ := joins_return next drained
  have wound : run step ⟨pool, .joining next⟩ (actions.map .pool) =
      ⟨run ThreadPool.step pool actions, .joining next⟩ :=
    run_map (DestroyedPool.mk · (.joining next)) OwnerStep.pool (fun _ _ => rfl) pool actions
  refine ⟨actions.map .pool ++ more, ?_⟩
  rw [run_append, wound]
  exact returned

theorem can_return {s : DestroyedPool Task} (winding : s.Winding) :
    ∃ more, (run step s more).place = .returned := by
  obtain ⟨pool, place⟩ := s
  cases place with
  | returned => exact ⟨[], rfl⟩
  | joining next => exact joining_returns winding rfl
  | stopped =>
      obtain ⟨more, returned⟩ := joining_returns (advance_winding winding) rfl
      exact ⟨.advance :: more, returned⟩
  | outside =>
      obtain ⟨more, returned⟩ :=
        joining_returns (advance_winding (advance_winding winding)) rfl
      exact ⟨.advance :: .advance :: more, returned⟩

/-- The task of a call of `enqueue` in this step, when it does not throw. -/
def enqueued (s : DestroyedPool Task) : OwnerStep Task → List Task
  | .pool (.enqueue task) => if s.pool.stop then [] else [task]
  | _ => []

/-- What has been accepted are the tasks of the calls of `enqueue` that did not throw. -/
theorem step_accepted (s : DestroyedPool Task) (action : OwnerStep Task) :
    (s.step action).pool.accepted = s.pool.accepted ++ s.enqueued action := by
  cases action with
  | pool action =>
      cases action with
      | worker index =>
          exact (ThreadPool.workerStep_accepted s.pool index).trans (List.append_nil _).symm
      | spuriousWakeup index => exact (List.append_nil _).symm
      | enqueue task =>
          change (s.pool.push task).accepted = s.pool.accepted ++ if s.pool.stop then [] else [task]
          unfold ThreadPool.push
          split
          · exact (List.append_nil _).symm
          · rfl
      | notifyOne choice =>
          refine Eq.trans ?_ (List.append_nil _).symm
          change (s.pool.notifyOne choice).accepted = s.pool.accepted
          unfold ThreadPool.notifyOne
          split <;> rfl
  | advance =>
      refine Eq.trans ?_ (List.append_nil _).symm
      obtain ⟨pool, place⟩ := s
      cases place with
      | joining next =>
          change (advance ⟨pool, .joining next⟩).pool.accepted = pool.accepted
          unfold advance
          dsimp only
          split
          · cases done : pool.join next with
            | none => rfl
            | some joined => exact ThreadPool.join_accepted done
          · rfl
      | _ => rfl

/-- Whatever the schedule: tasks are popped in the order of their acceptance and none is run
twice, no worker exits before a task in the queue, none sleeps behind `notify_all`, and when
the destructor has returned every task has been run. The destructor can return from every
state. -/
theorem pool_drains {numThreads : Nat} (atLeastOne : 1 ≤ numThreads)
    (actions : List (OwnerStep Task)) :
    let s := run step (new numThreads) actions
    s.pool.popped ++ s.pool.tasks = s.pool.accepted ∧
      (s.pool.finished ++ s.pool.running).Perm s.pool.popped ∧
      (∀ worker ∈ s.pool.workers, worker.place = .exited → s.pool.tasks = []) ∧
      (s.Notified → ∀ worker ∈ s.pool.workers, worker.place ≠ .waiting) ∧
      (s.place = .returned → s.pool.finished.Perm s.pool.accepted) ∧
      ∃ more, (run step s more).place = .returned := by
  have winding : (run step (new numThreads) actions : DestroyedPool Task).Winding :=
    run_invariant_always Winding step_winding (new_winding atLeastOne) actions
  refine ⟨winding.sound.order, winding.sound.once,
    fun worker member exited => (winding.sound.exits worker member exited).2, winding.roused,
    fun returned => ?_, can_return winding⟩
  have exited : ∀ worker ∈ (run step (new numThreads) actions : DestroyedPool Task).pool.workers,
      worker.place = .exited := fun worker member =>
    winding.ended worker member (winding.back returned _ (List.mem_map_of_mem member))
  exact winding.sound.finished_all winding.present exited

/-- Two workers, two tasks, and the whole of the destructor: the second worker waits before the
tasks come, and runs the second one while the destructor waits for the first worker. -/
theorem two_tasks_drain :
    let s := run step (new 2)
      [.pool (.worker 1), .pool (.enqueue 7), .pool (.enqueue 8), .pool (.notifyOne 1),
        .pool (.worker 0), .pool (.notifyOne 0), .pool (.worker 1), .advance, .advance,
        .pool (.worker 1), .pool (.worker 0), .pool (.worker 0), .advance, .pool (.worker 1),
        .advance, .advance]
    s.place = .returned ∧ s.pool.finished.Perm s.pool.accepted ∧ s.pool.accepted = [7, 8] ∧
      s.pool.finished = [8, 7] := by
  refine ⟨by decide, ?_, by decide, by decide⟩
  exact (pool_drains (Nat.le_succ 1) _).2.2.2.2.1 (by decide)

end DestroyedPool

end Talko.Service
