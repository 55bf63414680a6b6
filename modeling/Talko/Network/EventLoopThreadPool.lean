import Talko.Library.RoundRobin
import Talko.Network.TcpServer

/-!
# The pool of loops

`EventLoopThreadPool`, whose `start` makes a thread with a loop for each of `num_threads_`, and
whose `get_next_loop` hands these loops out in a circle. A member that meets an empty
`base_loop_`, or an index outside `loops_`, has no result. All calls come from the thread of the
base loop, as `assert_in_loop_thread` demands.
-/

set_option autoImplicit false

namespace Talko.Network

open Talko.Library

/-- `cycle` names the pool; the loop that its thread `i` has on its stack is
`LoopRef.worker cycle i`. An empty pointer is `none`. -/
structure EventLoopThreadPool where
  cycle : Nat
  baseLoop : Option LoopRef
  started : Bool
  numThreads : Int32
  next : Int32
  loops : List LoopRef
  deriving DecidableEq, Repr

/-- The members that change the pool. -/
inductive PoolStep where
  | init (baseLoop : Option LoopRef) (threadsNum : Int32)
  | start
  | getNextLoop
  deriving DecidableEq, Repr

/-- An `int` converted to `size_t`. -/
def sizeOfInt (value : Int32) : Nat :=
  value.toInt64.toUInt64.toNat

namespace EventLoopThreadPool

def new (cycle : Nat) : EventLoopThreadPool where
  cycle := cycle
  baseLoop := none
  started := false
  numThreads := 0
  next := 0
  loops := []

def init (pool : EventLoopThreadPool) (baseLoop : Option LoopRef) (threadsNum : Int32) :
    EventLoopThreadPool :=
  { pool with numThreads := threadsNum, baseLoop := baseLoop }

/-- `start_loop` returns once the thread has published its loop. -/
def start (pool : EventLoopThreadPool) : EventLoopThreadPool :=
  if pool.baseLoop = none then pool
  else if pool.started then pool
  else
    { pool with
      started := true
      loops := pool.loops ++
        (List.range pool.numThreads.toInt.toNat).map (LoopRef.worker pool.cycle) }

/-- What is returned, and the pool behind the call. -/
def getNextLoop (pool : EventLoopThreadPool) : Option (Option LoopRef × EventLoopThreadPool) :=
  match pool.baseLoop with
  | none => none
  | some base =>
      if !pool.started then some (none, pool)
      else if pool.loops.isEmpty then some (some base, pool)
      else
        match pool.loops[sizeOfInt pool.next]? with
        | none => none
        | some loop =>
            let next := pool.next + 1
            some (some loop,
              { pool with next := if sizeOfInt next ≥ pool.loops.length then 0 else next })

def getLoopForHash (pool : EventLoopThreadPool) (hashCode : UInt64) : Option LoopRef :=
  match pool.baseLoop with
  | none => none
  | some base =>
      if pool.loops.isEmpty then some base
      else pool.loops[hashCode.toNat % pool.loops.length]?

/-- The pool behind a step, and what `get_next_loop` returned in it. -/
def step (pool : EventLoopThreadPool) :
    PoolStep → Option (List (Option LoopRef) × EventLoopThreadPool)
  | .init baseLoop threadsNum => some ([], pool.init baseLoop threadsNum)
  | .start => some ([], pool.start)
  | .getNextLoop => pool.getNextLoop.map fun result => ([result.1], result.2)

/-- All that the calls of `get_next_loop` in a run returned, and the pool behind it. -/
def runSteps (pool : EventLoopThreadPool) :
    List PoolStep → Option (List (Option LoopRef) × EventLoopThreadPool)
  | [] => some ([], pool)
  | action :: rest =>
      match pool.step action with
      | none => none
      | some (returned, stepped) =>
          (stepped.runSteps rest).map fun result => (returned ++ result.1, result.2)

/-!
## The place in the circle
-/

/-- `next_` as a place in `loops_`. -/
def place (pool : EventLoopThreadPool) : Nat :=
  pool.next.toInt.toNat

/-- What every step keeps. Without loops `next_` stays 0. -/
structure Turning (pool : EventLoopThreadPool) : Prop where
  nonneg : 0 ≤ pool.next.toInt
  within : pool.next.toInt < max 1 (pool.loops.length : Int)
  short : pool.loops.length < 2 ^ 31
  named : pool.loops = (List.range pool.loops.length).map (LoopRef.worker pool.cycle)
  unstarted : pool.started = false → pool.loops = []

theorem sizeOfInt_of_nonneg {value : Int32} (nonneg : 0 ≤ value.toInt) :
    sizeOfInt value = value.toInt.toNat := by
  have widened : 0 ≤ value.toInt64 := by
    rw [Int64.le_iff_toInt_le, Int32.toInt_toInt64]
    exact nonneg
  exact (Int64.toNat_toUInt64_of_le widened).trans (Int32.toNatClampNeg_toInt64 value)

theorem turning_new (cycle : Nat) : (new cycle).Turning where
  nonneg := Int.le_refl 0
  within := Int.one_pos
  short := Nat.two_pow_pos 31
  named := rfl
  unstarted := fun _ => rfl

theorem Turning.init {pool : EventLoopThreadPool} (turning : pool.Turning)
    (baseLoop : Option LoopRef) (threadsNum : Int32) :
    (pool.init baseLoop threadsNum).Turning :=
  ⟨turning.nonneg, turning.within, turning.short, turning.named, turning.unstarted⟩

theorem Turning.start {pool : EventLoopThreadPool} (turning : pool.Turning) :
    pool.start.Turning := by
  unfold EventLoopThreadPool.start
  split
  case isTrue => exact turning
  case isFalse =>
      split
      case isTrue => exact turning
      case isFalse fresh =>
          have empty := turning.unstarted (Bool.eq_false_iff.mpr fresh)
          have zero : pool.next.toInt < 1 := by simpa [empty] using turning.within
          have few : pool.numThreads.toInt < 2 ^ 31 := Int32.toInt_lt _
          rw [empty, List.nil_append]
          exact {
            nonneg := turning.nonneg
            within := lt_of_lt_of_le zero (le_max_left _ _)
            short := by
              rw [List.length_map, List.length_range]
              omega
            named := by rw [List.length_map, List.length_range]
            unstarted := fun impossible => absurd impossible (by simp) }

theorem Turning.place_lt {pool : EventLoopThreadPool} (turning : pool.Turning)
    (filled : pool.loops ≠ []) : pool.place < pool.loops.length := by
  have positive := List.length_pos_iff.mpr filled
  have within := turning.within
  unfold place
  omega

theorem Turning.next_succ {pool : EventLoopThreadPool} (turning : pool.Turning)
    (filled : pool.loops ≠ []) : (pool.next + 1).toInt = pool.next.toInt + 1 := by
  have inside := turning.place_lt filled
  have short := turning.short
  have nonneg := turning.nonneg
  unfold place at inside
  rw [Int32.toInt_add]
  change (pool.next.toInt + 1).bmod (2 ^ 32) = pool.next.toInt + 1
  exact Int.bmod_eq_of_le (by omega) (by omega)

/-- The pool behind a call that took a loop of `loops_`. -/
def turned (pool : EventLoopThreadPool) : EventLoopThreadPool :=
  { pool with next := if pool.place + 1 ≥ pool.loops.length then 0 else pool.next + 1 }

theorem Turning.next_turned {pool : EventLoopThreadPool} (turning : pool.Turning)
    (filled : pool.loops ≠ []) :
    pool.turned.next.toInt = nextTurn pool.loops.length pool.place := by
  have counted := turning.next_succ filled
  have nonneg := turning.nonneg
  unfold turned nextTurn
  split
  case isTrue => rfl
  case isFalse =>
      rw [counted]
      unfold place
      omega

theorem Turning.turned {pool : EventLoopThreadPool} (turning : pool.Turning)
    (filled : pool.loops ≠ []) : pool.turned.Turning := by
  have next := turning.next_turned filled
  have within := nextTurn_lt (List.length_pos_iff.mpr filled) pool.place
  exact {
    nonneg := next ▸ Int.natCast_nonneg _
    within := by
      change pool.turned.next.toInt < max 1 (pool.loops.length : Int)
      omega
    short := turning.short
    named := turning.named
    unstarted := turning.unstarted }

theorem Turning.place_turned {pool : EventLoopThreadPool} (turning : pool.Turning)
    (filled : pool.loops ≠ []) :
    pool.turned.place = nextTurn pool.loops.length pool.place := by
  unfold place
  rw [turning.next_turned filled, Int.toNat_natCast]
  rfl

/-- A call on a started pool with loops returns the loop at `next_` and moves on in the
circle. -/
theorem Turning.getNextLoop_eq {pool : EventLoopThreadPool} (turning : pool.Turning)
    (based : pool.baseLoop ≠ none) (started : pool.started = true) (filled : pool.loops ≠ []) :
    pool.getNextLoop = some (pool.loops[pool.place]?, pool.turned) := by
  obtain ⟨base, isBase⟩ := Option.ne_none_iff_exists'.mp based
  have nonneg := turning.nonneg
  have counted := turning.next_succ filled
  have read : sizeOfInt pool.next = pool.place := sizeOfInt_of_nonneg nonneg
  have moved : sizeOfInt (pool.next + 1) = pool.place + 1 := by
    rw [sizeOfInt_of_nonneg (by omega), counted]
    unfold place
    omega
  have found := List.getElem?_eq_getElem (turning.place_lt filled)
  simp [getNextLoop, isBase, started, filled, read, moved, found, EventLoopThreadPool.turned]

theorem Turning.started {pool : EventLoopThreadPool} (turning : pool.Turning)
    (filled : pool.loops ≠ []) : pool.started = true := by
  cases isStarted : pool.started with
  | true => rfl
  | false => exact absurd (turning.unstarted isStarted) filled

/-- A call leaves the pool alone or takes a loop of `loops_`. -/
theorem Turning.getNextLoop_cases {pool pool' : EventLoopThreadPool} (turning : pool.Turning)
    {loop : Option LoopRef} (result : pool.getNextLoop = some (loop, pool')) :
    pool.loops = [] ∧ pool' = pool ∨
      pool.loops ≠ [] ∧ loop = pool.loops[pool.place]? ∧ pool' = pool.turned := by
  cases based : pool.baseLoop with
  | none => simp [EventLoopThreadPool.getNextLoop, based] at result
  | some base =>
      by_cases filled : pool.loops = []
      · left
        cases isStarted : pool.started <;>
          simp [EventLoopThreadPool.getNextLoop, based, isStarted, filled] at result <;>
          exact ⟨filled, result.2.symm⟩
      · right
        rw [turning.getNextLoop_eq (by simp [based]) (turning.started filled) filled] at result
        cases result
        exact ⟨filled, rfl, rfl⟩

theorem Turning.step {pool stepped : EventLoopThreadPool} (turning : pool.Turning)
    {action : PoolStep} {returned : List (Option LoopRef)}
    (result : pool.step action = some (returned, stepped)) : stepped.Turning := by
  cases action with
  | init baseLoop threadsNum =>
      cases result
      exact turning.init baseLoop threadsNum
  | start =>
      cases result
      exact turning.start
  | getNextLoop =>
      obtain ⟨⟨loop, pool'⟩, called, same⟩ := Option.map_eq_some_iff.mp result
      cases same
      obtain ⟨_, rfl⟩ | ⟨filled, _, rfl⟩ := turning.getNextLoop_cases called
      · exact turning
      · exact turning.turned filled

/-- A step keeps the loops once there are any; only `get_next_loop` moves on. -/
theorem Turning.step_filled {pool stepped : EventLoopThreadPool} (turning : pool.Turning)
    (filled : pool.loops ≠ []) {action : PoolStep} {returned : List (Option LoopRef)}
    (result : pool.step action = some (returned, stepped)) :
    stepped.loops = pool.loops ∧
      (returned = [] ∧ stepped.place = pool.place ∨
        returned = [pool.loops[pool.place]?] ∧
          stepped.place = nextTurn pool.loops.length pool.place) := by
  cases action with
  | init baseLoop threadsNum =>
      cases result
      exact ⟨rfl, .inl ⟨rfl, rfl⟩⟩
  | start =>
      cases result
      have same : pool.start = pool := by
        simp [EventLoopThreadPool.start, turning.started filled]
      rw [same]
      exact ⟨rfl, .inl ⟨rfl, rfl⟩⟩
  | getNextLoop =>
      obtain ⟨⟨loop, pool'⟩, called, same⟩ := Option.map_eq_some_iff.mp result
      cases same
      obtain ⟨empty, _⟩ | ⟨_, rfl, rfl⟩ := turning.getNextLoop_cases called
      · exact absurd empty filled
      · exact ⟨rfl, .inr ⟨rfl, turning.place_turned filled⟩⟩

theorem runSteps_cons_eq_some {pool last : EventLoopThreadPool} {action : PoolStep}
    {rest : List PoolStep} {returned : List (Option LoopRef)}
    (ran : pool.runSteps (action :: rest) = some (returned, last)) :
    ∃ first later stepped, pool.step action = some (first, stepped) ∧
      stepped.runSteps rest = some (later, last) ∧ returned = first ++ later := by
  cases result : pool.step action with
  | none => simp [runSteps, result] at ran
  | some stepped =>
      simp only [runSteps, result, Option.map_eq_some_iff] at ran
      obtain ⟨⟨later, last'⟩, continued, same⟩ := ran
      cases same
      exact ⟨stepped.1, later, stepped.2, rfl, continued, rfl⟩

theorem Turning.runSteps {pool last : EventLoopThreadPool} (turning : pool.Turning)
    {steps : List PoolStep} {returned : List (Option LoopRef)}
    (ran : pool.runSteps steps = some (returned, last)) : last.Turning := by
  induction steps generalizing pool returned with
  | nil =>
      cases ran
      exact turning
  | cons action rest ih =>
      obtain ⟨_, _, _, stepped, continued, _⟩ := runSteps_cons_eq_some ran
      exact ih (turning.step stepped) continued

/-- The calls of a run take the loops in a circle, from the place where the pool stands. -/
theorem Turning.returned_eq {pool last : EventLoopThreadPool} (turning : pool.Turning)
    (filled : pool.loops ≠ []) {steps : List PoolStep} {returned : List (Option LoopRef)}
    (ran : pool.runSteps steps = some (returned, last)) :
    returned =
      (turns pool.loops.length pool.place returned.length).map (pool.loops[·]?) := by
  induction steps generalizing pool returned with
  | nil =>
      cases ran
      rfl
  | cons action rest ih =>
      obtain ⟨first, later, stepped, result, continued, rfl⟩ := runSteps_cons_eq_some ran
      obtain ⟨loops, moved⟩ := turning.step_filled filled result
      have circle := ih (turning.step result) (loops ▸ filled) continued
      rw [loops] at circle
      obtain ⟨rfl, stays⟩ | ⟨rfl, next⟩ := moved
      · rw [stays] at circle
        exact circle
      · rw [next] at circle
        rw [List.singleton_append, List.length_cons, turns_succ, List.map_cons, ← circle]

theorem Turning.loops_kept {pool last : EventLoopThreadPool} (turning : pool.Turning)
    (filled : pool.loops ≠ []) {steps : List PoolStep} {returned : List (Option LoopRef)}
    (ran : pool.runSteps steps = some (returned, last)) : last.loops = pool.loops := by
  induction steps generalizing pool returned with
  | nil =>
      cases ran
      rfl
  | cons action rest ih =>
      obtain ⟨_, _, _, result, continued, _⟩ := runSteps_cons_eq_some ran
      have loops := (turning.step_filled filled result).1
      exact (ih (turning.step result) (loops ▸ filled) continued).trans loops

/-- Every call of `get_next_loop` in a run returned. -/
theorem length_returned {pool last : EventLoopThreadPool} {steps : List PoolStep}
    {returned : List (Option LoopRef)} (ran : pool.runSteps steps = some (returned, last)) :
    returned.length = steps.count .getNextLoop := by
  induction steps generalizing pool returned with
  | nil =>
      cases ran
      rfl
  | cons action rest ih =>
      obtain ⟨first, later, stepped, result, continued, rfl⟩ := runSteps_cons_eq_some ran
      rw [List.length_append, ih continued]
      cases action with
      | init => cases result; simp
      | start => cases result; simp
      | getNextLoop =>
          obtain ⟨_, _, same⟩ := Option.map_eq_some_iff.mp result
          cases same
          rw [List.count_cons_self, List.length_singleton, Nat.add_comm]

theorem Turning.getElem?_loops {pool : EventLoopThreadPool} (turning : pool.Turning)
    {index : Nat} (inside : index < pool.loops.length) :
    pool.loops[index]? = some (.worker pool.cycle index) := by
  have named := congrArg (·[index]?) turning.named
  simpa [inside] using named

theorem Turning.distinct {pool : EventLoopThreadPool} (turning : pool.Turning) :
    pool.loops.Nodup := by
  rw [turning.named]
  exact List.nodup_range.map fun _ _ same => (LoopRef.worker.inj same).2

/-- A loop is returned as often as its place in `loops_` comes up. -/
theorem Turning.count_returned {pool : EventLoopThreadPool} (turning : pool.Turning)
    {index : Nat} (inside : index < pool.loops.length) (rounds : Nat) :
    ((turns pool.loops.length pool.place rounds).map (pool.loops[·]?)).count
        (some pool.loops[index]) =
      (turns pool.loops.length pool.place rounds).count index := by
  have filled : pool.loops ≠ [] := List.ne_nil_of_length_pos (by omega)
  rw [List.count, List.countP_map]
  apply List.countP_congr
  intro turn member
  have within := mem_turns (turning.place_lt filled) member
  simp only [Function.comp_apply, List.getElem?_eq_getElem within, beq_iff_eq,
    Option.some.injEq]
  exact turning.distinct.getElem_inj_iff

/-- Every loop of a pool has its share of the calls, whatever else is called between them. -/
theorem getNextLoop_balanced (cycle : Nat) {before steps : List PoolStep}
    {earlier returned : List (Option LoopRef)} {pool last : EventLoopThreadPool}
    (reached : (new cycle).runSteps before = some (earlier, pool))
    (started : pool.started = true) (filled : 1 ≤ pool.loops.length)
    (ran : pool.runSteps steps = some (returned, last)) :
    (0 ≤ pool.next.toInt ∧ pool.next.toInt < pool.loops.length) ∧
      (pool.baseLoop ≠ none → ∃ loop ∈ pool.loops, ∃ pool',
        pool.getNextLoop = some (some loop, pool')) ∧
      returned.length = steps.count .getNextLoop ∧
      (∀ result ∈ returned, ∃ loop ∈ pool.loops, result = some loop) ∧
      ∀ loop ∈ pool.loops,
        returned.count (some loop) = steps.count .getNextLoop / pool.loops.length ∨
          returned.count (some loop) = steps.count .getNextLoop ⌈/⌉ pool.loops.length := by
  have turning := (turning_new cycle).runSteps reached
  have some : pool.loops ≠ [] := List.ne_nil_of_length_pos filled
  have inside := turning.place_lt some
  have within := turning.within
  have circle := turning.returned_eq some ran
  have calls := length_returned ran
  refine ⟨⟨turning.nonneg, by omega⟩, ?_, calls, ?_, ?_⟩
  · intro based
    refine ⟨pool.loops[pool.place], List.getElem_mem inside, pool.turned, ?_⟩
    rw [turning.getNextLoop_eq based started some, List.getElem?_eq_getElem inside]
  · intro result member
    rw [circle] at member
    obtain ⟨turn, among, rfl⟩ := List.mem_map.mp member
    have within := mem_turns inside among
    exact ⟨pool.loops[turn], List.getElem_mem within, List.getElem?_eq_getElem within⟩
  · intro loop member
    obtain ⟨index, place, rfl⟩ := List.getElem_of_mem member
    rw [circle, turning.count_returned place, calls]
    exact count_turns inside place (steps.count .getNextLoop)

/-- Three loops, and four calls with another `init` between them. -/
theorem getNextLoop_balanced_three :
    ([1, 2, 0, 1].map fun thread => some (LoopRef.worker 1 thread)).count
        (some (.worker 1 1)) = 4 / 3 ∨
      ([1, 2, 0, 1].map fun thread => some (LoopRef.worker 1 thread)).count
        (some (.worker 1 1)) = 4 ⌈/⌉ 3 :=
  (@getNextLoop_balanced 1 [.init (some .baseLoop) 3, .start, .getNextLoop]
    [.getNextLoop, .getNextLoop, .init (some .baseLoop) 5, .getNextLoop, .getNextLoop]
    _ _ _ _ rfl rfl (by decide) rfl).2.2.2.2 (.worker 1 1) (by decide)

/-- The same hash code gives the same loop for as long as the pool lives. -/
theorem getLoopForHash_kept (cycle : Nat) {before steps : List PoolStep}
    {earlier returned : List (Option LoopRef)} {pool last : EventLoopThreadPool}
    (reached : (new cycle).runSteps before = some (earlier, pool)) (filled : pool.loops ≠ [])
    (ran : pool.runSteps steps = some (returned, last))
    (based : pool.baseLoop ≠ none) (stillBased : last.baseLoop ≠ none) (hashCode : UInt64) :
    last.getLoopForHash hashCode = pool.getLoopForHash hashCode ∧
      ∃ loop ∈ pool.loops, pool.getLoopForHash hashCode = some loop := by
  have turning := (turning_new cycle).runSteps reached
  have kept := turning.loops_kept filled ran
  obtain ⟨base, isBase⟩ := Option.ne_none_iff_exists'.mp based
  obtain ⟨later, isLater⟩ := Option.ne_none_iff_exists'.mp stillBased
  have within : hashCode.toNat % pool.loops.length < pool.loops.length :=
    Nat.mod_lt _ (List.length_pos_iff.mpr filled)
  constructor
  · simp [getLoopForHash, isBase, isLater, kept, filled]
  · refine ⟨pool.loops[hashCode.toNat % pool.loops.length], List.getElem_mem within, ?_⟩
    simp [getLoopForHash, isBase, filled, within]

/-!
## The pool of a server
-/

/-- What `TcpServer` keeps of its pool. -/
def toLoopPool (pool : EventLoopThreadPool) : LoopPool where
  loops := pool.loops.length
  next := pool.place

theorem toLoopPool_start (cycle : Nat) (threadsNum : Int32) :
    (((new cycle).init (some .baseLoop) threadsNum).start).toLoopPool =
      ⟨threadsNum.toInt.toNat, 0⟩ := by
  simp [EventLoopThreadPool.start, EventLoopThreadPool.init, new, toLoopPool, place]

/-- The server takes its loops from the pool that its `start` made. -/
theorem Turning.getNextLoop_simulates {pool : EventLoopThreadPool} (turning : pool.Turning)
    (based : pool.baseLoop = some .baseLoop) (started : pool.started = true)
    {server : TcpServer} (own : server.cycle = pool.cycle) :
    ∃ loop pool', pool.getNextLoop = some (some loop, pool') ∧
      server.getNextLoop pool.toLoopPool = (loop, pool'.toLoopPool) := by
  by_cases filled : pool.loops = []
  · refine ⟨.baseLoop, pool, ?_, ?_⟩
    · simp [EventLoopThreadPool.getNextLoop, based, started, filled]
    · simp [TcpServer.getNextLoop, toLoopPool, filled]
  · have inside := turning.place_lt filled
    have called := turning.getNextLoop_eq (by simp [based]) started filled
    rw [turning.getElem?_loops inside] at called
    refine ⟨_, _, called, ?_⟩
    have moved := turning.place_turned filled
    simp [TcpServer.getNextLoop, toLoopPool, filled, own, moved, nextTurn]
    rfl

end EventLoopThreadPool

end Talko.Network
