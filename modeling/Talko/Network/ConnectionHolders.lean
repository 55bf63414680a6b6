import Mathlib.Data.List.Basic
import Talko.Network.EventLoopProperties

/-!
# Who keeps a connection

The shared pointers to a connection behind `new_conn`: the one of `conn_map_`, those of the
threads inside its members (a session locks its `weak_ptr`, the loop thread holds one during a
callback), those bound into functors. `send` and `shutdown` of another thread bind `this` alone.
The vector of `do_other_tasks` lives to the end of the pass, with the functors already called in
it.
-/

set_option autoImplicit false

namespace Talko.Network

/-- What the loop of a connection is given for it. -/
inductive ConnFunctor where
  | connEstablished
  | connDestroyed
  | forceCloseInLoop
  | writeComplete
  | highWaterMark
  | sendInLoop
  | shutdownInLoop
  deriving DecidableEq, Repr

/-- A shared pointer is bound into the functor; the others hold `this`. -/
def ConnFunctor.holds : ConnFunctor → Bool
  | .sendInLoop | .shutdownInLoop => false
  | _ => true

/-- `mapped` says that `conn_map_` holds the connection, `callers` counts the threads that do,
`removals` the calls of `remove_conn_in_loop` in the loop of the server. `batch` is the vector of
the pass under way. -/
structure ConnHolders where
  loop : EventLoop ConnFunctor
  batch : List ConnFunctor
  mapped : Bool
  callers : Nat
  removals : Nat

namespace ConnHolders

/-- Behind `new_conn`, wherever the loop thread stands. -/
def accepted (place : LoopPlace) (pendingFunctors : List ConnFunctor) : ConnHolders where
  loop := { EventLoop.new with place := place, pendingFunctors := pendingFunctors }
  batch := []
  mapped := true
  callers := 0
  removals := 0

/-- A functor that waits keeps the connection. -/
def pendingHolds (conn : ConnHolders) : Bool :=
  conn.loop.pendingFunctors.any ConnFunctor.holds

def batchHolds (conn : ConnHolders) : Bool :=
  conn.batch.any ConnFunctor.holds

/-- Some shared pointer is left. -/
def alive (conn : ConnHolders) : Bool :=
  conn.mapped || 0 < conn.callers || 0 < conn.removals || conn.pendingHolds || conn.batchHolds

def queueInLoop (conn : ConnHolders) (functor : ConnFunctor) : ConnHolders :=
  { conn with loop := conn.loop.queueInLoop functor }

/-- `erase` or `reset` of the entry in `conn_map_`, and the functor `conn_destroyed`. -/
def unmap (conn : ConnHolders) : ConnHolders :=
  if conn.mapped then ({ conn with mapped := false }).queueInLoop .connDestroyed else conn

/-- The loop of the server comes to a call of `remove_conn_in_loop`. -/
def runRemoval (conn : ConnHolders) : ConnHolders :=
  if conn.removals = 0 then conn else { conn.unmap with removals := conn.removals - 1 }

def release (conn : ConnHolders) : ConnHolders :=
  { conn with callers := conn.callers - 1 }

def quit (conn : ConnHolders) : ConnHolders :=
  { conn with loop := conn.loop.step .quit }

/-- The loop thread moves. -/
def advance (conn : ConnHolders) : ConnHolders :=
  let moved := { conn with loop := conn.loop.advance }
  match conn.loop.place with
  | .swapping => { moved with batch := conn.loop.pendingFunctors }
  | .executing => if conn.loop.functors = [] then { moved with batch := [] } else moved
  | _ => moved

/-!
## The pointers
-/

theorem pendingHolds_of_mem {conn : ConnHolders} {functor : ConnFunctor}
    (member : functor ∈ conn.loop.pendingFunctors) (holds : functor.holds = true) :
    conn.pendingHolds = true :=
  List.any_eq_true.mpr ⟨functor, member, holds⟩

theorem alive_of_pending {conn : ConnHolders} (holds : conn.pendingHolds = true) :
    conn.alive = true := by
  simp [alive, holds]

theorem alive_of_batch {conn : ConnHolders} (holds : conn.batchHolds = true) :
    conn.alive = true := by
  simp [alive, holds]

theorem alive_of_mapped {conn : ConnHolders} (mapped : conn.mapped = true) :
    conn.alive = true := by
  simp [alive, mapped]

@[simp] theorem pendingHolds_queueInLoop (conn : ConnHolders) (functor : ConnFunctor) :
    (conn.queueInLoop functor).pendingHolds = (conn.pendingHolds || functor.holds) := by
  simp [pendingHolds, queueInLoop, EventLoop.queueInLoop]

/-!
## The loop thread
-/

/-- The vector of `do_other_tasks` behind its first functor. -/
def popped (conn : ConnHolders) (functor : ConnFunctor) (rest : List ConnFunctor) : ConnHolders :=
  { conn with loop := { conn.loop with
      functors := rest
      executed := conn.loop.executed ++ [functor] } }

def swapped (conn : ConnHolders) : ConnHolders :=
  { conn with
    loop := conn.loop.swapFunctors.moveTo .executing
    batch := conn.loop.pendingFunctors }

/-- The vector is freed. -/
def passEnded (conn : ConnHolders) : ConnHolders :=
  { conn with loop := conn.loop.moveTo .frame, batch := [] }

theorem advance_swapping {conn : ConnHolders} (here : conn.loop.place = .swapping) :
    conn.advance = conn.swapped := by
  simp [advance, EventLoop.advance, swapped, here]

theorem advance_end {conn : ConnHolders} (here : conn.loop.place = .executing)
    (done : conn.loop.functors = []) : conn.advance = conn.passEnded := by
  simp [advance, EventLoop.advance, EventLoop.executeFunctor, passEnded, here, done]

theorem advance_call {conn : ConnHolders} (here : conn.loop.place = .executing)
    {functor : ConnFunctor} {rest : List ConnFunctor}
    (front : conn.loop.functors = functor :: rest) :
    conn.advance = conn.popped functor rest := by
  simp [advance, EventLoop.advance, EventLoop.executeFunctor, popped, here, front]

/-- A move that meets neither the queue nor the vector. -/
structure Passes (before after : EventLoop ConnFunctor) : Prop where
  pendingFunctors : after.pendingFunctors = before.pendingFunctors
  functors : after.functors = before.functors
  executed : after.executed = before.executed
  elsewhere : after.place ≠ .executing

theorem advance_passes (conn : ConnHolders) (idle : conn.loop.place ≠ .executing)
    (unswapped : conn.loop.place ≠ .swapping) :
    conn.advance = { conn with loop := conn.loop.advance } ∧
      Passes conn.loop conn.loop.advance := by
  cases here : conn.loop.place with
  | executing => exact absurd here idle
  | swapping => exact absurd here unswapped
  | testing =>
      unfold advance EventLoop.advance
      rw [here]
      refine ⟨rfl, ?_⟩
      dsimp only
      split
      · exact ⟨rfl, rfl, rfl, nofun⟩
      · exact ⟨rfl, rfl, rfl, nofun⟩
  | returned =>
      unfold advance EventLoop.advance
      rw [here]
      exact ⟨rfl, rfl, rfl, rfl, by rw [here]; nofun⟩
  | outside | timers | polling | handling | frame =>
      unfold advance EventLoop.advance
      rw [here]
      exact ⟨rfl, rfl, rfl, rfl, nofun⟩

/-- Between two passes the vector is gone. -/
def Between (conn : ConnHolders) : Prop :=
  conn.loop.place ≠ .executing → conn.loop.functors = [] ∧ conn.batch = []

end ConnHolders

end Talko.Network
