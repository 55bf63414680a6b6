import Talko.Library.Run

/-!
# Event loops

`EventLoop::loop` with the queue of functors that other threads and the loop's own
callbacks fill. The loop thread moves from place to place, and the calls of
`queue_in_loop`, `run_in_loop` and `quit` can come between any two of its moves; those that
a timer, a channel, a functor or the frame functor makes come while the loop thread stands
at it. `wakeup` is left out: it only ends the poll early, and the poll ends by itself after
`poll_time_ms`.
-/

set_option autoImplicit false

namespace Talko.Network

/-- Where the loop thread stands in `loop`: before the call, at the test of the `while`, in
the parts of the body, or behind the end. -/
inductive LoopPlace where
  | outside
  | testing
  | timers
  | polling
  | handling
  | swapping
  | executing
  | frame
  | returned
  deriving DecidableEq, Repr

/-- The places of an iteration between the test of `quit_` and the swap of the queue. -/
def LoopPlace.beforeSwap : LoopPlace → Bool
  | .timers | .polling | .handling | .swapping => true
  | _ => false

/-- A loop; `functors` is what is left of the vector that `do_other_tasks` works through and
`executed` what it has called so far, `called` what `run_in_loop` has called at once. -/
structure EventLoop (Cb : Type) where
  place : LoopPlace
  quit : Bool
  pendingFunctors : List Cb
  functors : List Cb
  executed : List Cb
  called : List Cb

inductive LoopStep (Cb : Type) where
  | advance
  | queueInLoop (cb : Cb)
  | runInLoop (inLoopThread : Bool) (cb : Cb)
  | quit
  deriving DecidableEq, Repr

namespace EventLoop

variable {Cb : Type}

def new : EventLoop Cb where
  place := .outside
  quit := false
  pendingFunctors := []
  functors := []
  executed := []
  called := []

def queueInLoop (loop : EventLoop Cb) (cb : Cb) : EventLoop Cb :=
  { loop with pendingFunctors := loop.pendingFunctors ++ [cb] }

def runInLoop (loop : EventLoop Cb) (inLoopThread : Bool) (cb : Cb) : EventLoop Cb :=
  if inLoopThread then { loop with called := loop.called ++ [cb] } else loop.queueInLoop cb

def moveTo (loop : EventLoop Cb) (place : LoopPlace) : EventLoop Cb :=
  { loop with place := place }

/-- The swap of `do_other_tasks` with a new vector, under the lock of the queue. -/
def swapFunctors (loop : EventLoop Cb) : EventLoop Cb :=
  { loop with functors := loop.pendingFunctors, pendingFunctors := [] }

/-- The `for` of `do_other_tasks`: it calls the next functor or finds the end. -/
def executeFunctor (loop : EventLoop Cb) : EventLoop Cb :=
  match loop.functors with
  | [] => loop.moveTo .frame
  | cb :: rest => { loop with functors := rest, executed := loop.executed ++ [cb] }

/-- The next move of the loop thread. -/
def advance (loop : EventLoop Cb) : EventLoop Cb :=
  match loop.place with
  | .outside => { loop with quit := false, place := .testing }
  | .testing => if loop.quit then loop.moveTo .returned else loop.moveTo .timers
  | .timers => loop.moveTo .polling
  | .polling => loop.moveTo .handling
  | .handling => loop.moveTo .swapping
  | .swapping => loop.swapFunctors.moveTo .executing
  | .executing => loop.executeFunctor
  | .frame => loop.moveTo .testing
  | .returned => loop

def step (loop : EventLoop Cb) : LoopStep Cb → EventLoop Cb
  | .advance => loop.advance
  | .queueInLoop cb => loop.queueInLoop cb
  | .runInLoop inLoopThread cb => loop.runInLoop inLoopThread cb
  | .quit => { loop with quit := true }

end EventLoop

/-- The functor that a step puts into the queue. -/
def LoopStep.queued {Cb : Type} : LoopStep Cb → Option Cb
  | .queueInLoop cb => some cb
  | .runInLoop false cb => some cb
  | _ => none

/-- The functors that the steps of a run queue, in the order in which they do. -/
def queuedFunctors {Cb : Type} (actions : List (LoopStep Cb)) : List Cb :=
  actions.filterMap LoopStep.queued

def LoopStep.isMove {Cb : Type} : LoopStep Cb → Bool
  | .advance => true
  | _ => false

/-- The number of moves the loop thread makes in a run. -/
def moves {Cb : Type} (actions : List (LoopStep Cb)) : Nat :=
  actions.countP LoopStep.isMove

end Talko.Network
