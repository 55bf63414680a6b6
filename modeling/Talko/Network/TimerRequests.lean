import Talko.Network.EventLoop
import Talko.Network.EventLoopTimers

/-!
# Timers that several threads ask for

`add_timer`, `remove_timer` and `cancel` of the timer queue end in `run_in_loop`. The loop
thread edits `timers_` at once; the call of another thread leaves a functor in
`pending_functors_`, and the loop thread executes it in a later `do_other_tasks`. Between its
`new Timer` and its `run_in_loop`, an `add_timer` of another thread has handed its id to nobody.
`quit` is left out: it only cuts a run short.
-/

set_option autoImplicit false

namespace Talko.Network

open Talko.Library

/-- A functor of another thread's call; `unrelated` is one that has no timer in it. -/
inductive TimerRequest where
  | addTimerInLoop (address : TimerAddress)
  | removeTimerInLoop (timerId : TimerId)
  | cancelTimerInLoop (timerId : TimerId) (off : Bool)
  | unrelated
  deriving DecidableEq, Repr

namespace TimerRequest

/-- The timer that the functor is bound to. -/
def timer? : TimerRequest → Option TimerAddress
  | .addTimerInLoop address => some address
  | .removeTimerInLoop timerId => some timerId.timer
  | .cancelTimerInLoop timerId _ => some timerId.timer
  | .unrelated => none

def removes (address : TimerAddress) : TimerRequest → Bool
  | .removeTimerInLoop timerId => timerId.timer = address
  | _ => false

def perform {Callback : Type} (queue : TimerQueue Callback) : TimerRequest → TimerQueue Callback
  | .addTimerInLoop address => queue.addTimerInLoop address
  | .removeTimerInLoop timerId => queue.removeTimerInLoop timerId
  | .cancelTimerInLoop timerId off => queue.cancelTimerInLoop timerId off
  | .unrelated => queue

end TimerRequest

/-- The places at which the loop thread runs code of its user: before `loop`, in a channel's
callback, in a functor and in the frame functor. The callbacks of timers come with the steps of
`do_timer`. -/
def LoopPlace.callsOut : LoopPlace → Bool
  | .outside | .handling | .executing | .frame => true
  | _ => false

/-- The loop with its timers; `made` are the timers of the `add_timer` calls of other threads
that stand between `new Timer` and `run_in_loop`. -/
structure SharedTimers (Callback : Type) where
  loop : EventLoop TimerRequest
  timers : TimerLoop Callback
  made : List TimerAddress

/-- The first five are steps of other threads, the rest those of the loop thread. -/
inductive SharedTimerStep (Callback : Type) where
  | newTimer (overload : CallbackOverload) (address : TimerAddress) (callback : Callback)
      (when interval repeatCount : Int64)
  | addTimer (address : TimerAddress)
  | removeTimer (timerId : TimerId)
  | cancel (timerId : TimerId) (off : Bool)
  | queueInLoop
  | inLoop (change : TimerEdit Callback)
  | advance
  | doTimer (now : Int64)
  | iterate (edits : List (TimerEdit Callback))
  deriving DecidableEq, Repr

namespace SharedTimers

variable {Callback : Type}

def new : SharedTimers Callback where
  loop := .new
  timers := .empty
  made := []

/-- A caller has the id of the timer. -/
def HandedOut (shared : SharedTimers Callback) (address : TimerAddress) : Prop :=
  (shared.timers.queue.objects address).isSome ∧ address ∉ shared.made

instance (shared : SharedTimers Callback) (address : TimerAddress) :
    Decidable (shared.HandedOut address) :=
  inferInstanceAs (Decidable (_ ∧ _))

def queue (shared : SharedTimers Callback) (request : TimerRequest) : SharedTimers Callback :=
  { shared with loop := shared.loop.queueInLoop request }

def setQueue (shared : SharedTimers Callback) (timers : TimerQueue Callback) :
    SharedTimers Callback :=
  { shared with timers := { shared.timers with queue := timers } }

/-- The constructor that each overload of `add_timer` calls, up to the `run_in_loop`. -/
def newTimer (shared : SharedTimers Callback) (overload : CallbackOverload)
    (address : TimerAddress) (callback : Callback) (when interval repeatCount : Int64) :
    SharedTimers Callback :=
  let count := match overload with
    | .constReference => -1
    | .rvalue => repeatCount
  { shared.setQueue (shared.timers.queue.newTimer address callback when interval count) with
    made := address :: shared.made }

/-- The functor that the next move of the loop thread executes. -/
def nextRequest (shared : SharedTimers Callback) : Option TimerRequest :=
  if shared.loop.place = .executing then shared.loop.functors.head? else none

/-- A move of the loop thread outside `do_timer`. -/
def advance (shared : SharedTimers Callback) : SharedTimers Callback :=
  if shared.loop.place = .timers then shared
  else
    match shared.nextRequest with
    | some request =>
        { shared.setQueue (request.perform shared.timers.queue) with loop := shared.loop.advance }
    | none => { shared with loop := shared.loop.advance }

/-- An iteration of `do_timer`; at the end of its loop `do_timer` returns. -/
def iterate (shared : SharedTimers Callback) (edits : List (TimerEdit Callback)) :
    SharedTimers Callback :=
  let timers := shared.timers.iterate edits
  { shared with
    timers := timers
    loop :=
      if shared.timers.place ≠ .outside ∧ timers.place = .outside then shared.loop.advance
      else shared.loop }

def step (shared : SharedTimers Callback) : SharedTimerStep Callback → SharedTimers Callback
  | .newTimer overload address callback when interval repeatCount =>
      if shared.timers.queue.IsFree address then
        shared.newTimer overload address callback when interval repeatCount
      else shared
  | .addTimer address =>
      if address ∈ shared.made then
        { shared.queue (.addTimerInLoop address) with made := shared.made.erase address }
      else shared
  | .removeTimer timerId =>
      if shared.HandedOut timerId.timer then shared.queue (.removeTimerInLoop timerId) else shared
  | .cancel timerId off =>
      if shared.HandedOut timerId.timer then shared.queue (.cancelTimerInLoop timerId off)
      else shared
  | .queueInLoop => shared.queue .unrelated
  | .inLoop change =>
      if shared.loop.place.callsOut then
        { shared with timers := shared.timers.step (.edit change) }
      else shared
  | .advance => shared.advance
  | .doTimer now =>
      if shared.loop.place = .timers then
        { shared with timers := shared.timers.step (.doTimer now) }
      else shared
  | .iterate edits => shared.iterate edits

end SharedTimers

end Talko.Network
