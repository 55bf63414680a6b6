import Mathlib.Logic.Function.Basic
import Mathlib.Data.Prod.Lex
import Talko.Library.OrderedSet

/-!
# Timers and the timer queue

`Timer` of `timer.cpp` and `TimerQueue` of `timer_queue.cpp`. A `Timer*` is an address;
the queue never deletes a timer before it is destructed itself, so the objects behind
the addresses stay. Times are `int64_t` values, in microseconds. Every edit is executed by the loop
thread: one that another thread asks for is executed later, as the same step.
-/

set_option autoImplicit false

namespace Talko.Network

open Talko.Library

/-- A `Timer*`; `nullptr` is `0`. -/
abbrev TimerAddress := Nat

structure Timer (Callback : Type) where
  callback : Callback
  expiration : Int64
  interval : Int64
  repeatCount : Int64
  sequence : Int64
  canceled : Bool
  deriving DecidableEq, Repr

namespace Timer

variable {Callback : Type}

def new (callback : Callback) (when interval repeatCount sequence : Int64) : Timer Callback where
  callback := callback
  expiration := when
  interval := interval
  repeatCount := repeatCount
  sequence := sequence
  canceled := false

def cancel (off : Bool) (timer : Timer Callback) : Timer Callback :=
  { timer with canceled := off }

/-- `Timer::run` from the return of the callback on. -/
def afterCallback (timer : Timer Callback) : Timer Callback :=
  if timer.repeatCount ≠ -1 then
    if timer.repeatCount - 1 = 0 then
      { timer with repeatCount := timer.repeatCount - 1 }
    else
      { timer with
        repeatCount := timer.repeatCount - 1
        expiration := timer.expiration + timer.interval }
  else
    { timer with expiration := timer.expiration + timer.interval }

end Timer

structure TimerEntry where
  when : Int64
  timer : TimerAddress
  deriving DecidableEq, Repr

namespace TimerEntry

def key (entry : TimerEntry) : Int ×ₗ Nat :=
  toLex (entry.when.toInt, entry.timer)

theorem key_injective : Function.Injective key := by
  intro left right same
  cases left
  cases right
  simpa [key, Int64.toInt_inj] using same

instance : LinearOrder TimerEntry :=
  LinearOrder.lift' key key_injective

end TimerEntry

structure TimerId where
  timer : TimerAddress
  sequence : Int64
  deriving DecidableEq, Repr

/-- The queue with the timer objects and `Timer::created_num_`. -/
structure TimerQueue (Callback : Type) where
  objects : TimerAddress → Option (Timer Callback)
  createdNum : Int64
  timers : List TimerEntry

/-- What a caller, or the callback of a timer, asks of the queue. `new` puts the object
at the address. -/
inductive TimerEdit (Callback : Type) where
  | addTimer (address : TimerAddress) (callback : Callback) (when interval repeatCount : Int64)
  | addTimerMoved (address : TimerAddress) (callback : Callback) (when interval repeatCount : Int64)
  | removeTimer (timerId : TimerId)
  | cancel (timerId : TimerId) (off : Bool)
  deriving DecidableEq, Repr

/-- How the loop of `do_timer` ends. `invalid` is an iterator that is used after its
element was erased, `unfinished` a pass whose next iteration is not given. `invoked`
are the timers whose callbacks ran, in their order. -/
inductive TimerPass (Callback : Type) where
  | done (queue : TimerQueue Callback) (invoked : List (TimerAddress × Callback))
  | invalid
  | unfinished

namespace TimerQueue

variable {Callback : Type}

def empty : TimerQueue Callback where
  objects := fun _ => none
  createdNum := 0
  timers := []

def insert (queue : TimerQueue Callback) (address : TimerAddress) : TimerQueue Callback :=
  match queue.objects address with
  | some timer =>
      { queue with timers := orderedSetInsert ⟨timer.expiration, address⟩ queue.timers }
  | none => queue

def addTimerInLoop (queue : TimerQueue Callback) (address : TimerAddress) :
    TimerQueue Callback :=
  queue.insert address

def newTimer (queue : TimerQueue Callback) (address : TimerAddress) (callback : Callback)
    (when interval repeatCount : Int64) : TimerQueue Callback :=
  { queue with
    objects := Function.update queue.objects address
      (some (Timer.new callback when interval repeatCount (queue.createdNum + 1)))
    createdNum := queue.createdNum + 1 }

/-- The overload of `add_timer` for an lvalue: it gives the constructor no count, and the
constructor's own default is `-1`. -/
def addTimer (queue : TimerQueue Callback) (address : TimerAddress) (callback : Callback)
    (when interval _repeatCount : Int64) : TimerQueue Callback × TimerId :=
  ((queue.newTimer address callback when interval (-1)).addTimerInLoop address,
    ⟨address, queue.createdNum + 1⟩)

def addTimerMoved (queue : TimerQueue Callback) (address : TimerAddress) (callback : Callback)
    (when interval repeatCount : Int64) : TimerQueue Callback × TimerId :=
  ((queue.newTimer address callback when interval repeatCount).addTimerInLoop address,
    ⟨address, queue.createdNum + 1⟩)

def removeTimerInLoop (queue : TimerQueue Callback) (timerId : TimerId) : TimerQueue Callback :=
  { queue with timers := queue.timers.eraseP (·.timer = timerId.timer) }

def modifyTimer (queue : TimerQueue Callback) (address : TimerAddress)
    (change : Timer Callback → Timer Callback) : TimerQueue Callback :=
  { queue with
    objects := Function.update queue.objects address ((queue.objects address).map change) }

def cancelTimerInLoop (queue : TimerQueue Callback) (timerId : TimerId) (off : Bool) :
    TimerQueue Callback :=
  if queue.timers.any (·.timer = timerId.timer) then
    queue.modifyTimer timerId.timer (Timer.cancel off)
  else queue

/-- `new` returns the address of no object that is still there. -/
def IsFree (queue : TimerQueue Callback) (address : TimerAddress) : Prop :=
  address ≠ 0 ∧ queue.objects address = none

instance (queue : TimerQueue Callback) (address : TimerAddress) :
    Decidable (queue.IsFree address) :=
  have : Decidable (queue.objects address = none) :=
    decidable_of_iff _ Option.isNone_iff_eq_none
  inferInstanceAs (Decidable (address ≠ 0 ∧ queue.objects address = none))

def edit (queue : TimerQueue Callback) : TimerEdit Callback → TimerQueue Callback
  | .addTimer address callback when interval repeatCount =>
      if queue.IsFree address then
        (queue.addTimer address callback when interval repeatCount).1
      else queue
  | .addTimerMoved address callback when interval repeatCount =>
      if queue.IsFree address then
        (queue.addTimerMoved address callback when interval repeatCount).1
      else queue
  | .removeTimer timerId => queue.removeTimerInLoop timerId
  | .cancel timerId off => queue.cancelTimerInLoop timerId off

/-- `Timer::run` on the object at the address. The edits are what its callback asks of
the queue if it is invoked. -/
def runTimer (queue : TimerQueue Callback) (address : TimerAddress) (timer : Timer Callback)
    (edits : List (TimerEdit Callback)) :
    TimerQueue Callback × List (TimerAddress × Callback) :=
  if timer.canceled then (queue, [])
  else
    ((edits.foldl edit queue).modifyTimer address Timer.afterCallback,
      [(address, timer.callback)])

def repeatCount (queue : TimerQueue Callback) (address : TimerAddress) : Option Int64 :=
  (queue.objects address).map Timer.repeatCount

/-- The loop of `do_timer` from `iter` on. The script has, for each iteration, the edits
that the callback makes if the iteration invokes one. -/
def doTimerLoop (now : Int64) (queue : TimerQueue Callback) (iter : Option TimerEntry)
    (invoked : List (TimerAddress × Callback)) :
    List (List (TimerEdit Callback)) → TimerPass Callback
  | [] => .unfinished
  | edits :: script =>
      match iter with
      | none => .done queue invoked
      | some entry =>
          match queue.objects entry.timer with
          | none => .invalid
          | some timer =>
              if timer.expiration ≤ now then
                let ran := queue.runTimer entry.timer timer edits
                if entry ∈ ran.1.timers then
                  let next := orderedSetNext ran.1.timers entry
                  if ran.1.repeatCount entry.timer = some 0 then
                    doTimerLoop now { ran.1 with timers := ran.1.timers.erase entry } next
                      (invoked ++ ran.2) script
                  else doTimerLoop now ran.1 next (invoked ++ ran.2) script
                else .invalid
              else .done queue invoked

def doTimer (queue : TimerQueue Callback) (now : Int64)
    (script : List (List (TimerEdit Callback))) : TimerPass Callback :=
  doTimerLoop now queue queue.timers.head? [] script

/-- A queue that calls and passes lead to. The callbacks of a pass may edit the queue; a
pass counts once its loop has ended. -/
inductive Reachable : TimerQueue Callback → Prop where
  | empty : Reachable empty
  | edit {queue : TimerQueue Callback} (change : TimerEdit Callback) :
      Reachable queue → Reachable (queue.edit change)
  | pass {queue after : TimerQueue Callback} {invoked : List (TimerAddress × Callback)}
      (now : Int64) (script : List (List (TimerEdit Callback))) :
      Reachable queue → queue.doTimer now script = .done after invoked → Reachable after

end TimerQueue

end Talko.Network
