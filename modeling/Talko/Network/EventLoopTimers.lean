import Talko.Network.TimerLoopPasses

/-!
# The timer members of the event loop

`run_at`, `run_after` and `run_every`, each with an overload for an lvalue callback and one for
an rvalue. `run_at` and `run_after` ask for one call. The lvalue overload of `add_timer` does
not pass the count on, so the timer it makes repeats for ever.
-/

set_option autoImplicit false

namespace Talko.Network

open Talko.Library

inductive CallbackOverload where
  | constReference
  | rvalue
  deriving DecidableEq, Repr

inductive TimerCall where
  | runAt (time : Int64)
  | runAfter (delay : Int64)
  | runEvery (interval : Int64)
  deriving DecidableEq, Repr

namespace TimerCall

variable {Callback : Type}

def addTimer (overload : CallbackOverload) (address : TimerAddress) (callback : Callback)
    (when interval repeatCount : Int64) : TimerEdit Callback :=
  match overload with
  | .constReference => .addTimer address callback when interval repeatCount
  | .rvalue => .addTimerMoved address callback when interval repeatCount

def addTime (timestamp microseconds : Int64) : Int64 :=
  timestamp + microseconds

/-- The timer that a call asks for; `now` is what `Timestamp::now` gives it. -/
def edit (overload : CallbackOverload) (address : TimerAddress) (callback : Callback)
    (now : Int64) : TimerCall → TimerEdit Callback
  | .runAt time => addTimer overload address callback time 0 1
  | .runAfter delay => addTimer overload address callback (addTime now delay) 0 1
  | .runEvery interval => addTimer overload address callback (addTime now interval) interval (-1)

/-- The call asks for one invocation. -/
def OneShot : TimerCall → Prop
  | .runAt _ | .runAfter _ => True
  | .runEvery _ => False

theorem edit_oneShot {call : TimerCall} (oneShot : call.OneShot) (now : Int64) :
    ∃ when, ∀ overload (address : TimerAddress) (callback : Callback),
      call.edit overload address callback now = addTimer overload address callback when 0 1 := by
  cases call with
  | runAt time => exact ⟨time, fun _ _ _ => rfl⟩
  | runAfter delay => exact ⟨addTime now delay, fun _ _ _ => rfl⟩
  | runEvery interval => exact oneShot.elim

end TimerCall

/-!
## Where a call is made
-/

/-- The loop thread makes the edit of a call between two passes, or in the callback of the timer
at `iter` when that has made the edits `first`. -/
inductive CallSite (Callback : Type) where
  | between
  | within (first : List (TimerEdit Callback))
  deriving DecidableEq, Repr

namespace CallSite

variable {Callback : Type}

/-- The queue that the call finds. -/
def queue (loop : TimerLoop Callback) : CallSite Callback → TimerQueue Callback
  | .between => loop.queue
  | .within first => first.foldl TimerQueue.edit loop.queue

/-- The step with the call in it; `rest` is what the callback does behind the call. -/
def action (change : TimerEdit Callback) (rest : List (TimerEdit Callback)) :
    CallSite Callback → TimerStep Callback
  | .between => .edit change
  | .within first => .iterate (first ++ change :: rest)

/-- The loop thread comes to the call. Behind a callback that removes its own timer nothing is
defined, so the edits before the call are without that. -/
def Reached (loop : TimerLoop Callback) : CallSite Callback → Prop
  | .between => loop.place = .outside
  | .within first => ∃ now entry timer, loop.place = .walking now (some entry) ∧
      loop.queue.objects entry.timer = some timer ∧ timer.expiration ≤ now ∧
      timer.canceled = false ∧ ∀ change ∈ first, TimerQueue.removes entry.timer change = false

theorem absent {loop : TimerLoop Callback} {site : CallSite Callback} {address : TimerAddress}
    (free : (site.queue loop).IsFree address) : loop.queue.objects address = none := by
  cases site with
  | between => exact free.2
  | within first =>
      refine Option.eq_none_iff_forall_ne_some.mpr fun timer found => ?_
      obtain ⟨canceled, found'⟩ :=
        (TimerQueue.edits_frame loop.queue first).objects address timer found
      cases free.2.symm.trans found'

theorem ne_of_found {loop : TimerLoop Callback} {site : CallSite Callback}
    {address other : TimerAddress} (free : (site.queue loop).IsFree address)
    {timer : Timer Callback} (found : loop.queue.objects other = some timer) : address ≠ other := by
  rintro rfl
  cases (absent free).symm.trans found

/-- The timer that the edit of a call makes. -/
theorem addTimer_makes {queue : TimerQueue Callback} {address : TimerAddress}
    (free : queue.IsFree address) (overload : CallbackOverload) (callback : Callback)
    (when interval repeatCount : Int64) :
    (queue.edit (TimerCall.addTimer overload address callback when interval
      repeatCount)).objects address = some (Timer.new callback when interval
        (if overload = .rvalue then repeatCount else -1) (queue.createdNum + 1)) ∧
      (⟨when, address⟩ : TimerEntry) ∈ (queue.edit (TimerCall.addTimer overload address callback
        when interval repeatCount)).timers := by
  cases overload with
  | constReference =>
      simp [TimerCall.addTimer, TimerQueue.edit, free, TimerQueue.addTimer,
        TimerQueue.addTimerInLoop, TimerQueue.insert, TimerQueue.newTimer, Timer.new,
        mem_orderedSetInsert]
  | rvalue =>
      simp [TimerCall.addTimer, TimerQueue.edit, free, TimerQueue.addTimerMoved,
        TimerQueue.addTimerInLoop, TimerQueue.insert, TimerQueue.newTimer, Timer.new,
        mem_orderedSetInsert]

theorem addTimer_removes (overload : CallbackOverload) (address other : TimerAddress)
    (callback : Callback) (when interval repeatCount : Int64) :
    TimerQueue.removes other (TimerCall.addTimer overload address callback when interval
      repeatCount) = false := by
  cases overload with
  | constReference => rfl
  | rvalue => rfl

/-- What a step does to the timers that its callback adds, but for their `canceled_`. -/
theorem step_objects {loop : TimerLoop Callback} (stands : loop.Stands)
    {site : CallSite Callback} (reached : site.Reached loop) {address : TimerAddress}
    (free : (site.queue loop).IsFree address) (change : TimerEdit Callback)
    (rest : List (TimerEdit Callback)) {timer : Timer Callback}
    (made : ((site.queue loop).edit change).objects address = some timer) :
    ∃ canceled, (loop.step (site.action change rest)).queue.objects address =
      some { timer with canceled := canceled } := by
  cases site with
  | between =>
      have outside : loop.place = .outside := reached
      refine ⟨timer.canceled, ?_⟩
      simp only [action, TimerLoop.step, outside, if_true]
      exact made
  | within first =>
      obtain ⟨now, entry, current, place, found, due, runs, -⟩ := reached
      have different := ne_of_found free found
      have ran := stands.formed.runTimer entry.timer current (first ++ change :: rest)
      have advanced := loop.advance_advanced now entry ran
      obtain ⟨canceled, found'⟩ := (TimerQueue.edits_frame _ rest).objects address timer made
      refine ⟨canceled, ?_⟩
      rw [action, TimerLoop.step_iterate_of_due place found due, advanced.objects,
        TimerQueue.runTimer, if_neg (by simp [runs])]
      rw [TimerQueue.modifyTimer_objects_of_ne _ _ different, List.foldl_append, List.foldl_cons]
      exact found'

/-- Edits that do the same to every queue make the same step. -/
theorem step_congr {change other : TimerEdit Callback}
    (same : ∀ queue : TimerQueue Callback, queue.edit change = queue.edit other)
    (loop : TimerLoop Callback) (site : CallSite Callback) (rest : List (TimerEdit Callback)) :
    loop.step (site.action change rest) = loop.step (site.action other rest) := by
  cases site with
  | between => simp only [action, TimerLoop.step, same]
  | within first =>
      simp only [action, TimerLoop.step, TimerLoop.iterate, TimerQueue.runTimer, List.foldl_append,
        List.foldl_cons, same]

/-- A call in the overload for an lvalue, with nothing behind it in its callback, leaves a timer
without a count in `timers_`, and the pass goes on. -/
theorem constReference_endless {loop : TimerLoop Callback} (stands : loop.Stands)
    {site : CallSite Callback} (reached : site.Reached loop) {address : TimerAddress}
    (free : (site.queue loop).IsFree address) (callback : Callback)
    (when interval repeatCount : Int64) :
    let after := loop.step (site.action (TimerCall.addTimer .constReference address callback when
      interval repeatCount) [])
    (∃ timer, after.queue.objects address = some timer ∧ timer.repeatCount = -1) ∧
      (∃ entry ∈ after.queue.timers, entry.timer = address) ∧ after.place ≠ .broken := by
  obtain ⟨made, listed⟩ := addTimer_makes free .constReference callback when interval repeatCount
  have keeps : ∀ other, TimerQueue.removes other (TimerCall.addTimer .constReference address
      callback when interval repeatCount) = false :=
    fun other => addTimer_removes .constReference address other callback when interval repeatCount
  generalize TimerCall.addTimer .constReference address callback when interval repeatCount =
    change at made listed keeps ⊢
  cases site with
  | between =>
      have outside : loop.place = .outside := reached
      simp only [action, TimerLoop.step, outside, if_true]
      refine ⟨⟨_, made, rfl⟩, ⟨_, listed, rfl⟩, fun broken => ?_⟩
      cases broken
  | within first =>
      obtain ⟨now, entry, current, place, found, due, runs, others⟩ := reached
      have different := ne_of_found free found
      have still : entry ∈ (loop.queue.runTimer entry.timer current (first ++ [change])).1.timers := by
        refine (TimerLoop.mem_runTimer_iff stands.formed (stands.inside now entry place) current
          _).mpr fun _ other member => ?_
        obtain before | last := List.mem_append.mp member
        · exact others other before
        · rw [List.mem_singleton.mp last]
          exact keeps entry.timer
      have ran : (loop.queue.runTimer entry.timer current (first ++ [change])).1 =
          (((CallSite.within first).queue loop).edit change).modifyTimer entry.timer
            Timer.afterCallback := by
        rw [TimerQueue.runTimer, if_neg (by simp [runs]), List.foldl_append]
        rfl
      have inside : (⟨when, address⟩ : TimerEntry) ∈
          (loop.queue.runTimer entry.timer current (first ++ [change])).1.timers := by
        rw [ran]
        exact listed
      have object : (loop.queue.runTimer entry.timer current (first ++ [change])).1.objects address =
          some (Timer.new callback when interval (-1)
            (((CallSite.within first).queue loop).createdNum + 1)) := by
        rw [ran, TimerQueue.modifyTimer_objects_of_ne _ _ different]
        exact made
      rw [action, TimerLoop.step_iterate_of_due place found due,
        TimerLoop.advance_of_mem loop now still]
      refine ⟨?_, ⟨_, TimerLoop.retire_keeps inside ?_, rfl⟩, fun broken => ?_⟩
      · rw [← TimerQueue.retire_objects _ entry] at object
        exact ⟨_, object, rfl⟩
      · intro equal
        exact absurd (congrArg TimerEntry.timer equal) different
      · cases broken

end CallSite

namespace TimerLoop

variable {Callback : Type}

/-!
## The overloads
-/

/-- The loop after a call, with what its callback still does, and all that comes later. -/
def afterCall (loop : TimerLoop Callback) (site : CallSite Callback) (call : TimerCall)
    (overload : CallbackOverload) (address : TimerAddress) (callback : Callback) (now : Int64)
    (rest : List (TimerEdit Callback)) (later : List (TimerStep Callback)) : TimerLoop Callback :=
  run step (loop.step (site.action (call.edit overload address callback now) rest)) later

section

variable {before : List (TimerStep Callback)} {site : CallSite Callback} {address : TimerAddress}
  {call : TimerCall}

/-- A one-shot timer of the rvalue overload is called at most once. -/
theorem rvalue_at_most_once (reached : site.Reached (run step empty before))
    (free : (site.queue (run step empty before)).IsFree address) (oneShot : call.OneShot)
    (callback : Callback) (now : Int64) (rest : List (TimerEdit Callback))
    (later : List (TimerStep Callback)) :
    (((run step empty before).afterCall site call .rvalue address callback now rest later).callsOf
      address).length ≤ 1 := by
  have stands : (run step (empty : TimerLoop Callback) before).Stands :=
    run_invariant_always Stands step_stands empty_stands before
  obtain ⟨when, edits⟩ := call.edit_oneShot oneShot now
  obtain ⟨made, -⟩ := CallSite.addTimer_makes free .rvalue callback when 0 1
  obtain ⟨canceled, object⟩ := CallSite.step_objects stands reached free _ rest made
  unfold afterCall
  rw [edits]
  have tracks := made_tracks_run (CallSite.absent free) object later
  have counted := tracks.counted (by decide : 1 ≤ (1 : Int64).toInt)
  exact Int.ofNat_le.mp counted

/-- A one-shot timer of the overload for an lvalue is called as often as passes come late
enough. -/
theorem constReference_calls_twice (reached : site.Reached (run step empty before))
    (free : (site.queue (run step empty before)).IsFree address) (oneShot : call.OneShot)
    (callback : Callback) (now : Int64) :
    ∃ later, 1 < (((run step empty before).afterCall site call .constReference address callback
      now [] later).callsOf address).length := by
  have stands : (run step (empty : TimerLoop Callback) before).Stands :=
    run_invariant_always Stands step_stands empty_stands before
  obtain ⟨when, edits⟩ := call.edit_oneShot oneShot now
  obtain ⟨⟨timer, made, endless⟩, listed, whole⟩ :=
    CallSite.constReference_endless stands reached free callback when 0 1
  unfold afterCall
  rw [edits]
  have tracks := made_tracks_run (CallSite.absent free) made []
  rw [endless] at tracks
  have lasts : ((run step empty before).step (site.action (TimerCall.addTimer .constReference
      address callback when 0 1) [])).Lasts address timer.expiration timer.interval (-1) :=
    ⟨tracks, .inr listed⟩
  obtain ⟨later, -, -, twice⟩ := lasts.exists_calls (.inl rfl) whole 2 (.inl rfl)
  exact ⟨later, twice⟩

end

/-- In every state that a call can be made in, between passes or in a callback: a one-shot timer
is called at most once exactly where the rvalue overload made it, and the two overloads make the
same calls exactly for `run_every`. -/
theorem one_shot_once_iff (before : List (TimerStep Callback)) {site : CallSite Callback}
    (reached : site.Reached (run step empty before)) {address : TimerAddress}
    (free : (site.queue (run step empty before)).IsFree address) (call : TimerCall)
    (callback : Callback) (now : Int64) :
    (∀ overload, (∀ rest later, call.OneShot →
        (((run step empty before).afterCall site call overload address callback now rest
          later).callsOf address).length ≤ 1) ↔ (call.OneShot → overload = .rvalue)) ∧
      ((∀ rest later, ((run step empty before).afterCall site call .constReference address callback
          now rest later).log =
        ((run step empty before).afterCall site call .rvalue address callback now rest later).log) ↔
        ∃ interval, call = .runEvery interval) := by
  constructor
  · intro overload
    constructor
    · intro once oneShot
      cases overload with
      | rvalue => rfl
      | constReference =>
          obtain ⟨later, twice⟩ := constReference_calls_twice reached free oneShot callback now
          exact absurd (once [] later oneShot) (Nat.not_le.mpr twice)
    · intro moved rest later oneShot
      rw [moved oneShot]
      exact rvalue_at_most_once reached free oneShot callback now rest later
  · constructor
    · intro alike
      by_cases oneShot : call.OneShot
      · obtain ⟨later, twice⟩ := constReference_calls_twice reached free oneShot callback now
        have once := rvalue_at_most_once reached free oneShot callback now [] later
        rw [callsOf, alike [] later, ← callsOf] at twice
        omega
      · cases call with
        | runAt time => exact absurd trivial oneShot
        | runAfter delay => exact absurd trivial oneShot
        | runEvery interval => exact ⟨interval, rfl⟩
    · rintro ⟨interval, rfl⟩ rest later
      -- the count that the overload for an lvalue forgets is the one that `run_every` asks for
      have same : ∀ queue : TimerQueue Callback,
          queue.edit (TimerCall.edit .constReference address callback now (.runEvery interval)) =
            queue.edit (TimerCall.edit .rvalue address callback now (.runEvery interval)) :=
        fun _ => rfl
      unfold afterCall
      rw [CallSite.step_congr same]

/-- A timer of `run_at` in the rvalue overload, over two passes. -/
theorem rvalue_run_at_once :
    (empty : TimerLoop Unit).queue.IsFree 1 ∧
      ((empty.afterCall .between (.runAt 100) .rvalue 1 () 0 [] [.doTimer 100, .iterate [],
        .iterate [], .doTimer 200, .iterate [], .iterate []]).callsOf 1).length ≤ 1 := by
  have free : (empty : TimerLoop Unit).queue.IsFree 1 := by decide
  have outside : (CallSite.between : CallSite Unit).Reached empty := rfl
  refine ⟨free, ?_⟩
  exact ((one_shot_once_iff [] outside free (.runAt 100) () 0).1 .rvalue).mpr (fun _ => rfl) _ _
    trivial

/-- The same call in the overload for an lvalue: both passes call the timer. -/
theorem constReference_run_at_repeats :
    ((empty.afterCall .between (.runAt 100) .constReference 1 () 0 [] [.doTimer 100, .iterate [],
        .iterate [], .doTimer 200, .iterate [], .iterate []]).callsOf 1) =
        [⟨1, (), 1, 100⟩, ⟨1, (), 2, 200⟩] ∧
      ((empty.afterCall .between (.runAt 100) .rvalue 1 () 0 [] [.doTimer 100, .iterate [],
        .iterate [], .doTimer 200, .iterate [], .iterate []]).callsOf 1) = [⟨1, (), 1, 100⟩] := by
  decide

end TimerLoop

end Talko.Network
