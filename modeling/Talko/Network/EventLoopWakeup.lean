import Talko.Network.EventLoopProperties

/-!
# Waking a loop that sleeps

A loop sleeps in `poll` until a descriptor is ready or `poll_time_ms` are over. Another thread
that queues a functor or calls `quit` writes to the eventfd of the loop, behind the push and
behind the store of the flag; the loop thread writes only in `do_other_tasks`. `handle_read`
takes all that was written. The loop itself is the one of the model of its queue; here every
functor carries the thread and the place it was queued from.
-/

set_option autoImplicit false

namespace Talko.Network

open Talko.Library

/-- Who calls `queue_in_loop`: another thread, or the loop thread at a place. -/
inductive Caller where
  | otherThread
  | loopThread (place : LoopPlace)
  deriving DecidableEq, Repr

/-- The callers whose functors a sleeping loop may hold: the loop thread outside the callbacks
of channels and of functors. -/
def Caller.mayWait : Caller → Bool
  | .otherThread => false
  | .loopThread .handling | .loopThread .swapping | .loopThread .executing => false
  | .loopThread _ => true

/-- `doing_other_tasks_`. -/
def LoopPlace.doingOtherTasks : LoopPlace → Bool
  | .swapping | .executing => true
  | _ => false

/-- The places between the test of `quit_` and the end of the poll. -/
def LoopPlace.beforePollEnds : LoopPlace → Bool
  | .timers | .polling => true
  | _ => false

/-- The largest value of an eventfd; a write that would pass it fails with `EAGAIN`. -/
def eventfdMax : Nat := 18446744073709551614

/-- A loop and its eventfd. `written` is the value of the eventfd, `wakers` the threads that
have queued a functor or set `quit_` and whose `wakeup` is still to come. `wakeupActive` says
that the poll has returned the channel of the eventfd and `handle_read` has not run yet.
`quitAsked` says that another thread has called `quit` since `loop` began, `wakeups` and
`wokenPolls` count the calls of `wakeup` and the polls that the eventfd ended. -/
structure WakingLoop (Cb : Type) where
  loop : EventLoop (Caller × Cb)
  written : Nat
  wakers : Nat
  wakeupActive : Bool
  quitAsked : Bool
  wakeups : Nat
  wokenPolls : Nat

inductive WakingStep (Cb : Type) where
  | advance
  | queueInLoop (inLoopThread : Bool) (cb : Cb)
  | quit (inLoopThread : Bool)
  | wakeup
  deriving DecidableEq, Repr

namespace WakingLoop

variable {Cb : Type}

def new : WakingLoop Cb where
  loop := .new
  written := 0
  wakers := 0
  wakeupActive := false
  quitAsked := false
  wakeups := 0
  wokenPolls := 0

/-- The call of `queue_in_loop` in the thread at hand. -/
def caller (state : WakingLoop Cb) (inLoopThread : Bool) : Caller :=
  if inLoopThread then .loopThread state.loop.place else .otherThread

/-- The write of `wakeup`. -/
def wakeup (state : WakingLoop Cb) : WakingLoop Cb :=
  { state with
    written := if state.written < eventfdMax then state.written + 1 else state.written
    wakeups := state.wakeups + 1 }

/-- The push, and the write of the loop thread; another thread writes later. -/
def queueInLoop (state : WakingLoop Cb) (inLoopThread : Bool) (cb : Cb) : WakingLoop Cb :=
  let pushed := { state with loop := state.loop.queueInLoop (state.caller inLoopThread, cb) }
  if inLoopThread then
    if state.loop.place.doingOtherTasks then pushed.wakeup else pushed
  else
    { pushed with wakers := pushed.wakers + 1 }

def quit (state : WakingLoop Cb) (inLoopThread : Bool) : WakingLoop Cb :=
  let stopped := { state with loop := state.loop.step .quit }
  if inLoopThread then stopped
  else { stopped with quitAsked := true, wakers := stopped.wakers + 1 }

/-- The poll returns: the channel of the eventfd is active when something was written. -/
def pollReturns (state : WakingLoop Cb) : WakingLoop Cb :=
  if state.written = 0 then state
  else { state with wakeupActive := true, wokenPolls := state.wokenPolls + 1 }

def handleRead (state : WakingLoop Cb) : WakingLoop Cb :=
  { state with written := 0, wakeupActive := false }

/-- The loop thread's move; it does not leave the active channels before `handle_read` has
run. -/
def advance (state : WakingLoop Cb) : WakingLoop Cb :=
  match state.loop.place with
  | .outside => { state with loop := state.loop.advance, quitAsked := false }
  | .polling => { state.pollReturns with loop := state.loop.advance }
  | .handling =>
      if state.wakeupActive then state.handleRead else { state with loop := state.loop.advance }
  | _ => { state with loop := state.loop.advance }

def step (state : WakingLoop Cb) : WakingStep Cb → WakingLoop Cb
  | .advance => state.advance
  | .queueInLoop inLoopThread cb => state.queueInLoop inLoopThread cb
  | .quit inLoopThread => state.quit inLoopThread
  | .wakeup =>
      if state.wakers = 0 then state else { state.wakeup with wakers := state.wakers - 1 }

/-- The loop is in `poll`, nothing is written and nobody is about to write. -/
def asleep (state : WakingLoop Cb) : Prop :=
  state.loop.place = .polling ∧ state.written = 0 ∧ state.wakers = 0

/-!
## The loop under it
-/

/-- What a step does to the loop, as steps of the loop. -/
def loopSteps (state : WakingLoop Cb) : WakingStep Cb → List (LoopStep (Caller × Cb))
  | .advance =>
      if state.loop.place = .handling ∧ state.wakeupActive = true then [] else [.advance]
  | .queueInLoop inLoopThread cb => [.queueInLoop (state.caller inLoopThread, cb)]
  | .quit _ => [.quit]
  | .wakeup => []

@[simp] theorem wakeup_loop (state : WakingLoop Cb) : state.wakeup.loop = state.loop := rfl

@[simp] theorem wakeup_wakers (state : WakingLoop Cb) : state.wakeup.wakers = state.wakers := rfl

@[simp] theorem wakeup_wakeupActive (state : WakingLoop Cb) :
    state.wakeup.wakeupActive = state.wakeupActive := rfl

@[simp] theorem wakeup_quitAsked (state : WakingLoop Cb) :
    state.wakeup.quitAsked = state.quitAsked := rfl

@[simp] theorem wakeup_wokenPolls (state : WakingLoop Cb) :
    state.wakeup.wokenPolls = state.wokenPolls := rfl

theorem wakeup_written (state : WakingLoop Cb) : 0 < state.wakeup.written := by
  unfold wakeup
  dsimp only
  split
  · exact Nat.succ_pos _
  · next full =>
      have positive : 0 < eventfdMax := by decide
      exact Nat.lt_of_lt_of_le positive (Nat.le_of_not_lt full)

@[simp] theorem queueInLoop_loop (state : WakingLoop Cb) (inLoopThread : Bool) (cb : Cb) :
    (state.queueInLoop inLoopThread cb).loop =
      state.loop.queueInLoop (state.caller inLoopThread, cb) := by
  cases inLoopThread with
  | true =>
      unfold queueInLoop
      dsimp only
      rw [if_pos rfl]
      split <;> rfl
  | false => rfl

@[simp] theorem quit_loop (state : WakingLoop Cb) (inLoopThread : Bool) :
    (state.quit inLoopThread).loop = state.loop.step .quit := by
  cases inLoopThread <;> rfl

/-- The moves of the loop thread, one case a place. -/
theorem advance_cases (state : WakingLoop Cb) :
    (state.loop.place = .outside ∧
        state.advance = { state with loop := state.loop.advance, quitAsked := false }) ∨
      (state.loop.place = .polling ∧
        state.advance = { state.pollReturns with loop := state.loop.advance }) ∨
      (state.loop.place = .handling ∧ state.wakeupActive = true ∧
        state.advance = state.handleRead) ∨
      (state.loop.place ≠ .outside ∧ state.loop.place ≠ .polling ∧
        ¬ (state.loop.place = .handling ∧ state.wakeupActive = true) ∧
        state.advance = { state with loop := state.loop.advance }) := by
  unfold advance
  cases place : state.loop.place with
  | outside => exact .inl ⟨rfl, rfl⟩
  | polling => exact .inr (.inl ⟨rfl, rfl⟩)
  | handling =>
      cases active : state.wakeupActive with
      | true => exact .inr (.inr (.inl ⟨rfl, rfl, rfl⟩))
      | false => exact .inr (.inr (.inr ⟨by decide, by decide, by simp, rfl⟩))
  | _ => exact .inr (.inr (.inr ⟨by decide, by decide, fun both => (by cases both.1), rfl⟩))

theorem step_loop (state : WakingLoop Cb) (action : WakingStep Cb) :
    (state.step action).loop = run EventLoop.step state.loop (state.loopSteps action) := by
  cases action with
  | advance =>
      change state.advance.loop = _
      obtain ⟨place, moved⟩ | ⟨place, moved⟩ | ⟨place, active, moved⟩ | ⟨_, _, other, moved⟩ :=
        state.advance_cases
      · rw [moved]
        simp [loopSteps, place, EventLoop.step]
      · rw [moved]
        simp [loopSteps, place, EventLoop.step]
      · rw [moved]
        simp [loopSteps, place, active, handleRead]
      · rw [moved]
        simp only [loopSteps, if_neg other, run_cons, run_nil, EventLoop.step]
  | queueInLoop inLoopThread cb => exact queueInLoop_loop state inLoopThread cb
  | quit inLoopThread => exact quit_loop state inLoopThread
  | wakeup =>
      change (if state.wakers = 0 then state
        else { state.wakeup with wakers := state.wakers - 1 }).loop = state.loop
      split <;> rfl

/-- The loop of a run with an eventfd is the loop of a run without one. -/
theorem run_loop (actions : List (WakingStep Cb)) :
    ∃ steps : List (LoopStep (Caller × Cb)),
      (run step new actions).loop = run EventLoop.step EventLoop.new steps := by
  induction actions using List.reverseRecOn with
  | nil => exact ⟨[], rfl⟩
  | append_singleton first action ih =>
      obtain ⟨steps, same⟩ := ih
      refine ⟨steps ++ (run step new first).loopSteps action, ?_⟩
      calc (run step new (first ++ [action])).loop
        _ = ((run step new first).step action).loop := by rw [run_append]; rfl
        _ = run EventLoop.step (run step new first).loop ((run step new first).loopSteps action) :=
            step_loop _ action
        _ = _ := by rw [same, run_append]

/-!
## Nothing is slept over
-/

/-- Something ends the next poll: the eventfd, or a thread that is about to write to it. -/
def roused (state : WakingLoop Cb) : Prop :=
  0 < state.written ∨ 0 < state.wakers

/-- A functor that may not wait is swapped out before the next poll or rouses it, and so does
a call of `quit` that the test of `quit_` has not seen. -/
structure Attentive (state : WakingLoop Cb) : Prop where
  pending : ∀ entry ∈ state.loop.pendingFunctors, entry.1.mayWait = false →
    state.loop.place = .handling ∨ state.loop.place = .swapping ∨ state.roused
  asked : state.quitAsked = true → state.loop.quit = true
  quit : state.quitAsked = true → state.loop.place.beforePollEnds = true → state.roused

theorem new_attentive : Attentive (new : WakingLoop Cb) where
  pending := by
    intro entry member
    cases member
  asked := by
    intro asked
    cases asked
  quit := by
    intro asked
    cases asked

theorem roused_wakeup (state : WakingLoop Cb) : state.wakeup.roused :=
  .inl state.wakeup_written

theorem Attentive.of_roused {state : WakingLoop Cb} (roused : state.roused)
    (asked : state.quitAsked = true → state.loop.quit = true) : Attentive state where
  pending := fun _ _ _ => .inr (.inr roused)
  asked := asked
  quit := fun _ _ => roused

theorem Attentive.queueInLoop {state : WakingLoop Cb} (attentive : Attentive state)
    (inLoopThread : Bool) (cb : Cb) : Attentive (state.queueInLoop inLoopThread cb) := by
  cases inLoopThread with
  | false => exact .of_roused (.inr (Nat.succ_pos _)) attentive.asked
  | true =>
      cases busy : state.loop.place.doingOtherTasks with
      | true =>
          have same : state.queueInLoop true cb = WakingLoop.wakeup
              { state with loop := state.loop.queueInLoop (state.caller true, cb) } := by
            simp [WakingLoop.queueInLoop, busy]
          rw [same]
          exact .of_roused (roused_wakeup _) attentive.asked
      | false =>
          have same : state.queueInLoop true cb =
              { state with loop := state.loop.queueInLoop (state.caller true, cb) } := by
            simp [WakingLoop.queueInLoop, busy]
          rw [same]
          refine ⟨?_, attentive.asked, attentive.quit⟩
          intro entry member waits
          rcases List.mem_append.mp member with earlier | latest
          · exact attentive.pending entry earlier waits
          · -- The loop thread queues it itself, and it may not wait: it is at the channels.
            obtain rfl := List.mem_singleton.mp latest
            change (Caller.mayWait (.loopThread state.loop.place)) = false at waits
            cases place : state.loop.place with
            | handling => exact .inl place
            | swapping => exact .inr (.inl place)
            | executing => simp [place, LoopPlace.doingOtherTasks] at busy
            | _ => simp [place, Caller.mayWait] at waits

theorem Attentive.quitCall {state : WakingLoop Cb} (attentive : Attentive state)
    (inLoopThread : Bool) : Attentive (state.quit inLoopThread) := by
  cases inLoopThread with
  | false => exact .of_roused (.inr (Nat.succ_pos _)) (fun _ => rfl)
  | true => exact ⟨attentive.pending, fun _ => rfl, attentive.quit⟩

theorem Attentive.wakeup {state : WakingLoop Cb} (attentive : Attentive state) :
    Attentive (state.step .wakeup) := by
  change Attentive (if state.wakers = 0 then state
    else { state.wakeup with wakers := state.wakers - 1 })
  split
  · exact attentive
  · exact .of_roused (.inl state.wakeup_written) attentive.asked

/-- A poll ends with a rousing only if the loop goes on to its channels. -/
theorem Attentive.toChannels {state : WakingLoop Cb} (attentive : Attentive state)
    (here : state.loop.place = .polling) :
    Attentive { state.pollReturns with loop := state.loop.advance } := by
  have moved : state.loop.advance = state.loop.moveTo .handling := by
    simp [EventLoop.advance, here]
  have asked : state.pollReturns.quitAsked = state.quitAsked := by
    unfold pollReturns
    split <;> rfl
  rw [moved]
  exact ⟨fun _ _ _ => .inl rfl, fun called => attentive.asked (asked.symm.trans called),
    fun _ before => absurd before Bool.false_ne_true⟩

theorem Attentive.handleRead {state : WakingLoop Cb} (attentive : Attentive state)
    (here : state.loop.place = .handling) : Attentive state.handleRead := by
  refine ⟨fun _ _ _ => .inl here, attentive.asked, fun _ before => ?_⟩
  change state.loop.place.beforePollEnds = true at before
  rw [here] at before
  cases before

/-- The other moves leave the eventfd as it is. -/
theorem Attentive.moves {state : WakingLoop Cb} (attentive : Attentive state)
    (notOutside : state.loop.place ≠ .outside) (notPolling : state.loop.place ≠ .polling) :
    Attentive { state with loop := state.loop.advance } := by
  have elsewhere : ∀ {place : LoopPlace}, place ≠ .handling → place ≠ .swapping →
      state.loop.place = place → ∀ entry ∈ state.loop.pendingFunctors,
      entry.1.mayWait = false → state.roused := by
    intro place notHandling notSwapping here entry member waits
    rcases attentive.pending entry member waits with handling | swapping | roused
    · exact absurd (here.symm.trans handling) notHandling
    · exact absurd (here.symm.trans swapping) notSwapping
    · exact roused
  cases place : state.loop.place with
  | outside => exact absurd place notOutside
  | polling => exact absurd place notPolling
  | testing =>
      have waiting := elsewhere (by decide) (by decide) place
      cases stopped : state.loop.quit with
      | true =>
          have moved : state.loop.advance = state.loop.moveTo .returned := by
            simp [EventLoop.advance, place, stopped]
          rw [moved]
          exact ⟨fun entry member waits => .inr (.inr (waiting entry member waits)),
            attentive.asked, fun _ before => absurd before Bool.false_ne_true⟩
      | false =>
          -- The test has seen no call of `quit`, so none has been made.
          have moved : state.loop.advance = state.loop.moveTo .timers := by
            simp [EventLoop.advance, place, stopped]
          rw [moved]
          refine ⟨fun entry member waits => .inr (.inr (waiting entry member waits)),
            attentive.asked, fun asked _ => ?_⟩
          exact absurd (attentive.asked asked) (by rw [stopped]; decide)
  | timers =>
      have moved : state.loop.advance = state.loop.moveTo .polling := by
        simp [EventLoop.advance, place]
      rw [moved]
      have waiting := elsewhere (by decide) (by decide) place
      exact ⟨fun entry member waits => .inr (.inr (waiting entry member waits)),
        attentive.asked, fun asked _ => attentive.quit asked (by rw [place]; rfl)⟩
  | handling =>
      have moved : state.loop.advance = state.loop.moveTo .swapping := by
        simp [EventLoop.advance, place]
      rw [moved]
      exact ⟨fun _ _ _ => .inr (.inl rfl), attentive.asked,
        fun _ before => absurd before Bool.false_ne_true⟩
  | swapping =>
      have moved : state.loop.advance = state.loop.swapFunctors.moveTo .executing := by
        simp [EventLoop.advance, place]
      rw [moved]
      exact ⟨fun entry member => absurd member List.not_mem_nil, attentive.asked,
        fun _ before => absurd before Bool.false_ne_true⟩
  | executing =>
      have waiting := elsewhere (by decide) (by decide) place
      have moved : state.loop.advance = state.loop.executeFunctor := by
        simp [EventLoop.advance, place]
      rw [moved]
      cases batch : state.loop.functors with
      | nil =>
          have done : state.loop.executeFunctor = state.loop.moveTo .frame := by
            simp [EventLoop.executeFunctor, batch]
          rw [done]
          exact ⟨fun entry member waits => .inr (.inr (waiting entry member waits)),
            attentive.asked, fun _ before => absurd before Bool.false_ne_true⟩
      | cons cb rest =>
          have calls : state.loop.executeFunctor =
              { state.loop with
                functors := rest
                executed := state.loop.executed ++ [cb] } := by
            simp [EventLoop.executeFunctor, batch]
          rw [calls]
          exact ⟨fun entry member waits => .inr (.inr (waiting entry member waits)),
            attentive.asked, attentive.quit⟩
  | frame =>
      have waiting := elsewhere (by decide) (by decide) place
      have moved : state.loop.advance = state.loop.moveTo .testing := by
        simp [EventLoop.advance, place]
      rw [moved]
      exact ⟨fun entry member waits => .inr (.inr (waiting entry member waits)),
        attentive.asked, fun _ before => absurd before Bool.false_ne_true⟩
  | returned =>
      have stays : state.loop.advance = state.loop := by
        simp [EventLoop.advance, place]
      rw [stays]
      exact attentive

theorem Attentive.advance {state : WakingLoop Cb} (attentive : Attentive state) :
    Attentive state.advance := by
  obtain ⟨place, moved⟩ | ⟨place, moved⟩ | ⟨place, _, moved⟩ | ⟨notOutside, notPolling, _, moved⟩ :=
    state.advance_cases
  · have begins : state.loop.advance = { state.loop with quit := false, place := .testing } := by
      simp [EventLoop.advance, place]
    rw [moved, begins]
    refine ⟨fun entry member waits => ?_, fun called => absurd called Bool.false_ne_true,
      fun called => absurd called Bool.false_ne_true⟩
    rcases attentive.pending entry member waits with handling | swapping | roused
    · exact absurd (place.symm.trans handling) (by decide)
    · exact absurd (place.symm.trans swapping) (by decide)
    · exact .inr (.inr roused)
  · rw [moved]
    exact attentive.toChannels place
  · rw [moved]
    exact attentive.handleRead place
  · rw [moved]
    exact attentive.moves notOutside notPolling

theorem Attentive.step {state : WakingLoop Cb} (attentive : Attentive state)
    (action : WakingStep Cb) : Attentive (state.step action) := by
  cases action with
  | advance => exact attentive.advance
  | queueInLoop inLoopThread cb => exact attentive.queueInLoop inLoopThread cb
  | quit inLoopThread => exact attentive.quitCall inLoopThread
  | wakeup => exact attentive.wakeup

theorem run_attentive (actions : List (WakingStep Cb)) : Attentive (run step new actions) :=
  run_invariant_always Attentive (fun _ action attentive => attentive.step action) new_attentive
    actions

/-- However the calls of other threads, of callbacks and of functors and their writes come
between the moves of the loop thread, a loop that sleeps has no call of `quit` by another
thread before it, and whatever it holds the loop thread itself has queued, outside the
callbacks of its channels and its functors. -/
theorem asleep_holds_nothing_foreign (actions : List (WakingStep Cb)) :
    let state := run step new actions
    state.asleep →
      state.quitAsked = false ∧
        ∀ entry ∈ state.loop.pendingFunctors, entry.1.mayWait = true := by
  intro state asleep
  obtain ⟨polling, empty, nobody⟩ := asleep
  have attentive : Attentive state := run_attentive actions
  have still : ¬ state.roused := by
    rintro (written | waker)
    · exact absurd empty (Nat.ne_of_gt written)
    · exact absurd nobody (Nat.ne_of_gt waker)
  constructor
  · cases asked : state.quitAsked with
    | false => rfl
    | true => exact absurd (attentive.quit asked (by rw [polling]; rfl)) still
  · intro entry member
    cases waits : entry.1.mayWait with
    | true => rfl
    | false =>
        rcases attentive.pending entry member waits with handling | swapping | roused
        · exact absurd (polling.symm.trans handling) (by decide)
        · exact absurd (polling.symm.trans swapping) (by decide)
        · exact absurd roused still

theorem asleep_beside_timer :
    (run step (new : WakingLoop Nat) [.advance, .advance, .queueInLoop true 7, .advance]).quitAsked =
      false ∧
      ∀ entry ∈ (run step (new : WakingLoop Nat)
        [.advance, .advance, .queueInLoop true 7, .advance]).loop.pendingFunctors,
        entry.1.mayWait = true :=
  asleep_holds_nothing_foreign [.advance, .advance, .queueInLoop true 7, .advance]
    ⟨rfl, rfl, rfl⟩

/-!
## Every early end of a poll is paid for
-/

/-- What is written and not yet found by a poll counts for one more poll. -/
def unseen (state : WakingLoop Cb) : Nat :=
  if 0 < state.written ∧ state.wakeupActive = false then 1 else 0

/-- The polls that the eventfd ended, and the one it will end, are no more than the calls of
`wakeup`; `handle_read` is due only at the channels, with something to read. -/
structure Paid (state : WakingLoop Cb) : Prop where
  polls : state.wokenPolls + state.unseen ≤ state.wakeups
  active : state.wakeupActive = true → state.loop.place = .handling ∧ 0 < state.written

theorem unseen_le (state : WakingLoop Cb) : state.unseen ≤ 1 := by
  unfold unseen
  split
  · exact Nat.le_refl 1
  · exact Nat.zero_le 1

theorem new_paid : Paid (new : WakingLoop Cb) :=
  ⟨Nat.le_refl 0, nofun⟩

/-- A change that leaves the eventfd and the place of the loop thread alone. -/
theorem Paid.of_same {state after : WakingLoop Cb} (paid : Paid state)
    (written : after.written = state.written) (wakeups : after.wakeups = state.wakeups)
    (woken : after.wokenPolls = state.wokenPolls)
    (active : after.wakeupActive = state.wakeupActive)
    (place : state.wakeupActive = true → after.loop.place = state.loop.place) : Paid after := by
  refine ⟨?_, fun due => ?_⟩
  · have same : after.unseen = state.unseen := by rw [unseen, written, active, ← unseen]
    rw [woken, same, wakeups]
    exact paid.polls
  · rw [active] at due
    obtain ⟨here, positive⟩ := paid.active due
    exact ⟨(place due).trans here, written.symm ▸ positive⟩

theorem Paid.wakeup {state : WakingLoop Cb} (paid : Paid state) : Paid state.wakeup where
  polls := by
    calc state.wakeup.wokenPolls + state.wakeup.unseen
      _ ≤ state.wokenPolls + 1 := Nat.add_le_add_left (unseen_le _) _
      _ ≤ state.wakeups + 1 := Nat.succ_le_succ (Nat.le_of_add_right_le paid.polls)
  active := fun due => ⟨(paid.active due).1, state.wakeup_written⟩

theorem Paid.queueInLoop {state : WakingLoop Cb} (paid : Paid state) (inLoopThread : Bool)
    (cb : Cb) : Paid (state.queueInLoop inLoopThread cb) := by
  have pushed : Paid
      { state with loop := state.loop.queueInLoop (state.caller inLoopThread, cb) } :=
    paid.of_same rfl rfl rfl rfl (fun _ => rfl)
  cases inLoopThread with
  | false => exact paid.of_same rfl rfl rfl rfl (fun _ => rfl)
  | true =>
      unfold WakingLoop.queueInLoop
      dsimp only
      rw [if_pos rfl]
      split
      · exact pushed.wakeup
      · exact pushed

theorem Paid.quitCall {state : WakingLoop Cb} (paid : Paid state) (inLoopThread : Bool) :
    Paid (state.quit inLoopThread) := by
  cases inLoopThread with
  | false => exact paid.of_same rfl rfl rfl rfl (fun _ => rfl)
  | true => exact paid.of_same rfl rfl rfl rfl (fun _ => rfl)

theorem Paid.inactive {state : WakingLoop Cb} (paid : Paid state)
    (elsewhere : state.loop.place ≠ .handling) : state.wakeupActive = false := by
  cases active : state.wakeupActive with
  | false => rfl
  | true => exact absurd (paid.active active).1 elsewhere

/-- A poll that finds something written uses up what was unseen. -/
theorem Paid.toChannels {state : WakingLoop Cb} (paid : Paid state)
    (here : state.loop.place = .polling) :
    Paid { state.pollReturns with loop := state.loop.advance } := by
  have moved : state.loop.advance = state.loop.moveTo .handling := by
    simp [EventLoop.advance, here]
  have idle : state.wakeupActive = false := paid.inactive (by rw [here]; decide)
  rw [moved]
  unfold pollReturns
  split
  · exact paid.of_same rfl rfl rfl rfl (fun due => absurd due (by rw [idle]; decide))
  · next found =>
      have positive : 0 < state.written := Nat.pos_of_ne_zero found
      have waiting : state.unseen = 1 := if_pos ⟨positive, idle⟩
      have polls := paid.polls
      rw [waiting] at polls
      exact ⟨by simpa [unseen] using polls, fun _ => ⟨rfl, positive⟩⟩

theorem Paid.handleRead {state : WakingLoop Cb} (paid : Paid state) : Paid state.handleRead where
  polls := Nat.le_of_add_right_le paid.polls
  active := nofun

theorem Paid.advance {state : WakingLoop Cb} (paid : Paid state) : Paid state.advance := by
  obtain ⟨place, moved⟩ | ⟨place, moved⟩ | ⟨_, _, moved⟩ | ⟨_, _, notDue, moved⟩ :=
    state.advance_cases
  · have idle : state.wakeupActive = false := paid.inactive (by rw [place]; decide)
    rw [moved]
    exact paid.of_same rfl rfl rfl rfl (fun due => absurd due (by rw [idle]; decide))
  · rw [moved]
    exact paid.toChannels place
  · rw [moved]
    exact paid.handleRead
  · rw [moved]
    exact paid.of_same rfl rfl rfl rfl (fun due => absurd ⟨(paid.active due).1, due⟩ notDue)

theorem Paid.step {state : WakingLoop Cb} (paid : Paid state) (action : WakingStep Cb) :
    Paid (state.step action) := by
  cases action with
  | advance => exact paid.advance
  | queueInLoop inLoopThread cb => exact paid.queueInLoop inLoopThread cb
  | quit inLoopThread => exact paid.quitCall inLoopThread
  | wakeup =>
      change Paid (if state.wakers = 0 then state
        else { state.wakeup with wakers := state.wakers - 1 })
      split
      · exact paid
      · exact paid.wakeup.of_same rfl rfl rfl rfl (fun _ => rfl)

/-- The eventfd never keeps a loop spinning: in every run the polls it ends are no more than
the calls of `wakeup` before them, and a poll with nothing written since the last read is not
ended by it. -/
theorem woken_polls_paid (actions : List (WakingStep Cb)) :
    let state := run step new actions
    state.wokenPolls ≤ state.wakeups ∧
      (state.loop.place = .polling → state.wokenPolls = state.wakeups →
        state.written = 0 ∧ (state.step .advance).wakeupActive = false) := by
  intro state
  have paid : Paid state :=
    run_invariant_always Paid (fun _ action paid => paid.step action) new_paid actions
  refine ⟨Nat.le_of_add_right_le paid.polls, fun polling spent => ?_⟩
  have idle : state.wakeupActive = false := paid.inactive (by rw [polling]; decide)
  have empty : state.written = 0 := by
    rcases Nat.eq_zero_or_pos state.written with empty | positive
    · exact empty
    · have waiting : state.unseen = 1 := if_pos ⟨positive, idle⟩
      have polls := paid.polls
      rw [waiting, spent] at polls
      exact absurd polls (Nat.not_succ_le_self _)
  refine ⟨empty, ?_⟩
  change state.advance.wakeupActive = false
  unfold advance
  rw [polling]
  unfold pollReturns
  rw [if_pos empty]
  exact idle

end WakingLoop

end Talko.Network
